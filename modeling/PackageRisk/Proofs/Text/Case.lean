import Mathlib.Data.List.Basic
import PackageRisk.Text.CaseMap

/-!
# Words in one case

The case mappings take some characters outside ASCII to ASCII letters, to one or to several. But
only few letters are reached in this way: the lower case of no such character is made of small
letters other than k, and the upper case of none is made of capitals other than F, I and S. So a
word without these letters is the lower or upper case of those texts only that differ from it in the
case of ASCII letters.
-/

namespace PackageRisk.Text

/-- The small letters that no character outside ASCII has for its lower case: all but k, which is
that of the kelvin sign. -/
def plainSmall : List Char :=
  ['a', 'b', 'c', 'd', 'e', 'f', 'g', 'h', 'i', 'j', 'l', 'm', 'n', 'o', 'p', 'q', 'r', 's', 't',
    'u', 'v', 'w', 'x', 'y', 'z']

/-- The capitals that no character outside ASCII has for its upper case: all but F of the ligatures,
I of the dotless i and S of the long and the sharp s. -/
def plainCapitals : List Char :=
  ['A', 'B', 'C', 'D', 'E', 'G', 'H', 'J', 'K', 'L', 'M', 'N', 'O', 'P', 'Q', 'R', 'T', 'U', 'V',
    'W', 'X', 'Y', 'Z']

/-- Two texts are equal up to the case of ASCII letters. -/
def EqualUpToCase (text other : List Char) : Prop :=
  text.map Char.toLower = other.map Char.toLower

/-- The plain small letters are letters, and their own lower case. -/
theorem isAlpha_of_mem_plainSmall : ∀ c ∈ plainSmall, c.isAlpha = true ∧ c.toLower = c := by
  have hall : (plainSmall.all fun c ↦ c.isAlpha && c.toLower == c) = true := by decide +kernel
  simpa only [List.all_eq_true, Bool.and_eq_true, beq_iff_eq] using hall

/-- The plain capitals are letters, and their own upper case. -/
theorem isAlpha_of_mem_plainCapitals : ∀ c ∈ plainCapitals, c.isAlpha = true ∧ c.toUpper = c := by
  have hall : (plainCapitals.all fun c ↦ c.isAlpha && c.toUpper == c) = true := by decide +kernel
  simpa only [List.all_eq_true, Bool.and_eq_true, beq_iff_eq] using hall

/-- The letters of ASCII are the capitals from 65 on and the small letters from 97 on. -/
theorem isAlpha_iff_toNat {c : Char} :
    c.isAlpha = true ↔ 65 ≤ c.toNat ∧ c.toNat ≤ 90 ∨ 97 ≤ c.toNat ∧ c.toNat ≤ 122 := by
  change (decide ('A'.val ≤ c.val ∧ c.val ≤ 'Z'.val) ||
    (decide ('a'.val ≤ c.val) && decide (c.val ≤ 'z'.val))) = true ↔ _
  simp only [Bool.or_eq_true, Bool.and_eq_true, decide_eq_true_eq, UInt32.le_iff_toNat_le]
  exact Iff.rfl

/-- The lower case of a character is 32 further on for the capitals of ASCII, and the character
itself for all others. -/
private theorem toNat_toLower (c : Char) :
    c.toLower.toNat = if 65 ≤ c.toNat ∧ c.toNat ≤ 90 then c.toNat + 32 else c.toNat := by
  have hcapital : c.val ≥ 'A'.val ∧ c.val ≤ 'Z'.val ↔ 65 ≤ c.toNat ∧ c.toNat ≤ 90 := by
    simp [UInt32.le_iff_toNat_le]
  unfold Char.toLower
  split
  · next h =>
    rw [if_pos (hcapital.mp h)]
    have hbound := (hcapital.mp h).2
    change (c.val + ('a'.val - 'A'.val)).toNat = c.toNat + 32
    rw [UInt32.toNat_add, Char.toNat_val]
    change (c.toNat + 32) % 2 ^ 32 = c.toNat + 32
    omega
  · next h => rw [if_neg (h ∘ hcapital.mpr)]

/-- The upper case of a character is 32 further back for the small letters of ASCII, and the
character itself for all others. -/
private theorem toNat_toUpper (c : Char) :
    c.toUpper.toNat = if 97 ≤ c.toNat ∧ c.toNat ≤ 122 then c.toNat - 32 else c.toNat := by
  have hsmall : 'a'.val ≤ c.val ∧ c.val ≤ 'z'.val ↔ 97 ≤ c.toNat ∧ c.toNat ≤ 122 := by
    simp [UInt32.le_iff_toNat_le]
  unfold Char.toUpper
  split
  · next h =>
    rw [if_pos (hsmall.mp h)]
    obtain ⟨hlow, hhigh⟩ := hsmall.mp h
    change (c.val + ('A'.val - 'a'.val)).toNat = c.toNat - 32
    have hback : ('A'.val - 'a'.val).toNat = 2 ^ 32 - 32 := by decide
    rw [UInt32.toNat_add, Char.toNat_val, hback]
    omega
  · next h => rw [if_neg (h ∘ hsmall.mpr)]

/-- Characters with one upper case are those with one lower case. -/
private theorem toUpper_eq_toUpper_iff {c d : Char} :
    c.toUpper = d.toUpper ↔ c.toLower = d.toLower := by
  simp only [← Char.toNat_inj, toNat_toLower, toNat_toUpper]
  split_ifs <;> omega

/-- So it is with texts. -/
private theorem map_toUpper_eq_iff {text other : List Char} :
    text.map Char.toUpper = other.map Char.toUpper ↔ EqualUpToCase text other := by
  induction text generalizing other with
  | nil => cases other <;> simp [EqualUpToCase]
  | cons c text ih =>
    cases other with
    | nil => simp [EqualUpToCase]
    | cons d other =>
      simp only [List.map_cons, List.cons.injEq, toUpper_eq_toUpper_iff, ih, EqualUpToCase]

/-- Letters stay letters in the other case. -/
theorem EqualUpToCase.isAlpha {letters word : List Char} (h : EqualUpToCase letters word)
    (hword : ∀ c ∈ word, c.isAlpha = true) : ∀ c ∈ letters, c.isAlpha = true := by
  intro c hc
  have hlower : c.toLower ∈ word.map Char.toLower := h ▸ List.mem_map_of_mem hc
  obtain ⟨d, hd, heq⟩ := List.mem_map.mp hlower
  have hletter := isAlpha_iff_toNat.mp (hword d hd)
  rw [← Char.toNat_inj, toNat_toLower, toNat_toLower] at heq
  rw [isAlpha_iff_toNat]
  split_ifs at heq <;> omega

/-! ### Images outside an alphabet -/

/-- No image of the run is a letter of the alphabet. -/
def CaseRun.avoids (run : CaseRun) (alphabet : List Char) : Bool :=
  alphabet.all fun c ↦ c.toNat < run.image || run.image + (run.last - run.first) < c.toNat

/-- Each image of the table has a character that is no letter of the alphabet. -/
def CaseTable.avoids (table : CaseTable) (alphabet : List Char) : Bool :=
  table.runs.all (·.avoids alphabet) &&
    table.expansions.all fun expansion ↦
      expansion.2.any fun code ↦ alphabet.all fun c ↦ c.toNat ≠ code

variable {alphabet word text : List Char} {table : CaseTable} {f : Char → Char}

/-- A code point that no letter of an alphabet has gives a character outside the alphabet. -/
theorem ofNat_not_mem (hletters : ∀ c ∈ alphabet, c.isAlpha = true) {code : Nat}
    (hcode : ∀ c ∈ alphabet, c.toNat ≠ code) : Char.ofNat code ∉ alphabet := by
  intro hmem
  have hne := hcode _ hmem
  have hletter := isAlpha_iff_toNat.mp (hletters _ hmem)
  by_cases hvalid : code.isValidChar
  · have hcode : Char.ofNat code = Char.ofNatAux code hvalid := dif_pos hvalid
    rw [hcode] at hne
    exact hne rfl
  · -- An invalid code point gives the character with number zero, which is no letter.
    have hzero : Char.ofNat code = '\x00' := dif_neg hvalid
    rw [hzero] at hletter
    revert hletter
    decide

/-- What a code point outside ASCII is mapped to has a character outside the alphabet. -/
theorem CaseTable.exists_not_mem_image (havoids : table.avoids alphabet = true)
    (hletters : ∀ c ∈ alphabet, c.isAlpha = true) {code : Nat} (hcode : 0x80 ≤ code) :
    ∃ c ∈ table.image code, c ∉ alphabet := by
  simp only [CaseTable.avoids, CaseRun.avoids, Bool.and_eq_true, List.all_eq_true,
    List.any_eq_true, Bool.or_eq_true, decide_eq_true_eq] at havoids
  obtain ⟨hruns, hexpansions⟩ := havoids
  unfold CaseTable.image
  split
  · next found codes hfind =>
    obtain ⟨other, hother, hfree⟩ := hexpansions _ (List.mem_of_find?_eq_some hfind)
    exact ⟨_, List.mem_map_of_mem hother, ofNat_not_mem hletters hfree⟩
  · split
    · next run hfind =>
      have hcovers := List.find?_some hfind
      simp only [CaseRun.covers, Bool.and_eq_true, decide_eq_true_eq] at hcovers
      refine ⟨_, List.mem_singleton_self _, ofNat_not_mem hletters fun c hc ↦ ?_⟩
      have hrun := hruns run (List.mem_of_find?_eq_some hfind) c hc
      omega
    · refine ⟨_, List.mem_singleton_self _, ofNat_not_mem hletters fun c hc ↦ ?_⟩
      have hletter := isAlpha_iff_toNat.mp (hletters c hc)
      omega

/-- A mapping that goes by a table outside ASCII, and character by character within it, gives words
in an alphabet that the table avoids to ASCII texts only. -/
theorem flatMap_eq_word_iff (havoids : table.avoids alphabet = true)
    (hletters : ∀ c ∈ alphabet, c.isAlpha = true) (hword : ∀ c ∈ word, c ∈ alphabet)
    (hf : ∀ c, 0x80 ≤ c.toNat → 0x80 ≤ (f c).toNat) :
    text.flatMap (fun c ↦ if c.toNat < 0x80 then [f c] else table.image c.toNat) = word ↔
      text.map f = word := by
  have hascii (h : ∀ c ∈ text, c.toNat < 0x80) :
      text.flatMap (fun c ↦ if c.toNat < 0x80 then [f c] else table.image c.toNat) =
        text.map f := by
    induction text with
    | nil => rfl
    | cons c rest ih =>
      obtain ⟨hc, hrest⟩ := List.forall_mem_cons.mp h
      rw [List.flatMap_cons, if_pos hc, ih hrest, List.map_cons]
      rfl
  constructor
  · intro h
    rw [← hascii, h]
    intro c hc
    by_contra hout
    obtain ⟨d, hd, hnot⟩ := table.exists_not_mem_image havoids hletters (Nat.not_lt.mp hout)
    apply hnot
    apply hword
    rw [← h]
    exact List.mem_flatMap.mpr ⟨c, hc, by rwa [if_neg hout]⟩
  · intro h
    rw [hascii, h]
    intro c hc
    have hmem : f c ∈ word := h ▸ List.mem_map_of_mem hc
    have hletter := isAlpha_iff_toNat.mp (hletters _ (hword _ hmem))
    by_contra hout
    have himage := hf c (Nat.not_lt.mp hout)
    omega

/-! ### Lower and upper case -/

/-- A text has a word for its lower case when it is the word up to the case of ASCII letters. -/
theorem lower_eq_iff (hword : ∀ c ∈ word, c ∈ plainSmall) :
    lower text = word ↔ EqualUpToCase text word := by
  -- The rule for a capital sigma at the end of a word, which the mapping leaves out, would choose
  -- between two small letters outside ASCII.
  have hlower : lower text = word ↔ text.map Char.toLower = word :=
    flatMap_eq_word_iff (by decide +kernel) (fun c hc ↦ (isAlpha_of_mem_plainSmall c hc).1) hword
      fun c hc ↦ by rw [toNat_toLower]; split <;> omega
  have hsmall : word.map Char.toLower = word :=
    (List.map_congr_left fun c hc ↦ (isAlpha_of_mem_plainSmall c (hword c hc)).2).trans
      (List.map_id word)
  rw [hlower, EqualUpToCase, hsmall]

/-- So it is with the upper case. -/
theorem upper_eq_iff (hword : ∀ c ∈ word, c ∈ plainCapitals) :
    upper text = word ↔ EqualUpToCase text word := by
  have hupper : upper text = word ↔ text.map Char.toUpper = word :=
    flatMap_eq_word_iff (by decide +kernel) (fun c hc ↦ (isAlpha_of_mem_plainCapitals c hc).1)
      hword fun c hc ↦ by rw [toNat_toUpper]; split <;> omega
  have hcapitals : word.map Char.toUpper = word :=
    (List.map_congr_left fun c hc ↦ (isAlpha_of_mem_plainCapitals c (hword c hc)).2).trans
      (List.map_id word)
  rw [hupper, ← map_toUpper_eq_iff, hcapitals]

end PackageRisk.Text
