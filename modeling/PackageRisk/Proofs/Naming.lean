import PackageRisk.Grade
import PackageRisk.Proofs.Report.NestedCounts
import PackageRisk.Proofs.Text.Case
import PackageRisk.Proofs.Text.Trim

/-!
# Names of severities and grades

A text names a severity or a grade when it spells one of its names: it is the name up to the case of
ASCII letters, with nothing around it but blanks. The names are compared in one case, and the full
case mappings take characters outside ASCII to ASCII letters too, but never so that a name comes
out.
-/

namespace PackageRisk

namespace Text

/-- A text is a word between blanks, up to the case of ASCII letters. -/
def SpellsWord (text word : String) : Prop :=
  ∃ before letters after, text.toList = before ++ letters ++ after ∧
    (∀ c ∈ before, isBlank c = true) ∧ (∀ c ∈ after, isBlank c = true) ∧
    EqualUpToCase letters word.toList

/-- No ASCII letter is blank. -/
theorem isBlank_of_isAlpha {c : Char} (h : c.isAlpha = true) : isBlank c = false := by
  have hletter := isAlpha_iff_toNat.mp h
  rw [isBlank, Bool.eq_false_iff, Ne, Ranges.covers_iff]
  rintro ⟨range, hrange, hlow, hhigh⟩
  simp only [blankRanges, List.mem_cons, List.not_mem_nil, or_false] at hrange
  rcases hrange with rfl | rfl | rfl | rfl | rfl | rfl | rfl | rfl | rfl | rfl <;> omega

variable {text word : String}

/-- A text spells a word when it is the word after trimming. -/
theorem spellsWord_iff (hword : ∀ c ∈ word.toList, c.isAlpha = true) :
    SpellsWord text word ↔ EqualUpToCase (trim text.toList) word.toList := by
  constructor
  · rintro ⟨before, letters, after, htext, hbefore, hafter, hletters⟩
    have hblank : ∀ c ∈ letters, isBlank c = false :=
      fun c hc ↦ isBlank_of_isAlpha (hletters.isAlpha hword c hc)
    rwa [htext, trim_padded hbefore hafter hblank]
  · intro htrim
    obtain ⟨before, after, htext, hbefore, hafter⟩ := exists_eq_trim text.toList
    exact ⟨before, _, after, htext, hbefore, hafter, htrim⟩

/-- A text that spells a word holds ASCII letters and blanks only. -/
theorem SpellsWord.isBlank_or_isAlpha (h : SpellsWord text word)
    (hword : ∀ c ∈ word.toList, c.isAlpha = true) :
    ∀ c ∈ text.toList, isBlank c = true ∨ c.isAlpha = true := by
  obtain ⟨before, letters, after, htext, hbefore, hafter, hletters⟩ := h
  intro c hc
  rw [htext, List.mem_append, List.mem_append] at hc
  rcases hc with (hc | hc) | hc
  · exact .inl (hbefore c hc)
  · exact .inr (hletters.isAlpha hword c hc)
  · exact .inl (hafter c hc)

/-- Outside ASCII, blanks are not mapped to ASCII letters. -/
theorem not_isAlpha_of_isBlank {c : Char} (hblank : isBlank c = true) (hc : 0x80 ≤ c.toNat) :
    ∀ d ∈ lowerChar c ++ upperChar c, d.isAlpha = false := by
  have hall : (blankRanges.all fun range ↦ (List.range (range.2 + 1 - range.1)).all fun k ↦
      range.1 + k < 0x80 ||
        (lowerTable.image (range.1 + k) ++ upperTable.image (range.1 + k)).all (!·.isAlpha)) =
      true := by
    decide +kernel
  simp only [List.all_eq_true, Bool.or_eq_true, decide_eq_true_eq, Bool.not_eq_true',
    List.mem_range] at hall
  obtain ⟨range, hrange, hlow, hhigh⟩ := Ranges.covers_iff.mp hblank
  have hk := hall range hrange (c.toNat - range.1) (by omega)
  rw [Nat.add_sub_cancel' hlow] at hk
  rcases hk with hk | hk
  · omega
  · rwa [lowerChar, upperChar, if_neg (Nat.not_lt.mpr hc), if_neg (Nat.not_lt.mpr hc)]

/-- A character outside ASCII that is mapped to ASCII letters is in no text that spells a word. -/
theorem not_spellsWord_of_mapped (hword : ∀ c ∈ word.toList, c.isAlpha = true) {c : Char}
    (hc : c ∈ text.toList) (hout : 0x80 ≤ c.toNat)
    (hmapped : ∃ d ∈ lowerChar c ++ upperChar c, d.isAlpha = true) : ¬SpellsWord text word := by
  intro hspells
  obtain ⟨d, hd, hletter⟩ := hmapped
  rcases hspells.isBlank_or_isAlpha hword c hc with hblank | halpha
  · rw [not_isAlpha_of_isBlank hblank hout d hd] at hletter
    cases hletter
  · have hascii := isAlpha_iff_toNat.mp halpha
    omega

end Text

open Text

namespace Severity

/-- The names of a severity. -/
def names : Severity → List String
  | medium => ["medium", "moderate"]
  | severity => [severity.name]

/-- The names are in small letters that are the lower case of no character outside ASCII. -/
theorem mem_plainSmall (severity : Severity) :
    ∀ name ∈ severity.names, ∀ c ∈ name.toList, c ∈ plainSmall := by
  have hall : (severity.names.all fun name ↦ name.toList.all plainSmall.contains) = true := by
    cases severity <;> decide +kernel
  simpa only [List.all_eq_true, List.contains_iff_mem] using hall

private theorem isAlpha_names {severity : Severity} {name : String}
    (hname : name ∈ severity.names) : ∀ c ∈ name.toList, c.isAlpha = true :=
  fun c hc ↦ (isAlpha_of_mem_plainSmall c (severity.mem_plainSmall name hname c hc)).1

private theorem ofName?_eq_some_iff_spells {text : String} {severity : Severity} :
    ofName? text = some severity ↔ ∃ name ∈ severity.names, SpellsWord text name := by
  have hnames : (∃ name ∈ severity.names, foldName text = name) ↔
      foldName text = severity.name ∨ severity = .medium ∧ foldName text = "moderate" := by
    cases severity <;> simp [names, name]
  rw [ofName?_eq_some_iff, ← hnames]
  refine exists_congr fun name ↦ and_congr_right fun hname ↦ ?_
  rw [foldName, ← String.toList_inj, String.toList_ofList,
    lower_eq_iff (severity.mem_plainSmall name hname), spellsWord_iff (isAlpha_names hname)]

end Severity

namespace Grade

/-- The letters are the upper case of no character outside ASCII. -/
theorem mem_plainCapitals (grade : Grade) : ∀ c ∈ grade.letter.toList, c ∈ plainCapitals := by
  have hall : (grade.letter.toList.all plainCapitals.contains) = true := by
    cases grade <;> decide +kernel
  simpa only [List.all_eq_true, List.contains_iff_mem] using hall

private theorem isAlpha_letter (grade : Grade) : ∀ c ∈ grade.letter.toList, c.isAlpha = true :=
  fun c hc ↦ (isAlpha_of_mem_plainCapitals c (grade.mem_plainCapitals c hc)).1

private theorem ofName?_eq_some_iff {text : String} {grade : Grade} :
    ofName? text = some grade ↔ String.ofList (upper (trim text.toList)) = grade.letter := by
  unfold ofName?
  dsimp only
  generalize String.ofList (upper (trim text.toList)) = folded
  constructor
  · intro h
    split_ifs at h <;> cases h <;> assumption
  · rintro rfl
    cases grade <;> decide

private theorem ofName?_eq_some_iff_spells {text : String} {grade : Grade} :
    ofName? text = some grade ↔ SpellsWord text grade.letter := by
  rw [ofName?_eq_some_iff, ← String.toList_inj, String.toList_ofList,
    upper_eq_iff grade.mem_plainCapitals, spellsWord_iff grade.isAlpha_letter]

end Grade

/-- A text names a severity exactly when it spells one of its names, medium being named moderate
too, and a grade exactly when it spells its letter. A text with a character outside ASCII whose
lower or upper case has an ASCII letter names none. -/
theorem names_spelled (text : String) :
    (∀ severity, Severity.ofName? text = some severity ↔
      ∃ name ∈ severity.names, SpellsWord text name) ∧
    (∀ grade, Grade.ofName? text = some grade ↔ SpellsWord text grade.letter) ∧
    ∀ c ∈ text.toList, 0x80 ≤ c.toNat →
      (∃ d ∈ lowerChar c ++ upperChar c, d.isAlpha = true) →
        Severity.ofName? text = none ∧ Grade.ofName? text = none := by
  refine ⟨fun _ ↦ Severity.ofName?_eq_some_iff_spells, fun _ ↦ Grade.ofName?_eq_some_iff_spells,
    fun c hc hout hmapped ↦ ⟨?_, ?_⟩⟩
  · rw [Option.eq_none_iff_forall_ne_some]
    intro severity hseverity
    obtain ⟨name, hname, hspells⟩ := Severity.ofName?_eq_some_iff_spells.mp hseverity
    exact not_spellsWord_of_mapped (Severity.isAlpha_names hname) hc hout hmapped hspells
  · rw [Option.eq_none_iff_forall_ne_some]
    intro grade hgrade
    have hspells := Grade.ofName?_eq_some_iff_spells.mp hgrade
    exact not_spellsWord_of_mapped grade.isAlpha_letter hc hout hmapped hspells

/-- The kelvin sign has k for its lower case and the dotless i has I for its upper case, but neither
stands for the letter in a name. Wide blanks around a name are dropped. -/
theorem names_spelled_mapped :
    lowerChar '\u212a' = ['k'] ∧ upperChar 'ı' = ['I'] ∧
    Severity.ofName? "hıgh" = none ∧ Grade.ofName? "\u212a" = none ∧
    Severity.ofName? "\u3000moDERate\n" = some .medium ∧ Grade.ofName? "\u3000d" = some .d := by
  have hkelvin : lowerChar '\u212a' = ['k'] := by decide +kernel
  have hdotless : upperChar 'ı' = ['I'] := by decide +kernel
  refine ⟨hkelvin, hdotless, ?_, ?_, ?_, ?_⟩
  · have hmem : 'I' ∈ lowerChar 'ı' ++ upperChar 'ı' := by simp [hdotless]
    exact ((names_spelled "hıgh").2.2 'ı' (by decide) (by decide) ⟨'I', hmem, by decide⟩).1
  · have hmem : 'k' ∈ lowerChar '\u212a' ++ upperChar '\u212a' := by simp [hkelvin]
    exact ((names_spelled "\u212a").2.2 '\u212a' (by decide) (by decide) ⟨'k', hmem, by decide⟩).2
  · have hmoderate : "moderate" ∈ Severity.medium.names := by decide
    have htrim : EqualUpToCase (trim "\u3000moDERate\n".toList) "moderate".toList := by
      unfold EqualUpToCase
      decide +kernel
    exact ((names_spelled _).1 .medium).mpr
      ⟨_, hmoderate, (spellsWord_iff (Severity.isAlpha_names hmoderate)).mpr htrim⟩
  · have htrim : EqualUpToCase (trim "\u3000d".toList) Grade.d.letter.toList := by
      unfold EqualUpToCase
      decide +kernel
    exact ((names_spelled _).2.1 .d).mpr ((spellsWord_iff Grade.d.isAlpha_letter).mpr htrim)

end PackageRisk
