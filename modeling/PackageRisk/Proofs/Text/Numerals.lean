import PackageRisk.Number.Count
import PackageRisk.Number.Points

/-!
# Texts of integers

The decimal text of an integer consists of digits, after a minus sign if the integer is negative,
and the integer is read back from it. A plus sign in front makes no difference.
-/

namespace PackageRisk

namespace Text

/-- The natural number with given decimal digits. -/
def natural? (digits : List Char) : Option Nat :=
  if digits ≠ [] ∧ digits.all Char.isDigit then some (Nat.ofDigitChars 10 digits 0) else none

/-- The integer of a decimal text, which may have a sign of either kind. -/
def integer? (text : String) : Option Int :=
  match text.toList with
  | '+' :: digits => (natural? digits).map fun n : Nat ↦ (n : Int)
  | '-' :: digits => (natural? digits).map fun n : Nat ↦ -(n : Int)
  | digits => (natural? digits).map fun n : Nat ↦ (n : Int)

/-- The characters of a decimal number are digits. -/
theorem isDigit_of_mem_repr {n : Nat} {c : Char} (h : c ∈ n.repr.toList) : c.isDigit = true := by
  rw [Nat.toList_repr] at h
  exact Nat.isDigit_of_mem_toDigits (by decide) (by decide) h

/-- A natural number is read back from its text. -/
theorem natural?_repr (n : Nat) : natural? n.repr.toList = some n := by
  have hall : n.repr.toList.all Char.isDigit = true :=
    List.all_eq_true.mpr fun _ hc ↦ isDigit_of_mem_repr hc
  rw [Nat.toList_repr] at hall ⊢
  rw [natural?, if_pos ⟨Nat.toDigits_ne_nil, hall⟩,
    Nat.ofDigitChars_toDigits (by decide) (by decide)]

private theorem integer?_plus (n : Nat) : integer? ("+" ++ n.repr) = some (n : Int) := by
  have hlist : ("+" ++ n.repr).toList = '+' :: n.repr.toList := String.toList_append
  simp only [integer?, hlist, natural?_repr, Option.map_some]

private theorem integer?_minus (n : Nat) : integer? ("-" ++ n.repr) = some (-n : Int) := by
  have hlist : ("-" ++ n.repr).toList = '-' :: n.repr.toList := String.toList_append
  simp only [integer?, hlist, natural?_repr, Option.map_some]

private theorem integer?_repr (n : Nat) : integer? n.repr = some (n : Int) := by
  have hsign {sign : Char} {digits : List Char} (h : n.repr.toList = sign :: digits) :
      sign.isDigit = true := isDigit_of_mem_repr (h ▸ List.mem_cons_self)
  unfold integer?
  split
  · rename_i digits hlist
    cases hsign hlist
  · rename_i digits hlist
    cases hsign hlist
  · rw [natural?_repr, Option.map_some]

end Text

namespace Points

variable {p : Points} {c : Char}

/-- The text of points has digits, and perhaps a minus sign. -/
theorem sign_or_isDigit_of_mem_text (h : c ∈ p.text.toList) : c = '-' ∨ c.isDigit = true := by
  rw [text, Int.toString_eq_repr, Int.repr_eq_if] at h
  split at h
  · exact .inr (Text.isDigit_of_mem_repr h)
  · rw [String.toList_append, List.mem_append] at h
    rcases h with hsign | hdigit
    · exact .inl (List.mem_singleton.mp hsign)
    · exact .inr (Text.isDigit_of_mem_repr hdigit)

/-- The text of points with a sign has digits, and perhaps a sign. -/
theorem sign_or_isDigit_of_mem_signedText (h : c ∈ p.signedText.toList) :
    c = '+' ∨ c = '-' ∨ c.isDigit = true := by
  unfold signedText at h
  split at h
  · rw [String.toList_append, List.mem_append] at h
    rcases h with hsign | htext
    · exact .inl (List.mem_singleton.mp hsign)
    · exact .inr (sign_or_isDigit_of_mem_text htext)
  · exact .inr (sign_or_isDigit_of_mem_text h)

/-- No other character is in the text of points. -/
theorem not_mem_text (hsign : c ≠ '-') (hdigit : c.isDigit = false) : c ∉ p.text.toList := by
  intro hc
  rcases sign_or_isDigit_of_mem_text hc with h | h
  · exact hsign h
  · rw [hdigit] at h
    cases h

/-- Points are read back from their text. -/
theorem integer?_text (p : Points) : Text.integer? p.text = some p.val := by
  rw [text, Int.toString_eq_repr, Int.repr_eq_if]
  split
  · rw [Text.integer?_repr, Option.some.injEq]
    omega
  · rw [Text.integer?_minus, Option.some.injEq]
    omega

/-- Points are read back from their text with a sign. -/
theorem integer?_signedText (p : Points) : Text.integer? p.signedText = some p.val := by
  unfold signedText
  split
  · have htext : p.text = p.val.toNat.repr := by
      rw [text, Int.toString_eq_repr, Int.repr_eq_if, if_pos (by omega)]
    rw [htext, Text.integer?_plus, Option.some.injEq]
    omega
  · exact integer?_text p

/-- The points of a decimal text, if it is within the bounds. -/
def ofText? (text : String) : Option Points :=
  (Text.integer? text).bind fun n ↦
    if h : -2 ^ 63 ≤ n ∧ n < 2 ^ 63 then some ⟨n, h.1, h.2⟩ else none

/-- Points are read back from their text. -/
theorem ofText?_text (p : Points) : ofText? p.text = some p := by
  rw [ofText?, integer?_text, Option.bind_some, dif_pos ⟨p.ge, p.lt⟩]

end Points

namespace Count

/-- The text of a count has digits only. -/
theorem not_mem_text {count : Count} {c : Char} (hdigit : c.isDigit = false) :
    c ∉ count.text.toList := by
  intro hc
  rw [Text.isDigit_of_mem_repr hc] at hdigit
  cases hdigit

/-- The count of decimal digits, if it is not too great. -/
def ofText? (text : String) : Option Count :=
  (Text.natural? text.toList).bind fun n ↦ if h : n < 2 ^ 64 then some ⟨n, h⟩ else none

/-- Counts are read back from their text. -/
theorem ofText?_text (count : Count) : ofText? count.text = some count := by
  have hnatural : Text.natural? count.text.toList = some count.val := Text.natural?_repr count.val
  rw [ofText?, hnatural, Option.bind_some, dif_pos count.lt]

end Count

end PackageRisk
