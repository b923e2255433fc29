import PackageRisk.Json.NumberReader

/-!
# Digits of JSON numbers

The digits at the head of a text are gathered in a significand as long as their value fits, and then
nothing is dropped.
-/

namespace PackageRisk.Json

/-- No digit comes first. -/
def NoDigitFirst (text : List Char) : Prop := ∀ c ∈ text.head?, c.isDigit = false

variable {significand : Nat} {text digits rest : List Char}

/-- After the digits have been dropped, no digit comes first. -/
theorem noDigitFirst_dropWhile (text : List Char) :
    NoDigitFirst (text.dropWhile Char.isDigit) := by
  intro c hc
  cases hdrop : text.dropWhile Char.isDigit with
  | nil => simp [hdrop] at hc
  | cons d after =>
    obtain rfl : d = c := by simpa [hdrop] using hc
    simpa [hdrop] using List.head_dropWhile_not Char.isDigit (l := text) (by simp [hdrop])

/-- The digits of a text are taken up to the first character that is none. -/
theorem takeWhile_digits (hdigits : ∀ c ∈ digits, c.isDigit = true) (hrest : NoDigitFirst rest) :
    (digits ++ rest).takeWhile Char.isDigit = digits := by
  rw [List.takeWhile_append_of_pos hdigits]
  cases rest with
  | nil => simp
  | cons c rest => simp [hrest c rfl]

/-- The digits of a text are dropped up to the first character that is none. -/
theorem dropWhile_digits (hdigits : ∀ c ∈ digits, c.isDigit = true) (hrest : NoDigitFirst rest) :
    (digits ++ rest).dropWhile Char.isDigit = rest := by
  rw [List.dropWhile_append_of_pos hdigits]
  cases rest with
  | nil => rfl
  | cons c rest => simp [hrest c rfl]

/-- The digit of a character is its distance from zero. -/
theorem digit?_eq (c : Char) :
    digit? c = if c.isDigit = true then some (c.toNat - '0'.toNat) else none := rfl

/-- More digits never make the value less. -/
theorem le_ofDigitChars (digits : List Char) (start : Nat) :
    start ≤ Nat.ofDigitChars 10 digits start := by
  rw [Nat.ofDigitChars_eq_ofDigitChars_zero]
  have hpow : 0 < 10 ^ digits.length := Nat.pow_pos (by decide)
  have hmul : start ≤ 10 ^ digits.length * start := Nat.le_mul_of_pos_left start hpow
  omega

/-- Digits whose value fits are all gathered. -/
theorem gatherDigits_append (kept : Nat) (hdigits : ∀ c ∈ digits, c.isDigit = true)
    (hrest : NoDigitFirst rest)
    (hfits : Nat.ofDigitChars 10 digits significand ≤ maxSignificand) :
    gatherDigits significand kept (digits ++ rest) =
      ⟨Nat.ofDigitChars 10 digits significand, kept + digits.length, 0, rest⟩ := by
  induction digits generalizing significand kept with
  | nil =>
    cases rest with
    | nil => rfl
    | cons c rest => simp [gatherDigits, digit?_eq, hrest c rfl]
  | cons c digits ih =>
    obtain ⟨hc, hdigits⟩ := List.forall_mem_cons.mp hdigits
    rw [Nat.ofDigitChars_cons, Nat.mul_comm] at hfits ⊢
    have hfit : significand * 10 + (c.toNat - '0'.toNat) ≤ maxSignificand :=
      Nat.le_trans (le_ofDigitChars digits _) hfits
    simp only [List.cons_append, gatherDigits, digit?_eq, hc, if_true, hfit, ih _ hdigits hfits,
      List.length_cons, Nat.add_assoc, Nat.add_comm 1]

/-- If no digit is dropped, all digits at the head of the text are gathered. -/
theorem gatherDigits_eq {kept : Nat} (h : (gatherDigits significand kept text).dropped = 0) :
    gatherDigits significand kept text =
      ⟨Nat.ofDigitChars 10 (text.takeWhile Char.isDigit) significand,
        kept + (text.takeWhile Char.isDigit).length, 0, text.dropWhile Char.isDigit⟩ := by
  fun_induction gatherDigits significand kept text with
  | case1 => rfl
  | case2 significand kept c rest hnone =>
    have hc : c.isDigit = false := by simpa [digit?_eq] using hnone
    simp [hc]
  | case3 significand kept c rest d hsome hfits ih =>
    obtain ⟨hc, rfl⟩ : c.isDigit = true ∧ c.toNat - '0'.toNat = d := by
      simpa [digit?_eq] using hsome
    rw [ih h]
    simp only [List.takeWhile_cons, List.dropWhile_cons, hc, if_true, List.length_cons,
      Nat.ofDigitChars_cons, Nat.mul_comm 10, Nat.add_assoc, Nat.add_comm 1]
  | case4 => simp at h

end PackageRisk.Json
