import PackageRisk.Proofs.Json.NumberRange

/-!
# Reading the texts of numbers

What the reader makes of a literal that is put together from its digits: those before the point,
those after it, and those of the exponent. All digits are kept as long as their value fits.
-/

namespace PackageRisk.Json

open Fallible

/-! ### Digits of natural numbers -/

/-- The decimal digits of a number are digits. -/
theorem isDigit_toDigits (n : Nat) : ∀ c ∈ Nat.toDigits 10 n, c.isDigit = true :=
  fun _ hc ↦ Nat.isDigit_of_mem_toDigits (by decide) (by decide) hc

/-- The digits of a number other than zero do not begin with a zero. -/
theorem head?_toDigits_ne_zero {n : Nat} (hn : 0 < n) : (Nat.toDigits 10 n).head? ≠ some '0' := by
  induction n using Nat.strongRecOn with
  | ind n ih =>
    by_cases hsmall : n < 10
    · rw [Nat.toDigits_of_lt_base hsmall]
      intro hzero
      have hdigit := Nat.digitChar_eq_zero.mp (Option.some.inj hzero)
      omega
    · have hhead := ih (n / 10) (by omega) (by omega)
      rw [Nat.toDigits_of_base_le (by decide) (Nat.le_of_not_lt hsmall),
        List.head?_append_of_ne_nil _ Nat.toDigits_ne_nil]
      exact hhead

/-- A number is below the power of ten for the number of its digits. -/
theorem lt_pow_length_toDigits (n : Nat) : n < 10 ^ (Nat.toDigits 10 n).length :=
  (Nat.length_toDigits_le_iff (by decide) Nat.length_toDigits_pos).mp (Nat.le_refl _)

/-- Digits are a literal's whole part if they do not begin with a zero, or are just a zero. -/
structure WholePart (digits : List Char) : Prop where
  ne_nil : digits ≠ []
  isDigit : ∀ c ∈ digits, c.isDigit = true
  zero : digits.head? = some '0' → digits = ['0']

/-- The decimal digits of a number are a whole part, with no leading zero. -/
theorem wholePart_toDigits (n : Nat) : WholePart (Nat.toDigits 10 n) := by
  refine ⟨Nat.toDigits_ne_nil, isDigit_toDigits n, fun hhead ↦ ?_⟩
  by_cases hn : n = 0
  · rw [hn, Nat.toDigits_zero]
  · exact absurd hhead (head?_toDigits_ne_zero (Nat.pos_of_ne_zero hn))

/-! ### Literals -/

section Literals

variable {negative : Bool} {significand : Nat} {start : Int} {digits rest : List Char}

/-- How the reading goes on after the whole part. -/
def afterWhole (negative : Bool) (significand : Nat) :
    List Char → Except ReadError (Number × List Char)
  | '.' :: rest => readFraction negative significand 0 rest
  | 'e' :: rest => readExponent negative significand 0 rest
  | 'E' :: rest => readExponent negative significand 0 rest
  | rest => .ok (whole negative significand, rest)

/-- How the reading goes on after the digits that follow the point. -/
def afterFraction (negative : Bool) (significand : Nat) (exponent : Int) :
    List Char → Except ReadError (Number × List Char)
  | 'e' :: rest => readExponent negative significand exponent rest
  | 'E' :: rest => readExponent negative significand exponent rest
  | rest => float? negative significand exponent >>= fun n ↦ .ok (n, rest)

/-- After the whole part, a point is followed by the fraction. -/
theorem afterWhole_point :
    afterWhole negative significand ('.' :: rest) = readFraction negative significand 0 rest :=
  rfl

/-- The whole part is read first, and what follows decides how to go on. -/
theorem readNumber_wholePart (h : WholePart digits) (hrest : NoDigitFirst rest)
    (hfits : Nat.ofDigitChars 10 digits 0 ≤ maxSignificand) :
    readNumber negative (digits ++ rest) =
      afterWhole negative (Nat.ofDigitChars 10 digits 0) rest := by
  obtain ⟨c, after, rfl⟩ := List.exists_cons_of_ne_nil h.ne_nil
  have hgathered := gatherDigits_append 0 h.isDigit hrest hfits
  have hzero : ¬(c = '0' ∧ (after ++ rest).head?.any Char.isDigit = true) := by
    rintro ⟨rfl, hdigit⟩
    obtain rfl : after = [] := by simpa using h.zero rfl
    cases hhead : rest.head? with
    | none => simp [hhead] at hdigit
    | some d => simp [hhead, hrest d hhead] at hdigit
  rw [List.cons_append] at hgathered ⊢
  rw [readNumber, if_neg hzero, if_pos (h.isDigit c List.mem_cons_self), hgathered]
  rfl

/-- After the whole part, a number that ends is a whole number. -/
theorem afterWhole_of_ends (hrest : NumberEnds rest) :
    afterWhole negative significand rest = .ok (whole negative significand, rest) := by
  unfold afterWhole
  split
  · exact absurd rfl hrest.point
  · exact absurd rfl hrest.mark.1
  · exact absurd rfl hrest.mark.2
  · rfl

/-- The digits after a point are read on top of those before it. -/
theorem readFraction_eq (hne : digits ≠ []) (hdigits : ∀ c ∈ digits, c.isDigit = true)
    (hrest : NoDigitFirst rest) (hfits : Nat.ofDigitChars 10 digits significand ≤ maxSignificand) :
    readFraction negative significand start (digits ++ rest) =
      afterFraction negative (Nat.ofDigitChars 10 digits significand) (start - digits.length)
        rest := by
  obtain ⟨c, after, rfl⟩ := List.exists_cons_of_ne_nil hne
  have hgathered := gatherDigits_append 0 hdigits hrest hfits
  rw [Nat.zero_add] at hgathered
  rw [List.cons_append] at hgathered ⊢
  rw [readFraction, if_pos (hdigits c List.mem_cons_self), hgathered]
  rfl

/-- After the fraction, a number that ends is the float of what was read. -/
theorem afterFraction_of_ends (hrest : NumberEnds rest) {exponent : Int} :
    afterFraction negative significand exponent rest =
      float? negative significand exponent >>= fun n ↦ .ok (n, rest) := by
  unfold afterFraction
  split
  · exact absurd rfl hrest.mark.1
  · exact absurd rfl hrest.mark.2
  · rfl

/-- The sign of an exponent. -/
def exponentSign (downward : Bool) : Char := if downward then '-' else '+'

/-- An exponent of few digits is added to the one so far, with its sign. -/
theorem readExponent_eq (downward : Bool) (hne : digits ≠ [])
    (hdigits : ∀ c ∈ digits, c.isDigit = true) (hrest : NoDigitFirst rest) {size : Nat}
    (hsize : Nat.ofDigitChars 10 digits 0 = size) {exponent : Int}
    (hexponent : exponent = if downward then start - size else start + size)
    (hbounds : size ≤ maxExponent ∧ -maxExponent ≤ exponent ∧ exponent ≤ maxExponent) :
    readExponent negative significand start (exponentSign downward :: (digits ++ rest)) =
      float? negative significand exponent >>= fun n ↦ .ok (n, rest) := by
  have hread : readDigits (digits ++ rest) = (size, rest) := by
    rw [readDigits, takeWhile_digits hdigits hrest, dropWhile_digits hdigits hrest, hsize]
  obtain ⟨c, after, rfl⟩ := List.exists_cons_of_ne_nil hne
  have hc : c.isDigit = true := hdigits c List.mem_cons_self
  have hsmall : ¬maxExponent < (size : Int) := by omega
  have hclamp : max (-maxExponent - 1) (min maxExponent exponent) = exponent := by omega
  rw [List.cons_append] at hread ⊢
  cases downward with
  | false =>
    simp only [Bool.false_eq_true, if_false] at hexponent
    simp only [exponentSign, readExponent, hc, hread, hsmall, Bool.false_eq_true, if_true, if_false,
      ← hexponent, hclamp]
  | true =>
    simp only [if_true] at hexponent
    simp only [exponentSign, readExponent, hc, hread, hsmall, if_true, if_false, ← hexponent,
      hclamp]

end Literals

end PackageRisk.Json
