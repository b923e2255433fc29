import PackageRisk.Proofs.Json.Digits
import PackageRisk.Proofs.Json.Schema
import PackageRisk.Proofs.Number.Rounding

/-!
# The range of JSON numbers

Every number that is read is an integer between -2 ^ 63 and 2 ^ 64 - 1 or a finite float. Scaling
keeps below `2 ^ 64` whatever is divided by powers of ten, and checks whatever is multiplied. An
integer is read from digits alone, and it is exactly the one that they spell.
-/

namespace PackageRisk

namespace Binary64

variable {x y : Binary64}

/-- A natural number of at most `2 ^ 64` is rounded to at most `2 ^ 64`. -/
theorem units_ofNat_le {n : Nat} (hn : n ≤ 2 ^ 64) :
    (ofNat n).units ≤ 2 ^ (52 + (64 + 1022)) := by
  have hpow (a b : Nat) : 2 ^ (52 + (a + b)) = 2 ^ a * 2 ^ (52 + b) := by
    rw [← Nat.pow_add, Nat.add_left_comm]
  apply units_ofUnits_le_pow (by decide)
  rw [hpow, ← one_eq, Nat.mul_one]
  exact Nat.mul_le_mul_right one hn

/-- A natural number other than zero is rounded to at least one. -/
theorem one_le_units_ofNat {n : Nat} (hn : 0 < n) : one ≤ (ofNat n).units := by
  rw [one_eq]
  apply pow_le_units_ofUnits (by decide) (by decide)
  rw [← one_eq, Nat.mul_one]
  exact Nat.le_mul_of_pos_left one hn

/-- Division by at least one does not pass a power of two from below. -/
theorem units_div_le (hy : one ≤ y.units) {exponent : Nat} (hx : x.units ≤ 2 ^ (52 + exponent)) :
    (x.div y).units ≤ 2 ^ (52 + exponent) := by
  have hpos : 0 < y.units := Nat.lt_of_lt_of_le one_pos hy
  apply units_ofUnits_le_pow hpos
  exact Nat.mul_le_mul hx hy

end Binary64

namespace Json

open Binary64 Fallible

/-- An integer between -2 ^ 63 and 2 ^ 64 - 1, or a finite float. -/
def Number.InRange : Number → Prop
  | .integer n => -2 ^ 63 ≤ n ∧ n < 2 ^ 64
  | .float x => x.isFinite = true

/-- All numbers within a value have a property. -/
inductive Value.Numbers (p : Number → Prop) : Value → Prop
  | intro {value : Value} (own : ∀ n, value = .number n → p n)
      (items : ∀ item ∈ value.items, item.Numbers p)
      (members : ∀ member ∈ value.members, member.2.Numbers p) : value.Numbers p

section Scaling

variable {significand : Nat} {negative : Bool} {text rest : List Char} {n : Number}

private theorem one_le_units_powerOfTen (exponent : Nat) : one ≤ (powerOfTen exponent).units :=
  one_le_units_ofNat (Nat.pow_pos (by decide))

private theorem units_scaleDown_le {x : Binary64} {exponent : Nat}
    (hx : x.units ≤ 2 ^ (52 + exponent))
    (steps : Nat) : (scaleDown x steps).units ≤ 2 ^ (52 + exponent) := by
  induction steps generalizing x with
  | zero => exact hx
  | succ steps ih =>
    rw [scaleDown]
    split
    · exact hx
    · exact ih (units_div_le (one_le_units_powerOfTen _) hx)

/-- Whatever is scaled is finite. -/
theorem isFinite_of_scale? (hsignificand : significand ≤ maxSignificand) {exponent : Int}
    {x : Binary64} (h : scale? significand exponent = some x) : x.isFinite = true := by
  have hle : significand ≤ 2 ^ 64 := Nat.le_trans hsignificand (by decide)
  unfold scale? at h
  split at h
  · split at h
    · dsimp only at h
      split at h
      · cases h
        assumption
      · cases h
    · split at h <;> cases h
      rfl
  · dsimp only at h
    have hdown := units_scaleDown_le (units_ofNat_le hle) (((-exponent).toNat - 1) / maxPower)
    split at h <;> cases h
    · exact isFinite_of_units_le (by decide) hdown
    · exact isFinite_of_units_le (by decide)
        (units_div_le (one_le_units_powerOfTen _) hdown)

private theorem finite_of_float? (hsignificand : significand ≤ maxSignificand) {exponent : Int}
    (h : float? negative significand exponent = .ok n) :
    ∃ x, n = .float x ∧ x.isFinite = true := by
  unfold float? at h
  split at h <;> cases h
  rename_i x hscale
  have hfinite := isFinite_of_scale? hsignificand hscale
  cases negative
  · exact ⟨x, rfl, hfinite⟩
  · exact ⟨x.neg, rfl, hfinite⟩

private theorem inRange_whole (hsignificand : significand ≤ maxSignificand) :
    (whole negative significand).InRange := by
  have hle : significand ≤ 2 ^ 64 := Nat.le_trans hsignificand (by decide)
  unfold maxSignificand at hsignificand
  unfold whole
  split
  · split
    · unfold Number.InRange
      omega
    · exact isFinite_of_units_le (by decide) (units_ofNat_le hle)
  · unfold Number.InRange
    omega

/-- Gathering digits never passes the greatest significand. -/
theorem gatherDigits_le (hsignificand : significand ≤ maxSignificand) (kept : Nat)
    (text : List Char) : (gatherDigits significand kept text).significand ≤ maxSignificand := by
  fun_induction gatherDigits significand kept text with
  | case1 => exact hsignificand
  | case2 => exact hsignificand
  | case3 _ _ _ _ _ _ hfits ih => exact ih hfits
  | case4 => exact hsignificand

end Scaling

section Reading

variable {significand : Nat} {negative : Bool} {text rest : List Char} {n : Number}

private theorem finite_of_readExponent (hsignificand : significand ≤ maxSignificand) {start : Int}
    (h : readExponent negative significand start text = .ok (n, rest)) :
    ∃ x, n = .float x ∧ x.isFinite = true := by
  unfold readExponent at h
  dsimp only at h
  split at h
  · cases h
  · split at h
    · -- Whichever sign the exponent has, it is too large or scales the significand.
      split at h
      all_goals
        split at h
        · split at h <;> cases h
          exact ⟨_, rfl, rfl⟩
        · obtain ⟨m, hfloat, h⟩ := bind_eq_ok_iff.mp h
          cases h
          exact finite_of_float? hsignificand hfloat
    · cases h

private theorem finite_of_readFraction (hsignificand : significand ≤ maxSignificand) {start : Int}
    (h : readFraction negative significand start text = .ok (n, rest)) :
    ∃ x, n = .float x ∧ x.isFinite = true := by
  have hgathered := gatherDigits_le hsignificand 0 text
  unfold readFraction at h
  split at h
  · cases h
  · split at h
    · dsimp only at h
      split at h
      · exact finite_of_readExponent hgathered h
      · exact finite_of_readExponent hgathered h
      · obtain ⟨m, hfloat, h⟩ := bind_eq_ok_iff.mp h
        cases h
        exact finite_of_float? hgathered hfloat
    · cases h

/-- Neither a digit nor a point nor the mark of an exponent comes first. -/
structure NumberEnds (text : List Char) : Prop where
  digit : NoDigitFirst text
  point : text.head? ≠ some '.'
  mark : text.head? ≠ some 'e' ∧ text.head? ≠ some 'E'

/-- A text begins with a literal of digits alone. -/
structure WholeLiteral (text digits rest : List Char) : Prop where
  eq : text = digits ++ rest
  ne_nil : digits ≠ []
  isDigit : ∀ c ∈ digits, c.isDigit = true
  ends : NumberEnds rest

/-- A number is a finite float or comes from digits alone. -/
theorem readNumber_eq_ok (h : readNumber negative text = .ok (n, rest)) :
    (∃ x, n = .float x ∧ x.isFinite = true) ∨ ∃ digits, WholeLiteral text digits rest ∧
      Nat.ofDigitChars 10 digits 0 ≤ maxSignificand ∧
      n = whole negative (Nat.ofDigitChars 10 digits 0) := by
  have hgathered := gatherDigits_le (Nat.zero_le _) 0 text
  unfold readNumber at h
  split at h
  · cases h
  · rename_i c after
    split at h
    · cases h
    · split at h
      · rename_i hc
        dsimp only at h
        split at h
        · exact .inl (finite_of_readFraction hgathered h)
        · exact .inl (finite_of_readExponent hgathered h)
        · exact .inl (finite_of_readExponent hgathered h)
        · rename_i hpoint hlower hupper
          split at h
          · rename_i hdropped
            have heq := gatherDigits_eq hdropped
            rw [heq] at h hgathered hpoint hlower hupper
            cases h
            refine .inr ⟨(c :: after).takeWhile Char.isDigit, ⟨?_, ?_, ?_, ?_⟩, hgathered, rfl⟩
            · exact List.takeWhile_append_dropWhile.symm
            · simp [hc]
            · exact List.all_eq_true.mp List.all_takeWhile
            · exact ⟨noDigitFirst_dropWhile _, head?_ne_of_ne_cons hpoint,
                head?_ne_of_ne_cons hlower, head?_ne_of_ne_cons hupper⟩
          · obtain ⟨m, hfloat, h⟩ := bind_eq_ok_iff.mp h
            cases h
            exact .inl (finite_of_float? hgathered hfloat)
      · cases h

/-- Every number that is read is in range. -/
theorem inRange_of_readNumber (h : readNumber negative text = .ok (n, rest)) : n.InRange := by
  rcases readNumber_eq_ok h with ⟨x, rfl, hfinite⟩ | ⟨digits, -, hfits, rfl⟩
  · exact hfinite
  · exact inRange_whole hfits

/-- The integer of a literal, from its sign and its digits. -/
def integerOfDigits (negative : Bool) (digits : List Char) : Int :=
  if negative then -(Nat.ofDigitChars 10 digits 0 : Int) else Nat.ofDigitChars 10 digits 0

/-- An integer is the one that its digits spell. -/
theorem integer_of_readNumber {k : Int}
    (h : readNumber negative text = .ok (.integer k, rest)) :
    ∃ digits, WholeLiteral text digits rest ∧ k = integerOfDigits negative digits := by
  rcases readNumber_eq_ok h with ⟨x, hfloat, -⟩ | ⟨digits, hliteral, -, hwhole⟩
  · cases hfloat
  · refine ⟨digits, hliteral, ?_⟩
    unfold whole at hwhole
    unfold integerOfDigits
    split at hwhole
    · rename_i hnegative
      split at hwhole <;> cases hwhole
      simp [hnegative]
    · rename_i hnegative
      cases hwhole
      simp [hnegative]

private theorem numbers_of_readScalar {value : Value} (h : readScalar text = .ok (value, rest)) :
    value.Numbers Number.InRange := by
  have hscalar := isScalar_of_readScalar h
  refine ⟨?_, ?_, ?_⟩
  · rintro n rfl
    unfold readScalar at h
    split at h <;> try split at h
    all_goals
      first
      | cases h
      | obtain ⟨read, hread, h⟩ := map_eq_ok_iff.mp h
        cases h
    · exact inRange_of_readNumber hread
    · exact inRange_of_readNumber hread
  · cases value <;> simp_all [Value.items, Value.isScalar]
  · cases value <;> simp_all [Value.members, Value.isScalar]

/-- All numbers of a value that is read are in range. -/
theorem numbers_of_readValue {P : Type} (schema : Schema P) {limit : Nat} (depth : Nat) {place : P}
    {text rest : List Char} {value : Value}
    (h : readValue schema limit depth place text = .ok (value, rest)) :
    value.Numbers Number.InRange := by
  induction depth using Nat.strongRecOn generalizing place text value rest with
  | ind depth ih =>
    rcases (readValue_eq_ok_iff.mp h).2 with hread | ⟨level, after, items, rfl, -, rfl, hread⟩ |
      ⟨level, after, members, rfl, -, rfl, hread⟩
    · exact numbers_of_readScalar hread
    · have hitems := (readArray_iff (fun text item rest ↦
        ⟨fun h ↦ ⟨h, ih level (Nat.lt_succ_self level) h⟩, And.left⟩) limit _ _ _).mp hread
      exact ⟨by simp, hitems.2, by simp [Value.members]⟩
    · have hmembers := (readObject_iff _ (fun key text value rest ↦
        ⟨fun h ↦ ⟨h, ih level (Nat.lt_succ_self level) h⟩, And.left⟩) limit _ _ _).mp hread
      exact ⟨by simp, by simp [Value.items], hmembers.2.1⟩

/-- All numbers of a document are in range. -/
theorem numbers_of_readDocument {P : Type} {schema : Schema P} {place : P} {document : String}
    {value : Value} (h : readDocument schema place document = .ok value) :
    value.Numbers Number.InRange := by
  obtain ⟨rest, hread, -⟩ := readDocument_eq_ok_iff.mp h
  exact numbers_of_readValue schema maxDepth hread

end Reading

end Json

end PackageRisk
