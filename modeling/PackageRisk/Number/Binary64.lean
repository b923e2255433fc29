import PackageRisk.Number.Power

/-!
# Binary64 numbers

A binary64 number is given by its sign and its code, the 63 bits of exponent and fraction. All
arithmetic is exact arithmetic on natural numbers, followed by one rounding to the nearest code,
ties to even. Magnitudes are counted in units of 2 ^ -1074, the least positive magnitude, so that
every finite magnitude is a natural number of units.
-/

namespace PackageRisk

/-- A number of the format binary64. -/
structure Binary64 where
  negative : Bool
  /-- The exponent field followed by the fraction field. -/
  code : Nat
  code_lt : code < 2 ^ 63
  deriving DecidableEq, Repr

namespace Binary64

/-- The code of infinity; the codes above it belong to no number. -/
def infinityCode : Nat := 2047 * 2 ^ 52

/-- Neither an infinity nor a code without a number. -/
def isFinite (x : Binary64) : Bool := x.code < infinityCode

/-- A code without a number. -/
def isNaN (x : Binary64) : Bool := infinityCode < x.code

/-- The positive zero. -/
def zero : Binary64 := ⟨false, 0, by decide⟩

/-- Zero is finite. -/
theorem isFinite_zero : zero.isFinite = true := rfl

/-- The infinity of a sign. -/
def infinity (negative : Bool) : Binary64 := ⟨negative, infinityCode, by decide⟩

/-- The quiet code without a number. -/
def nan (negative : Bool) : Binary64 := ⟨negative, infinityCode + 2 ^ 51, by decide⟩

/-- The 64 bits of the number, sign first. -/
def bits (x : Binary64) : Nat := (if x.negative then 2 ^ 63 else 0) + x.code

/-- The number of the opposite sign. -/
def neg (x : Binary64) : Binary64 := { x with negative := !x.negative }

/-- The magnitude of a code in units of 2 ^ -1074. -/
def unitsOfCode (code : Nat) : Nat :=
  if code < 2 ^ 52 then code else (2 ^ 52 + code % 2 ^ 52) * 2 ^ (code / 2 ^ 52 - 1)

/-- The magnitude in units of 2 ^ -1074. -/
def units (x : Binary64) : Nat := unitsOfCode x.code

/-- A quotient rounded to the nearest natural number, ties to even. -/
def divToEven (num den : Nat) : Nat :=
  let quotient := num / den
  let twice := 2 * (num % den)
  if twice > den || (twice == den && quotient % 2 == 1) then quotient + 1 else quotient

/-- The code nearest to `num / den` units, ties to even; infinity beyond the greatest magnitude. -/
def nearestCode (num den : Nat) : Nat :=
  let binade := (num / den).log2 - 52
  min infinityCode (binade * 2 ^ 52 + divToEven num (den * 2 ^ binade))

/-- No rounding goes beyond infinity. -/
theorem nearestCode_le (num den : Nat) : nearestCode num den ≤ infinityCode :=
  Nat.min_le_left ..

/-- The number nearest to `num / den` units. -/
def ofUnits (negative : Bool) (num den : Nat) : Binary64 :=
  ⟨negative, nearestCode num den, Nat.lt_of_le_of_lt (nearestCode_le num den) (by decide)⟩

/-- How many units make one. -/
def one : Nat := 2 ^ 1074

/-- The number nearest to a natural number. -/
def ofNat (n : Nat) : Binary64 := ofUnits false (n * one) 1

/-- The number nearest to an integer. -/
def ofInt (n : Int) : Binary64 := ofUnits (n < 0) (n.natAbs * one) 1

/-- The number nearest to `digits * 10 ^ exponent`. -/
def ofDecimal (negative : Bool) (digits : Nat) (exponent : Int) : Binary64 :=
  ofUnits negative (digits * 10 ^ exponent.toNat * one) (10 ^ (-exponent).toNat)

/-- The product of two finite numbers, rounded once. -/
def mul (x y : Binary64) : Binary64 :=
  ofUnits (x.negative != y.negative) (x.units * y.units) one

/-- The quotient of a finite number by a finite number other than zero, rounded once. -/
def div (x y : Binary64) : Binary64 :=
  ofUnits (x.negative != y.negative) (x.units * one) y.units

/-- The integer nearest to a finite number, halves away from zero. -/
def round (x : Binary64) : Int :=
  let magnitude : Nat := (x.units + one / 2) / one
  if x.negative then -magnitude else magnitude

end Binary64

end PackageRisk
