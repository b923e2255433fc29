import PackageRisk.Number.Binary64

/-!
# Decimal texts of binary64 numbers

A number is written with the fewest decimal digits that read back as the same number. The grids of
the multiples of `10 ^ exponent` are tried from the coarsest to the finest; the first with a point
among the reals that round to the number gives the digits. A `Style` then lays the digits out.
-/

namespace PackageRisk

/-- The decimal number `digits * 10 ^ exponent`. -/
structure Decimal where
  digits : Nat
  exponent : Int
  deriving DecidableEq, Repr

namespace Decimal

/-- The choice between two points of a grid that are equally near. -/
inductive Tie
  | toEven
  | upward
  deriving DecidableEq, Repr

/-- Of two neighbouring points, the one nearer to `num / den`, which lies between them. -/
def nearer (tie : Tie) (num den below : Nat) : Nat :=
  let twice := 2 * (num % den)
  if twice < den then below
  else if den < twice then below + 1
  else
    match tie with
    | .toEven => below + below % 2
    | .upward => below + 1

/-- The multiple of `10 ^ exponent` that stands for the number: one of its two neighbours on the
grid, if it rounds to the number, and the nearer one if both do. All comparisons are made in half
units, where the reals that round to the number lie between the sums of neighbouring magnitudes,
ends included exactly when the code is even. -/
def onGrid (tie : Tie) (x : Binary64) (exponent : Int) : Option Nat :=
  let scale := 10 ^ (-exponent).toNat
  let step := 2 * Binary64.one * 10 ^ exponent.toNat
  let value := 2 * x.units * scale
  let low := (Binary64.unitsOfCode (x.code - 1) + x.units) * scale
  let high := (x.units + Binary64.unitsOfCode (x.code + 1)) * scale
  let readsBack (point : Nat) : Bool :=
    if x.code % 2 = 0 then low ≤ point * step && point * step ≤ high
    else low < point * step && point * step < high
  let below := value / step
  match readsBack below, readsBack (below + 1) with
  | true, true => some (nearer tie value step below)
  | true, false => some below
  | false, true => some (below + 1)
  | false, false => none

/-- The greatest exponent of a grid that can hold a finite number. -/
def coarsest : Nat := 308

/-- How many grids are tried; the last is that of `10 ^ -324`. -/
def gridCount : Nat := 633

/-- The fewest digits that read back as the magnitude of a finite number. -/
def shortest (tie : Tie) (x : Binary64) : Decimal :=
  if x.code = 0 then ⟨0, 0⟩
  else
    let found := (List.range gridCount).findSome? fun (finer : Nat) ↦
      let exponent : Int := coarsest - finer
      (onGrid tie x exponent).map fun digits ↦ Decimal.mk digits exponent
    found.getD ⟨0, 0⟩

/-- The decimal digits of the significand. -/
def text (d : Decimal) : List Char := Nat.toDigits 10 d.digits

/-- The decimal exponent of the leading digit. -/
def leading (d : Decimal) : Int := d.exponent + d.text.length - 1

/-- How a format writes numbers. -/
structure Style where
  tie : Tie
  /-- The exponents of the leading digit for which all digits are written in place. -/
  inPlace : Int → Bool
  /-- What follows a whole number that is written in place. -/
  wholeEnding : String
  nan : String
  infinity : String
  minusInfinity : String

/-- The digits in place, with zeros up to the point. -/
def positional (wholeEnding : String) (d : Decimal) : List Char :=
  if 0 ≤ d.exponent then
    d.text ++ List.replicate d.exponent.toNat '0' ++ wholeEnding.toList
  else if 0 ≤ d.leading then
    d.text.take (d.leading.toNat + 1) ++ '.' :: d.text.drop (d.leading.toNat + 1)
  else
    '0' :: '.' :: (List.replicate (-d.leading - 1).toNat '0' ++ d.text)

/-- One digit before the point, and the exponent with its sign. -/
def scientific (d : Decimal) : List Char :=
  let fraction := d.text.drop 1
  let mantissa := d.text.take 1 ++ (if fraction.isEmpty then [] else '.' :: fraction)
  let sign := if d.leading < 0 then '-' else '+'
  mantissa ++ 'e' :: sign :: Nat.toDigits 10 d.leading.natAbs

/-- The text of a number. -/
def Style.write (style : Style) (x : Binary64) : String :=
  if x.isNaN then style.nan
  else if !x.isFinite then
    if x.negative then style.minusInfinity else style.infinity
  else
    let d := shortest style.tie x
    let body := if style.inPlace d.leading then d.positional style.wholeEnding else d.scientific
    String.ofList (if x.negative then '-' :: body else body)

/-- Numbers in prose are always written in place, and whole ones without a point; of two nearest
digits the upper one is taken. -/
def prose : Style where
  tie := .upward
  inPlace := fun _ ↦ true
  wholeEnding := ""
  nan := "NaN"
  infinity := "inf"
  minusInfinity := "-inf"

end Decimal

end PackageRisk
