import PackageRisk.Number.Binary64
import PackageRisk.Yaml.Scalar

/-!
# What plain scalars spell

A plain scalar spells null, a truth value or a number, or else it is the text that it is.
-/

namespace PackageRisk.Yaml

/-- The words for null. -/
def isNullWord (text : List Char) : Bool :=
  ["null", "Null", "NULL", "~"].contains (String.ofList text)

/-- The truth value that a word spells. -/
def boolean? (text : List Char) : Option Bool :=
  let word := String.ofList text
  if ["true", "True", "TRUE"].contains word then some true
  else if ["false", "False", "FALSE"].contains word then some false
  else none

/-- A sign taken off a number: whether it is a minus, and the rest. -/
def splitSign : List Char → Bool × List Char
  | '-' :: rest => (true, rest)
  | '+' :: rest => (false, rest)
  | text => (false, text)

/-- The value of digits in a base up to 16; none without digits. -/
def digitsValue? (base : Nat) (digits : List Char) : Option Nat :=
  if digits.isEmpty then none
  else digits.foldlM (fun value c ↦
    match hexDigit? c with
    | some digit => if digit < base then some (value * base + digit) else none
    | none => none) 0

/-- More than one digit, and the first is zero: no number, but a text such as a code. -/
def isZeroPadded (digits : List Char) : Bool :=
  2 ≤ digits.length && digits.head? = some '0' && digits.all Char.isDigit

/-- The magnitude of an integer: hexadecimal, octal, binary or decimal. -/
def magnitude? : List Char → Option Nat
  | '0' :: 'x' :: digits => digitsValue? 16 digits
  | '0' :: 'o' :: digits => digitsValue? 8 digits
  | '0' :: 'b' :: digits => digitsValue? 2 digits
  | digits => if isZeroPadded digits then none else digitsValue? 10 digits

/-- The integer that a text spells, if it has at most 128 bits. -/
def integer? (text : List Char) : Option Int := do
  let (negative, digits) := splitSign text
  let magnitude ← magnitude? digits
  if negative then if magnitude ≤ 2 ^ 127 then some (-magnitude) else none
  else if magnitude < 2 ^ 128 then some magnitude else none

/-- An integer of 64 bits, with a sign or without. -/
def isWord (n : Int) : Bool := -2 ^ 63 ≤ n && n < 2 ^ 64

/-- The exponent that ends a decimal number; zero if there is none. -/
def exponent? : List Char → Option Int
  | [] => some 0
  | c :: rest =>
    if c = 'e' || c = 'E' then do
      let (negative, digits) := splitSign rest
      let n ← digitsValue? 10 (if digits.all Char.isDigit then digits else [])
      return if negative then -n else n
    else none

/-- From this decimal order of magnitude on there are no finite numbers, and below its negative all
are zero. -/
def maxOrder : Int := 400

/-- The finite number that decimal digits with a point and an exponent spell. -/
def decimal? (negative : Bool) (text : List Char) : Option Binary64 := do
  let whole := text.takeWhile Char.isDigit
  let rest := text.dropWhile Char.isDigit
  let (fraction, rest) :=
    match rest with
    | '.' :: rest => (rest.takeWhile Char.isDigit, rest.dropWhile Char.isDigit)
    | rest => ([], rest)
  let digits ← digitsValue? 10 (whole ++ fraction)
  let exponent ← exponent? rest
  let exponent := exponent - fraction.length
  let order := exponent + (whole ++ fraction).length
  let number :=
    if digits = 0 || order < -maxOrder then Binary64.ofDecimal negative 0 0
    else Binary64.ofDecimal negative digits (min exponent maxOrder)
  if number.isFinite then some number else none

/-- The number with a point or an exponent, or the infinity or the number that is none, that a text
spells. -/
def float? (text : List Char) : Option Binary64 :=
  let word := String.ofList text
  let (negative, digits) := splitSign text
  if [".inf", ".Inf", ".INF"].contains (String.ofList digits) then some (.infinity negative)
  else if [".nan", ".NaN", ".NAN"].contains word then some (.nan false)
  else if isZeroPadded digits then none
  else decimal? negative digits

end PackageRisk.Yaml
