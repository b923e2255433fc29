import PackageRisk.Json.ReadError

/-!
# Reading JSON numbers

A literal without a point or an exponent is an integer if it lies between -2 ^ 63 and 2 ^ 64 - 1;
every other one is a binary64 number, and so is `-0`. The digits are gathered in a significand below
2 ^ 64: the digits that no longer fit are dropped and only counted. The significand is then scaled
by one power of ten, and by `10 ^ -308` as often as needed before, with a rounding at every step.
-/

namespace PackageRisk.Json

/-- The value of a decimal digit. -/
def digit? (c : Char) : Option Nat := if c.isDigit then some (c.toNat - '0'.toNat) else none

/-- The greatest significand. -/
def maxSignificand : Nat := 2 ^ 64 - 1

/-- Digits appended to a significand. -/
structure Gathered where
  significand : Nat
  /-- How many digits were appended. -/
  kept : Nat
  /-- How many digits no longer fitted. -/
  dropped : Nat
  rest : List Char
  deriving DecidableEq, Repr

/-- Appends the digits at the head of a text to a significand; from the first that does not fit on,
all are dropped. -/
def gatherDigits (significand kept : Nat) : List Char → Gathered
  | [] => ⟨significand, kept, 0, []⟩
  | c :: rest =>
    match digit? c with
    | none => ⟨significand, kept, 0, c :: rest⟩
    | some d =>
      if significand * 10 + d ≤ maxSignificand then
        gatherDigits (significand * 10 + d) (kept + 1) rest
      else
        ⟨significand, kept, 1 + (rest.takeWhile Char.isDigit).length, rest.dropWhile Char.isDigit⟩

/-- A power of ten, rounded. -/
def powerOfTen (exponent : Nat) : Binary64 := .ofNat (10 ^ exponent)

/-- The greatest exponent of a finite power of ten. -/
def maxPower : Nat := 308

/-- Division by `10 ^ 308`, repeated until nothing is left. -/
def scaleDown (x : Binary64) : Nat → Binary64
  | 0 => x
  | steps + 1 => if x.code = 0 then x else scaleDown (x.div (powerOfTen maxPower)) steps

/-- The significand times a power of ten; none beyond the finite numbers. -/
def scale? (significand : Nat) (exponent : Int) : Option Binary64 :=
  if 0 ≤ exponent then
    if exponent ≤ maxPower then
      let x := (Binary64.ofNat significand).mul (powerOfTen exponent.toNat)
      if x.isFinite then some x else none
    else if significand = 0 then some .zero
    else none
  else
    let places := (-exponent).toNat
    let steps := (places - 1) / maxPower
    let x := scaleDown (.ofNat significand) steps
    some (if x.code = 0 then x else x.div (powerOfTen (places - steps * maxPower)))

/-- The float with a sign. -/
def float? (negative : Bool) (significand : Nat) (exponent : Int) :
    Except ReadError Number :=
  match scale? significand exponent with
  | none => .error .numberOutOfRange
  | some x => .ok (.float (if negative then x.neg else x))

/-- The number of a literal without a point or an exponent. -/
def whole (negative : Bool) (significand : Nat) : Number :=
  if negative then
    if 1 ≤ significand ∧ significand ≤ 2 ^ 63 then .integer (-significand)
    else .float (Binary64.ofNat significand).neg
  else .integer significand

/-- The bounds of an exponent. -/
def maxExponent : Int := 2 ^ 31 - 1

/-- The value of the digits at the head of a text, and the rest. -/
def readDigits (text : List Char) : Nat × List Char :=
  (Nat.ofDigitChars 10 (text.takeWhile Char.isDigit) 0, text.dropWhile Char.isDigit)

/-- Reads what follows the mark of an exponent. -/
def readExponent (negative : Bool) (significand : Nat) (start : Int) (text : List Char) :
    Except ReadError (Number × List Char) :=
  let (downward, text) : Bool × List Char :=
    match text with
    | '+' :: rest => (false, rest)
    | '-' :: rest => (true, rest)
    | _ => (false, text)
  match text with
  | [] => .error .unfinishedValue
  | c :: _ =>
    if c.isDigit then do
      let (size, rest) := readDigits text
      if maxExponent < size then
        if significand ≠ 0 ∧ downward = false then .error .numberOutOfRange
        else .ok (.float { Binary64.zero with negative }, rest)
      else
        let exponent := if downward then start - size else start + size
        let bounded := max (-maxExponent - 1) (min maxExponent exponent)
        .ok (← float? negative significand bounded, rest)
    else .error .badNumber

/-- Reads what follows the point. -/
def readFraction (negative : Bool) (significand : Nat) (start : Int) (text : List Char) :
    Except ReadError (Number × List Char) :=
  match text with
  | [] => .error .unfinishedValue
  | c :: _ =>
    if c.isDigit then do
      let digits := gatherDigits significand 0 text
      let exponent := start - digits.kept
      match digits.rest with
      | 'e' :: rest => readExponent negative digits.significand exponent rest
      | 'E' :: rest => readExponent negative digits.significand exponent rest
      | rest => .ok (← float? negative digits.significand exponent, rest)
    else .error .badNumber

/-- Reads a number after its sign. -/
def readNumber (negative : Bool) (text : List Char) : Except ReadError (Number × List Char) :=
  match text with
  | [] => .error .unfinishedValue
  | c :: after =>
    if c = '0' ∧ (after.head?.any Char.isDigit) then .error .badNumber
    else if c.isDigit then do
      let digits := gatherDigits 0 0 text
      let exponent : Int := digits.dropped
      match digits.rest with
      | '.' :: rest => readFraction negative digits.significand exponent rest
      | 'e' :: rest => readExponent negative digits.significand exponent rest
      | 'E' :: rest => readExponent negative digits.significand exponent rest
      | rest =>
        if digits.dropped = 0 then .ok (whole negative digits.significand, rest)
        else .ok (← float? negative digits.significand exponent, rest)
    else .error .badNumber

end PackageRisk.Json
