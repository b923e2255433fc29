/-!
# Percent encoding

A text in a URL: the bytes of its UTF-8 encoding, of which the unreserved ones stand for themselves
and every other one is a percent sign with two hexadecimal digits.
-/

namespace PackageRisk.Text.Percent

/-- A byte that stands for itself: an ASCII letter or digit, or one of `-`, `_`, `.` and `~`. -/
def isUnreserved (byte : UInt8) : Bool :=
  let c := Char.ofNat byte.toNat
  c.isAlphanum || c = '-' || c = '_' || c = '.' || c = '~'

/-- A hexadecimal digit in upper case. -/
def hexDigit (n : Nat) : Char := (Nat.digitChar n).toUpper

/-- The characters of a byte. -/
def encodeByte (byte : UInt8) : List Char :=
  if isUnreserved byte then [Char.ofNat byte.toNat]
  else ['%', hexDigit (byte.toNat / 16), hexDigit (byte.toNat % 16)]

/-- The text in a URL. -/
def encode (text : String) : String :=
  String.ofList (text.toUTF8.toList.flatMap encodeByte)

/-- The value of a hexadecimal digit, in upper or in lower case. -/
def digit? (c : Char) : Option Nat :=
  if c.isDigit then some (c.toNat - '0'.toNat)
  else if 'A' ≤ c ∧ c ≤ 'F' then some (c.toNat - 'A'.toNat + 10)
  else if 'a' ≤ c ∧ c ≤ 'f' then some (c.toNat - 'a'.toNat + 10)
  else none

/-- The bytes of a text in a URL, where every character without a percent sign stands for its own;
none if a percent sign is not followed by two digits. -/
def decodeBytes? : List Char → Option (List UInt8)
  | [] => some []
  | '%' :: high :: low :: rest => do
    let byte := UInt8.ofNat ((← digit? high) * 16 + (← digit? low))
    return byte :: (← decodeBytes? rest)
  | c :: rest => if c = '%' then none else (decodeBytes? rest).map (String.utf8EncodeChar c ++ ·)

/-- The text of a text in a URL; none if its bytes are not UTF-8. -/
def decode? (text : String) : Option String := do
  String.fromUTF8? (← decodeBytes? text.toList).toByteArray

end PackageRisk.Text.Percent
