import PackageRisk.Json.Value
import PackageRisk.Number.Decimal

/-!
# Printing JSON

Two layouts of one value: compact, without any space, and indented by two spaces, with one item or
member on a line. Empty arrays and objects stay on one line in both.
-/

namespace PackageRisk.Json

/-- JSON numbers have a point or an exponent; the exponent is written below `10 ^ -5` and from
`10 ^ 16` on. Of two nearest digits the even one is taken. JSON has no infinities. -/
def numberStyle : Decimal.Style where
  tie := .toEven
  inPlace := fun leading ↦ -5 ≤ leading && leading ≤ 15
  wholeEnding := ".0"
  nan := "null"
  infinity := "null"
  minusInfinity := "null"

/-- The digits of an integer, with its sign. -/
def integerText (n : Int) : List Char :=
  if n < 0 then '-' :: Nat.toDigits 10 n.natAbs else Nat.toDigits 10 n.natAbs

/-- The text of a number. -/
def Number.text : Number → List Char
  | .integer n => integerText n
  | .float x => (numberStyle.write x).toList

/-- A hexadecimal digit in lower case. -/
def hexDigit (n : Nat) : Char := Nat.digitChar n

/-- One character as it stands in a string: the quote, the backslash and the controls are
escaped. -/
def escapeChar (c : Char) : List Char :=
  if c = '"' then ['\\', '"']
  else if c = '\\' then ['\\', '\\']
  else if c = '\x08' then ['\\', 'b']
  else if c = '\x0c' then ['\\', 'f']
  else if c = '\n' then ['\\', 'n']
  else if c = '\r' then ['\\', 'r']
  else if c = '\t' then ['\\', 't']
  else if c.toNat < 0x20 then
    ['\\', 'u', '0', '0', hexDigit (c.toNat / 16), hexDigit (c.toNat % 16)]
  else [c]

/-- A string between its quotes. -/
def stringText (text : String) : List Char :=
  '"' :: (text.toList.flatMap escapeChar ++ ['"'])

mutual

/-- The value without any space. -/
def Value.compact : Value → List Char
  | .null => "null".toList
  | .boolean b => (if b then "true" else "false").toList
  | .number n => n.text
  | .string text => stringText text
  | .array items => '[' :: (compactItems items ++ [']'])
  | .object members => '{' :: (compactMembers members ++ ['}'])

/-- Items separated by commas. -/
def compactItems : List Value → List Char
  | [] => []
  | [item] => item.compact
  | item :: rest => item.compact ++ ',' :: compactItems rest

/-- Members separated by commas. -/
def compactMembers : List (String × Value) → List Char
  | [] => []
  | [(key, value)] => stringText key ++ ':' :: value.compact
  | (key, value) :: rest => stringText key ++ ':' :: (value.compact ++ ',' :: compactMembers rest)

end

/-- A line break and the indentation of a level. -/
def newLine (level : Nat) : List Char := '\n' :: List.replicate (2 * level) ' '

mutual

/-- The value over several lines, where `level` is the level of the line it begins on. -/
def Value.indented (level : Nat) : Value → List Char
  | .null => "null".toList
  | .boolean b => (if b then "true" else "false").toList
  | .number n => n.text
  | .string text => stringText text
  | .array [] => ['[', ']']
  | .array items => '[' :: (indentedItems (level + 1) items ++ newLine level ++ [']'])
  | .object [] => ['{', '}']
  | .object members => '{' :: (indentedMembers (level + 1) members ++ newLine level ++ ['}'])

/-- Items on lines of their own. -/
def indentedItems (level : Nat) : List Value → List Char
  | [] => []
  | [item] => newLine level ++ item.indented level
  | item :: rest => newLine level ++ item.indented level ++ ',' :: indentedItems level rest

/-- Members on lines of their own. -/
def indentedMembers (level : Nat) : List (String × Value) → List Char
  | [] => []
  | [(key, value)] => newLine level ++ stringText key ++ ':' :: ' ' :: value.indented level
  | (key, value) :: rest =>
    newLine level ++ stringText key ++ ':' :: ' ' :: value.indented level ++
      ',' :: indentedMembers level rest

end

/-- The text of a value in the order of its keys, for messages. -/
def Value.shown (value : Value) : String := String.ofList value.sorted.compact

/-- The text of a value as a document of its own. -/
def Value.document (value : Value) : String := String.ofList (value.indented 0)

end PackageRisk.Json
