import PackageRisk.Json.ReadError

/-!
# Reading JSON strings

The text after an opening quote, up to the closing one. An escape gives one code unit; two that form
a surrogate pair give one character, and any other surrogate is refused.
-/

namespace PackageRisk.Json

/-- The value of a hexadecimal digit of either case. -/
def hexDigit? (c : Char) : Option Nat :=
  if c.isDigit then some (c.toNat - '0'.toNat)
  else if 'a' ≤ c ∧ c ≤ 'f' then some (c.toNat - 'a'.toNat + 10)
  else if 'A' ≤ c ∧ c ≤ 'F' then some (c.toNat - 'A'.toNat + 10)
  else none

/-- The code unit of four hexadecimal digits. -/
def codeUnit? (a b c d : Char) : Option Nat := do
  return ((← hexDigit? a) * 16 + (← hexDigit? b)) * 256 + ((← hexDigit? c) * 16 + (← hexDigit? d))

/-- The first unit of a surrogate pair. -/
def isLeadingSurrogate (unit : Nat) : Bool := 0xd800 ≤ unit && unit ≤ 0xdbff

/-- The second unit of a surrogate pair. -/
def isTrailingSurrogate (unit : Nat) : Bool := 0xdc00 ≤ unit && unit ≤ 0xdfff

/-- The character of a surrogate pair. -/
def pairedChar (leading trailing : Nat) : Char :=
  Char.ofNat ((leading - 0xd800) * 0x400 + (trailing - 0xdc00) + 0x10000)

/-- The character of an escape with a single letter. -/
def escapedChar? (c : Char) : Option Char :=
  if c = '"' ∨ c = '\\' ∨ c = '/' then some c
  else if c = 'b' then some '\x08'
  else if c = 'f' then some '\x0c'
  else if c = 'n' then some '\n'
  else if c = 'r' then some '\r'
  else if c = 't' then some '\t'
  else none

/-- The fault of an escape whose four digits are not there: the text ends within the next four
bytes, or one of these is no digit. -/
def unitFault (text : List Char) : ReadError :=
  if text.foldl (fun bytes c ↦ bytes + c.utf8Size) 0 < 4 then .unfinishedString else .badEscape

/-- Reads the rest of a string after the characters in `done`, which are in reverse order. -/
def readStringFrom (done : List Char) : List Char → Except ReadError (String × List Char)
  | [] => .error .unfinishedString
  | '"' :: rest => .ok (String.ofList done.reverse, rest)
  | '\\' :: 'u' :: a :: b :: c :: d :: rest =>
    match codeUnit? a b c d with
    | none => .error .badEscape
    | some unit =>
      if isTrailingSurrogate unit then .error .loneSurrogate
      else if isLeadingSurrogate unit then
        match rest with
        | [] => .error .unfinishedString
        | '\\' :: [] => .error .unfinishedString
        | '\\' :: 'u' :: e :: f :: g :: h :: rest =>
          match codeUnit? e f g h with
          | none => .error .badEscape
          | some second =>
            if isTrailingSurrogate second then
              readStringFrom (pairedChar unit second :: done) rest
            else .error .loneSurrogate
        | '\\' :: 'u' :: short => .error (unitFault short)
        | _ => .error .unfinishedSurrogatePair
      else readStringFrom (Char.ofNat unit :: done) rest
  | '\\' :: 'u' :: short => .error (unitFault short)
  | '\\' :: [] => .error .unfinishedString
  | '\\' :: c :: rest =>
    match escapedChar? c with
    | none => .error .badEscape
    | some e => readStringFrom (e :: done) rest
  | c :: rest =>
    if c.toNat < 0x20 then .error .controlCharacter else readStringFrom (c :: done) rest

/-- Reads the rest of a string after its opening quote. -/
def readString (text : List Char) : Except ReadError (String × List Char) :=
  readStringFrom [] text

end PackageRisk.Json
