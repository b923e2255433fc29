/-!
# Decoding bytes of uncertain encoding

The body of a reply is text in UTF-8, unless a byte order mark at its head says UTF-16. The mark is
no part of the text. Every longest piece that cannot be continued to a character becomes one
replacement character.
-/

namespace PackageRisk.Text

/-- The character that stands for what cannot be decoded. -/
def replacement : Char := '\uFFFD'

/-- A character of UTF-8 that has begun: how many bytes it still needs, the range of the next one,
and the bits so far. -/
structure PartialChar where
  missing : Nat
  low : Nat
  high : Nat
  bits : Nat
  deriving DecidableEq, Repr

/-- What a byte begins: a whole character, a part of one, or neither. -/
def beginChar (byte : Nat) : Char ⊕ Option PartialChar :=
  if byte < 0x80 then .inl (Char.ofNat byte)
  else if 0xc2 ≤ byte ∧ byte ≤ 0xdf then .inr (some ⟨1, 0x80, 0xbf, byte - 0xc0⟩)
  else if byte = 0xe0 then .inr (some ⟨2, 0xa0, 0xbf, 0⟩)
  else if byte = 0xed then .inr (some ⟨2, 0x80, 0x9f, 0xd⟩)
  else if 0xe1 ≤ byte ∧ byte ≤ 0xef then .inr (some ⟨2, 0x80, 0xbf, byte - 0xe0⟩)
  else if byte = 0xf0 then .inr (some ⟨3, 0x90, 0xbf, 0⟩)
  else if 0xf1 ≤ byte ∧ byte ≤ 0xf3 then .inr (some ⟨3, 0x80, 0xbf, byte - 0xf0⟩)
  else if byte = 0xf4 then .inr (some ⟨3, 0x80, 0x8f, 4⟩)
  else .inr none

/-- Decodes the bytes after an unfinished character. -/
def decodeUtf8From : Option PartialChar → List Nat → List Char
  | none, [] => []
  | some _, [] => [replacement]
  | state, byte :: rest =>
    let fresh (before : List Char) : List Char :=
      match beginChar byte with
      | .inl c => before ++ c :: decodeUtf8From none rest
      | .inr (some part) => before ++ decodeUtf8From (some part) rest
      | .inr none => before ++ replacement :: decodeUtf8From none rest
    match state with
    | none => fresh []
    | some part =>
      if part.low ≤ byte ∧ byte ≤ part.high then
        let bits := part.bits * 0x40 + (byte - 0x80)
        if part.missing = 1 then Char.ofNat bits :: decodeUtf8From none rest
        else decodeUtf8From (some ⟨part.missing - 1, 0x80, 0xbf, bits⟩) rest
      else fresh [replacement]

/-- The code units of pairs of bytes; a single byte at the end is none. -/
def codeUnits (bigEndian : Bool) : List Nat → List (Option Nat)
  | [] => []
  | [_] => [none]
  | a :: b :: rest =>
    some (if bigEndian then a * 0x100 + b else b * 0x100 + a) :: codeUnits bigEndian rest

/-- Decodes code units of UTF-16 after a leading surrogate. -/
def decodeUtf16From : Option Nat → List (Option Nat) → List Char
  | none, [] => []
  | some _, [] => [replacement]
  | _, none :: rest => replacement :: decodeUtf16From none rest
  | leading, some unit :: rest =>
    let fresh (before : List Char) : List Char :=
      if 0xd800 ≤ unit ∧ unit ≤ 0xdbff then before ++ decodeUtf16From (some unit) rest
      else if 0xdc00 ≤ unit ∧ unit ≤ 0xdfff then
        before ++ replacement :: decodeUtf16From none rest
      else before ++ Char.ofNat unit :: decodeUtf16From none rest
    match leading with
    | none => fresh []
    | some first =>
      if 0xdc00 ≤ unit ∧ unit ≤ 0xdfff then
        Char.ofNat ((first - 0xd800) * 0x400 + (unit - 0xdc00) + 0x10000) ::
          decodeUtf16From none rest
      else fresh [replacement]

/-- The text of bytes. -/
def decodeBody (bytes : ByteArray) : String :=
  let codes := bytes.toList.map UInt8.toNat
  String.ofList <|
    match codes with
    | 0xef :: 0xbb :: 0xbf :: rest => decodeUtf8From none rest
    | 0xfe :: 0xff :: rest => decodeUtf16From none (codeUnits true rest)
    | 0xff :: 0xfe :: rest => decodeUtf16From none (codeUnits false rest)
    | _ => decodeUtf8From none codes

end PackageRisk.Text
