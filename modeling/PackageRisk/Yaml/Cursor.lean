/-!
# Reading positions in YAML texts

A cursor is the rest of a text with the position where it begins. Line breaks are carriage returns,
line feeds, both together, next lines, and line and paragraph separators.
-/

namespace PackageRisk.Yaml

/-- The rest of a text and where it begins. -/
structure Cursor where
  rest : List Char
  index : Nat
  line : Nat
  column : Nat
  deriving DecidableEq, Repr

/-- A space or a tab. -/
def isBlankChar (c : Char) : Bool := c = ' ' || c = '\t'

/-- A character that ends a line. -/
def isBreak (c : Char) : Bool :=
  c = '\r' || c = '\n' || c = '\u0085' || c = '\u2028' || c = '\u2029'

/-- A blank, a line break, or the end of the text. -/
def isGap : Option Char → Bool
  | none => true
  | some c => isBlankChar c || isBreak c

/-- A character that YAML texts may hold. -/
def isAllowed (c : Char) : Bool :=
  let n := c.toNat
  n = 0x9 || n = 0xa || n = 0xd || (0x20 ≤ n && n ≤ 0x7e) || n = 0x85 ||
    (0xa0 ≤ n && n ≤ 0xfffd) || 0x10000 ≤ n

/-- A character of the names of anchors, directives and tag handles. -/
def isNameChar (c : Char) : Bool := c.isAlphanum || c = '_' || c = '-'

namespace Cursor

/-- The beginning of a text. -/
def ofText (text : List Char) : Cursor := ⟨text, 0, 0, 0⟩

/-- The next character. -/
def peek (cursor : Cursor) : Option Char := cursor.rest.head?

/-- The character after so many others. -/
def peekAt (cursor : Cursor) (n : Nat) : Option Char := cursor.rest[n]?

/-- The next character is this one. -/
def isAt (cursor : Cursor) (c : Char) : Bool := cursor.peek = some c

/-- The cursor some characters further on the same line. -/
def skip (cursor : Cursor) (n : Nat) : Cursor :=
  { cursor with
    rest := cursor.rest.drop n
    index := cursor.index + n
    column := cursor.column + n }

/-- The line break at the cursor as it counts in a scalar, and the beginning of the next line. All
breaks count as line feeds, except that line and paragraph separators stand for themselves. -/
def readBreak (cursor : Cursor) : Char × Cursor :=
  let next (c : Char) (size : Nat) (rest : List Char) : Char × Cursor :=
    (c, ⟨rest, cursor.index + size, cursor.line + 1, 0⟩)
  match cursor.rest with
  | '\r' :: '\n' :: rest => next '\n' 2 rest
  | c :: rest => next (if c = '\u2028' || c = '\u2029' then c else '\n') 1 rest
  | [] => ('\n', cursor)

/-- Skips the characters of a kind on the line. -/
def skipWhile (cursor : Cursor) (p : Char → Bool) : Cursor :=
  cursor.skip (cursor.rest.takeWhile p).length

/-- The characters of a kind, and the cursor after them. -/
def takeWhile (cursor : Cursor) (p : Char → Bool) : List Char × Cursor :=
  (cursor.rest.takeWhile p, cursor.skipWhile p)

/-- The mark of a document's start or end: three equal signs at the beginning of a line. -/
def isAtMark (cursor : Cursor) (sign : Char) : Bool :=
  cursor.column = 0 && cursor.rest.take 3 = [sign, sign, sign] && isGap (cursor.peekAt 3)

/-- One of the marks of documents. -/
def isAtDocumentMark (cursor : Cursor) : Bool := cursor.isAtMark '-' || cursor.isAtMark '.'

end Cursor

end PackageRisk.Yaml
