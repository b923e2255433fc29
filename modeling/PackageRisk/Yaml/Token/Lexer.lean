import PackageRisk.Yaml.Token

/-!
# Splitting YAML texts into tokens

Outside brackets and braces a column to the right of all open blocks opens a block, and one to the
left of some closes them. That a token is a key shows only at the colon after it: until then it is
remembered as a candidate, and the colon puts the key's token, and the beginning of a mapping if
need be, in front of it.
-/

namespace PackageRisk.Yaml

/-- A token that becomes a key if a colon follows on its line. -/
structure Candidate where
  /-- Only a key can stand here. -/
  required : Bool
  /-- How many tokens come before it. -/
  place : Nat
  index : Nat
  line : Nat
  column : Nat
  deriving DecidableEq, Repr

/-- A text split into tokens up to a cursor. -/
structure Lexer where
  cursor : Cursor
  tokens : Array Token
  /-- The columns of the open blocks, innermost first. -/
  blocks : List Nat
  /-- A key may begin here. -/
  keyAllowed : Bool
  candidate : Option Candidate
  /-- The candidates outside of each open bracket or brace, innermost first. -/
  outerCandidates : List (Option Candidate)

namespace Lexer

/-- The beginning of a text. -/
def ofText (text : List Char) : Lexer where
  cursor := .ofText text
  tokens := #[]
  blocks := []
  keyAllowed := true
  candidate := none
  outerCandidates := []

/-- The cursor is inside brackets or braces. -/
def inFlow (lexer : Lexer) : Bool := !lexer.outerCandidates.isEmpty

/-- The column of the innermost block; minus one outside of all. -/
def indent (lexer : Lexer) : Int :=
  match lexer.blocks with
  | [] => -1
  | column :: _ => column

/-- Adds a token that ends at a cursor. -/
def emit (lexer : Lexer) (token : Token) (next : Cursor) : Lexer :=
  { lexer with tokens := lexer.tokens.push token, cursor := next }

/-- Adds a token of some characters at the cursor. -/
def emitSign (lexer : Lexer) (token : Token) (size : Nat) : Lexer :=
  lexer.emit token (lexer.cursor.skip size)

/-- Puts a token behind the first `place` ones. -/
def insert (lexer : Lexer) (place : Nat) (token : Token) : Lexer :=
  { lexer with
    tokens := (lexer.tokens.extract 0 place).push token ++ lexer.tokens.extract place }

/-- Opens a block at a column to the right of the innermost one. -/
def openBlock (lexer : Lexer) (column place : Nat) (token : Token) : Lexer :=
  if !lexer.inFlow && lexer.indent < column then
    { lexer.insert place token with blocks := column :: lexer.blocks }
  else lexer

/-- Closes the blocks to the right of a column. -/
def closeBlocks (lexer : Lexer) (column : Int) : Lexer :=
  if lexer.inFlow then lexer
  else
    let isClosed (block : Nat) : Bool := column < block
    { lexer with
      tokens := lexer.tokens ++ ((lexer.blocks.takeWhile isClosed).map fun _ ↦ .blockEnd).toArray
      blocks := lexer.blocks.dropWhile isClosed }

/-- Gives up a candidate, unless only a key can stand there. -/
def dropCandidate (lexer : Lexer) : Option Lexer :=
  if lexer.candidate.any (·.required) then none else some { lexer with candidate := none }

/-- Remembers the token that begins at the cursor as a candidate. -/
def noteCandidate (lexer : Lexer) : Option Lexer :=
  if lexer.keyAllowed then do
    let lexer ← lexer.dropCandidate
    let cursor := lexer.cursor
    let required : Bool := !lexer.inFlow && lexer.indent = cursor.column
    return { lexer with
      candidate := some ⟨required, lexer.tokens.size, cursor.index, cursor.line, cursor.column⟩ }
  else some lexer

/-- How far a key may reach up to its colon. -/
def maxKeyLength : Nat := 1024

/-- A candidate that no colon can make a key any more. -/
def isStale (cursor : Cursor) (candidate : Candidate) : Bool :=
  candidate.line < cursor.line || candidate.index + maxKeyLength < cursor.index

/-- Gives up the candidates that are too far back. -/
def dropStale (lexer : Lexer) : Option Lexer :=
  let keep (candidate : Option Candidate) : Option Candidate :=
    candidate.filter fun c ↦ !isStale lexer.cursor c
  let all := lexer.candidate :: lexer.outerCandidates
  if all.any fun candidate ↦ candidate.any fun c ↦ isStale lexer.cursor c && c.required then none
  else some { lexer with
    candidate := keep lexer.candidate
    outerCandidates := lexer.outerCandidates.map keep }

/-- Skips what stands between tokens, over at most `limit` lines. -/
def skipLines : Nat → Lexer → Lexer
  | 0, lexer => lexer
  | limit + 1, lexer =>
    let cursor := lexer.cursor
    let cursor := if cursor.column = 0 && cursor.isAt '\ufeff' then cursor.skip 1 else cursor
    let cursor := cursor.skipWhile fun c ↦
      c = ' ' || (c = '\t' && (lexer.inFlow || !lexer.keyAllowed))
    let cursor := if cursor.isAt '#' then cursor.skipWhile fun c ↦ !isBreak c else cursor
    if cursor.peek.any isBreak then
      skipLines limit { lexer with
        cursor := cursor.readBreak.2
        keyAllowed := lexer.keyAllowed || !lexer.inFlow }
    else { lexer with cursor }

/-- Skips what stands between tokens: a byte order mark at the beginning of a line, blanks, a
comment, and line breaks. Where a key may begin, a tab is no blank. -/
def skipToToken (lexer : Lexer) : Lexer := skipLines (lexer.cursor.rest.length + 1) lexer

/-- Reads a number of a version: up to nine digits. -/
def readVersionNumber (cursor : Cursor) : Option (Nat × Cursor) :=
  let (digits, next) := cursor.takeWhile Char.isDigit
  if digits.isEmpty || 9 < digits.length then none
  else some (digits.foldl (fun n c ↦ n * 10 + (c.toNat - '0'.toNat)) 0, next)

/-- Reads what follows the name of a version directive. -/
def readVersion (cursor : Cursor) : Option (Token × Cursor) := do
  let (major, cursor) ← readVersionNumber (cursor.skipWhile isBlankChar)
  if !cursor.isAt '.' then none
  let (minor, cursor) ← readVersionNumber (cursor.skip 1)
  return (.version major minor, cursor)

/-- Reads what follows the name of a tag directive. -/
def readHandleDirective (cursor : Cursor) : Option (Token × Cursor) := do
  let (handle, cursor) ← readHandle (cursor.skipWhile isBlankChar)
  if handle ≠ ['!'] && !isClosedHandle handle then none
  if !cursor.peek.any isBlankChar then none
  let cursor := cursor.skipWhile isBlankChar
  let (start, rest) ← readUri true 0 cursor.rest
  let cursor := cursor.skipTo rest
  if start.isEmpty || !isGap cursor.peek then none
  return (.handle handle start, cursor)

/-- Reads a directive after its percent sign, to the end of the line. -/
def readDirective (cursor : Cursor) : Option (Token × Cursor) := do
  let (name, cursor) := cursor.takeWhile isNameChar
  if !isGap cursor.peek then none
  let (token, cursor) ←
    if name = "YAML".toList then readVersion cursor
    else if name = "TAG".toList then readHandleDirective cursor
    else none
  return (token, ← skipToLineEnd cursor)

/-- Ends all blocks for a directive, a document mark or the end of the text. -/
def leaveDocument (lexer : Lexer) : Option Lexer := do
  let lexer ← (lexer.closeBlocks (-1)).dropCandidate
  return { lexer with keyAllowed := false }

/-- Reads an opening bracket or brace. -/
def openFlow (lexer : Lexer) (token : Token) : Option Lexer := do
  let lexer ← lexer.noteCandidate
  return { lexer.emitSign token 1 with
    candidate := none
    outerCandidates := lexer.candidate :: lexer.outerCandidates
    keyAllowed := true }

/-- Reads a closing bracket or brace. -/
def closeFlow (lexer : Lexer) (token : Token) : Option Lexer := do
  let lexer ← lexer.dropCandidate
  return { lexer.emitSign token 1 with
    candidate := lexer.outerCandidates.head?.getD none
    outerCandidates := lexer.outerCandidates.tail
    keyAllowed := false }

/-- Reads a comma. -/
def readComma (lexer : Lexer) : Option Lexer := do
  let lexer ← lexer.dropCandidate
  return { lexer.emitSign .comma 1 with keyAllowed := true }

/-- Opens a block at the cursor where a key might begin; inside brackets and braces there are no
blocks. -/
def beginBlock (lexer : Lexer) (token : Token) : Option Lexer :=
  if lexer.inFlow then some lexer
  else if lexer.keyAllowed then
    some (lexer.openBlock lexer.cursor.column lexer.tokens.size token)
  else none

/-- Reads the dash of an entry. -/
def readEntry (lexer : Lexer) : Option Lexer := do
  let lexer ← (← lexer.beginBlock .blockSequence).dropCandidate
  return { lexer.emitSign .entry 1 with keyAllowed := true }

/-- Reads the question mark of a key. -/
def readKey (lexer : Lexer) : Option Lexer := do
  let lexer ← (← lexer.beginBlock .blockMapping).dropCandidate
  return { lexer.emitSign .key 1 with keyAllowed := !lexer.inFlow }

/-- Reads the colon of a value, which makes the candidate a key. -/
def readValue (lexer : Lexer) : Option Lexer :=
  match lexer.candidate with
  | some candidate =>
    let lexer := (lexer.insert candidate.place .key).openBlock candidate.column candidate.place
      .blockMapping
    some { lexer.emitSign .value 1 with candidate := none, keyAllowed := false }
  | none => do
    let lexer ← lexer.beginBlock .blockMapping
    return { lexer.emitSign .value 1 with keyAllowed := !lexer.inFlow }

/-- The signs of which one follows the name of an anchor, if no gap does. -/
def isAfterName (c : Char) : Bool := "?:,]\x7d%@`".toList.contains c

/-- Reads the name of an anchor or an alias after its sign. -/
def readName (cursor : Cursor) : Option (List Char × Cursor) :=
  let (name, next) := (cursor.skip 1).takeWhile isNameChar
  if name.isEmpty || !(isGap next.peek || next.peek.any isAfterName) then none
  else some (name, next)

/-- Reads a token that may begin a key. -/
def readContent (lexer : Lexer) (read : Lexer → Option (Token × Cursor)) : Option Lexer := do
  let lexer ← lexer.noteCandidate
  let (token, next) ← read lexer
  return { lexer.emit token next with keyAllowed := false }

/-- Reads a quoted scalar. -/
def readQuotedScalar (style : Style) (quote : Char) (lexer : Lexer) : Option (Token × Cursor) := do
  let (text, next) ← readQuoted quote (lexer.cursor.skip 1)
  return (.scalar style text, next)

/-- Reads a scalar that goes by its indentation. -/
def readBlockScalar (style : Style) (lexer : Lexer) : Option Lexer := do
  let lexer ← lexer.dropCandidate
  let (text, next) ← readBlock (style = .folded) lexer.indent (lexer.cursor.skip 1)
  return { lexer.emit (.scalar style text) next with keyAllowed := true }

/-- Reads a plain scalar. After a line break at its end a key may begin. -/
def readPlainScalar (lexer : Lexer) : Option Lexer := do
  let lexer ← lexer.noteCandidate
  let scalar ← readPlain lexer.inFlow (lexer.indent + 1) lexer.cursor
  return { lexer.emit (.scalar .plain scalar.text) scalar.cursor with keyAllowed := scalar.broken }

/-- A sign that no plain scalar begins with. -/
def isSign (c : Char) : Bool := "-?:,[]\x7b\x7d#&*!|>'\"%@`".toList.contains c

/-- A plain scalar begins at the cursor. -/
def isAtPlain (lexer : Lexer) (c : Char) : Bool :=
  !(isGap (some c) || isSign c) ||
    (c = '-' && !(lexer.cursor.peekAt 1).any isBlankChar) ||
    (!lexer.inFlow && (c = '?' || c = ':') && !isGap (lexer.cursor.peekAt 1))

/-- Reads the token that begins with a character at the cursor. -/
def readToken (lexer : Lexer) (c : Char) : Option Lexer :=
  let cursor := lexer.cursor
  let beforeGap := isGap (cursor.peekAt 1)
  if cursor.column = 0 && c = '%' then do
    let lexer ← lexer.leaveDocument
    let (token, next) ← readDirective (cursor.skip 1)
    return lexer.emit token next
  else if cursor.isAtMark '-' then lexer.leaveDocument.map (·.emitSign .documentStart 3)
  else if cursor.isAtMark '.' then lexer.leaveDocument.map (·.emitSign .documentEnd 3)
  else if c = '[' then lexer.openFlow .openBracket
  else if c = '\x7b' then lexer.openFlow .openBrace
  else if c = ']' then lexer.closeFlow .closeBracket
  else if c = '\x7d' then lexer.closeFlow .closeBrace
  else if c = ',' then lexer.readComma
  else if c = '-' && beforeGap then lexer.readEntry
  else if c = '?' && (lexer.inFlow || beforeGap) then lexer.readKey
  else if c = ':' && (lexer.inFlow || beforeGap) then lexer.readValue
  else if c = '*' then
    lexer.readContent fun lexer ↦ (readName lexer.cursor).map fun (name, next) ↦ (.alias name, next)
  else if c = '&' then
    lexer.readContent fun lexer ↦
      (readName lexer.cursor).map fun (name, next) ↦ (.anchor name, next)
  else if c = '!' then
    lexer.readContent fun lexer ↦
      (readTag lexer.inFlow lexer.cursor).map fun (tag, next) ↦ (.tag tag, next)
  else if c = '|' && !lexer.inFlow then lexer.readBlockScalar .literal
  else if c = '>' && !lexer.inFlow then lexer.readBlockScalar .folded
  else if c = '\'' then lexer.readContent (readQuotedScalar .singleQuoted c)
  else if c = '"' then lexer.readContent (readQuotedScalar .doubleQuoted c)
  else if lexer.isAtPlain c then lexer.readPlainScalar
  else none

/-- Reads the tokens from the cursor on, of which there are fewer than `limit`. -/
def run : Nat → Lexer → Option (List Token)
  | 0, _ => none
  | limit + 1, lexer => do
    let lexer ← lexer.skipToToken.dropStale
    let lexer := lexer.closeBlocks lexer.cursor.column
    match lexer.cursor.peek with
    | none => return (← lexer.leaveDocument).tokens.toList
    | some c => run limit (← lexer.readToken c)

end Lexer

/-- The tokens of a text. -/
def Token.ofText? (text : List Char) : Option (List Token) :=
  if text.all isAllowed then (Lexer.ofText text).run (text.length + 1) else none

end PackageRisk.Yaml
