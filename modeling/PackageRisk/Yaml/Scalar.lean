import PackageRisk.Yaml.Cursor

/-!
# Scalars of YAML texts

Plain and quoted scalars may go over several lines: a single line break between their words becomes
a space, and of several breaks the first is dropped. Block scalars keep their lines, or fold them in
the same way, and their header says what becomes of the breaks at the end.
-/

namespace PackageRisk.Yaml

/-- How a scalar is written. -/
inductive Style
  | plain
  | singleQuoted
  | doubleQuoted
  | literal
  | folded
  deriving DecidableEq, Repr

/-- The blanks and line breaks between two words of a scalar. -/
structure Spacing where
  /-- The blanks before the first line break. -/
  blanks : List Char
  /-- There was a line break, written out or escaped. -/
  broken : Bool
  firstBreak : Option Char
  moreBreaks : List Char
  deriving DecidableEq, Repr

namespace Spacing

/-- Nothing between two words. -/
def none : Spacing := ⟨[], false, .none, []⟩

/-- What the spacing becomes in the scalar. -/
def fold (spacing : Spacing) : List Char :=
  if spacing.broken then
    if spacing.firstBreak = some '\n' then
      if spacing.moreBreaks.isEmpty then [' '] else spacing.moreBreaks
    else spacing.firstBreak.toList ++ spacing.moreBreaks
  else spacing.blanks

/-- Reads blanks and line breaks in at most `limit` steps, after those in `spacing`. -/
def readWithin (indent : Option Int) : Nat → Spacing → Cursor → Option (Spacing × Cursor)
  | 0, _, _ => .none
  | limit + 1, spacing, cursor =>
    match cursor.peek with
    | .none => some (spacing, cursor)
    | some c =>
      if isBlankChar c then
        if spacing.broken && c = '\t' && indent.any ((cursor.column : Int) < ·) then .none
        else if spacing.broken then readWithin indent limit spacing (cursor.skip 1)
        else
          let spacing := { spacing with blanks := spacing.blanks ++ [c] }
          readWithin indent limit spacing (cursor.skip 1)
      else if isBreak c then
        let (lineBreak, next) := cursor.readBreak
        if spacing.broken then
          let spacing := { spacing with moreBreaks := spacing.moreBreaks ++ [lineBreak] }
          readWithin indent limit spacing next
        else readWithin indent limit ⟨[], true, some lineBreak, []⟩ next
      else some (spacing, cursor)

/-- Reads blanks and line breaks, after those in `before`. In a plain scalar a tab before the column
`indent` is refused. -/
def read (indent : Option Int) (before : Spacing) (cursor : Cursor) : Option (Spacing × Cursor) :=
  readWithin indent (cursor.rest.length + 1) before cursor

end Spacing

/-- A character that ends plain scalars inside brackets and braces. -/
def isFlowSign (c : Char) : Bool := c = ',' || c = '[' || c = ']' || c = '\x7b' || c = '\x7d'

/-- Reads a word of a plain scalar. Inside brackets and braces a colon before a sign is refused. -/
def readPlainWord (inFlow : Bool) : List Char → Option (List Char)
  | [] => some []
  | c :: rest =>
    if isGap (some c) then some []
    else if inFlow && c = ':' && rest.head?.any (fun d ↦ isFlowSign d || d = '?') then none
    else if (c = ':' && isGap rest.head?) || (inFlow && isFlowSign c) then some []
    else (readPlainWord inFlow rest).map (c :: ·)

/-- A plain scalar, the cursor after it, and whether a line break was read after its last word. -/
structure PlainScalar where
  text : List Char
  cursor : Cursor
  broken : Bool

/-- Reads at most `limit` more words of a plain scalar; `spacing` stands in front of the next. -/
def readPlainWords (inFlow : Bool) (indent : Int) :
    Nat → List Char → Spacing → Cursor → Option PlainScalar
  | 0, _, _, _ => none
  | limit + 1, text, spacing, cursor => do
    if cursor.isAtDocumentMark || cursor.isAt '#' then return ⟨text, cursor, spacing.broken⟩
    let word ← readPlainWord inFlow cursor.rest
    if word.isEmpty then return ⟨text, cursor, spacing.broken⟩
    let text := text ++ spacing.fold ++ word
    let cursor := cursor.skip word.length
    if cursor.peek.isNone || !isGap cursor.peek then return ⟨text, cursor, false⟩
    let (spacing, cursor) ← Spacing.read (some indent) .none cursor
    if !inFlow && (cursor.column : Int) < indent then return ⟨text, cursor, spacing.broken⟩
    readPlainWords inFlow indent limit text spacing cursor

/-- Reads a plain scalar; outside brackets and braces its lines begin at the column `indent` or to
the right of it. -/
def readPlain (inFlow : Bool) (indent : Int) (cursor : Cursor) : Option PlainScalar :=
  readPlainWords inFlow indent (cursor.rest.length + 1) [] .none cursor

/-- The character of an escape with a single letter. -/
def escaped? (c : Char) : Option Char :=
  match c with
  | '0' => some '\x00'
  | 'a' => some '\x07'
  | 'b' => some '\x08'
  | 't' => some '\t'
  | '\t' => some '\t'
  | 'n' => some '\n'
  | 'v' => some '\x0b'
  | 'f' => some '\x0c'
  | 'r' => some '\r'
  | 'e' => some '\x1b'
  | ' ' => some ' '
  | '"' => some '"'
  | '/' => some '/'
  | '\\' => some '\\'
  | 'N' => some '\u0085'
  | '_' => some '\u00a0'
  | 'L' => some '\u2028'
  | 'P' => some '\u2029'
  | _ => none

/-- The number of digits of an escape by code point. -/
def escapeDigits? (c : Char) : Option Nat :=
  match c with
  | 'x' => some 2
  | 'u' => some 4
  | 'U' => some 8
  | _ => none

/-- The value of a hexadecimal digit of either case. -/
def hexDigit? (c : Char) : Option Nat :=
  if c.isDigit then some (c.toNat - '0'.toNat)
  else if 'a' ≤ c ∧ c ≤ 'f' then some (c.toNat - 'a'.toNat + 10)
  else if 'A' ≤ c ∧ c ≤ 'F' then some (c.toNat - 'A'.toNat + 10)
  else none

/-- The value of hexadecimal digits. -/
def hexValue? (digits : List Char) : Option Nat :=
  digits.foldlM (fun value c ↦ (hexDigit? c).map (value * 16 + ·)) 0

/-- The character of an escape, after the backslash, and how many characters the escape has. -/
def readEscape (text : List Char) : Option (Char × Nat) :=
  match text with
  | [] => none
  | c :: rest =>
    match escapeDigits? c with
    | none => (escaped? c).map (·, 1)
    | some count => do
      let digits := rest.take count
      let value ← hexValue? digits
      if digits.length = count ∧ value.isValidChar then some (Char.ofNat value, count + 1) else none

/-- Reads at most `limit` more characters of a word of a quoted scalar. -/
def readQuotedChars (quote : Char) : Nat → List Char → Cursor → Option (List Char × Cursor)
  | 0, _, _ => none
  | limit + 1, word, cursor =>
    match cursor.rest with
    | [] => some (word, cursor)
    | c :: rest =>
      if isGap (some c) then some (word, cursor)
      else if quote = '\'' && c = '\'' && rest.head? = some '\'' then
        readQuotedChars quote limit (word ++ ['\'']) (cursor.skip 2)
      else if c = quote then some (word, cursor)
      else if quote = '"' && c = '\\' then
        if rest.head?.any isBreak then some (word, cursor)
        else do
          let (c, size) ← readEscape rest
          readQuotedChars quote limit (word ++ [c]) (cursor.skip (size + 1))
      else readQuotedChars quote limit (word ++ [c]) (cursor.skip 1)

/-- Reads a word of a quoted scalar up to a blank, a line break, its closing quote or an escaped
line break. -/
def readQuotedWord (quote : Char) (cursor : Cursor) : Option (List Char × Cursor) :=
  readQuotedChars quote (cursor.rest.length + 1) [] cursor

/-- Reads at most `limit` more words of a quoted scalar and its closing quote. -/
def readQuotedWords (quote : Char) : Nat → List Char → Cursor → Option (List Char × Cursor)
  | 0, _, _ => none
  | limit + 1, text, cursor => do
    if cursor.isAtDocumentMark then none
    let (word, cursor) ← readQuotedWord quote cursor
    let text := text ++ word
    if cursor.isAt quote then return (text, cursor.skip 1)
    let (before, cursor) :=
      if cursor.isAt '\\' then (Spacing.mk [] true none [], (cursor.skip 1).readBreak.2)
      else (Spacing.none, cursor)
    if cursor.rest.isEmpty then none
    let (spacing, cursor) ← Spacing.read none before cursor
    readQuotedWords quote limit (text ++ spacing.fold) cursor

/-- Reads a quoted scalar after its opening quote. -/
def readQuoted (quote : Char) (cursor : Cursor) : Option (List Char × Cursor) :=
  readQuotedWords quote (cursor.rest.length + 1) [] cursor

/-- What becomes of the line breaks at the end of a block scalar. -/
inductive Chomping
  | strip
  | clip
  | keep
  deriving DecidableEq, Repr

/-- The sign for chomping at the cursor, if there is one. -/
def readChomping (cursor : Cursor) : Option Chomping × Cursor :=
  if cursor.isAt '+' then (some .keep, cursor.skip 1)
  else if cursor.isAt '-' then (some .strip, cursor.skip 1)
  else (none, cursor)

/-- The digit for the indentation at the cursor, if there is one; zero is refused. -/
def readIncrement (cursor : Cursor) : Option (Option Nat × Cursor) :=
  match cursor.peek with
  | some c =>
    if c = '0' then none
    else if c.isDigit then some (some (c.toNat - '0'.toNat), cursor.skip 1)
    else some (none, cursor)
  | none => some (none, cursor)

/-- The header of a block scalar: a sign and a digit in either order. -/
def readHeader (cursor : Cursor) : Option (Chomping × Option Nat × Cursor) := do
  let (first, cursor) := readChomping cursor
  let (increment, cursor) ← readIncrement cursor
  let (second, cursor) :=
    if first.isNone && increment.isSome then readChomping cursor else (none, cursor)
  return ((first <|> second).getD .clip, increment, cursor)

/-- Skips blanks and a comment; only the end of the line may follow. -/
def skipToLineEnd (cursor : Cursor) : Option Cursor :=
  let cursor := cursor.skipWhile isBlankChar
  let cursor := if cursor.isAt '#' then cursor.skipWhile (fun c ↦ !isBreak c) else cursor
  match cursor.peek with
  | none => some cursor
  | some c => if isBreak c then some cursor.readBreak.2 else none

/-- Reads at most `limit` more empty lines of a block scalar. -/
def readEmptyLinesWithin (indent : Nat) : Nat → List Char → Nat → Cursor →
    Option (List Char × Nat × Cursor)
  | 0, _, _, _ => none
  | limit + 1, breaks, widest, cursor =>
    let spaces := (cursor.rest.takeWhile (· = ' ')).length
    let cursor := cursor.skip (if indent = 0 then spaces else min spaces (indent - cursor.column))
    let widest := max widest cursor.column
    if (indent = 0 || cursor.column < indent) && cursor.isAt '\t' then none
    else if cursor.peek.any isBreak then
      let (lineBreak, next) := cursor.readBreak
      readEmptyLinesWithin indent limit (breaks ++ [lineBreak]) widest next
    else some (breaks, widest, cursor)

/-- Reads the empty lines of a block scalar: their breaks, the greatest column that was reached, and
the cursor at the first character after the indentation. An indentation of zero is not known yet. -/
def readEmptyLines (indent : Nat) (cursor : Cursor) : Option (List Char × Nat × Cursor) :=
  readEmptyLinesWithin indent (cursor.rest.length + 1) [] 0 cursor

/-- A block scalar while it is read: the text, the break after its last line and those of the empty
lines that follow, and whether the last line begins with a blank. -/
structure BlockText where
  text : List Char
  lastBreak : List Char
  emptyLines : List Char
  beginsBlank : Bool

/-- Reads at most `limit` more lines of a block scalar with a known indentation. -/
def readBlockLines (isFolded : Bool) (indent : Nat) :
    Nat → BlockText → Cursor → Option (BlockText × Cursor)
  | 0, _, _ => none
  | limit + 1, block, cursor => do
    if cursor.column ≠ indent || cursor.rest.isEmpty then return (block, cursor)
    let blank := cursor.peek.any isBlankChar
    let folds := isFolded && block.lastBreak = ['\n'] && !block.beginsBlank && !blank
    let joint :=
      if folds then (if block.emptyLines.isEmpty then [' '] else []) else block.lastBreak
    let (line, cursor) := cursor.takeWhile fun c ↦ !isBreak c
    let text := block.text ++ joint ++ block.emptyLines ++ line
    let (lastBreak, cursor) :=
      if cursor.rest.isEmpty then ([], cursor)
      else
        let (lineBreak, next) := cursor.readBreak
        ([lineBreak], next)
    let (emptyLines, _, cursor) ← readEmptyLines indent cursor
    readBlockLines isFolded indent limit ⟨text, lastBreak, emptyLines, blank⟩ cursor

/-- Reads a block scalar after its sign, inside a collection with the given indentation. -/
def readBlock (isFolded : Bool) (parentIndent : Int) (cursor : Cursor) :
    Option (List Char × Cursor) := do
  let (chomping, increment, cursor) ← readHeader cursor
  let cursor ← skipToLineEnd cursor
  let known := increment.map fun n ↦ (max parentIndent 0).toNat + n
  let (emptyLines, widest, cursor) ← readEmptyLines (known.getD 0) cursor
  let indent := known.getD (max (max widest (parentIndent + 1).toNat) 1)
  let (block, cursor) ←
    readBlockLines isFolded indent (cursor.rest.length + 1) ⟨[], [], emptyLines, false⟩ cursor
  let ending :=
    match chomping with
    | .strip => []
    | .clip => block.lastBreak
    | .keep => block.lastBreak ++ block.emptyLines
  return (block.text ++ ending, cursor)

end PackageRisk.Yaml
