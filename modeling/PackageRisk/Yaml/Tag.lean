import PackageRisk.Yaml.Scalar

/-!
# Tags of YAML values

A tag is written as a handle and a suffix. The handle stands for the beginning of a name, and the
name says what kind of value follows. Escapes in a suffix may spell any bytes.
-/

namespace PackageRisk.Yaml

/-- A tag as it is written. The handle is empty where the suffix is the whole name. -/
structure WrittenTag where
  handle : List Char
  suffix : List UInt8
  deriving DecidableEq, Repr

/-- What a tag says about its value. -/
inductive Tag
  | null
  | boolean
  | integer
  | float
  /-- The single exclamation mark, which names no kind. -/
  | unspecific
  /-- A name that only its application knows. -/
  | application
  /-- A name of an application that is no text. -/
  | garbled
  | other
  deriving DecidableEq, Repr

/-- The bytes of characters. -/
def bytesOf (text : List Char) : List UInt8 := (String.ofList text).toUTF8.toList

/-- What the standard handle for YAML's own kinds stands for. -/
def standardStart : List UInt8 := bytesOf "tag:yaml.org,2002:".toList

/-- The tag with a name. -/
def Tag.ofName (name : List UInt8) : Tag :=
  if name = standardStart ++ bytesOf "null".toList then .null
  else if name = standardStart ++ bytesOf "bool".toList then .boolean
  else if name = standardStart ++ bytesOf "int".toList then .integer
  else if name = standardStart ++ bytesOf "float".toList then .float
  else if name = bytesOf ['!'] then .unspecific
  else if name.head? = some '!'.toUInt8 then
    if (String.fromUTF8? (ByteArray.mk name.tail.toArray)).isSome then .application else .garbled
  else .other

/-- What the handles of tags stand for. -/
abbrev Handles := List (List Char × List UInt8)

/-- The handles that stand for something in every document. -/
def Handles.standard : Handles := [(['!'], bytesOf ['!']), (['!', '!'], standardStart)]

/-- The tag that is meant, if its handle stands for something. -/
def WrittenTag.resolve (handles : Handles) (written : WrittenTag) : Option Tag :=
  if written.handle.isEmpty then some (.ofName written.suffix)
  else (handles.lookup written.handle).map fun start ↦ .ofName (start ++ written.suffix)

/-- A character of a tag's name; brackets and commas only where nothing else can be meant. -/
def isUriChar (brackets : Bool) (c : Char) : Bool :=
  isNameChar c || ";/?:@&=+$.!~*'()".toList.contains c ||
    (brackets && (c = ',' || c = '[' || c = ']'))

/-- How many bytes follow a byte that begins a character. -/
def followers? (byte : UInt8) : Option Nat :=
  if byte < 0x80 then some 0
  else if byte &&& 0xe0 = 0xc0 then some 1
  else if byte &&& 0xf0 = 0xe0 then some 2
  else if byte &&& 0xf8 = 0xf0 then some 3
  else none

/-- How many bytes are still to follow after a byte, when `missing` were. -/
def missingAfter? (missing : Nat) (byte : UInt8) : Option Nat :=
  if missing = 0 then followers? byte
  else if byte &&& 0xc0 = 0x80 then some (missing - 1)
  else none

/-- Reads the bytes of a tag's name as far as it goes. Escaped bytes have to make up characters;
`missing` of them are still to follow. -/
def readUri (brackets : Bool) : Nat → List Char → Option (List UInt8 × List Char)
  | missing, '%' :: high :: low :: rest => do
    let byte := (← hexValue? [high, low]).toUInt8
    let (bytes, rest) ← readUri brackets (← missingAfter? missing byte) rest
    return (byte :: bytes, rest)
  | missing, c :: rest =>
    if c = '%' || missing ≠ 0 then none
    else if isUriChar brackets c then do
      let (bytes, rest) ← readUri brackets 0 rest
      return (c.toUInt8 :: bytes, rest)
    else some ([], c :: rest)
  | missing, [] => if missing ≠ 0 then none else some ([], [])

/-- The cursor where a later part of its text begins, on the same line. -/
def Cursor.skipTo (cursor : Cursor) (rest : List Char) : Cursor :=
  cursor.skip (cursor.rest.length - rest.length)

/-- Reads the handle of a tag: names between exclamation marks, of which the second may lack. -/
def readHandle (cursor : Cursor) : Option (List Char × Cursor) :=
  if cursor.isAt '!' then
    let name := cursor.rest.tail.takeWhile isNameChar
    let next := cursor.skip (name.length + 1)
    if next.isAt '!' then some ('!' :: name ++ ['!'], next.skip 1) else some ('!' :: name, next)
  else none

/-- A handle with two exclamation marks. -/
def isClosedHandle (handle : List Char) : Bool :=
  2 ≤ handle.length && handle.getLast? = some '!'

/-- Reads a tag with its whole name between angle brackets. -/
def readVerbatimTag (cursor : Cursor) : Option (WrittenTag × Cursor) := do
  let (name, rest) ← readUri true 0 (cursor.rest.drop 2)
  if name.isEmpty || rest.head? ≠ some '>' then none
  return (⟨[], name⟩, (cursor.skipTo rest).skip 1)

/-- Reads a tag with a handle. An open handle begins the suffix, after its exclamation mark. -/
def readShortTag (cursor : Cursor) : Option (WrittenTag × Cursor) := do
  let (handle, next) ← readHandle cursor
  let (name, rest) ← readUri false 0 next.rest
  let next := next.skipTo rest
  if isClosedHandle handle then
    if name.isEmpty then none
    return (⟨handle, name⟩, next)
  let suffix := bytesOf handle.tail ++ name
  return (if suffix.isEmpty then ⟨[], bytesOf ['!']⟩ else ⟨['!'], suffix⟩, next)

/-- Reads a tag. A gap has to follow, or a comma inside brackets and braces. -/
def readTag (inFlow : Bool) (cursor : Cursor) : Option (WrittenTag × Cursor) := do
  let (tag, next) ←
    if cursor.peekAt 1 = some '<' then readVerbatimTag cursor else readShortTag cursor
  if isGap next.peek || (inFlow && next.isAt ',') then some (tag, next) else none

end PackageRisk.Yaml
