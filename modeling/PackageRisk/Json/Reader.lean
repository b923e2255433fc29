import PackageRisk.Json.NumberReader
import PackageRisk.Json.StringReader

/-!
# Reading JSON documents

A reader goes through a text from left to right and stops at the first fault. A schema adds to the
grammar which kinds of values the places of a document take and which keys may not be repeated; it
objects as soon as the kind is known, so an unfit array or object is refused before its content is
read. Arrays and objects nest at most 127 deep.
-/

namespace PackageRisk.Json

/-- What a document has to hold beyond the grammar, where `P` names the places of a document. -/
structure Schema (P : Type) where
  /-- The objection of a place to a value, if any. -/
  objection : P → Found → Option Objection
  /-- The place of the items of an array. -/
  item : P → P
  /-- The place of the member with a key. -/
  member : P → String → P
  /-- The keys that an object at a place has at most once. -/
  isUnique : P → String → Bool

/-- Every value everywhere. -/
def Schema.unrestricted : Schema Unit where
  objection := fun _ _ ↦ none
  item := fun _ ↦ ()
  member := fun _ _ ↦ ()
  isUnique := fun _ _ ↦ false

/-- Refuses a value that its place does not take. -/
def Schema.check {P : Type} (schema : Schema P) (place : P) (found : Found) :
    Except ReadError Unit :=
  match schema.objection place found with
  | none => .ok ()
  | some objection => .error (.unfit found objection)

/-- The characters between the tokens of a document. -/
def isSpace (c : Char) : Bool := c = ' ' || c = '\t' || c = '\n' || c = '\r'

/-- The text after the spaces at its head. -/
def skipSpace (text : List Char) : List Char := text.dropWhile isSpace

/-- Reads the remaining letters of a word. -/
def readWord : List Char → List Char → Except ReadError (List Char)
  | [], text => .ok text
  | _ :: _, [] => .error .unfinishedValue
  | c :: word, d :: text => if c = d then readWord word text else .error .badWord

/-- Reads items up to the end of an array; `limit` bounds how many there are. -/
def readItems (readItem : List Char → Except ReadError (Value × List Char)) :
    Nat → List Char → Except ReadError (List Value × List Char)
  | 0, _ => .error .unfinishedArray
  | limit + 1, text => do
    let (item, rest) ← readItem text
    match skipSpace rest with
    | [] => .error .unfinishedArray
    | ']' :: rest => .ok ([item], rest)
    | ',' :: rest =>
      match skipSpace rest with
      | [] => .error .unfinishedValue
      | ']' :: _ => .error .trailingComma
      | next => do
        let (items, rest) ← readItems readItem limit next
        .ok (item :: items, rest)
    | _ => .error .noItemSeparator

/-- Reads an array after its opening bracket. -/
def readArray (readItem : List Char → Except ReadError (Value × List Char)) (limit : Nat)
    (text : List Char) : Except ReadError (List Value × List Char) :=
  match skipSpace text with
  | [] => .error .unfinishedArray
  | ']' :: rest => .ok ([], rest)
  | start => readItems readItem limit start

/-- Reads members up to the end of an object, from the quote of a key on, after the keys in `seen`;
`limit` bounds how many there are. -/
def readMembers (isUnique : String → Bool)
    (readMember : String → List Char → Except ReadError (Value × List Char)) :
    Nat → List String → List Char → Except ReadError (Members × List Char)
  | limit + 1, seen, '"' :: text => do
    let (key, rest) ← readString text
    if isUnique key && seen.contains key then .error (.repeatedKey key)
    else
      match skipSpace rest with
      | [] => .error .unfinishedObject
      | ':' :: rest => do
        let (value, rest) ← readMember key rest
        match skipSpace rest with
        | [] => .error .unfinishedObject
        | '}' :: rest => .ok ([(key, value)], rest)
        | ',' :: rest =>
          match skipSpace rest with
          | [] => .error .unfinishedValue
          | '}' :: _ => .error .trailingComma
          | next => do
            let (members, rest) ← readMembers isUnique readMember limit (key :: seen) next
            .ok ((key, value) :: members, rest)
        | _ => .error .noMemberSeparator
      | _ => .error .noColon
  | _, _, _ => .error .keyNotString

/-- Reads an object after its opening brace. -/
def readObject (isUnique : String → Bool)
    (readMember : String → List Char → Except ReadError (Value × List Char)) (limit : Nat)
    (text : List Char) : Except ReadError (Members × List Char) :=
  match skipSpace text with
  | [] => .error .unfinishedObject
  | '}' :: rest => .ok ([], rest)
  | start => readMembers isUnique readMember limit [] start

/-- Reads the value at the head of a text, at most `depth` arrays and objects deep. -/
def readValue {P : Type} (schema : Schema P) (limit : Nat) :
    Nat → P → List Char → Except ReadError (Value × List Char)
  | depth, place, text =>
    match skipSpace text with
    | [] => .error .unfinishedValue
    | '[' :: rest => do
      schema.check place .array
      match depth with
      | 0 => .error .tooDeep
      | depth + 1 => do
        let (items, rest) ← readArray (readValue schema limit depth (schema.item place)) limit rest
        .ok (.array items, rest)
    | '{' :: rest => do
      schema.check place .object
      match depth with
      | 0 => .error .tooDeep
      | depth + 1 => do
        let (members, rest) ← readObject (schema.isUnique place)
          (fun key ↦ readValue schema limit depth (schema.member place key)) limit rest
        .ok (.object members, rest)
    | '"' :: rest => do
      let (text, rest) ← readString rest
      schema.check place (.string text)
      .ok (.string text, rest)
    | 'n' :: rest => do
      let rest ← readWord "ull".toList rest
      schema.check place .null
      .ok (.null, rest)
    | 't' :: rest => do
      let rest ← readWord "rue".toList rest
      schema.check place (.boolean true)
      .ok (.boolean true, rest)
    | 'f' :: rest => do
      let rest ← readWord "alse".toList rest
      schema.check place (.boolean false)
      .ok (.boolean false, rest)
    | '-' :: rest => do
      let (n, rest) ← readNumber true rest
      schema.check place (.number n)
      .ok (.number n, rest)
    | c :: rest =>
      if c.isDigit then do
        let (n, rest) ← readNumber false (c :: rest)
        schema.check place (.number n)
        .ok (.number n, rest)
      else .error .noValue

/-- How deep arrays and objects may nest. -/
def maxDepth : Nat := 127

/-- Reads a whole document: one value at a place, with nothing but spaces around it. -/
def readDocument {P : Type} (schema : Schema P) (place : P) (document : String) :
    Except ReadError Value := do
  let text := document.toList
  let (value, rest) ← readValue schema (text.length + 1) maxDepth place text
  match skipSpace rest with
  | [] => .ok value
  | _ => .error .trailingText

/-- Reads a document of any content. -/
def read (document : String) : Except ReadError Value :=
  readDocument .unrestricted () document

end PackageRisk.Json
