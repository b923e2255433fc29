import PackageRisk.Json.Printer
import PackageRisk.Text.Quoted

/-!
# Why a document is refused

The first fault of a document, from left to right: a break of JSON's grammar, a limit of the
reader, or a value of a kind that its place does not take.
-/

namespace PackageRisk.Json

/-- What a message says of a value: scalars are shown, arrays and objects only named. -/
inductive Found
  | null
  | boolean (b : Bool)
  | number (n : Number)
  | string (text : String)
  | array
  | object
  deriving DecidableEq, Repr

/-- How a value is described in messages. -/
def Value.found : Value → Found
  | .null => .null
  | .boolean b => .boolean b
  | .number n => .number n
  | .string text => .string text
  | .array _ => .array
  | .object _ => .object

/-- The words for a value in a message. -/
def Found.message : Found → String
  | .null => "null"
  | .boolean b => "boolean `" ++ (if b then "true" else "false") ++ "`"
  | .number (.integer n) => "integer `" ++ String.ofList (integerText n) ++ "`"
  | .number (.float x) => "floating point `" ++ numberStyle.write x ++ "`"
  | .string text => "string " ++ Text.quote text
  | .array => "sequence"
  | .object => "map"

/-- The objection of a place to a value: it takes another kind, or another range of that kind. -/
inductive Objection
  | kind (expected : String)
  | range (expected : String)
  deriving DecidableEq, Repr

/-- The first fault of a document. -/
inductive ReadError
  | unfinishedValue
  | unfinishedObject
  | unfinishedArray
  | unfinishedString
  | noValue
  | badWord
  | noColon
  | noMemberSeparator
  | noItemSeparator
  | trailingComma
  | keyNotString
  | trailingText
  | badNumber
  | numberOutOfRange
  | badEscape
  | unfinishedSurrogatePair
  | loneSurrogate
  | controlCharacter
  | tooDeep
  | unfit (found : Found) (objection : Objection)
  | repeatedKey (key : String)
  deriving DecidableEq, Repr

/-- The text of a fault. -/
def ReadError.message : ReadError → String
  | .unfinishedValue => "EOF while parsing a value"
  | .unfinishedObject => "EOF while parsing an object"
  | .unfinishedArray => "EOF while parsing a list"
  | .unfinishedString => "EOF while parsing a string"
  | .noValue => "expected value"
  | .badWord => "expected ident"
  | .noColon => "expected `:`"
  | .noMemberSeparator => "expected `,` or `\x7d`"
  | .noItemSeparator => "expected `,` or `]`"
  | .trailingComma => "trailing comma"
  | .keyNotString => "key must be a string"
  | .trailingText => "trailing characters"
  | .badNumber => "invalid number"
  | .numberOutOfRange => "number out of range"
  | .badEscape => "invalid escape"
  | .unfinishedSurrogatePair => "unexpected end of hex escape"
  | .loneSurrogate => "lone leading surrogate in hex escape"
  | .controlCharacter => "control character (\\u0000-\\u001F) found while parsing a string"
  | .tooDeep => "recursion limit exceeded"
  | .unfit found (.kind expected) =>
    "invalid type: " ++ found.message ++ ", expected " ++ expected
  | .unfit found (.range expected) =>
    "invalid value: " ++ found.message ++ ", expected " ++ expected
  | .repeatedKey key => "duplicate field `" ++ key ++ "`"

end PackageRisk.Json
