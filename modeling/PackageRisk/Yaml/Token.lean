import PackageRisk.Yaml.Tag

/-!
# Tokens of YAML texts

The signs, names and scalars of a text, with the beginnings and ends of the collections that
indentation alone makes. Most readers of the list look at its first token only.
-/

namespace PackageRisk.Yaml

/-- A token. -/
inductive Token
  | version (major minor : Nat)
  | handle (handle : List Char) (start : List UInt8)
  | documentStart
  | documentEnd
  | blockSequence
  | blockMapping
  | blockEnd
  | openBracket
  | closeBracket
  | openBrace
  | closeBrace
  | entry
  | comma
  | key
  | value
  | alias (name : List Char)
  | anchor (name : List Char)
  | tag (tag : WrittenTag)
  | scalar (style : Style) (text : List Char)
  deriving DecidableEq, Repr

end PackageRisk.Yaml
