import PackageRisk.Yaml.Plain
import PackageRisk.Yaml.Value

/-!
# The content of YAML values

What a value means: tags and the spelling of plain scalars decide its kind. A mapping gives each key
one value, and keys count as equal by what they mean.
-/

namespace PackageRisk.Yaml

/-- What a value means. -/
inductive Content
  | null
  | boolean (b : Bool)
  | integer (n : Int)
  | float (x : Binary64)
  | text (text : List Char)
  | sequence (items : List Content)
  | mapping (entries : List (Content × Content))

/-- Equal as numbers: all zeros are, and all that are no numbers. -/
def sameFloat (x y : Binary64) : Bool :=
  x = y || (x.code = 0 && y.code = 0) || (x.isNaN && y.isNaN)

mutual

/-- Equal by what they mean; the order of entries means nothing. -/
def Content.same : Content → Content → Bool
  | .null, .null => true
  | .boolean a, .boolean b => a == b
  | .integer a, .integer b => a = b
  | .float a, .float b => sameFloat a b
  | .text a, .text b => a = b
  | .sequence as, .sequence bs => sameItems as bs
  | .mapping as, .mapping bs => as.length = bs.length && sameEntries as bs
  | _, _ => false

/-- Equal item by item. -/
def sameItems : List Content → List Content → Bool
  | [], [] => true
  | a :: as, b :: bs => a.same b && sameItems as bs
  | _, _ => false

/-- Every entry of the first has an equal one in the second. -/
def sameEntries : List (Content × Content) → List (Content × Content) → Bool
  | [], _ => true
  | (key, value) :: rest, others =>
    others.any (fun other ↦ key.same other.1 && value.same other.2) && sameEntries rest others

end

/-- What an integer means: one of more than 64 bits has no meaning. -/
def integerContent? (n : Int) : Option Content := if isWord n then some (.integer n) else none

/-- What a plain scalar without tag means. -/
def plainContent? (text : List Char) : Option Content :=
  if text.isEmpty || isNullWord text then some .null
  else
    match boolean? text, integer? text, float? text with
    | some b, _, _ => some (.boolean b)
    | none, some n, _ => integerContent? n
    | none, none, some x => some (.float x)
    | none, none, none => some (.text text)

/-- What a scalar means, if it is as its tag says. The tags of applications are not known here. -/
def scalarContent? (tag : Option Tag) (style : Style) (text : List Char) : Option Content :=
  let untagged := if style = .plain then plainContent? text else some (.text text)
  match tag with
  | none | some .garbled => untagged
  | some .null => if isNullWord text then some .null else none
  | some .boolean => (boolean? text).map .boolean
  | some .integer => (integer? text).bind integerContent?
  | some .float => (float? text).map .float
  | some .unspecific | some .application => none
  | some .other => some (.text text)

/-- A tag that a collection may have. -/
def isCollectionTag : Option Tag → Bool
  | some .unspecific | some .application => false
  | _ => true

/-- No two of the keys are equal. -/
def haveDistinctKeys : List (Content × Content) → Bool
  | [] => true
  | entry :: rest => rest.all (fun other ↦ !other.1.same entry.1) && haveDistinctKeys rest

mutual

/-- What a value means, if all in it means something. -/
def Value.content? : Value → Option Content
  | .scalar tag style text => scalarContent? tag style text
  | .sequence tag items =>
    if isCollectionTag tag then (itemsContent? items).map .sequence else none
  | .mapping tag entries => do
    if !isCollectionTag tag then none
    let entries ← entriesContent? entries
    if haveDistinctKeys entries then some (.mapping entries) else none

/-- What all items mean. -/
def itemsContent? : List Value → Option (List Content)
  | [] => some []
  | item :: rest => do
    let item ← item.content?
    return item :: (← itemsContent? rest)

/-- What all keys and values mean. -/
def entriesContent? : List (Value × Value) → Option (List (Content × Content))
  | [] => some []
  | (key, value) :: rest => do
    let key ← key.content?
    let value ← value.content?
    return (key, value) :: (← entriesContent? rest)

end

end PackageRisk.Yaml
