import PackageRisk.Number.Binary64

/-!
# JSON values

The values of JSON documents. An object keeps its members in the order of the text, repeated keys
included; `lookup` finds the value of a key, which is that of its last binding.
-/

namespace PackageRisk.Json

/-- A number of a document. -/
inductive Number
  | integer (n : Int)
  | float (x : Binary64)
  deriving DecidableEq, Repr

/-- A value of a document. -/
inductive Value
  | null
  | boolean (b : Bool)
  | number (n : Number)
  | string (text : String)
  | array (items : List Value)
  | object (members : List (String × Value))
  deriving Repr

/-- The members of an object, in the order of the text. -/
abbrev Members := List (String × Value)

/-- The integer as a JSON number. -/
def Value.integer (n : Int) : Value := .number (.integer n)

/-- The value `null`. -/
def Value.isNull : Value → Bool
  | .null => true
  | _ => false

/-- The value that a list of bindings gives a key: that of the last one. -/
def lookup {α : Type} (bindings : List (String × α)) (key : String) : Option α :=
  (bindings.reverse.find? fun binding ↦ binding.1 == key).map (·.2)

/-- Adds a binding to a list with increasing keys, in the place of one with the same key. -/
def insertByKey {α : Type} (key : String) (value : α) :
    List (String × α) → List (String × α)
  | [] => [(key, value)]
  | binding :: rest =>
    if key < binding.1 then (key, value) :: binding :: rest
    else if key = binding.1 then (key, value) :: rest
    else binding :: insertByKey key value rest

/-- The bindings in increasing order of their keys; of those with one key, the last. -/
def sortByKey {α : Type} (bindings : List (String × α)) : List (String × α) :=
  bindings.foldl (fun sorted binding ↦ insertByKey binding.1 binding.2 sorted) []

mutual

/-- The value with the members of every object in increasing order of their keys, one per key. -/
def Value.sorted : Value → Value
  | .array items => .array (sortedItems items)
  | .object members => .object (sortByKey (sortedMembers members))
  | value => value

/-- Every item sorted. -/
def sortedItems : List Value → List Value
  | [] => []
  | item :: rest => item.sorted :: sortedItems rest

/-- The value of every member sorted. -/
def sortedMembers : List (String × Value) → List (String × Value)
  | [] => []
  | (key, value) :: rest => (key, value.sorted) :: sortedMembers rest

end

end PackageRisk.Json
