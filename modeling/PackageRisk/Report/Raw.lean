import PackageRisk.Json.Reader
import PackageRisk.Report.Field

/-!
# Report documents

A raw report is a report as its document spells it: the members of the object, the two nested maps
of counts, and the raw reports of the dependencies. The reader of documents already insists on the
shape of these three; everything else is judged when the report is resolved.

A nested map is a set of entries, and nothing fixes the order in which they are gone through: it may
be another one for every map and in every run. A raw report lists them in one order, which is that
of their keys when it comes from a document; an `EntryOrder` puts them in any other.
-/

namespace PackageRisk

/-- A report as spelled by a document. A nested map or a list of dependencies that is missing or
null is empty; the entries of a nested map come in the order in which they are gone through. -/
structure RawReport where
  members : Json.Members
  directCounts : List (String × Option Int)
  indirectCounts : List (String × Option Int)
  dependencies : List RawReport
  deriving Repr

namespace RawReport

/-- The places of a report document. -/
inductive Place
  | report
  | reports
  | counts
  | count
  | anything
  deriving DecidableEq, Repr

/-- The key of the reports of the dependencies. -/
def dependenciesKey : String := "dependencies"

/-- The key of the nested map of a scope. -/
def countsKey (scope : Scope) : String := scope.name ++ "VulnerabilityCounts"

/-- The greatest integer that counts are read as. -/
def maxInteger : Int := 2 ^ 63 - 1

/-- What a place objects to in a value. -/
def Place.objection : Place → Json.Found → Option Json.Objection
  | .anything, _ => none
  | .report, .object => none
  | .report, _ => some (.kind "struct WirePackageReport")
  | _, .null => none
  | .reports, .array => none
  | .reports, _ => some (.kind "a sequence")
  | .counts, .object => none
  | .counts, _ => some (.kind "a map")
  | .count, .number (.integer n) => if n ≤ maxInteger then none else some (.range "i64")
  | .count, _ => some (.kind "i64")

/-- The place of the member of a report. -/
def Place.ofKey (key : String) : Place :=
  if key = dependenciesKey then .reports
  else if key = countsKey .direct ∨ key = countsKey .indirect then .counts
  else .anything

/-- The shape of report documents. -/
def schema : Json.Schema Place where
  objection := Place.objection
  item := fun place ↦ if place = .reports then .report else .anything
  member := fun place key ↦
    match place with
    | .report => Place.ofKey key
    | .counts => .count
    | _ => .anything
  isUnique := fun place key ↦ place = .report && Place.ofKey key ≠ .anything

/-- The entries of a nested map, in the order of their keys; of equal keys the last counts. -/
def entriesOf : Option Json.Value → List (String × Option Int)
  | some (.object members) =>
    (Json.sortByKey members).map fun (key, value) ↦
      (key, match value with | .number (.integer n) => some n | _ => none)
  | _ => []

mutual

/-- The raw report of a value that has the shape of a report document. -/
def ofValue : Json.Value → RawReport
  | .object members =>
    { members
      directCounts := entriesOf (Json.lookup members (countsKey .direct))
      indirectCounts := entriesOf (Json.lookup members (countsKey .indirect))
      dependencies := ofMembers members }
  | _ => ⟨[], [], [], []⟩

/-- The raw reports under the key of the dependencies. -/
def ofMembers : List (String × Json.Value) → List RawReport
  | [] => []
  | (key, .array items) :: rest =>
    if key = dependenciesKey then ofItems items else ofMembers rest
  | _ :: rest => ofMembers rest

/-- The raw reports of the items of an array. -/
def ofItems : List Json.Value → List RawReport
  | [] => []
  | item :: rest => ofValue item :: ofItems rest

end

/-- The raw report of a document. -/
def read (document : String) : Except Json.ReadError RawReport :=
  (Json.readDocument schema .report document).map ofValue

/-- The entries of the nested map of a scope. -/
def nested (raw : RawReport) : Scope → List (String × Option Int)
  | .direct => raw.directCounts
  | .indirect => raw.indirectCounts

mutual

/-- Two trees of one shape whose nodes at the same places are related. -/
inductive Nodewise (related : RawReport → RawReport → Prop) : RawReport → RawReport → Prop
  | node {a b : RawReport} (self : related a b)
      (below : NodewiseAll related a.dependencies b.dependencies) : Nodewise related a b

/-- Equally many trees whose nodes at the same places are related. -/
inductive NodewiseAll (related : RawReport → RawReport → Prop) :
    List RawReport → List RawReport → Prop
  | nil : NodewiseAll related [] []
  | cons {a b : RawReport} {as bs : List RawReport} (first : Nodewise related a b)
      (rest : NodewiseAll related as bs) : NodewiseAll related (a :: as) (b :: bs)

end

/-- Two nodes hold the same, though the entries of their nested maps may come in other orders. -/
structure SameEntries (a b : RawReport) : Prop where
  members : a.members = b.members
  nested (scope : Scope) : (a.nested scope).Perm (b.nested scope)

/-- Two raw reports differ at most in the orders of the entries of nested maps. -/
def Reorders : RawReport → RawReport → Prop := Nodewise SameEntries

mutual

/-- A tree is related to itself if all nodes are. -/
theorem Nodewise.refl {related : RawReport → RawReport → Prop} (h : ∀ raw, related raw raw) :
    ∀ raw, Nodewise related raw raw
  | ⟨_, _, _, dependencies⟩ => .node (h _) (NodewiseAll.refl h dependencies)

/-- Trees are related to themselves if all nodes are. -/
theorem NodewiseAll.refl {related : RawReport → RawReport → Prop} (h : ∀ raw, related raw raw) :
    ∀ raws, NodewiseAll related raws raws
  | [] => .nil
  | raw :: rest => .cons (Nodewise.refl h raw) (NodewiseAll.refl h rest)

end

/-- A choice of the orders in which the entries of nested maps are gone through. -/
structure EntryOrder where
  arrange : RawReport → RawReport
  reorders (raw : RawReport) : Reorders raw (arrange raw)

/-- The entries of a document in the order of their keys. -/
def EntryOrder.byKey : EntryOrder where
  arrange := id
  reorders := Nodewise.refl fun _ ↦ ⟨rfl, fun _ ↦ .refl _⟩

/-- The value of a field and the key it was found under: the first spelling with a value other than
null. -/
def find? (raw : RawReport) (field : Field) : Option (String × Json.Value) :=
  field.spellings.findSome? fun key ↦
    match Json.lookup raw.members key with
    | none => none
    | some value => if value.isNull then none else some (key, value)

end RawReport

end PackageRisk
