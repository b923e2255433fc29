import PackageRisk.Proofs.Json.Binding
import PackageRisk.Proofs.Json.NumberRange
import PackageRisk.Proofs.Report.Tree

/-!
# The objects of report documents

A document is a tree of objects, and its raw report has the same shape: the node at the end of a
path is read from the object at the end of the same path. That the key of the dependencies is not
repeated makes the object tell which array this is.
-/

namespace PackageRisk

open Fallible

namespace RawReport

/-- The objects of the dependencies, from the members of the object of a report. -/
def dependencyObjects (members : Json.Members) : List Json.Members :=
  match Json.lookup members dependenciesKey with
  | some (.array items) => items.map (·.members)
  | _ => []

/-- The members of the tree of an object are those of the object. -/
@[simp] theorem members_ofValue (members : Json.Members) :
    (ofValue (.object members)).members = members := by
  rw [ofValue]

/-- The nested map of a scope is bound by its key. -/
@[simp] theorem nested_ofValue (members : Json.Members) (scope : Scope) :
    (ofValue (.object members)).nested scope =
      entriesOf (Json.lookup members (countsKey scope)) := by
  rw [ofValue]
  cases scope <;> rfl

/-- The dependencies stand under their key. -/
theorem ofKey_dependenciesKey : Place.ofKey dependenciesKey = .reports := by decide

/-- The nested maps stand under their keys. -/
theorem ofKey_countsKey (scope : Scope) : Place.ofKey (countsKey scope) = .counts := by
  cases scope <;> decide

/-- Any value is admitted where the key has no meaning. -/
theorem admits_anything (value : Json.Value) : schema.Admits .anything value :=
  Json.admits_of_free (fun _ ↦ rfl) rfl (fun _ ↦ rfl) (fun _ ↦ rfl) value

/-- An object admitted as a report repeats none of the keys that have a place of their own. -/
theorem nodup_of_admits {members : Json.Members}
    (h : schema.Admits .report (.object members)) {key : String}
    (hkey : Place.ofKey key ≠ .anything) {before after : Json.Members} {value : Json.Value}
    (hmembers : members = before ++ (key, value) :: after) :
    Json.lookup after key = none := by
  obtain ⟨-, -, -, hnodup⟩ := h
  have hunique : schema.isUnique .report key = true := by
    simp only [schema, ne_eq, decide_true, Bool.true_and, decide_eq_true_eq]
    exact hkey
  rw [Json.lookup_eq_none_iff]
  intro binding hbinding heq
  subst hmembers heq
  simp only [Json.Value.members, List.map_append, List.map_cons, List.filter_append] at hnodup
  rw [List.filter_cons_of_pos hunique] at hnodup
  refine (List.nodup_cons.mp (List.nodup_append.mp hnodup).2.1).1 ?_
  exact List.mem_filter.mpr ⟨List.mem_map.mpr ⟨binding, hbinding, rfl⟩, hunique⟩

private theorem ofItems_eq (items : List Json.Value) : ofItems items = items.map ofValue := by
  induction items with
  | nil => rw [ofItems, List.map_nil]
  | cons item rest ih => rw [ofItems, ih, List.map_cons]

/-- The raw reports of the dependencies are those of the objects that the key has as its value. -/
theorem ofMembers_eq {members : Json.Members} (h : schema.Admits .report (.object members)) :
    ofMembers members =
      match Json.lookup members dependenciesKey with
      | some (.array items) => items.map ofValue
      | _ => [] := by
  have general : ∀ before after, members = before ++ after → ofMembers after =
      match Json.lookup after dependenciesKey with
      | some (.array items) => items.map ofValue
      | _ => [] := by
    intro before after
    induction after generalizing before with
    | nil => intro _; rw [ofMembers]; rfl
    | cons member after ih =>
      intro hmembers
      obtain ⟨key, value⟩ := member
      have hrest := ih (before ++ [(key, value)]) (by simpa using hmembers)
      rw [Json.lookup_cons]
      by_cases hkey : key = dependenciesKey
      · subst hkey
        have hafter := nodup_of_admits h (by simp [ofKey_dependenciesKey]) hmembers
        rw [hafter] at hrest ⊢
        cases value <;> simp [ofMembers, hrest, ofItems_eq]
      · have hskip : ofMembers ((key, value) :: after) = ofMembers after := by
          cases value <;> simp [ofMembers, hkey]
        rw [hskip, hrest]
        simp [hkey]
  exact general [] members rfl

/-- The dependencies of an object are the items of the array under their key. -/
theorem dependencies_ofValue {members : Json.Members}
    (h : schema.Admits .report (.object members)) :
    (ofValue (.object members)).dependencies =
      match Json.lookup members dependenciesKey with
      | some (.array items) => items.map ofValue
      | _ => [] := by
  rw [← ofMembers_eq h, ofValue]

/-- An entry of a nested map is an integer that the object of the map gives its key. -/
theorem mem_entriesOf {value? : Option Json.Value} {name : String} {n : Int}
    (h : (name, some n) ∈ entriesOf value?) :
    ∃ entries, value? = some (.object entries) ∧
      Json.lookup entries name = some (.integer n) := by
  unfold entriesOf at h
  split at h
  · rename_i entries
    obtain ⟨⟨key, value⟩, hmem, heq⟩ := List.mem_map.mp h
    refine ⟨entries, rfl, ?_⟩
    dsimp only at heq
    split at heq
    · cases heq
      exact Json.mem_sortByKey.mp hmem
    · cases heq
  · cases h

/-- The integers of the nested maps of a tree are not too large. -/
def InRange (raw : RawReport) : Prop :=
  ∀ node ∈ raw.nodes, ∀ scope, ∀ entry ∈ node.nested scope, ∀ n ∈ entry.2, n ≤ maxInteger

/-- A raw report is read, up to the orders of its nested maps, from an object that its place takes
and whose numbers are in range. -/
structure ReadFrom (members : Json.Members) (raw : RawReport) : Prop where
  reorders : Reorders (ofValue (.object members)) raw
  admits : schema.Admits .report (.object members)
  numbers : (Json.Value.object members).Numbers Json.Number.InRange

namespace ReadFrom

variable {members : Json.Members} {raw : RawReport}

/-- A tree read from members has them. -/
theorem members_eq (h : ReadFrom members raw) : raw.members = members := by
  cases h.reorders with
  | node self below => rw [← self.members, members_ofValue]

/-- A tree read from members has the entries of the nested maps that they bind. -/
theorem nested_perm (h : ReadFrom members raw) (scope : Scope) :
    (raw.nested scope).Perm (entriesOf (Json.lookup members (countsKey scope))) := by
  cases h.reorders with
  | node self below =>
    rw [← nested_ofValue]
    exact (self.nested scope).symm

/-- The dependencies are read from their objects. -/
theorem dependencies (h : ReadFrom members raw) :
    List.Forall₂ ReadFrom (dependencyObjects members) raw.dependencies := by
  cases h.reorders with
  | node _ below =>
    have hbelow := nodewiseAll_iff.mp below
    rw [dependencies_ofValue h.admits] at hbelow
    unfold dependencyObjects
    split
    · rename_i items hlookup
      have hmem := Json.mem_of_lookup hlookup
      obtain ⟨-, -, hadmits, -⟩ := h.admits
      obtain ⟨-, -, hnumbers⟩ := h.numbers
      have hreports := (Json.admits_array_iff.mp (hadmits _ hmem)).2
      obtain ⟨-, hitems, -⟩ := hnumbers _ hmem
      rw [hlookup, List.forall₂_map_left_iff] at hbelow
      rw [List.forall₂_map_left_iff]
      refine ((List.forall₂_and_left items _).mpr ⟨fun item hitem ↦ hitem, hbelow⟩).imp ?_
      rintro item child ⟨hitem, hchild⟩
      have hitemAdmits : schema.Admits .report item := hreports item hitem
      obtain ⟨hobjection, -, -, -⟩ := hitemAdmits
      cases item <;>
        simp only [Json.Value.found, schema, Place.objection, reduceCtorEq] at hobjection
      exact ⟨hchild, hreports _ hitem, hitems _ hitem⟩
    · rename_i hnone
      split at hbelow
      · exact absurd ‹_› (hnone _)
      · rw [List.forall₂_nil_left_iff] at hbelow ⊢
        exact hbelow

/-- The node at the end of a path is read from the object at the end of it. -/
theorem at? (path : List Nat) (h : ReadFrom members raw) {node : RawReport}
    (hnode : raw.at? path = some node) :
    ∃ own, descend dependencyObjects path members = some own ∧ ReadFrom own node := by
  induction path generalizing members raw with
  | nil =>
    cases hnode
    exact ⟨members, rfl, h⟩
  | cons place path ih =>
    rw [at?_cons] at hnode
    obtain ⟨child, hchild, hnode⟩ := Option.bind_eq_some_iff.mp hnode
    obtain ⟨hplace, rfl⟩ := List.getElem?_eq_some_iff.mp hchild
    have hplace' : place < (dependencyObjects members).length :=
      h.dependencies.length_eq ▸ hplace
    obtain ⟨own, hown, hread⟩ := ih (h.dependencies.get hplace' hplace) hnode
    refine ⟨own, ?_, hread⟩
    rw [descend, List.getElem?_eq_getElem hplace']
    exact hown

/-- The integers of a nested map that is read are not too large. -/
theorem le_maxInteger (h : ReadFrom members raw) {scope : Scope} {name : String} {n : Int}
    (hentry : (name, some n) ∈ raw.nested scope) : n ≤ maxInteger := by
  obtain ⟨entries, hmap, hvalue⟩ := mem_entriesOf ((h.nested_perm scope).mem_iff.mp hentry)
  obtain ⟨-, -, hadmits, -⟩ := h.admits
  have hcounts : schema.Admits .counts (.object entries) :=
    ofKey_countsKey scope ▸ hadmits _ (Json.mem_of_lookup hmap)
  have hcount : schema.Admits .count (.integer n) :=
    (Json.admits_object_iff.mp hcounts).2.1 _ (Json.mem_of_lookup hvalue)
  obtain ⟨hobjection, -, -, -⟩ := hcount
  by_cases hle : n ≤ maxInteger
  · exact hle
  · simp [schema, Json.Value.integer, Json.Value.found, Place.objection, hle] at hobjection

/-- The integers of a tree that is read are not too large. -/
theorem inRange (h : ReadFrom members raw) : raw.InRange := by
  rintro node hnode scope ⟨name, value⟩ hentry n rfl
  obtain ⟨path, hpath⟩ := raw.exists_at?_of_mem_nodes node hnode
  obtain ⟨own, -, hread⟩ := h.at? path hpath
  exact hread.le_maxInteger hentry

end ReadFrom

/-- A document that is read has an object that reports take, and its raw report is that of this
object. -/
theorem read_eq_ok_iff {document : String} {raw : RawReport} :
    read document = .ok raw ↔
      ∃ members, Json.read document = .ok (.object members) ∧
        schema.Admits .report (.object members) ∧ ofValue (.object members) = raw := by
  simp only [read, map_eq_ok_iff, Json.readDocument_iff]
  constructor
  · rintro ⟨value, ⟨hread, hadmits⟩, hraw⟩
    obtain ⟨hobjection, -, -, -⟩ := id hadmits
    cases value <;>
      simp only [Json.Value.found, schema, Place.objection, reduceCtorEq] at hobjection
    exact ⟨_, hread, hadmits, hraw⟩
  · rintro ⟨members, hread, hadmits, hraw⟩
    exact ⟨_, ⟨hread, hadmits⟩, hraw⟩

/-- Whatever the order of its nested maps, the raw report of a document is read from its object. -/
theorem exists_readFrom {document : String} {raw other : RawReport}
    (hread : read document = .ok raw) (h : Reorders raw other) :
    ∃ members, Json.read document = .ok (.object members) ∧ ReadFrom members other := by
  obtain ⟨members, hdocument, hadmits, rfl⟩ := read_eq_ok_iff.mp hread
  exact ⟨members, hdocument, h, hadmits, Json.numbers_of_readDocument hdocument⟩

end RawReport

end PackageRisk
