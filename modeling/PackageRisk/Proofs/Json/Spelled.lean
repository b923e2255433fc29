import PackageRisk.Proofs.Json.RoundTrip

/-!
# Values as JSON spells them

JSON has neither infinities nor codes without a number, and null is printed for them. So a value has
the text of the value with null in their place, and this is what the reader makes of the text, up to
the roundings of floats.
-/

namespace PackageRisk.Json

/-- The number as JSON spells it. -/
def Number.spelled : Number → Value
  | .integer n => .integer n
  | .float x => if x.isFinite then .number (.float x) else .null

mutual

/-- The value with null in place of all numbers that are not finite. -/
def Value.spelled : Value → Value
  | .number n => n.spelled
  | .array items => .array (spelledItems items)
  | .object members => .object (spelledMembers members)
  | value => value

/-- Every item as it is spelled. -/
def spelledItems : List Value → List Value
  | [] => []
  | item :: rest => item.spelled :: spelledItems rest

/-- The value of every member as it is spelled. -/
def spelledMembers : Members → Members
  | [] => []
  | (key, value) :: rest => (key, value.spelled) :: spelledMembers rest

end

private theorem spelledItems_eq (items : List Value) :
    spelledItems items = items.map Value.spelled := by
  induction items with
  | nil => rfl
  | cons item items ih => rw [spelledItems, ih, List.map_cons]

private theorem spelledMembers_eq (members : Members) :
    spelledMembers members = members.map fun member ↦ (member.1, member.2.spelled) := by
  induction members with
  | nil => rfl
  | cons member members ih => rw [spelledMembers, ih, List.map_cons]

/-- Null is printed for what is not finite. -/
theorem write_of_not_finite {x : Binary64} (h : x.isFinite = false) :
    numberStyle.write x = "null" := by
  unfold Decimal.Style.write
  rw [h]
  split
  · rfl
  · cases x.negative <;> rfl

/-! ### The text -/

private theorem indented_number_spelled (n : Number) (level : Nat) :
    n.spelled.indented level = n.text := by
  cases n with
  | integer n => rfl
  | float x =>
    cases h : x.isFinite with
    | true =>
      rw [Number.spelled, h, if_pos rfl]
      rfl
    | false =>
      rw [Number.spelled, h, if_neg Bool.false_ne_true, Number.text, write_of_not_finite h]
      rfl

mutual

/-- A value is printed as it is spelled. -/
theorem indented_spelled : ∀ (value : Value) (level : Nat),
    value.spelled.indented level = value.indented level
  | .null, _ => rfl
  | .boolean _, _ => rfl
  | .string _, _ => rfl
  | .number n, level => indented_number_spelled n level
  | .array [], _ => rfl
  | .array (item :: rest), level => by
    rw [Value.spelled, spelledItems, indented_array_cons, indented_array_cons, ← spelledItems,
      indentedItems_spelled]
  | .object [], _ => rfl
  | .object (member :: rest), level => by
    rw [Value.spelled, spelledMembers, indented_object_cons, indented_object_cons,
      ← spelledMembers, indentedMembers_spelled]

private theorem indentedItems_spelled : ∀ (items : List Value) (level : Nat),
    indentedItems level (spelledItems items) = indentedItems level items
  | [], _ => rfl
  | [item], level => by
    rw [spelledItems, spelledItems, indentedItems, indentedItems, indented_spelled item level]
  | item :: next :: rest, level => by
    rw [spelledItems, spelledItems, indentedItems_cons_cons, indentedItems_cons_cons,
      ← spelledItems, indented_spelled item level, indentedItems_spelled (next :: rest) level]

private theorem indentedMembers_spelled : ∀ (members : Members) (level : Nat),
    indentedMembers level (spelledMembers members) = indentedMembers level members
  | [], _ => rfl
  | [(key, value)], level => by
    rw [spelledMembers, spelledMembers, indentedMembers, indentedMembers,
      indented_spelled value level]
  | (key, value) :: next :: rest, level => by
    rw [spelledMembers, spelledMembers, indentedMembers_cons_cons, indentedMembers_cons_cons,
      ← spelledMembers, indented_spelled value level, indentedMembers_spelled (next :: rest) level]

end

/-- Values that are spelled the same have the same text. -/
theorem document_eq_of_spelled_eq {value other : Value} (h : value.spelled = other.spelled) :
    value.document = other.document := by
  rw [Value.document, Value.document, ← indented_spelled value, h, indented_spelled other]

/-! ### Reading the text -/

section Readable

variable {depth : Nat}

/-- What the reader can hold is spelled as it is. -/
theorem Value.Readable.spelled_eq {value : Value} (h : value.Readable depth) :
    value.spelled = value := by
  induction h with
  | @scalar depth value hscalar hrange =>
    cases value with
    | number n =>
      cases n with
      | integer n => rfl
      | float x =>
        have hfinite : x.isFinite = true := hrange _ rfl
        exact if_pos hfinite
    | array items => cases hscalar
    | object members => cases hscalar
    | _ => rfl
  | array _ ih =>
    rw [Value.spelled, spelledItems_eq, List.map_congr_left ih, List.map_id']
  | object _ ih =>
    have hmembers := List.map_congr_left fun member hmember ↦
      congrArg (Prod.mk member.1) (ih member hmember)
    rw [Value.spelled, spelledMembers_eq, hmembers, List.map_id']

/-- The reader can hold a readable value as it is spelled. -/
theorem Value.Readable.spelled {value : Value} (h : value.Readable depth) :
    value.spelled.Readable depth := by
  rwa [h.spelled_eq]

/-- The reader can hold every float as it is spelled. -/
theorem readable_spelled_float (x : Binary64) :
    (Value.number (.float x)).spelled.Readable depth := by
  cases h : x.isFinite with
  | true =>
    refine Value.Readable.spelled (.scalar rfl fun n hn ↦ ?_)
    cases hn
    exact h
  | false =>
    rw [Value.spelled, Number.spelled, h, if_neg Bool.false_ne_true]
    exact .scalar rfl fun _ hn ↦ by cases hn

/-- An object of readable members is readable, one level deeper. -/
theorem readable_spelled_object {members : Members}
    (h : ∀ member ∈ members, member.2.spelled.Readable depth) :
    (Value.object members).spelled.Readable (depth + 1) := by
  rw [Value.spelled, spelledMembers_eq]
  exact .object (List.forall_mem_map.mpr h)

end Readable

/-- The value that the reader makes of the text of a value. -/
def Value.asRead (value : Value) : Value := value.spelled.reread

/-- An array is read item by item. -/
theorem asRead_array (items : List Value) :
    (Value.array items).asRead = .array (items.map Value.asRead) := by
  rw [Value.asRead, Value.spelled, Value.reread, spelledItems_eq, rereadItems_eq, List.map_map]
  rfl

/-- An object is read member by member. -/
theorem asRead_object (members : Members) :
    (Value.object members).asRead =
      .object (members.map fun member ↦ (member.1, member.2.asRead)) := by
  rw [Value.asRead, Value.spelled, Value.reread, spelledMembers_eq, rereadMembers_eq,
    List.map_map]
  rfl

/-- A document is read as the value it was printed from, with null for what is not finite. -/
theorem read_document {value : Value} (h : value.spelled.Readable maxDepth) :
    read value.document = .ok value.asRead := by
  rw [Value.document, ← indented_spelled]
  exact read_indented h 0

/-- A number by itself is read as it is within a document. -/
theorem read_numberText (x : Binary64) :
    read (numberStyle.write x) = .ok (Value.number (.float x)).asRead := by
  have hreadable : (Value.number (.float x)).spelled.Readable maxDepth := readable_spelled_float x
  have hread := read_document hreadable
  have htext : (Value.number (.float x)).document = numberStyle.write x := String.ofList_toList
  rwa [htext] at hread

end PackageRisk.Json
