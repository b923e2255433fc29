import PackageRisk.Proofs.Json.Step

/-!
# Schemas only refuse

Reading with a schema gives what reading without one gives, as long as the schema admits it. A
schema admits a value if no place in it raises an objection and no key is repeated that has to be
unique.
-/

namespace PackageRisk.Json

open Fallible

variable {P : Type}

/-- A value as it may stand at a place. -/
inductive Schema.Admits (schema : Schema P) : P → Value → Prop
  | intro {place : P} {value : Value} (objection : schema.objection place value.found = none)
      (items : ∀ item ∈ value.items, schema.Admits (schema.item place) item)
      (members : ∀ member ∈ value.members,
        schema.Admits (schema.member place member.1) member.2)
      (unique : ((value.members.map (·.1)).filter (schema.isUnique place)).Nodup) :
      schema.Admits place value

section Readers

variable {readItem readAny : List Char → Except ReadError (Value × List Char)}
  {readMember readAnyMember : String → List Char → Except ReadError (Value × List Char)}

/-- Refusing some items refuses the arrays with such an item. -/
theorem readItems_iff {admits : Value → Prop}
    (hitem : ∀ text item rest, readItem text = .ok (item, rest) ↔
      readAny text = .ok (item, rest) ∧ admits item)
    (limit : Nat) (text rest : List Char) (items : List Value) :
    readItems readItem limit text = .ok (items, rest) ↔
      readItems readAny limit text = .ok (items, rest) ∧ ∀ item ∈ items, admits item := by
  induction limit generalizing text items with
  | zero => simp [readItems]
  | succ limit ih =>
    simp only [readItems_eq_ok_iff, hitem, ih]
    constructor
    · rintro ⟨item, after, ⟨hread, hadmits⟩, ⟨hclose, rfl⟩ |
        ⟨next, others, hnext, ⟨hothers, hall⟩, rfl⟩⟩
      · exact ⟨⟨item, after, hread, .inl ⟨hclose, rfl⟩⟩, by simpa⟩
      · exact ⟨⟨item, after, hread, .inr ⟨next, others, hnext, hothers, rfl⟩⟩,
          List.forall_mem_cons.mpr ⟨hadmits, hall⟩⟩
    · rintro ⟨⟨item, after, hread, ⟨hclose, rfl⟩ | ⟨next, others, hnext, hothers, rfl⟩⟩, hall⟩
      · exact ⟨item, after, ⟨hread, by simpa using hall⟩, .inl ⟨hclose, rfl⟩⟩
      · obtain ⟨hadmits, hall⟩ := List.forall_mem_cons.mp hall
        exact ⟨item, after, ⟨hread, hadmits⟩, .inr ⟨next, others, hnext, ⟨hothers, hall⟩, rfl⟩⟩

/-- The keys that have to be unique are neither repeated nor among those seen before. -/
def AreNew (isUnique : String → Bool) (seen keys : List String) : Prop :=
  (∀ key ∈ keys, isUnique key = true → key ∉ seen) ∧ (keys.filter isUnique).Nodup

private theorem areNew_cons_iff {isUnique : String → Bool} {seen keys : List String}
    {key : String} : AreNew isUnique seen (key :: keys) ↔
      ¬(isUnique key = true ∧ key ∈ seen) ∧ AreNew isUnique (key :: seen) keys := by
  unfold AreNew
  cases hunique : isUnique key with
  | true =>
    rw [List.filter_cons_of_pos hunique, List.nodup_cons, List.mem_filter]
    grind
  | false =>
    rw [List.filter_cons_of_neg (by simp [hunique])]
    grind

/-- Refusing some members and some repetitions refuses the objects with such a member or
repetition. -/
theorem readMembers_iff {admits : String → Value → Prop} {isUnique : String → Bool}
    (hmember : ∀ key text value rest, readMember key text = .ok (value, rest) ↔
      readAnyMember key text = .ok (value, rest) ∧ admits key value)
    (limit : Nat) (seen : List String) (text rest : List Char) (members : Members) :
    readMembers isUnique readMember limit seen text = .ok (members, rest) ↔
      readMembers (fun _ ↦ false) readAnyMember limit seen text = .ok (members, rest) ∧
        (∀ member ∈ members, admits member.1 member.2) ∧
        AreNew isUnique seen (members.map (·.1)) := by
  induction limit generalizing seen text members with
  | zero => simp [readMembers]
  | succ limit ih =>
    simp only [readMembers_eq_ok_iff, hmember, ih]
    constructor
    · rintro ⟨afterQuote, key, afterKey, afterColon, value, after, rfl, hkey, hnew, hcolon,
        ⟨hread, hadmits⟩, ⟨hclose, rfl⟩ | ⟨next, others, hnext, ⟨hothers, hall, hrest⟩, rfl⟩⟩
      · refine ⟨⟨afterQuote, key, afterKey, afterColon, value, after, rfl, hkey, by simp, hcolon,
          hread, .inl ⟨hclose, rfl⟩⟩, by simpa, areNew_cons_iff.mpr ⟨hnew, ?_⟩⟩
        simp [AreNew]
      · exact ⟨⟨afterQuote, key, afterKey, afterColon, value, after, rfl, hkey, by simp, hcolon,
          hread, .inr ⟨next, others, hnext, hothers, rfl⟩⟩,
          List.forall_mem_cons.mpr ⟨hadmits, hall⟩, areNew_cons_iff.mpr ⟨hnew, hrest⟩⟩
    · rintro ⟨⟨afterQuote, key, afterKey, afterColon, value, after, rfl, hkey, -, hcolon, hread,
        ⟨hclose, rfl⟩ | ⟨next, others, hnext, hothers, rfl⟩⟩, hall, hnew⟩
      · exact ⟨afterQuote, key, afterKey, afterColon, value, after, rfl, hkey,
          (areNew_cons_iff.mp hnew).1, hcolon, ⟨hread, by simpa using hall⟩, .inl ⟨hclose, rfl⟩⟩
      · obtain ⟨hadmits, hall⟩ := List.forall_mem_cons.mp hall
        obtain ⟨hkeyNew, hrest⟩ := areNew_cons_iff.mp hnew
        exact ⟨afterQuote, key, afterKey, afterColon, value, after, rfl, hkey, hkeyNew, hcolon,
          ⟨hread, hadmits⟩, .inr ⟨next, others, hnext, ⟨hothers, hall, hrest⟩, rfl⟩⟩

/-- Where items are read as any values are, but for what is admitted, so are arrays. -/
theorem readArray_iff {admits : Value → Prop}
    (hitem : ∀ text item rest, readItem text = .ok (item, rest) ↔
      readAny text = .ok (item, rest) ∧ admits item)
    (limit : Nat) (text rest : List Char) (items : List Value) :
    readArray readItem limit text = .ok (items, rest) ↔
      readArray readAny limit text = .ok (items, rest) ∧ ∀ item ∈ items, admits item := by
  simp only [readArray_eq_ok_iff, readItems_iff hitem]
  constructor
  · rintro (⟨hclose, rfl⟩ | ⟨hnil, hhead, hread, hall⟩)
    · exact ⟨.inl ⟨hclose, rfl⟩, by simp⟩
    · exact ⟨.inr ⟨hnil, hhead, hread⟩, hall⟩
  · rintro ⟨⟨hclose, rfl⟩ | ⟨hnil, hhead, hread⟩, hall⟩
    · exact .inl ⟨hclose, rfl⟩
    · exact .inr ⟨hnil, hhead, hread, hall⟩

/-- Where members are read as any values are, but for what is admitted, so are objects, but for keys
that must be new. -/
theorem readObject_iff {admits : String → Value → Prop} (isUnique : String → Bool)
    (hmember : ∀ key text value rest, readMember key text = .ok (value, rest) ↔
      readAnyMember key text = .ok (value, rest) ∧ admits key value)
    (limit : Nat) (text rest : List Char) (members : Members) :
    readObject isUnique readMember limit text = .ok (members, rest) ↔
      readObject (fun _ ↦ false) readAnyMember limit text = .ok (members, rest) ∧
        (∀ member ∈ members, admits member.1 member.2) ∧
        AreNew isUnique [] (members.map (·.1)) := by
  simp only [readObject_eq_ok_iff, readMembers_iff hmember]
  constructor
  · rintro (⟨hclose, rfl⟩ | ⟨hnil, hhead, hread, hall⟩)
    · exact ⟨.inl ⟨hclose, rfl⟩, by simp, by simp [AreNew]⟩
    · exact ⟨.inr ⟨hnil, hhead, hread⟩, hall⟩
  · rintro ⟨⟨hclose, rfl⟩ | ⟨hnil, hhead, hread⟩, hall⟩
    · exact .inl ⟨hclose, rfl⟩
    · exact .inr ⟨hnil, hhead, hread, hall⟩

end Readers

/-- A scalar is admitted if its place takes it. -/
theorem admits_scalar_iff {schema : Schema P} {place : P} {value : Value}
    (hscalar : value.isScalar = true) :
    schema.Admits place value ↔ schema.objection place value.found = none := by
  constructor
  · rintro ⟨hplace, -, -, -⟩
    exact hplace
  · intro hplace
    cases value <;> simp only [Value.isScalar, Bool.false_eq_true] at hscalar
    all_goals
      exact ⟨hplace, by simp [Value.items], by simp [Value.members], by simp [Value.members]⟩

/-- An array is admitted when nothing objects to arrays there and its items are admitted. -/
theorem admits_array_iff {schema : Schema P} {place : P} {items : List Value} :
    schema.Admits place (.array items) ↔ schema.objection place .array = none ∧
      ∀ item ∈ items, schema.Admits (schema.item place) item := by
  constructor
  · rintro ⟨hplace, hitems, -, -⟩
    exact ⟨hplace, hitems⟩
  · rintro ⟨hplace, hitems⟩
    exact ⟨hplace, hitems, by simp [Value.members], by simp [Value.members]⟩

/-- An object is admitted when nothing objects to objects there, its members are admitted and the
keys that must be unique are new. -/
theorem admits_object_iff {schema : Schema P} {place : P} {members : Members} :
    schema.Admits place (.object members) ↔ schema.objection place .object = none ∧
      (∀ member ∈ members, schema.Admits (schema.member place member.1) member.2) ∧
      AreNew (schema.isUnique place) [] (members.map (·.1)) := by
  constructor
  · rintro ⟨hplace, -, hmembers, hunique⟩
    exact ⟨hplace, hmembers, by simp, hunique⟩
  · rintro ⟨hplace, hmembers, -, hunique⟩
    exact ⟨hplace, by simp [Value.items], hmembers, hunique⟩

/-- A value is read with a schema exactly when it is read without one and the schema admits it. -/
theorem readValue_iff (schema : Schema P) (limit depth : Nat) (place : P) (text : List Char)
    (value : Value) (rest : List Char) :
    readValue schema limit depth place text = .ok (value, rest) ↔
      readValue .unrestricted limit depth () text = .ok (value, rest) ∧
        schema.Admits place value := by
  induction depth using Nat.strongRecOn generalizing place text value rest with
  | ind depth ih =>
    have hitems (level : Nat) (hlevel : level < depth) (place : P) :=
      readArray_iff (ih level hlevel place) limit
    have hmembers (level : Nat) (hlevel : level < depth) (place : P) :=
      readObject_iff (schema.isUnique place)
        (fun key ↦ ih level hlevel (schema.member place key)) limit
    simp only [readValue_eq_ok_iff]
    constructor
    · rintro ⟨hplace, hread | ⟨level, after, items, rfl, hafter, rfl, hread⟩ |
        ⟨level, after, members, rfl, hafter, rfl, hread⟩⟩
      · exact ⟨⟨rfl, .inl hread⟩,
          (admits_scalar_iff (isScalar_of_readScalar hread)).mpr hplace⟩
      · obtain ⟨hread, hall⟩ := (hitems level (Nat.lt_succ_self level) _ _ _ _).mp hread
        exact ⟨⟨rfl, .inr (.inl ⟨level, after, items, rfl, hafter, rfl, hread⟩)⟩,
          admits_array_iff.mpr ⟨hplace, hall⟩⟩
      · obtain ⟨hread, hall⟩ := (hmembers level (Nat.lt_succ_self level) _ _ _ _).mp hread
        exact ⟨⟨rfl, .inr (.inr ⟨level, after, members, rfl, hafter, rfl, hread⟩)⟩,
          admits_object_iff.mpr ⟨hplace, hall⟩⟩
    · rintro ⟨⟨-, hread | ⟨level, after, items, rfl, hafter, rfl, hread⟩ |
        ⟨level, after, members, rfl, hafter, rfl, hread⟩⟩, hadmits⟩
      · exact ⟨(admits_scalar_iff (isScalar_of_readScalar hread)).mp hadmits, .inl hread⟩
      · obtain ⟨hplace, hall⟩ := admits_array_iff.mp hadmits
        exact ⟨hplace, .inr (.inl ⟨level, after, items, rfl, hafter, rfl,
          (hitems level (Nat.lt_succ_self level) _ _ _ _).mpr ⟨hread, hall⟩⟩)⟩
      · obtain ⟨hplace, hall⟩ := admits_object_iff.mp hadmits
        exact ⟨hplace, .inr (.inr ⟨level, after, members, rfl, hafter, rfl,
          (hmembers level (Nat.lt_succ_self level) _ _ _ _).mpr ⟨hread, hall⟩⟩)⟩

/-- A document is read with a schema exactly when it is read without one and the schema admits its
value. -/
theorem readDocument_iff {schema : Schema P} {place : P} {document : String} {value : Value} :
    readDocument schema place document = .ok value ↔
      read document = .ok value ∧ schema.Admits place value := by
  simp only [read, readDocument_eq_ok_iff, readValue_iff schema]
  constructor
  · rintro ⟨rest, ⟨hread, hadmits⟩, hrest⟩
    exact ⟨⟨rest, hread, hrest⟩, hadmits⟩
  · rintro ⟨⟨rest, hread, hrest⟩, hadmits⟩
    exact ⟨rest, ⟨hread, hadmits⟩, hrest⟩

/-! ### What is admitted anyway -/

/-- A place that takes everything, with nothing but itself within it, admits every value. -/
theorem admits_of_free {schema : Schema P} {place : P}
    (hobjection : ∀ found, schema.objection place found = none)
    (hitem : schema.item place = place) (hmember : ∀ key, schema.member place key = place)
    (hunique : ∀ key, schema.isUnique place key = false) :
    ∀ value : Value, schema.Admits place value
  | .null => (admits_scalar_iff rfl).mpr (hobjection _)
  | .boolean _ => (admits_scalar_iff rfl).mpr (hobjection _)
  | .number _ => (admits_scalar_iff rfl).mpr (hobjection _)
  | .string _ => (admits_scalar_iff rfl).mpr (hobjection _)
  | .array items => by
    rw [admits_array_iff, hitem]
    exact ⟨hobjection _, fun item _ ↦ admits_of_free hobjection hitem hmember hunique item⟩
  | .object members => by
    have hnone : schema.isUnique place = fun _ ↦ false := funext hunique
    rw [admits_object_iff, AreNew, hnone]
    refine ⟨hobjection _, fun (key, value) hmem ↦ ?_, by simp, by simp⟩
    have hsize : sizeOf value < 1 + sizeOf members := by
      have := List.sizeOf_lt_of_mem hmem
      simp only [Prod.mk.sizeOf_spec] at this
      omega
    rw [hmember]
    exact admits_of_free hobjection hitem hmember hunique value

/-- No object within a value repeats a key. -/
inductive Value.DistinctKeys : Value → Prop
  | intro {value : Value} (own : (value.members.map (·.1)).Nodup)
      (items : ∀ item ∈ value.items, item.DistinctKeys)
      (members : ∀ member ∈ value.members, member.2.DistinctKeys) : value.DistinctKeys

/-- A scalar has no keys, so none twice. -/
theorem distinctKeys_of_isScalar {value : Value} (h : value.isScalar = true) :
    value.DistinctKeys := by
  cases value <;> simp only [Value.isScalar, Bool.false_eq_true] at h
  all_goals exact ⟨by simp [Value.members], by simp [Value.items], by simp [Value.members]⟩

/-- An array has distinct keys when its items have. -/
theorem distinctKeys_array_iff {items : List Value} :
    (Value.array items).DistinctKeys ↔ ∀ item ∈ items, item.DistinctKeys := by
  constructor
  · rintro ⟨-, hitems, -⟩
    exact hitems
  · intro hitems
    exact ⟨by simp [Value.members], hitems, by simp [Value.members]⟩

/-- An object has distinct keys when its own are and its members have. -/
theorem distinctKeys_object_iff {members : Members} :
    (Value.object members).DistinctKeys ↔
      (members.map (·.1)).Nodup ∧ ∀ member ∈ members, member.2.DistinctKeys := by
  constructor
  · rintro ⟨hown, -, hmembers⟩
    exact ⟨hown, hmembers⟩
  · rintro ⟨hown, hmembers⟩
    exact ⟨hown, by simp [Value.items], hmembers⟩

/-- A schema that objects to repeated keys only admits every value without repeated keys. -/
theorem admits_of_distinctKeys {schema : Schema P} {value : Value}
    (hobjection : ∀ place found, schema.objection place found = none) (h : value.DistinctKeys)
    (place : P) : schema.Admits place value := by
  induction h generalizing place with
  | intro own _ _ items members =>
    exact ⟨hobjection _ _, fun item hitem ↦ items item hitem _,
      fun member hmember ↦ members member hmember _, own.filter _⟩

end PackageRisk.Json
