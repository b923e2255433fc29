import Mathlib.Data.List.Nodup
import PackageRisk.Proofs.Report.TreeOrder

/-!
# Spellings

Which of its spellings a field stands under makes no difference, as long as it stands under one of
them only. The keys of a field are interchangeable for every value; the nested maps hold integers
and null, and for these they are interchangeable with the keys.
-/

namespace PackageRisk

open Fallible

namespace RawReport

/-- A place for a field in the object of a report: a key of its own, or a key in the nested map of a
scope. -/
inductive Spelling
  | key (key : String)
  | nested (scope : Scope) (name : String)
  deriving DecidableEq, Repr

/-- The spellings of a field are its keys and, for the vulnerabilities of a severity, the keys of
the nested map that name the severity, up to case and the blanks around them. -/
def Spelling.Spells : Spelling → Field → Prop
  | .key text, field => text ∈ field.spellings
  | .nested scope name, field => ∃ severity, field = .vulnerabilities scope severity ∧
      (Severity.foldName name = severity.name ∨
        severity = .medium ∧ Severity.foldName name = "moderate")

/-- The entry of a nested map as a value. -/
def valueOfEntry (entry : Option Int) : Json.Value := entry.elim .null .integer

/-- The entry of a nested map for a value that is an integer. -/
def entryOfValue : Json.Value → Option Int
  | .number (.integer n) => some n
  | _ => none

@[simp] private theorem entryOfValue_valueOfEntry (entry : Option Int) :
    entryOfValue (valueOfEntry entry) = entry := by
  cases entry <;> rfl

/-- The value that stands under a spelling. -/
def valueUnder? (raw : RawReport) : Spelling → Option Json.Value
  | .key key => Json.lookup raw.members key
  | .nested scope name => (Json.lookup (raw.nested scope) name).map valueOfEntry

/-- The raw report without what stands under a spelling. -/
def erase (raw : RawReport) (spelling : Spelling) : RawReport where
  members := raw.members.filter fun member ↦ Spelling.key member.1 ≠ spelling
  directCounts := raw.directCounts.filter fun entry ↦ Spelling.nested .direct entry.1 ≠ spelling
  indirectCounts :=
    raw.indirectCounts.filter fun entry ↦ Spelling.nested .indirect entry.1 ≠ spelling
  dependencies := raw.dependencies

/-- The raw report with a value under a spelling. In which place of its nested map a value comes is
left open by all results here, which are about every order of the entries. -/
def put (raw : RawReport) (spelling : Spelling) (value : Json.Value) : RawReport :=
  match spelling with
  | .key key => { raw with members := raw.members ++ [(key, value)] }
  | .nested scope name =>
    raw.withNested scope (raw.nested scope ++ [(name, entryOfValue value)])

/-- The raw report with a value moved from one spelling to another. -/
def move (raw : RawReport) (old new : Spelling) (value : Json.Value) : RawReport :=
  (raw.erase old).put new value

/-- A field stands under one of its spellings only. -/
structure OccursOnly (raw : RawReport) (field : Field) (spelling : Spelling) (value : Json.Value) :
    Prop where
  spells : spelling.Spells field
  value : raw.valueUnder? spelling = some value
  others : ∀ other : Spelling, other.Spells field → other ≠ spelling →
    raw.valueUnder? other = none

/-- Null or an integer between -2 ^ 63 and 2 ^ 63 - 1, as the nested maps hold them. -/
def IsEntry (value : Json.Value) : Prop :=
  value = .null ∨ ∃ n, -2 ^ 63 ≤ n ∧ n ≤ maxInteger ∧ value = .integer n

/-- The nested maps have every key at most once. -/
def NestedNodup (raw : RawReport) : Prop := ∀ scope, ((raw.nested scope).map (·.1)).Nodup

/-! ### Spellings of different fields -/

/-- Every field. -/
def allFields : List Field :=
  [.name, .version, .freshness, .allDependencies, .immediateDependencies, .authors, .contributors,
    .scoringDate, .releaseDate] ++
    [Scope.direct, Scope.indirect].flatMap fun scope ↦
      Severity.all.map fun severity ↦ .vulnerabilities scope severity

/-- The list of the fields holds all of them. -/
theorem mem_allFields (field : Field) : field ∈ allFields := by
  cases field with
  | vulnerabilities scope severity => cases scope <;> cases severity <;> decide
  | _ => decide

private theorem spellings_disjoint_of_mem : ∀ a ∈ allFields, ∀ b ∈ allFields, ∀ key ∈ a.spellings,
    key ∈ b.spellings → a = b := by
  decide +kernel

/-- No spelling belongs to two fields. -/
theorem Spelling.field_unique {spelling : Spelling} {a b : Field} (ha : spelling.Spells a)
    (hb : spelling.Spells b) : a = b := by
  cases spelling with
  | key key =>
    exact spellings_disjoint_of_mem a (mem_allFields a) b (mem_allFields b) key ha hb
  | nested scope name =>
    obtain ⟨severity, rfl, hname⟩ := ha
    obtain ⟨other, rfl, hother⟩ := hb
    rw [← Severity.ofName?_eq_some_iff] at hname hother
    rw [hname] at hother
    rw [Option.some.inj hother]

/-- A key that names a severity spells its vulnerabilities. -/
theorem Spelling.spells_nested_iff {scope : Scope} {severity : Severity} {name : String} :
    (Spelling.nested scope name).Spells (.vulnerabilities scope severity) ↔
      Severity.ofName? name = some severity := by
  rw [Severity.ofName?_eq_some_iff]
  constructor
  · rintro ⟨other, heq, hname⟩
    cases heq
    exact hname
  · intro hname
    exact ⟨severity, rfl, hname⟩

/-! ### Erasing and putting -/

private theorem nested_erase (raw : RawReport) (spelling : Spelling) (scope : Scope) :
    (raw.erase spelling).nested scope =
      (raw.nested scope).filter fun entry ↦ Spelling.nested scope entry.1 ≠ spelling := by
  cases scope <;> rfl

/-- Erasing a spelling takes away what stands there and nothing else. -/
theorem valueUnder?_erase (raw : RawReport) (spelling other : Spelling) :
    (raw.erase spelling).valueUnder? other =
      if other = spelling then none else raw.valueUnder? other := by
  cases other with
  | key key =>
    simp only [valueUnder?, erase, Json.lookup_filter (fun key ↦ Spelling.key key ≠ spelling)]
    by_cases h : Spelling.key key = spelling <;> simp [h]
  | nested scope name =>
    rw [valueUnder?, nested_erase,
      Json.lookup_filter (fun name ↦ Spelling.nested scope name ≠ spelling), valueUnder?]
    by_cases h : Spelling.nested scope name = spelling <;> simp [h]

/-- A key of a nested map that spells a field names a severity. -/
theorem Spelling.exists_ofName?_eq_some {scope : Scope} {name : String} {field : Field}
    (h : (Spelling.nested scope name).Spells field) :
    ∃ severity, Severity.ofName? name = some severity := by
  obtain ⟨severity, -, hname⟩ := h
  exact ⟨severity, Severity.ofName?_eq_some_iff.mpr hname⟩

/-- Erasing a spelling of a field takes away no key that names no severity. -/
theorem allNamed_erase_iff (raw : RawReport) {spelling : Spelling} {field : Field}
    (hspells : spelling.Spells field) (scope : Scope) :
    AllNamed ((raw.erase spelling).nested scope) ↔ AllNamed (raw.nested scope) := by
  rw [nested_erase]
  constructor
  · intro hall entry hentry
    by_cases herased : Spelling.nested scope entry.1 = spelling
    · exact Spelling.exists_ofName?_eq_some (herased ▸ hspells)
    · exact hall entry (List.mem_filter.mpr ⟨hentry, decide_eq_true herased⟩)
  · exact fun hall entry hentry ↦ hall entry (List.mem_of_mem_filter hentry)

/-- Erasing a spelling takes it out of the namesakes of its severity, and nothing else. -/
theorem namesakes_erase (raw : RawReport) (spelling : Spelling) (scope : Scope)
    (severity : Severity) :
    namesakes ((raw.erase spelling).nested scope) severity =
      (namesakes (raw.nested scope) severity).filter
        fun entry ↦ Spelling.nested scope entry.1 ≠ spelling := by
  rw [nested_erase, namesakes, namesakes, List.filter_filter, List.filter_filter]
  exact List.filter_congr fun entry _ ↦ Bool.and_comm _ _

/-- Erasing a spelling of a field leaves alone the entries that name the severity of another. -/
theorem namesakes_erase_of_ne (raw : RawReport) {spelling : Spelling} {field : Field}
    (hspells : spelling.Spells field) {scope : Scope} {severity : Severity}
    (hne : .vulnerabilities scope severity ≠ field) :
    namesakes ((raw.erase spelling).nested scope) severity =
      namesakes (raw.nested scope) severity := by
  rw [namesakes_erase, List.filter_eq_self]
  intro entry hentry
  refine decide_eq_true fun heq ↦ hne ?_
  have hname := of_decide_eq_true (List.mem_filter.mp hentry).2
  exact Spelling.field_unique (Spelling.spells_nested_iff.mpr hname) (heq ▸ hspells)

/-- Putting a value under a key changes no nested map. -/
@[simp] theorem nested_put_key (raw : RawReport) (key : String) (value : Json.Value)
    (scope : Scope) : (raw.put (.key key) value).nested scope = raw.nested scope := by
  cases scope <;> rfl

/-- Putting a value in a nested map does not change the members. -/
@[simp] theorem members_put_nested (raw : RawReport) (scope : Scope) (name : String)
    (value : Json.Value) : (raw.put (.nested scope name) value).members = raw.members := by
  cases scope <;> rfl

/-- Putting a value in a nested map changes this map only. -/
theorem nested_put_nested (raw : RawReport) (scope other : Scope) (name : String)
    (value : Json.Value) :
    (raw.put (.nested scope name) value).nested other =
      if other = scope then raw.nested scope ++ [(name, entryOfValue value)]
      else raw.nested other := by
  cases scope <;> cases other <;> rfl

/-- Moving a value does not change the dependencies. -/
@[simp] theorem dependencies_move (raw : RawReport) (old new : Spelling) (value : Json.Value) :
    (raw.move old new value).dependencies = raw.dependencies := by
  unfold move put
  split
  · rfl
  · rename_i scope _
    cases scope <;> rfl

/-- An entry stands as a value where it was put. -/
theorem valueOfEntry_entryOfValue {value : Json.Value} (h : IsEntry value) :
    valueOfEntry (entryOfValue value) = value := by
  rcases h with rfl | ⟨n, -, -, rfl⟩ <;> rfl

/-- A key without a value has no entry in a nested map. -/
theorem ne_of_valueUnder?_eq_none {raw : RawReport} {scope : Scope} {name : String}
    (h : raw.valueUnder? (.nested scope name) = none) :
    ∀ entry ∈ raw.nested scope, entry.1 ≠ name :=
  Json.lookup_eq_none_iff.mp (Option.map_eq_none_iff.mp h)

/-- A value that is put under a spelling stands there, and the rest is as before. In a nested map it
has to be an entry. -/
theorem valueUnder?_put {raw : RawReport} {spelling : Spelling} {value : Json.Value}
    (hentry : ∀ scope name, spelling = .nested scope name → IsEntry value) (other : Spelling) :
    (raw.put spelling value).valueUnder? other =
      if other = spelling then some value else raw.valueUnder? other := by
  cases spelling with
  | key key =>
    cases other with
    | key other =>
      simp only [valueUnder?, put, Json.lookup_append, Json.lookup_singleton, Spelling.key.injEq]
      by_cases h : key = other <;> simp [h, eq_comm]
    | nested scope name => simp [valueUnder?]
  | nested scope name =>
    cases other with
    | key other => simp [valueUnder?]
    | nested otherScope otherName =>
      simp only [valueUnder?, nested_put_nested, Spelling.nested.injEq]
      by_cases hscope : otherScope = scope
      · subst hscope
        by_cases hname : name = otherName
        · simp [Json.lookup_append, Json.lookup_singleton, hname,
            valueOfEntry_entryOfValue (hentry _ _ rfl)]
        · simp [Json.lookup_append, Json.lookup_singleton, hname, Ne.symm hname]
      · simp [hscope]

/-- Erasing a spelling that was put under a new key takes back the putting. -/
theorem nested_erase_put {raw : RawReport} {spelling : Spelling} {value : Json.Value}
    (hfree : raw.valueUnder? spelling = none) (scope : Scope) :
    ((raw.put spelling value).erase spelling).nested scope = raw.nested scope := by
  rw [nested_erase]
  cases spelling with
  | key key => simp
  | nested other name =>
    rw [nested_put_nested]
    split_ifs with hscope
    · subst hscope
      have hkept := ne_of_valueUnder?_eq_none hfree
      simp only [List.filter_append, List.filter_cons, List.filter_nil]
      simpa using hkept
    · simp [hscope]

/-- A field that occurs under one spelling only has no value under another. -/
theorem valueUnder?_erase_of_occursOnly {raw : RawReport} {field : Field} {old : Spelling}
    {value : Json.Value} (h : OccursOnly raw field old value) {spelling : Spelling}
    (hspells : spelling.Spells field) : (raw.erase old).valueUnder? spelling = none := by
  rw [valueUnder?_erase]
  split
  · rfl
  · exact h.others spelling hspells ‹_›

section Move

variable {raw : RawReport} {field : Field} {old new : Spelling} {value : Json.Value}

/-- A value that is moved stands under its new spelling, and what is not moved stays. -/
theorem valueUnder?_move (hentry : ∀ scope name, new = .nested scope name → IsEntry value)
    (spelling : Spelling) :
    (raw.move old new value).valueUnder? spelling =
      if spelling = new then some value
      else if spelling = old then none
      else raw.valueUnder? spelling := by
  rw [move, valueUnder?_put hentry, valueUnder?_erase]

/-- A field that is moved stands under its new spelling only. -/
theorem occursOnly_move (h : OccursOnly raw field old value) (hnew : new.Spells field)
    (hentry : ∀ scope name, new = .nested scope name → IsEntry value) :
    OccursOnly (raw.move old new value) field new value := by
  refine ⟨hnew, ?_, ?_⟩
  · rw [valueUnder?_move hentry, if_pos rfl]
  · intro other hspells hne
    rw [valueUnder?_move hentry, if_neg hne]
    split
    · rfl
    · exact h.others other hspells ‹_›

/-- Moving a value to another spelling repeats no key of a nested map. -/
theorem nestedNodup_move (h : OccursOnly raw field old value) (hnew : new.Spells field)
    (hnodup : raw.NestedNodup) : (raw.move old new value).NestedNodup := by
  intro scope
  have herase : (((raw.erase old).nested scope).map (·.1)).Nodup := by
    rw [nested_erase]
    exact (hnodup scope).sublist (List.filter_sublist.map _)
  unfold move
  cases new with
  | key key => rwa [nested_put_key]
  | nested other name =>
    rw [nested_put_nested]
    split_ifs with hscope
    · subst hscope
      have hfree := ne_of_valueUnder?_eq_none (valueUnder?_erase_of_occursOnly h hnew)
      rw [List.map_append, List.nodup_append]
      refine ⟨herase, List.nodup_singleton _, fun taken htaken other hother ↦ ?_⟩
      obtain ⟨entry, hentry, rfl⟩ := List.mem_map.mp htaken
      obtain rfl : other = name := List.mem_singleton.mp hother
      exact hfree entry hentry
    · exact herase

end Move

/-! ### What resolving sees -/

private theorem findSome?_of_only {α β : Type} {f : α → Option β} {items : List α} {item : α}
    (hmem : item ∈ items) (hothers : ∀ other ∈ items, other ≠ item → f other = none) :
    items.findSome? f = f item := by
  induction items with
  | nil => cases hmem
  | cons first rest ih =>
    obtain ⟨hfirst, hrest⟩ := List.forall_mem_cons.mp hothers
    rw [List.findSome?_cons]
    by_cases heq : first = item
    · subst heq
      cases hvalue : f first with
      | some value => rfl
      | none =>
        dsimp only
        rw [List.findSome?_eq_none_iff]
        intro other hother
        by_cases hsame : other = first
        · rw [hsame, hvalue]
        · exact hrest other hother hsame
    · rw [hfirst heq]
      exact ih (List.mem_of_ne_of_mem (Ne.symm heq) hmem) hrest

namespace OccursOnly

variable {raw : RawReport} {field : Field} {scope : Scope} {severity : Severity}
  {value : Json.Value}

private theorem valueOf?_key {key : String} (h : OccursOnly raw field (.key key) value) :
    raw.valueOf? field = (some value).filter fun value ↦ !value.isNull := by
  have hvalue : Json.lookup raw.members key = some value := h.value
  have hothers : ∀ other ∈ field.spellings, other ≠ key →
      Json.lookup raw.members other = none := fun other hother hne ↦
    h.others (.key other) hother fun heq ↦ hne (Spelling.key.inj heq)
  rw [valueOf?_eq, findSome?_of_only h.spells, hvalue]
  intro other hother hne
  rw [hothers other hother hne]
  rfl

private theorem valueOf?_nested {name : String}
    (h : OccursOnly raw field (.nested scope name) value) : raw.valueOf? field = none := by
  rw [valueOf?_eq, List.findSome?_eq_none_iff]
  intro key hkey
  have hnone : Json.lookup raw.members key = none :=
    h.others (.key key) hkey (by simp)
  rw [hnone]
  rfl

/-- A severity whose count stands under a key is not named in the nested map. -/
theorem namesakes_key {key : String}
    (h : OccursOnly raw (.vulnerabilities scope severity) (.key key) value) :
    namesakes (raw.nested scope) severity = [] := by
  rw [namesakes, List.filter_eq_nil_iff]
  intro entry hentry hname
  have hspells : (Spelling.nested scope entry.1).Spells (.vulnerabilities scope severity) :=
    Spelling.spells_nested_iff.mpr (of_decide_eq_true hname)
  exact ne_of_valueUnder?_eq_none (h.others _ hspells (by simp)) entry hentry rfl

/-- A severity whose count stands in the nested map is named there once. -/
theorem namesakes_nested {name : String} (hnodup : ((raw.nested scope).map (·.1)).Nodup)
    (h : OccursOnly raw (.vulnerabilities scope severity) (.nested scope name) value) :
    namesakes (raw.nested scope) severity = [(name, entryOfValue value)] := by
  obtain ⟨entry, hlookup, rfl⟩ := Option.map_eq_some_iff.mp h.value
  rw [entryOfValue_valueOfEntry]
  apply Json.filter_eq_singleton hnodup (Json.mem_of_lookup hlookup)
  intro other hother
  rw [decide_eq_true_iff]
  constructor
  · intro hname
    by_cases heq : other.1 = name
    · exact heq
    · have hspells : (Spelling.nested scope other.1).Spells (.vulnerabilities scope severity) :=
        Spelling.spells_nested_iff.mpr hname
      have hnone := h.others _ hspells fun hsame ↦ heq (Spelling.nested.inj hsame).2
      exact absurd rfl (ne_of_valueUnder?_eq_none hnone other hother)
  · rintro rfl
    exact Spelling.spells_nested_iff.mp h.spells

/-- The count of a severity that stands under one spelling is the integer there, or zero for null,
whichever spelling this is. -/
theorem countIs_iff {spelling : Spelling} {source : String} {package : Package} {count : Count}
    (hnodup : raw.NestedNodup) (hentry : IsEntry value)
    (h : OccursOnly raw (.vulnerabilities scope severity) spelling value) :
    raw.CountIs source package scope severity count ↔
      (entryOfValue value).getD 0 = count.val := by
  have hmax : (entryOfValue value).getD 0 ≤ maxInteger := by
    rcases hentry with rfl | ⟨n, -, hle, rfl⟩
    · decide
    · exact hle
  cases spelling with
  | key key =>
    have hvalue := h.valueOf?_key
    have hnested := nestedValue?_eq_none h.namesakes_key
    simp only [CountIs, countOf?_eq_ok_iff, hvalue, hnested]
    rcases hentry with rfl | ⟨n, -, hle, rfl⟩
    · constructor
      · rintro ⟨flat?, ⟨hflat, -⟩, rfl⟩
        cases flat? with
        | none => rfl
        | some count => simp [Option.filter, Json.Value.isNull] at hflat
      · intro hcount
        have hzero : (0 : Int) = count.val := hcount
        exact ⟨none, ⟨rfl, by simp⟩, Count.ext (by simpa using hzero.symm)⟩
    · constructor
      · rintro ⟨flat?, ⟨hflat, -⟩, rfl⟩
        cases flat? with
        | none => simp [Json.Value.isNull, Json.Value.integer] at hflat
        | some count => simpa [Json.Value.isNull, Json.Value.integer, entryOfValue] using hflat
      · rintro hcount
        refine ⟨some count, ⟨?_, ?_⟩, rfl⟩
        · obtain rfl : n = count.val := hcount
          rfl
        · intro other hother
          cases hother
          exact hcount ▸ hle
  | nested otherScope name =>
    obtain ⟨other, heq, -⟩ := id h.spells
    cases heq
    have hvalue := h.valueOf?_nested
    have hnested := nestedValue?_eq_some (h.namesakes_nested (hnodup scope))
    simp only [CountIs, countOf?_eq_ok_iff, hvalue, hnested, countOfInteger_eq_ok_iff hmax]
    constructor
    · rintro ⟨flat?, -, hcount⟩
      exact hcount
    · intro hcount
      exact ⟨none, ⟨rfl, by simp⟩, hcount⟩

end OccursOnly

/-! ### Other orders of the nested maps -/

section Reordered

variable {a b : RawReport} (h : SameEntries a b)

include h

/-- In every order of the nested maps the keys are as different as in one. -/
theorem SameEntries.nestedNodup (hnodup : a.NestedNodup) : b.NestedNodup := fun scope ↦
  ((h.nested scope).map _).nodup_iff.mp (hnodup scope)

/-- The order of the nested maps does not matter for what stands under a spelling. -/
theorem SameEntries.valueUnder?_eq (hnodup : a.NestedNodup) (spelling : Spelling) :
    b.valueUnder? spelling = a.valueUnder? spelling := by
  cases spelling with
  | key key => rw [valueUnder?, valueUnder?, h.members]
  | nested scope name =>
    rw [valueUnder?, valueUnder?, Json.lookup_perm (h.nested scope) (hnodup scope)]

/-- A field stands under one spelling only in every order of the nested maps. -/
theorem SameEntries.occursOnly (hnodup : a.NestedNodup) {field : Field} {spelling : Spelling}
    {value : Json.Value} (honly : OccursOnly a field spelling value) :
    OccursOnly b field spelling value where
  spells := honly.spells
  value := (h.valueUnder?_eq hnodup spelling).trans honly.value
  others other hspells hne := (h.valueUnder?_eq hnodup other).trans (honly.others other hspells hne)

/-- Erasing a spelling leaves the same entries, in whichever order. -/
theorem SameEntries.erase (spelling : Spelling) :
    SameEntries (a.erase spelling) (b.erase spelling) := by
  refine ⟨?_, fun scope ↦ ?_⟩
  · unfold RawReport.erase
    rw [h.members]
  · rw [nested_erase, nested_erase]
    exact (h.nested scope).filter _

end Reordered

/-! ### Moving makes no difference -/

/-- The value of a field stands under another spelling, and the rest is the same, though the entries
of the nested maps may come in other orders. -/
structure Moved (a b : RawReport) (field : Field) (old new : Spelling) (value : Json.Value) :
    Prop where
  before : OccursOnly a field old value
  after : OccursOnly b field new value
  nodup : a.NestedNodup
  nodup_after : b.NestedNodup
  members (key : String) :
    Json.lookup (a.erase old).members key = Json.lookup (b.erase new).members key
  nested (scope : Scope) : ((a.erase old).nested scope).Perm ((b.erase new).nested scope)

namespace Moved

variable {a b : RawReport} {field : Field} {old new : Spelling} {value : Json.Value}

/-- A value that has been moved can be moved back. -/
theorem symm (h : Moved a b field old new value) : Moved b a field new old value where
  before := h.after
  after := h.before
  nodup := h.nodup_after
  nodup_after := h.nodup
  members key := (h.members key).symm
  nested scope := (h.nested scope).symm

/-- The nested maps may come in other orders. -/
theorem reorder (h : Moved a b field old new value) {one other : RawReport}
    (hone : SameEntries a one) (hother : SameEntries b other) :
    Moved one other field old new value where
  before := hone.occursOnly h.nodup h.before
  after := hother.occursOnly h.nodup_after h.after
  nodup := hone.nestedNodup h.nodup
  nodup_after := hother.nestedNodup h.nodup_after
  members key := by
    rw [← (hone.erase old).members, ← (hother.erase new).members]
    exact h.members key
  nested scope := ((hone.erase old).nested scope).symm.trans
    ((h.nested scope).trans ((hother.erase new).nested scope))

/-- The other fields keep their values. -/
theorem valueOf?_eq (h : Moved a b field old new value) {other : Field} (hne : other ≠ field) :
    b.valueOf? other = a.valueOf? other := by
  refine valueOf?_congr fun key hkey ↦ ?_
  have hspells : (Spelling.key key).Spells other := hkey
  have hold : Spelling.key key ≠ old := fun heq ↦
    hne (Spelling.field_unique hspells (heq ▸ h.before.spells))
  have hnew : Spelling.key key ≠ new := fun heq ↦
    hne (Spelling.field_unique hspells (heq ▸ h.after.spells))
  have hbefore := valueUnder?_erase a old (.key key)
  have hafter := valueUnder?_erase b new (.key key)
  rw [if_neg hold] at hbefore
  rw [if_neg hnew] at hafter
  exact congrArg (Option.filter _) (hafter.symm.trans ((h.members key).symm.trans hbefore))

/-- The same keys name no severity. -/
theorem allNamed_iff (h : Moved a b field old new value) (scope : Scope) :
    AllNamed (b.nested scope) ↔ AllNamed (a.nested scope) := by
  rw [← allNamed_erase_iff a h.before.spells, ← allNamed_erase_iff b h.after.spells]
  exact (allNamed_perm (h.nested scope)).symm

/-- A value that is moved from key to key is the value of its field again. -/
theorem exists_keys (h : Moved a b field old new value)
    (hkeys : ¬∃ scope name, old = .nested scope name ∨ new = .nested scope name) :
    ∃ oldKey newKey, old = .key oldKey ∧ new = .key newKey ∧
      b.valueOf? field = a.valueOf? field := by
  cases old with
  | nested scope name => exact absurd ⟨scope, name, .inl rfl⟩ hkeys
  | key oldKey =>
    cases new with
    | nested scope name => exact absurd ⟨scope, name, .inr rfl⟩ hkeys
    | key newKey =>
      exact ⟨oldKey, newKey, rfl, rfl, by rw [h.after.valueOf?_key, h.before.valueOf?_key]⟩

/-- Between the keys of a field every value is moved without a difference, and anywhere else an
entry is, where what is left of the nested maps keeps its order. -/
theorem saysSame (h : Moved a b field old new value)
    (horder : ∀ scope, (a.erase old).nested scope = (b.erase new).nested scope)
    (hentry : (∃ scope name, old = .nested scope name ∨ new = .nested scope name) →
      IsEntry value) :
    SaysSame b a := by
  refine ⟨fun other hother ↦ ?_, h.allNamed_iff, fun source package scope severity count ↦ ?_⟩
  · by_cases hfield : other = field
    · subst hfield
      have hkeys : ¬∃ scope name, old = .nested scope name ∨ new = .nested scope name := by
        rintro ⟨scope, name, rfl | rfl⟩
        · obtain ⟨severity, heq, -⟩ := h.before.spells
          exact hother scope severity heq
        · obtain ⟨severity, heq, -⟩ := h.after.spells
          exact hother scope severity heq
      obtain ⟨_, _, -, -, hvalue⟩ := h.exists_keys hkeys
      exact hvalue
    · exact h.valueOf?_eq hfield
  · by_cases hfield : .vulnerabilities scope severity = field
    · subst hfield
      by_cases hkeys : ∃ scope name, old = .nested scope name ∨ new = .nested scope name
      · rw [h.after.countIs_iff h.nodup_after (hentry hkeys),
          h.before.countIs_iff h.nodup (hentry hkeys)]
      · obtain ⟨oldKey, newKey, rfl, rfl, hvalue⟩ := h.exists_keys hkeys
        unfold CountIs
        rw [nestedValue?_eq_none h.after.namesakes_key, nestedValue?_eq_none h.before.namesakes_key]
        simp only [countOf?_eq_ok_iff, hvalue]
    · have hnested : nestedValue? (b.nested scope) severity =
          nestedValue? (a.nested scope) severity := by
        rw [nestedValue?, nestedValue?, ← namesakes_erase_of_ne a h.before.spells hfield,
          ← namesakes_erase_of_ne b h.after.spells hfield, horder]
      exact countIs_congr (h.valueOf?_eq hfield) hnested source package count

/-- Whatever the order of the nested maps after the moving, they may have come before it in an order
in which the report says the same. -/
theorem exists_saysSame (h : Moved a b field old new value)
    (hentry : (∃ scope name, old = .nested scope name ∨ new = .nested scope name) →
      IsEntry value)
    {other : RawReport} (hother : SameEntries b other) :
    ∃ one, SameEntries a one ∧ SaysSame other one := by
  -- first the entry that is moved, if there is one, and then the rest as it comes after the moving
  let entries (scope : Scope) : List (String × Option Int) :=
    (a.nested scope).filter (fun entry ↦ Spelling.nested scope entry.1 = old) ++
      (other.erase new).nested scope
  let one : RawReport := ⟨a.members, entries .direct, entries .indirect, a.dependencies⟩
  have hentries (scope : Scope) : one.nested scope = entries scope := by cases scope <;> rfl
  have hrest (scope : Scope) :
      ((a.erase old).nested scope).Perm ((other.erase new).nested scope) :=
    (h.nested scope).trans ((hother.erase new).nested scope)
  have hone : SameEntries a one := by
    refine ⟨rfl, fun scope ↦ ?_⟩
    rw [hentries]
    have hsplit := List.filter_append_perm (fun entry ↦ Spelling.nested scope entry.1 = old)
      (a.nested scope)
    refine hsplit.symm.trans (List.Perm.append_left _ ?_)
    have hperm := hrest scope
    rw [nested_erase] at hperm
    simpa using hperm
  refine ⟨one, hone, (h.reorder hone hother).saysSame (fun scope ↦ ?_) hentry⟩
  have hkept : ∀ entry ∈ (other.erase new).nested scope, Spelling.nested scope entry.1 ≠ old := by
    intro entry hmem
    have hmem := (hrest scope).mem_iff.mpr hmem
    rw [nested_erase] at hmem
    exact of_decide_eq_true (List.mem_filter.mp hmem).2
  rw [nested_erase, hentries, List.filter_append, List.filter_filter]
  simpa using hkept

/-- Whatever comes out of the report with the moved value in some order of its nested maps also
comes out of the report before in some order. -/
theorem follows (h : Moved a b field old new value)
    (hentry : (∃ scope name, old = .nested scope name ∨ new = .nested scope name) →
      IsEntry value)
    (hdependencies : b.dependencies = a.dependencies) : Follows b a :=
  Follows.of_dependencies (fun _ hother ↦ h.exists_saysSame hentry hother)
    (hdependencies ▸ List.forall₂_same.mpr fun child _ ↦ .refl child)

end Moved

/-- Moving a value moves it. -/
theorem moved_move {raw : RawReport} {field : Field} {old new : Spelling} {value : Json.Value}
    (hold : OccursOnly raw field old value) (hnodup : raw.NestedNodup) (hnew : new.Spells field)
    (hentry : ∀ scope name, new = .nested scope name → IsEntry value) :
    Moved raw (raw.move old new value) field old new value := by
  have hfree := valueUnder?_erase_of_occursOnly hold hnew
  refine ⟨hold, occursOnly_move hold hnew hentry, hnodup, nestedNodup_move hold hnew hnodup,
    fun key ↦ ?_, fun scope ↦ ?_⟩
  · have hbefore := valueUnder?_erase raw old (.key key)
    have hafter := valueUnder?_erase (raw.move old new value) new (.key key)
    rw [valueUnder?_move hentry] at hafter
    refine hbefore.trans (Eq.trans ?_ hafter.symm)
    by_cases hkey : Spelling.key key = new
    · rw [if_pos hkey, ← hbefore, hkey, hfree]
    · rw [if_neg hkey, if_neg hkey]
  · rw [move, nested_erase_put hfree]

/-! ### Nodes of trees -/

/-- The nested maps of a document have every key at most once. -/
theorem ReadFrom.nestedNodup {members : Json.Members} {raw : RawReport}
    (h : ReadFrom members raw) : raw.NestedNodup := by
  intro scope
  rw [((h.nested_perm scope).map _).nodup_iff]
  unfold entriesOf
  split
  · rename_i entries _
    have hnodup := (Json.increasing_sortByKey entries).nodup
    simpa [Function.comp_def] using hnodup
  · exact List.nodup_nil

/-- Every spelling of a field means the same, as far as the orders of the nested maps let anything
mean the same. Where a node of a tree has a field under one of its spellings only, and its value is
moved to any other of them, each tree has the same outcomes in the orders of its nested maps as the
other. Hence the moved tree is resolved exactly when the tree was before, to the same report, in
whatever orders, if and only if no order gives a report at all or the foremost entries agree
everywhere. To and from the nested maps, the values to move are null and the integers between
-2 ^ 63 and 2 ^ 63 - 1. -/
theorem resolve_move {raw node : RawReport} {path : List Nat} {field : Field}
    {old new : Spelling} {value : Json.Value} (hrange : raw.InRange)
    (hnode : raw.at? path = some node) (hnodup : node.NestedNodup)
    (hold : OccursOnly node field old value) (hnew : new.Spells field)
    (hentry : (∃ scope name, old = .nested scope name ∨ new = .nested scope name) →
      IsEntry value) :
    Follows (raw.modifyAt (·.move old new value) path) raw ∧
    Follows raw (raw.modifyAt (·.move old new value) path) ∧
    ((∀ one other, Reorders raw one → Reorders (raw.modifyAt (·.move old new value) path) other →
        ∀ source report, one.resolve source = .ok report ↔ other.resolve source = .ok report) ↔
      (∀ one, Reorders raw one → ∀ source report, one.resolve source ≠ .ok report) ∨
        raw.Untied) := by
  have hmoved := moved_move hold hnodup hnew fun scope name heq ↦
    hentry ⟨scope, name, .inr heq⟩
  have hfollows : Follows (raw.modifyAt (·.move old new value) path) raw :=
    .modifyAt path hnode (hmoved.follows hentry (dependencies_move node old new value))
  have hback : Follows raw (raw.modifyAt (·.move old new value) path) :=
    .of_modifyAt path hnode
      (hmoved.symm.follows (fun ⟨scope, name, h⟩ ↦ hentry ⟨scope, name, h.symm⟩)
        (dependencies_move node old new value).symm)
  exact ⟨hfollows, hback, hfollows.resolvesAlike_iff.trans (ignoresOrders_iff hrange)⟩

private def spelledNode : RawReport :=
  ⟨[("name", .string "b"), ("version", .string "2"), ("directVulnsModerate_count", .integer 3)],
    [("high", some 1)], [], []⟩

private def spelledTree : RawReport :=
  ⟨[("name", .string "a"), ("version", .string "1")], [], [], [spelledNode]⟩

/-- The only value of a field that has one key among the members and none in the nested maps. -/
private theorem occursOnly_key {raw : RawReport} {scope : Scope} {severity : Severity}
    {key : String} {value : Json.Value}
    (hspells : key ∈ (Field.vulnerabilities scope severity).spellings)
    (hvalue : Json.lookup raw.members key = some value)
    (hothers : ∀ other ∈ (Field.vulnerabilities scope severity).spellings, other ≠ key →
      (Json.lookup raw.members other).isNone = true)
    (hnested : namesakes (raw.nested scope) severity = []) :
    OccursOnly raw (.vulnerabilities scope severity) (.key key) value := by
  refine ⟨hspells, hvalue, fun other hother hne ↦ ?_⟩
  cases other with
  | key other =>
    exact Option.isNone_iff_eq_none.mp (hothers other hother fun heq ↦ hne (heq ▸ rfl))
  | nested otherScope name =>
    obtain ⟨severity, heq, -⟩ := id hother
    cases heq
    have hname := Spelling.spells_nested_iff.mp hother
    rw [valueUnder?, Option.map_eq_none_iff, Json.lookup_eq_none_iff]
    rintro entry hentry rfl
    exact List.filter_eq_nil_iff.mp hnested entry hentry (decide_eq_true hname)

/-- The count under a key of the dependency means the same in its nested map. -/
theorem resolve_move_nested :
    OccursOnly spelledNode (.vulnerabilities .direct .medium) (.key "directVulnsModerate_count")
      (.integer 3) ∧
    (∃ report, spelledTree.resolve "r.json" = .ok report) ∧
    ∀ one other, Reorders spelledTree one →
      Reorders (spelledTree.modifyAt (·.move (.key "directVulnsModerate_count")
        (.nested .direct " MEDIUM") (.integer 3)) [0]) other →
      ∀ source report, one.resolve source = .ok report ↔ other.resolve source = .ok report := by
  have hresolved : ∃ report, spelledTree.resolve "r.json" = .ok report :=
    fault?_eq_none_iff.mp (Option.isNone_iff_eq_none.mp (by decide +kernel))
  have hrange : spelledTree.InRange := by
    have hall : ∀ node ∈ spelledTree.nodes, ∀ scope ∈ [Scope.direct, .indirect],
        ∀ entry ∈ node.nested scope, ∀ n ∈ entry.2, n ≤ maxInteger := by
      decide
    exact fun node hnode scope ↦ hall node hnode scope (by cases scope <;> decide)
  have hnodup : spelledNode.NestedNodup := fun
    | .direct => by decide
    | .indirect => by decide
  have hold : OccursOnly spelledNode (.vulnerabilities .direct .medium)
      (.key "directVulnsModerate_count") (.integer 3) :=
    occursOnly_key (by decide) rfl (by decide) (by decide)
  have hnew : (Spelling.nested .direct " MEDIUM").Spells (.vulnerabilities .direct .medium) :=
    Spelling.spells_nested_iff.mpr (by decide)
  have hentry : IsEntry (.integer 3) := .inr ⟨3, by decide, by decide, rfl⟩
  exact ⟨hold, hresolved,
    (resolve_move hrange rfl hnodup hold hnew fun _ ↦ hentry).2.2.mpr (.inr (by decide +kernel))⟩

private def tiedTree : RawReport :=
  ⟨[("name", .string "a"), ("version", .string "1"), ("directVulnsHigh_score", .integer 3)],
    [("CRITICAL", some 1), ("critical", some 2)], [], []⟩

/-- After the high vulnerabilities have been moved into the nested map, the two critical entries may
come in another order than before, and another one of them counts. -/
theorem not_resolve_move_tied :
    OccursOnly tiedTree (.vulnerabilities .direct .high) (.key "directVulnsHigh_score")
      (.integer 3) ∧
    (Spelling.nested .direct "high").Spells (.vulnerabilities .direct .high) ∧
    IsEntry (.integer 3) ∧ tiedTree.NestedNodup ∧ ∃ other,
      Reorders (tiedTree.move (.key "directVulnsHigh_score") (.nested .direct "high") (.integer 3))
        other ∧
      (tiedTree.resolve "r.json").toOption.map (·.input.direct) =
        some ⟨.clamp 1, .clamp 3, 0, 0⟩ ∧
      (other.resolve "r.json").toOption.map (·.input.direct) =
        some ⟨.clamp 2, .clamp 3, 0, 0⟩ := by
  have hnodup : tiedTree.NestedNodup := fun
    | .direct => by decide
    | .indirect => by decide
  have hold : OccursOnly tiedTree (.vulnerabilities .direct .high) (.key "directVulnsHigh_score")
      (.integer 3) :=
    occursOnly_key (by decide) rfl (by decide) (by decide)
  have hperm : ((tiedTree.move (.key "directVulnsHigh_score") (.nested .direct "high")
      (.integer 3)).nested .direct).Perm [("critical", some 2), ("CRITICAL", some 1),
        ("high", some 3)] :=
    .swap _ _ _
  refine ⟨hold, Spelling.spells_nested_iff.mpr (by decide),
    .inr ⟨3, by decide, by decide, rfl⟩, hnodup, _, reorders_withNested _ hperm, ?_, ?_⟩
  · decide +kernel
  · decide +kernel

end RawReport

end PackageRisk
