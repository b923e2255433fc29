import Mathlib.Logic.Relation
import PackageRisk.Proofs.Json.RoundTrip
import PackageRisk.Proofs.Report.Spelling

/-!
# Rearranged documents

Reports are read from the members under recognised keys, wherever these stand. So the members of the
object of a report can change places, and members under other keys can come and go, in the document
itself and in the reports of its dependencies: the document is read as the same report, or refused
as before, as far as the orders of the nested maps leave this to the document. They may be other
ones whenever a document is read.
-/

namespace PackageRisk

open Fallible

namespace RawReport

/-- A key that reports are read from: a spelling of a field, or a key with a place of its own. -/
def isRecognised (key : String) : Bool :=
  Place.ofKey key ≠ .anything || allFields.any fun field ↦ key ∈ field.spellings

/-- The members that reports are read from. -/
def recognised (members : Json.Members) : Json.Members :=
  members.filter fun member ↦ isRecognised member.1

/-- A change to a document that reports are not read from: in the object of a report the members
change places, or a member under another key comes or goes; or there is such a change in the report
of a dependency. -/
inductive Rearranges : Json.Value → Json.Value → Prop
  | reorder {members others : Json.Members} (perm : members.Perm others) :
      Rearranges (.object members) (.object others)
  | insert {before after : Json.Members} {key : String} (value : Json.Value)
      (unrecognised : isRecognised key = false) :
      Rearranges (.object (before ++ after)) (.object (before ++ (key, value) :: after))
  | remove {before after : Json.Members} {key : String} (value : Json.Value)
      (unrecognised : isRecognised key = false) :
      Rearranges (.object (before ++ (key, value) :: after)) (.object (before ++ after))
  | dependency {before after : Json.Members} {first rest : List Json.Value}
      {item other : Json.Value} (step : Rearranges item other) :
      Rearranges
        (.object (before ++ (dependenciesKey, .array (first ++ item :: rest)) :: after))
        (.object (before ++ (dependenciesKey, .array (first ++ other :: rest)) :: after))

/-- A key of a field has a value other than null, and no preferred one has. -/
def Wins (members : Json.Members) (field : Field) (key : String) (value : Json.Value) : Prop :=
  ∃ before after, field.spellings = before ++ key :: after ∧ (key, value) ∈ members ∧
    value.isNull = false ∧
    ∀ earlier ∈ before, ∀ other, (earlier, other) ∈ members → other.isNull = true

/-! ### Recognised keys -/

private theorem isRecognised_of_mem_spellings {field : Field} {key : String}
    (h : key ∈ field.spellings) : isRecognised key = true := by
  rw [isRecognised, Bool.or_eq_true]
  exact .inr (List.any_eq_true.mpr ⟨field, mem_allFields field, decide_eq_true h⟩)

private theorem isRecognised_of_ofKey {key : String} (h : Place.ofKey key ≠ .anything) :
    isRecognised key = true := by
  rw [isRecognised, Bool.or_eq_true]
  exact .inl (decide_eq_true h)

private theorem ofKey_of_not_isRecognised {key : String} (h : isRecognised key = false) :
    Place.ofKey key = .anything := by
  by_contra hkey
  rw [isRecognised_of_ofKey hkey] at h
  cases h

/-- No field is read from the key of the dependencies. -/
theorem ne_dependenciesKey_of_mem_spellings {field : Field} {key : String}
    (h : key ∈ field.spellings) : key ≠ dependenciesKey := by
  have hall : ∀ field ∈ allFields, dependenciesKey ∉ field.spellings := by decide +kernel
  rintro rfl
  exact hall field (mem_allFields field) h

private theorem recognised_insert {key : String} (h : isRecognised key = false)
    (before after : Json.Members) (value : Json.Value) :
    recognised (before ++ (key, value) :: after) = recognised (before ++ after) := by
  rw [recognised, recognised, List.filter_append, List.filter_append,
    List.filter_cons_of_neg (by simp [h])]

private theorem keys_recognised (members : Json.Members) :
    (recognised members).map (·.1) = (members.map (·.1)).filter isRecognised := by
  rw [recognised, List.filter_map]
  rfl

/-! ### What schemas admit -/

/-- A schema of report documents that takes everything under the keys that are not recognised. -/
structure Overlooks (σ : Json.Schema Place) : Prop where
  item : σ.item = schema.item
  member : σ.member = schema.member
  objection (found : Json.Found) : σ.objection .anything found = none
  isUnique {place : Place} {key : String} (h : σ.isUnique place key = true) :
    place = .report ∧ isRecognised key = true

-- A member that is inserted may repeat a key that is not recognised, so rearranging does not keep
-- all keys distinct. What it keeps is this.
/-- The shape of report documents, where nothing but repeated recognised keys is objected to. -/
def recognisedOnce : Json.Schema Place where
  objection := fun _ _ ↦ none
  item := schema.item
  member := schema.member
  isUnique := fun place key ↦ place = .report && isRecognised key

private theorem overlooks_schema : Overlooks schema where
  item := rfl
  member := rfl
  objection := fun _ ↦ rfl
  isUnique := fun {place key} h ↦ by
    simp only [schema, ne_eq, Bool.and_eq_true, decide_eq_true_eq] at h
    exact ⟨h.1, isRecognised_of_ofKey (by simpa using h.2)⟩

private theorem overlooks_recognisedOnce : Overlooks recognisedOnce where
  item := rfl
  member := rfl
  objection := fun _ ↦ rfl
  isUnique := fun {place key} h ↦ by
    simpa [recognisedOnce] using h

section Admits

variable {σ : Json.Schema Place} {members others : Json.Members}

private theorem Overlooks.admits_anything (hσ : Overlooks σ) (value : Json.Value) :
    σ.Admits .anything value := by
  refine Json.admits_of_free hσ.objection ?_ (fun key ↦ ?_) (fun key ↦ ?_) value
  · rw [hσ.item]
    rfl
  · rw [hσ.member]
    rfl
  · by_contra hunique
    obtain ⟨hplace, -⟩ := hσ.isUnique (by simpa using hunique)
    cases hplace

/-- Only the recognised members of the object of a report can be objected to. -/
theorem Overlooks.admits_iff (hσ : Overlooks σ) :
    σ.Admits .report (.object members) ↔ σ.Admits .report (.object (recognised members)) := by
  have hunique : (members.map (·.1)).filter (σ.isUnique .report) =
      ((recognised members).map (·.1)).filter (σ.isUnique .report) := by
    rw [keys_recognised, List.filter_filter]
    refine List.filter_congr fun key _ ↦ ?_
    cases hkey : σ.isUnique .report key with
    | false => rfl
    | true => rw [(hσ.isUnique hkey).2]; rfl
  have hall : (∀ member ∈ members, σ.Admits (σ.member .report member.1) member.2) ↔
      ∀ member ∈ recognised members, σ.Admits (σ.member .report member.1) member.2 := by
    constructor
    · exact fun hall member hmember ↦ hall member (List.mem_of_mem_filter hmember)
    · intro hall member hmember
      cases hkey : isRecognised member.1 with
      | true => exact hall member (List.mem_filter.mpr ⟨hmember, hkey⟩)
      | false =>
        have hplace : σ.member .report member.1 = .anything := by
          rw [hσ.member]
          exact ofKey_of_not_isRecognised hkey
        rw [hplace]
        exact hσ.admits_anything member.2
  simp only [Json.admits_object_iff, Json.AreNew, hunique, hall, List.not_mem_nil,
    not_false_eq_true, implies_true]

private theorem admits_perm (hperm : members.Perm others) :
    σ.Admits .report (.object members) ↔ σ.Admits .report (.object others) := by
  have hkeys := (hperm.map (·.1)).filter (σ.isUnique .report)
  simp only [Json.admits_object_iff, Json.AreNew, hperm.mem_iff, hkeys.nodup_iff, List.not_mem_nil,
    not_false_eq_true, implies_true, true_and]

/-- A rearranged document is admitted if it was before. -/
theorem Overlooks.admits_rearranged (hσ : Overlooks σ) {value rearranged : Json.Value}
    (h : Rearranges value rearranged) :
    σ.Admits .report value ↔ σ.Admits .report rearranged := by
  induction h with
  | reorder hperm => exact admits_perm hperm
  | insert value hkey => rw [hσ.admits_iff, ← recognised_insert hkey, ← hσ.admits_iff]
  | remove value hkey => rw [hσ.admits_iff, recognised_insert hkey, ← hσ.admits_iff]
  | dependency _ ih =>
    have hplace : σ.member .report dependenciesKey = .reports := by
      rw [hσ.member]
      exact ofKey_dependenciesKey
    have hitem : σ.item .reports = .report := by
      rw [hσ.item]
      rfl
    simp only [Json.admits_object_iff, List.forall_mem_append, List.forall_mem_cons, hplace,
      Json.admits_array_iff, hitem, ih, List.map_append, List.map_cons]

/-- A document that is rearranged again and again is admitted if it was before. -/
theorem Overlooks.admits_run (hσ : Overlooks σ) {value rearranged : Json.Value}
    (h : Relation.ReflTransGen Rearranges value rearranged) :
    σ.Admits .report value ↔ σ.Admits .report rearranged := by
  induction h with
  | refl => exact Iff.rfl
  | tail _ step ih => exact ih.trans (hσ.admits_rearranged step)

end Admits

/-- Every rearrangement can be taken back. -/
theorem Rearranges.symm {value rearranged : Json.Value} (h : Rearranges value rearranged) :
    Rearranges rearranged value := by
  induction h with
  | reorder hperm => exact .reorder hperm.symm
  | insert value hkey => exact .remove value hkey
  | remove value hkey => exact .insert value hkey
  | dependency _ ih => exact .dependency ih

/-! ### What is read -/

section Resolve

variable {members others : Json.Members} {value rearranged : Json.Value}

/-- An object of a report has every recognised key at most once. -/
theorem nodup_recognised (h : recognisedOnce.Admits .report (.object members)) :
    ((recognised members).map (·.1)).Nodup := by
  obtain ⟨-, -, -, hnodup⟩ := h
  rw [keys_recognised]
  exact hnodup

/-- Reports say the same if their recognised keys have the same values and their nested maps the
same entries in the same order. -/
theorem saysSame_of_lookup {a b : RawReport}
    (hmembers : ∀ key, isRecognised key = true → key ≠ dependenciesKey →
      Json.lookup a.members key = Json.lookup b.members key)
    (hnested : ∀ scope, a.nested scope = b.nested scope) : SaysSame a b := by
  have hfield (field : Field) : a.valueOf? field = b.valueOf? field := by
    refine valueOf?_congr fun key hkey ↦ ?_
    rw [hmembers key (isRecognised_of_mem_spellings hkey)
      (ne_dependenciesKey_of_mem_spellings hkey)]
  exact ⟨fun field _ ↦ hfield field, fun scope ↦ by rw [hnested],
    fun source package scope severity count ↦
      countIs_congr (hfield _) (by rw [hnested]) source package count⟩

/-- An object of a report follows another one if their recognised keys have the same values, apart
from the key of the dependencies, and the dependencies follow those of the other one. -/
theorem follows_of_lookup
    (h : ∀ key, isRecognised key = true → key ≠ dependenciesKey →
      Json.lookup members key = Json.lookup others key)
    (hbelow : List.Forall₂ Follows (ofValue (.object others)).dependencies
      (ofValue (.object members)).dependencies) :
    Follows (ofValue (.object others)) (ofValue (.object members)) := by
  have hnested (scope : Scope) :
      (ofValue (.object members)).nested scope = (ofValue (.object others)).nested scope := by
    have hkey : isRecognised (countsKey scope) = true :=
      isRecognised_of_ofKey (by simp [ofKey_countsKey])
    have hne : countsKey scope ≠ dependenciesKey := by cases scope <;> decide
    rw [nested_ofValue, nested_ofValue, h _ hkey hne]
  refine Follows.of_dependencies (fun reordered hreordered ↦ ?_) hbelow
  -- the same order of the nested maps, beside the members of the other object
  refine ⟨{ reordered with members }, ⟨members_ofValue members, fun scope ↦ ?_⟩,
    saysSame_of_lookup (fun key hkey hne ↦ ?_) fun scope ↦ by cases scope <;> rfl⟩
  · rw [hnested]
    cases scope
    · exact hreordered.nested .direct
    · exact hreordered.nested .indirect
  · rw [← hreordered.members, members_ofValue, h key hkey hne]

/-- An object follows another one with the same recognised members, in any order. -/
theorem follows_of_perm (hperm : (recognised members).Perm (recognised others))
    (honce : recognisedOnce.Admits .report (.object members))
    (hmembers : schema.Admits .report (.object members))
    (hothers : schema.Admits .report (.object others)) :
    Follows (ofValue (.object others)) (ofValue (.object members)) := by
  have hlookup {key : String} (hkey : isRecognised key = true) :
      Json.lookup members key = Json.lookup others key := by
    have h := Json.lookup_perm hperm (nodup_recognised honce) key
    rwa [recognised, recognised, Json.lookup_filter, Json.lookup_filter, if_pos hkey,
      if_pos hkey] at h
  have hkey : isRecognised dependenciesKey = true :=
    isRecognised_of_ofKey (by simp [ofKey_dependenciesKey])
  refine follows_of_lookup (fun key hkey _ ↦ hlookup hkey) ?_
  rw [dependencies_ofValue hmembers, dependencies_ofValue hothers, hlookup hkey]
  exact List.forall₂_same.mpr fun raw _ ↦ .refl raw

section Dependencies

variable {before after : Json.Members} {items : List Json.Value}

/-- The dependencies of an admitted report are admitted. -/
theorem Overlooks.admits_dependency {σ : Json.Schema Place} (hσ : Overlooks σ)
    (h : σ.Admits .report (.object (before ++ (dependenciesKey, .array items) :: after))) :
    ∀ item ∈ items, σ.Admits .report item := by
  obtain ⟨-, hmembers, -⟩ := Json.admits_object_iff.mp h
  have harray := hmembers (dependenciesKey, .array items) (by simp)
  rw [hσ.member] at harray
  change σ.Admits (Place.ofKey dependenciesKey) (.array items) at harray
  rw [ofKey_dependenciesKey, Json.admits_array_iff, hσ.item] at harray
  exact harray.2

/-- The dependencies of an object with an array under their key are its items. -/
theorem dependencies_ofValue_append
    (h : schema.Admits .report (.object (before ++ (dependenciesKey, .array items) :: after))) :
    (ofValue (.object (before ++ (dependenciesKey, .array items) :: after))).dependencies =
      items.map ofValue := by
  have hafter := nodup_of_admits h (by simp [ofKey_dependenciesKey]) rfl
  rw [dependencies_ofValue h, Json.lookup_append, Json.lookup_cons, hafter, if_pos rfl]
  rfl

end Dependencies

/-- A rearranged document follows the one before. -/
theorem follows_of_rearranges (h : Rearranges value rearranged)
    (honce : recognisedOnce.Admits .report value) (hadmits : schema.Admits .report value) :
    Follows (ofValue rearranged) (ofValue value) := by
  have hrearranged := (overlooks_schema.admits_rearranged h).mp hadmits
  induction h with
  | reorder hperm => exact follows_of_perm (hperm.filter _) honce hadmits hrearranged
  | insert value hkey =>
    refine follows_of_perm ?_ honce hadmits hrearranged
    rw [recognised_insert hkey]
  | remove value hkey =>
    refine follows_of_perm ?_ honce hadmits hrearranged
    rw [recognised_insert hkey]
  | @dependency before after first rest item other step ih =>
    -- the objects differ in one array only, and there in one item
    have hlookup (key : String) (hne : key ≠ dependenciesKey) (items others : List Json.Value) :
        Json.lookup (before ++ (dependenciesKey, .array items) :: after) key =
          Json.lookup (before ++ (dependenciesKey, .array others) :: after) key := by
      rw [Json.lookup_append, Json.lookup_cons, Json.lookup_append, Json.lookup_cons,
        if_neg (Ne.symm hne), if_neg (Ne.symm hne)]
    have hchild : Follows (ofValue other) (ofValue item) :=
      ih (overlooks_recognisedOnce.admits_dependency honce item (by simp))
        (overlooks_schema.admits_dependency hadmits item (by simp))
        (overlooks_schema.admits_dependency hrearranged other (by simp))
    refine follows_of_lookup (fun key _ hne ↦ hlookup key hne _ _) ?_
    rw [dependencies_ofValue_append hadmits, dependencies_ofValue_append hrearranged,
      List.map_append, List.map_append, List.map_cons, List.map_cons]
    exact List.rel_append (List.forall₂_same.mpr fun raw _ ↦ .refl raw)
      (.cons hchild (List.forall₂_same.mpr fun raw _ ↦ .refl raw))

/-- A document that is rearranged again and again follows the one before, and the other way
round. -/
theorem follows_of_run (h : Relation.ReflTransGen Rearranges value rearranged)
    (honce : recognisedOnce.Admits .report value) (hadmits : schema.Admits .report value) :
    Follows (ofValue rearranged) (ofValue value) ∧
      Follows (ofValue value) (ofValue rearranged) := by
  induction h with
  | refl => exact ⟨.refl _, .refl _⟩
  | tail run step ih =>
    have honce := (overlooks_recognisedOnce.admits_run run).mp honce
    have hadmits := (overlooks_schema.admits_run run).mp hadmits
    exact ⟨ih.1.trans (follows_of_rearranges step honce hadmits),
      (follows_of_rearranges step.symm ((overlooks_recognisedOnce.admits_rearranged step).mp honce)
        ((overlooks_schema.admits_rearranged step).mp hadmits)).trans ih.2⟩

end Resolve

/-! ### The winner -/

/-- Where no key is repeated, a field is found under the first of its keys that has a value other
than null. -/
theorem find?_eq_some_iff_wins {raw : RawReport} (hnodup : (raw.members.map (·.1)).Nodup)
    {field : Field} {key : String} {value : Json.Value} :
    raw.find? field = some (key, value) ↔ Wins raw.members field key value := by
  have hmem {key : String} {value : Json.Value} :
      Json.lookup raw.members key = some value ↔ (key, value) ∈ raw.members :=
    ⟨Json.mem_of_lookup, Json.lookup_of_mem hnodup⟩
  rw [find?_eq, List.findSome?_eq_some_iff]
  simp only [Option.map_eq_some_iff, Option.map_eq_none_iff, Option.filter_eq_some_iff,
    Option.filter_eq_none_iff, hmem, Prod.mk.injEq]
  constructor
  · rintro ⟨before, _, after, hspellings, ⟨_, ⟨hkey, hnull⟩, rfl, rfl⟩, hearlier⟩
    exact ⟨before, after, hspellings, hkey, by simpa using hnull, by simpa using hearlier⟩
  · rintro ⟨before, after, hspellings, hkey, hnull, hearlier⟩
    exact ⟨before, key, after, hspellings, ⟨value, ⟨hkey, by simpa using hnull⟩, rfl, rfl⟩,
      by simpa using hearlier⟩

/-- The object of a dependency repeats no key if the document does not. -/
theorem distinctKeys_of_descend {path : List Nat} {members own : Json.Members}
    (h : (Json.Value.object members).DistinctKeys)
    (hown : descend dependencyObjects path members = some own) :
    (Json.Value.object own).DistinctKeys := by
  induction path generalizing members with
  | nil =>
    cases hown
    exact h
  | cons place path ih =>
    obtain ⟨child, hchild, hown⟩ := Option.bind_eq_some_iff.mp hown
    refine ih ?_ hown
    have hmem := List.mem_of_getElem? hchild
    unfold dependencyObjects at hmem
    split at hmem
    · rename_i items hlookup
      obtain ⟨item, hitem, rfl⟩ := List.mem_map.mp hmem
      obtain ⟨-, -, hmembers⟩ := h
      obtain ⟨-, hitems, -⟩ := hmembers _ (Json.mem_of_lookup hlookup)
      obtain ⟨hkeys, -, hvalues⟩ := hitems item hitem
      exact ⟨hkeys, by simp [Json.Value.items], hvalues⟩
    · cases hmem

end RawReport

namespace Report

open RawReport

/-- The raw report of a document is that of its value, if this has the shape of a report. -/
theorem read_eq_ok_iff_admits {document : String} {value : Json.Value}
    (hread : Json.read document = .ok value) {raw : RawReport} :
    RawReport.read document = .ok raw ↔ schema.Admits .report value ∧ ofValue value = raw := by
  rw [RawReport.read, map_eq_ok_iff]
  simp only [Json.readDocument_iff, hread, Except.ok.injEq]
  constructor
  · rintro ⟨_, ⟨rfl, hadmits⟩, hraw⟩
    exact ⟨hadmits, hraw⟩
  · rintro ⟨hadmits, hraw⟩
    exact ⟨value, ⟨rfl, hadmits⟩, hraw⟩

/-- A document without the shape of a report has none. -/
theorem parse_ne_ok_of_not_admits {document : String} {value : Json.Value}
    (hread : Json.read document = .ok value) (hadmits : ¬schema.Admits .report value)
    (source : String) (order : EntryOrder) (report : Report) :
    parse document source order ≠ .ok report := by
  rw [parse, ne_eq, mapError_eq_ok_iff, ofDocument, bind_eq_ok_iff]
  rintro ⟨raw, hraw, -⟩
  exact hadmits ((read_eq_ok_iff_admits hread).mp (mapError_eq_ok_iff.mp hraw)).1

/-- The report that a document without repeated keys is read as depends on the recognised members
only, and not on where they stand. Rearranging its reports gives a document with the same outcomes:
what either of the two is read as in some order of the nested maps, the other one is in some order,
and a document that is refused stays so. Hence both are read as the same report whatever the orders
are, which may be others for each reading, if and only if neither is read as a report in any order
or the foremost entries agree in all nested maps. In each of its reports a field is found under the
first of its keys, in the order of its spellings, that has a value other than null. -/
theorem parse_rearranged {document other : String} {value rearranged : Json.Value}
    (hdocument : Json.read document = .ok value) (hother : Json.read other = .ok rearranged)
    (hdistinct : value.DistinctKeys)
    (hrun : Relation.ReflTransGen Rearranges value rearranged) :
    (∀ order, ∃ another, ∀ source report,
      parse document source order = .ok report ↔ parse other source another = .ok report) ∧
    (∀ order, ∃ another, ∀ source report,
      parse other source order = .ok report ↔ parse document source another = .ok report) ∧
    ((∀ source one another report,
        parse document source one = .ok report ↔ parse other source another = .ok report) ↔
      (∀ source order report, parse document source order ≠ .ok report) ∨
        ∀ raw, RawReport.read document = .ok raw → raw.Untied) ∧
    ∀ raw, RawReport.read document = .ok raw → ∀ path node, raw.at? path = some node →
      ∀ field key found, node.find? field = some (key, found) ↔
        Wins node.members field key found := by
  refine and_assoc.mp (and_assoc.mp ⟨?_, fun raw hraw path node hnode field key found ↦ ?_⟩)
  · by_cases hadmits : schema.Admits .report value
    · have honce : recognisedOnce.Admits .report value :=
        Json.admits_of_distinctKeys (fun _ _ ↦ rfl) hdistinct Place.report
      have hraw := (read_eq_ok_iff_admits hdocument).mpr ⟨hadmits, rfl⟩
      have hmoved := (read_eq_ok_iff_admits hother).mpr
        ⟨(overlooks_schema.admits_run hrun).mp hadmits, rfl⟩
      obtain ⟨hfollows, hback⟩ := follows_of_run hrun honce hadmits
      obtain ⟨members, -, hfrom⟩ := exists_readFrom hraw (.refl _)
      refine ⟨⟨exists_order_of_follows hmoved hraw hback,
        exists_order_of_follows hraw hmoved hfollows⟩, ?_⟩
      rw [parsesAlike_iff hraw hmoved hfollows hfrom.inRange, hraw]
      simp only [Except.ok.injEq, forall_eq']
    · have hrefused := parse_ne_ok_of_not_admits hdocument hadmits
      have hrefused' := parse_ne_ok_of_not_admits hother fun h ↦
        hadmits ((overlooks_schema.admits_run hrun).mpr h)
      have hsame (source : String) (one another : EntryOrder) (report : Report) :
          parse document source one = .ok report ↔ parse other source another = .ok report :=
        ⟨fun h ↦ absurd h (hrefused source one report),
          fun h ↦ absurd h (hrefused' source another report)⟩
      exact ⟨⟨fun order ↦ ⟨order, fun source ↦ hsame source order order⟩,
        fun order ↦ ⟨order, fun source report ↦ (hsame source order order report).symm⟩⟩,
        ⟨fun _ ↦ .inl hrefused, fun _ ↦ hsame⟩⟩
  · obtain ⟨members, hread, hfrom⟩ := exists_readFrom hraw (.refl raw)
    obtain rfl : value = .object members := by
      rw [hdocument] at hread
      exact Except.ok.inj hread
    obtain ⟨own, hown, hnodeFrom⟩ := hfrom.at? path hnode
    obtain ⟨hkeys, -, -⟩ := distinctKeys_of_descend hdistinct hown
    apply find?_eq_some_iff_wins
    rw [hnodeFrom.members_eq]
    exact hkeys

private def dependencyMembers : Json.Members :=
  [("package", .string "b"), ("version", .string "2")]

private def countsMember : String × Json.Value :=
  ("directVulnerabilityCounts", .object [("High", .integer 2), ("critical", .integer 1)])

private def spreadValue : Json.Value :=
  .object [("name", .string "x"), ("package", .string "a"), ("version", .string "1"),
    countsMember, (dependenciesKey, .array [.object dependencyMembers])]

private def frontMembers : Json.Members :=
  [("package", .string "a"), ("name", .string "x"), ("version", .string "1"), countsMember]

private def annotatedValue : Json.Value :=
  .object (frontMembers ++
    [(dependenciesKey, .array [.object (("note", .object []) :: dependencyMembers)])])

private theorem readable_dependencyMembers {depth : Nat} :
    ∀ member ∈ dependencyMembers, member.2.Readable depth := by
  simp only [dependencyMembers, List.forall_mem_cons]
  exact ⟨Json.readable_string _, Json.readable_string _, by simp⟩

private theorem readable_countsMember {depth : Nat} :
    countsMember.2.Readable (depth + 1) := by
  refine .object ?_
  simp only [List.forall_mem_cons]
  exact ⟨Json.readable_integer ⟨by decide, by decide⟩, Json.readable_integer ⟨by decide, by decide⟩,
    by simp⟩

private theorem read_spreadValue : Json.read spreadValue.document = .ok spreadValue := by
  refine Json.read_indented (.object ?_) 0
  simp only [List.forall_mem_cons]
  refine ⟨Json.readable_string _, Json.readable_string _, Json.readable_string _,
    readable_countsMember, .array ?_, by simp⟩
  rw [List.forall_mem_singleton]
  exact .object readable_dependencyMembers

private theorem read_annotatedValue : Json.read annotatedValue.document = .ok annotatedValue := by
  refine Json.read_indented (.object ?_) 0
  simp only [frontMembers, List.forall_mem_append, List.forall_mem_cons]
  refine ⟨⟨Json.readable_string _, Json.readable_string _, Json.readable_string _,
    readable_countsMember, by simp⟩, .array ?_, by simp⟩
  rw [List.forall_mem_singleton]
  exact .object (List.forall_mem_cons.mpr ⟨.object (by simp), readable_dependencyMembers⟩)

private theorem distinctKeys_string (text : String) : (Json.Value.string text).DistinctKeys :=
  Json.distinctKeys_of_isScalar rfl

private theorem distinctKeys_integer (n : Int) : (Json.Value.integer n).DistinctKeys :=
  Json.distinctKeys_of_isScalar rfl

private theorem distinctKeys_spreadValue : spreadValue.DistinctKeys := by
  simp only [spreadValue, countsMember, dependencyMembers, Json.distinctKeys_object_iff,
    Json.distinctKeys_array_iff, List.forall_mem_cons, distinctKeys_string, distinctKeys_integer]
  simp [dependenciesKey]

/-- The names change places, and a note is added to the dependency. -/
theorem parse_rearranged_annotated :
    Json.read spreadValue.document = .ok spreadValue ∧
    Json.read annotatedValue.document = .ok annotatedValue ∧
    spreadValue.DistinctKeys ∧ Relation.ReflTransGen Rearranges spreadValue annotatedValue ∧
    (∃ report, parse spreadValue.document "r.json" = .ok report) ∧
    ∀ source one another report, parse spreadValue.document source one = .ok report ↔
      parse annotatedValue.document source another = .ok report := by
  have hreorder : Rearranges spreadValue
      (.object (frontMembers ++ [(dependenciesKey, .array [.object dependencyMembers])])) :=
    .reorder (.swap _ _ _)
  have hnote : Rearranges (.object dependencyMembers)
      (.object (("note", .object []) :: dependencyMembers)) :=
    @Rearranges.insert [] dependencyMembers "note" (.object []) (by decide +kernel)
  have hinsert : Rearranges
      (.object (frontMembers ++ [(dependenciesKey, .array [.object dependencyMembers])]))
      annotatedValue :=
    @Rearranges.dependency frontMembers [] [] [] _ _ hnote
  have hrun : Relation.ReflTransGen Rearranges spreadValue annotatedValue :=
    .tail (.single hreorder) hinsert
  have hreport : ∃ report, parse spreadValue.document "r.json" = .ok report :=
    fault?_eq_none_iff.mp (Option.isNone_iff_eq_none.mp (by decide +kernel))
  have huntied : (ofValue spreadValue).Untied := by decide +kernel
  obtain ⟨-, -, hsame, -⟩ :=
    parse_rearranged read_spreadValue read_annotatedValue distinctKeys_spreadValue hrun
  refine ⟨read_spreadValue, read_annotatedValue, distinctKeys_spreadValue, hrun, hreport,
    hsame.mpr (.inr fun raw hraw ↦ ?_)⟩
  obtain ⟨-, rfl⟩ := (read_eq_ok_iff_admits read_spreadValue).mp hraw
  exact huntied

private def tiedMember : String × Json.Value :=
  ("directVulnerabilityCounts", .object [("CRITICAL", .integer 1), ("critical", .integer 2)])

private def tiedValue : Json.Value :=
  .object [("name", .string "a"), ("version", .string "1"), tiedMember]

private def swappedValue : Json.Value :=
  .object [("version", .string "1"), ("name", .string "a"), tiedMember]

private theorem readable_tiedMember {depth : Nat} : tiedMember.2.Readable (depth + 1) := by
  refine .object ?_
  simp only [List.forall_mem_cons]
  exact ⟨Json.readable_integer ⟨by decide, by decide⟩, Json.readable_integer ⟨by decide, by decide⟩,
    by simp⟩

private theorem read_tiedValue : Json.read tiedValue.document = .ok tiedValue := by
  refine Json.read_indented (.object ?_) 0
  simp only [List.forall_mem_cons]
  exact ⟨Json.readable_string _, Json.readable_string _, readable_tiedMember, by simp⟩

private theorem read_swappedValue : Json.read swappedValue.document = .ok swappedValue := by
  refine Json.read_indented (.object ?_) 0
  simp only [List.forall_mem_cons]
  exact ⟨Json.readable_string _, Json.readable_string _, readable_tiedMember, by simp⟩

private theorem distinctKeys_tiedValue : tiedValue.DistinctKeys := by
  simp only [tiedValue, tiedMember, Json.distinctKeys_object_iff, List.forall_mem_cons,
    distinctKeys_string, distinctKeys_integer]
  simp

private theorem read_ofValue_swappedValue :
    RawReport.read swappedValue.document = .ok (ofValue swappedValue) := by
  obtain ⟨raw, hraw⟩ : ∃ raw, RawReport.read swappedValue.document = .ok raw :=
    fault?_eq_none_iff.mp (Option.isNone_iff_eq_none.mp (by decide +kernel))
  obtain ⟨hadmits, -⟩ := (read_eq_ok_iff_admits read_swappedValue).mp hraw
  exact (read_eq_ok_iff_admits read_swappedValue).mpr ⟨hadmits, rfl⟩

/-- The name and the version change places. In the nested map two entries name critical, and another
one of them may come first when the second document is read. -/
theorem not_parse_rearranged_tied :
    Json.read tiedValue.document = .ok tiedValue ∧
    Json.read swappedValue.document = .ok swappedValue ∧
    tiedValue.DistinctKeys ∧ Rearranges tiedValue swappedValue ∧
    (parse tiedValue.document "r.json").toOption.map (·.input.direct) =
      some ⟨.clamp 1, 0, 0, 0⟩ ∧
    ∃ order, (parse swappedValue.document "r.json" order).toOption.map (·.input.direct) =
      some ⟨.clamp 2, 0, 0, 0⟩ := by
  have hcounts : (((ofValue swappedValue).withNested .direct
      [("critical", some 2), ("CRITICAL", some 1)]).resolve "r.json").toOption.map
        (·.input.direct) = some ⟨.clamp 2, 0, 0, 0⟩ := by
    decide +kernel
  obtain ⟨report, hresolve, hreport⟩ := exists_eq_ok_of_map hcounts
  have hperm : ((ofValue swappedValue).nested .direct).Perm
      [("critical", some 2), ("CRITICAL", some 1)] :=
    .swap _ _ _
  obtain ⟨order, horder⟩ := exists_order_parse read_ofValue_swappedValue hperm
  refine ⟨read_tiedValue, read_swappedValue, distinctKeys_tiedValue, .reorder (.swap _ _ _), ?_,
    order, ?_⟩
  · decide +kernel
  · rw [horder, hresolve]
    exact congrArg some hreport

end Report

end PackageRisk
