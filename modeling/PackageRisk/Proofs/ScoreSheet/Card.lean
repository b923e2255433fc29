import PackageRisk.Proofs.Json.RoundTrip
import PackageRisk.Proofs.Json.Binding
import PackageRisk.ScoreSheet.Json

/-!
# The object of the score card

The members of the score card in the order of their keys, with those that may be left out marked as
missing. The keys are all different, so looking one up gives the value of its entry.
-/

namespace PackageRisk.ScoreSheet

open Json

/-! ### Members that may be left out -/

/-- The members of entries, without those that have no value. -/
def present (entries : List (String × Option Value)) : Members :=
  entries.flatMap fun entry ↦ optional entry.1 id entry.2

private theorem present_cons (entry : String × Option Value)
    (entries : List (String × Option Value)) :
    present (entry :: entries) = optional entry.1 id entry.2 ++ present entries :=
  List.flatMap_cons

private theorem optional_map {α : Type} (key : String) (value : α → Value) (content : Option α) :
    optional key id (content.map value) = optional key value content := by
  cases content <;> rfl

private theorem mem_optional_iff {key : String} {value? : Option Value} {member : String × Value} :
    member ∈ optional key id value? ↔ member.1 = key ∧ value? = some member.2 := by
  obtain ⟨name, value⟩ := member
  cases value? <;> simp [optional, eq_comm]

/-- The members are those of the entries with a value. -/
theorem mem_present_iff {entries : List (String × Option Value)} {member : String × Value} :
    member ∈ present entries ↔ (member.1, some member.2) ∈ entries := by
  rw [present, List.mem_flatMap]
  constructor
  · rintro ⟨⟨key, value?⟩, hentry, hmember⟩
    obtain ⟨hkey, rfl⟩ := mem_optional_iff.mp hmember
    rw [hkey]
    exact hentry
  · intro hentry
    exact ⟨_, hentry, mem_optional_iff.mpr ⟨rfl, rfl⟩⟩

private theorem lookup_optional (key other : String) (value? : Option Value) :
    lookup (optional key id value?) other = if key = other then value? else none := by
  cases value? with
  | none => simp [optional]
  | some value => exact lookup_singleton ..

/-- If no key is repeated, the members give a key the value of its entry. -/
theorem lookup_present {entries : List (String × Option Value)}
    (hnodup : (entries.map (·.1)).Nodup) (key : String) :
    lookup (present entries) key = (lookup entries key).join := by
  induction entries with
  | nil => rfl
  | cons entry entries ih =>
    obtain ⟨hnew, hrest⟩ := List.nodup_cons.mp hnodup
    rw [present_cons, lookup_append, lookup_cons, lookup_optional, ih hrest]
    by_cases hkey : entry.1 = key
    · have hnone : lookup entries key = none := by
        rw [lookup_eq_none_iff]
        intro other hother heq
        exact hnew (List.mem_map.mpr ⟨other, hother, heq.trans hkey.symm⟩)
      rw [hnone, if_pos hkey, if_pos hkey]
      rfl
    · rw [if_neg hkey, if_neg hkey, Option.or_none, Option.or_none]

/-- The keys of the members are among those of the entries, in the same order. -/
theorem sublist_keys (entries : List (String × Option Value)) :
    ((present entries).map (·.1)).Sublist (entries.map (·.1)) := by
  induction entries with
  | nil => exact .slnil
  | cons entry entries ih =>
    obtain ⟨key, value?⟩ := entry
    rw [present_cons, List.map_append]
    cases value? with
    | none => exact ih.cons key
    | some value => exact ih.cons_cons key

/-- A function of the values maps the members by mapping the entries. -/
theorem map_present (f : Value → Value) (entries : List (String × Option Value)) :
    (present entries).map (fun member ↦ (member.1, f member.2)) =
      present (entries.map fun entry ↦ (entry.1, entry.2.map f)) := by
  induction entries with
  | nil => rfl
  | cons entry entries ih =>
    obtain ⟨key, value?⟩ := entry
    rw [present_cons, List.map_append, ih, List.map_cons, present_cons]
    cases value? <;> rfl

/-! ### The entries of the score card -/

/-- The entries of the score card, with those that may be left out. -/
def cardEntries (card : PackageCard) : List (String × Option Value) :=
  [("name", some (.string card.name)), ("version", some (.string card.version)),
    ("totalScore", some (.integer card.total.val)), ("grade", some (.string card.grade)),
    ("gradeClass", some (.string card.gradeClass)), ("banner", card.banner.map bannerValue),
    ("freshnessScore", some (.number (.float card.freshness))),
    ("allDependencyCount", some (countValue card.allDependencies)),
    ("immediateDependencyCount", some (countValue card.immediateDependencies)),
    ("directVulnerabilityCounts", some (countsValue card.direct)),
    ("indirectVulnerabilityCounts", some (countsValue card.indirect)),
    ("authors", card.authors.map countValue), ("contributors", card.contributors.map countValue),
    ("scoringDate", card.scoringDate.map .string), ("releaseDate", card.releaseDate.map .string),
    ("breakdown", card.breakdown.map fun entries ↦ .array (entries.map termValue))]

/-- The value of a package card is the object of the entries that are present. -/
theorem packageValue_eq (card : PackageCard) :
    packageValue card = .object (present (cardEntries card)) := by
  simp only [packageValue, cardEntries, present, List.flatMap_cons, List.flatMap_nil, optional_map]
  simp [optional]

/-- No key of a package card stands twice. -/
theorem nodup_cardEntries (card : PackageCard) : ((cardEntries card).map (·.1)).Nodup := by
  have hkeys : ["name", "version", "totalScore", "grade", "gradeClass", "banner", "freshnessScore",
      "allDependencyCount", "immediateDependencyCount", "directVulnerabilityCounts",
      "indirectVulnerabilityCounts", "authors", "contributors", "scoringDate", "releaseDate",
      "breakdown"].Nodup := by
    decide
  exact hkeys

/-- The score card gives a key the value of its entry. -/
theorem lookup_card (card : PackageCard) (key : String) :
    lookup (present (cardEntries card)) key = (lookup (cardEntries card) key).join :=
  lookup_present (nodup_cardEntries card) key

/-! ### Rereading the score card -/

private theorem rereadMembers_present (entries : List (String × Option Value)) :
    rereadMembers (present entries) =
      present (entries.map fun entry ↦ (entry.1, entry.2.map Value.reread)) := by
  rw [rereadMembers_eq, map_present]

private theorem map_reread {α : Type} (value : α → Value)
    (h : ∀ content, (value content).reread = value content) (content : Option α) :
    (content.map value).map Value.reread = content.map value := by
  rw [Option.map_map]
  congr 1
  funext content
  exact h content

private theorem reread_terms (terms : List Term) :
    (Value.array (terms.map termValue)).reread = .array (terms.map termValue) := by
  rw [Value.reread, rereadItems_eq, List.map_map]
  rfl

/-- Only the freshness of a score card can change when its text is read. -/
theorem reread_packageValue (card : PackageCard) :
    (packageValue card).reread =
      packageValue { card with freshness := readBack card.freshness } := by
  rw [packageValue_eq, packageValue_eq, Value.reread, rereadMembers_present]
  simp only [cardEntries, List.map_cons, List.map_nil, map_reread bannerValue fun _ ↦ rfl,
    map_reread countValue fun _ ↦ rfl, map_reread .string fun _ ↦ rfl, map_reread _ reread_terms]
  rfl

/-! ### Reading the score card -/

section Readable

variable {depth : Nat}

/-- Counts can be read at any depth. -/
theorem readable_count (count : Count) : (countValue count).Readable depth := by
  have hlt := count.lt
  exact readable_integer ⟨by omega, by omega⟩

/-- Points can be read at any depth. -/
theorem readable_points (points : Points) : (Value.integer points.val).Readable depth := by
  have hge := points.ge
  have hlt := points.lt
  exact readable_integer ⟨hge, by omega⟩

/-- Vulnerability counts can be read one level deep. -/
theorem readable_counts (counts : VulnerabilityCounts) :
    (countsValue counts).Readable (depth + 1) := by
  refine .object fun member hmember ↦ ?_
  obtain ⟨severity, -, rfl⟩ := List.mem_map.mp hmember
  exact readable_count _

/-- Terms can be read two levels deep. -/
theorem readable_terms (terms : List Term) :
    (Value.array (terms.map termValue)).Readable (depth + 2) := by
  refine .array fun item hitem ↦ ?_
  obtain ⟨entry, -, rfl⟩ := List.mem_map.mp hitem
  refine .object fun member hmember ↦ ?_
  rcases List.mem_pair.mp hmember with rfl | rfl
  · exact readable_string _
  · exact readable_points _

/-- Entries with readable values are read. -/
theorem readable_present {entries : List (String × Option Value)}
    (h : ∀ entry ∈ entries, ∀ value ∈ entry.2, value.Readable depth) :
    (Value.object (present entries)).Readable (depth + 1) :=
  .object fun _ hmember ↦ h _ (mem_present_iff.mp hmember) _ rfl

/-- The score card of a finite freshness is read. -/
theorem readable_packageValue {card : PackageCard} (hfinite : card.freshness.isFinite = true) :
    (packageValue card).Readable (depth + 3) := by
  rw [packageValue_eq]
  refine readable_present ?_
  have hfreshness : (Value.number (.float card.freshness)).Readable (depth + 2) :=
    .scalar rfl fun _ heq ↦ by cases heq; exact hfinite
  simp only [cardEntries, List.forall_mem_cons, Option.forall_mem_map, Option.mem_some_iff,
    forall_eq', readable_string, readable_points, readable_count, readable_counts, readable_terms,
    bannerValue, hfreshness]
  simp

end Readable

end PackageRisk.ScoreSheet
