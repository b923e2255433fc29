import PackageRisk.OutputFormat
import PackageRisk.Proofs.Json.Spelled
import PackageRisk.Proofs.ScoreSheet.Reparse
import PackageRisk.Proofs.ScoreSheet.Shown

/-!
# Reading score sheets

Every score sheet has a text in JSON that is read again, whatever its strings and numbers, and the
value that is read shows the sheet. So two sheets with one text show the same.
-/

namespace PackageRisk

namespace ScoreSheet

open Json

/-! ### Objects as they are read -/

/-- An object of entries is read as an object of the same entries. -/
theorem isObject_asRead (entries : List (String × Option Value))
    (hnodup : (entries.map (·.1)).Nodup) :
    (Value.object (present entries)).asRead.IsObject
      (entries.map fun entry ↦ (entry.1, entry.2.map Value.asRead)) := by
  refine ⟨_, by rw [asRead_object, map_present], ?_, fun key content ↦ mem_present_iff⟩
  refine List.Nodup.sublist (sublist_keys _) ?_
  rw [List.map_map]
  exact hnodup

/-- An optional content whose value is read as it is written is read so. -/
theorem map_asRead {α : Type} (value : α → Value)
    (h : ∀ content, (value content).asRead = value content) (content? : Option α) :
    (content?.map value).map Value.asRead = content?.map value := by
  rw [Option.map_map]
  congr 1
  funext content
  exact h content

/-- What may be missing is shown by a member that may be missing. -/
theorem rel_map_asRead {α : Type} {Shown : α → Value → Prop} {value : α → Value}
    (h : ∀ content, Shown content (value content).asRead) (content? : Option α) :
    Option.Rel Shown content? ((content?.map value).map Value.asRead) := by
  cases content? with
  | none => exact .none
  | some content => exact .some (h content)

/-- A list is shown item by item. -/
theorem forall₂_map_asRead {α : Type} {Shown : α → Value → Prop} {value : α → Value}
    (h : ∀ content, Shown content (value content).asRead) (contents : List α) :
    List.Forall₂ Shown contents ((contents.map value).map Value.asRead) := by
  rw [List.map_map, List.forall₂_map_right_iff, List.forall₂_same]
  exact fun content _ ↦ h content

/-! ### The parts of a sheet -/

private theorem shownBy_freshness (x : Binary64) : x.ShownBy (Value.number (.float x)).asRead where
  read_eq := read_numberText x
  finite h := by
    refine ⟨readBack x, isFinite_readBack h, ?_⟩
    rw [Value.asRead, Value.spelled, Number.spelled, if_pos h]
    rfl
  null h := by
    rw [Value.asRead, Value.spelled, Number.spelled, h, if_neg Bool.false_ne_true]
    rfl

private theorem shownBy_imprintValue (imprint : Imprint) :
    imprint.ShownBy (imprintValue imprint).asRead :=
  ⟨_, isObject_asRead [("timestamp", some (.string imprint.timestamp)),
      ("tool", some (.object (present [("name", some (.string imprint.toolName)),
        ("version", some (.string imprint.toolVersion))]))),
      ("reportId", some (.string imprint.reportId))] (by simp),
    isObject_asRead [("name", some (.string imprint.toolName)),
      ("version", some (.string imprint.toolVersion))] (by simp)⟩

private theorem shownBy_countsValue (counts : VulnerabilityCounts) :
    counts.ShownBy (countsValue counts).asRead :=
  isObject_asRead [("critical", some (countValue counts.critical)),
    ("high", some (countValue counts.high)), ("medium", some (countValue counts.medium)),
    ("low", some (countValue counts.low))] (by simp)

private theorem shownBy_termValue (entry : Term) : entry.ShownBy (termValue entry).asRead :=
  isObject_asRead [("label", some (.string entry.label)),
    ("delta", some (.integer entry.points.val))] (by simp)

private theorem shownBy_terms (entries : List Term) :
    Term.AllShownBy entries (Value.array (entries.map termValue)).asRead :=
  ⟨_, asRead_array _, forall₂_map_asRead shownBy_termValue entries⟩

private theorem shownBy_packageValue (card : PackageCard) :
    card.ShownBy (packageValue card).asRead := by
  have hobject := isObject_asRead _ (nodup_cardEntries card)
  rw [← packageValue_eq, cardEntries] at hobject
  simp only [List.map_cons, List.map_nil, map_asRead bannerValue fun _ ↦ rfl,
    map_asRead countValue fun _ ↦ rfl, map_asRead .string fun _ ↦ rfl] at hobject
  exact ⟨_, _, _, _, hobject, shownBy_freshness _, shownBy_countsValue _, shownBy_countsValue _,
    rel_map_asRead shownBy_terms _⟩

/-- The entries of a row, with the one that may be left out. -/
def rowEntries (row : DependencyRow) : List (String × Option Value) :=
  [("name", some (.string row.name)), ("version", some (.string row.version)),
    ("totalScore", some (.integer row.total.val)), ("grade", some (.string row.grade)),
    ("gradeClass", some (.string row.gradeClass)),
    ("allDependencyCount", some (countValue row.allDependencies)),
    ("banner", row.banner.map bannerValue)]

private theorem dependencyValue_eq (row : DependencyRow) :
    dependencyValue row = .object (present (rowEntries row)) := by
  rw [dependencyValue, rowEntries]
  cases row.banner <;> rfl

private theorem shownBy_dependencyValue (row : DependencyRow) :
    row.ShownBy (dependencyValue row).asRead := by
  have hobject := isObject_asRead (rowEntries row) (by simp [rowEntries])
  rw [← dependencyValue_eq, rowEntries] at hobject
  simp only [List.map_cons, List.map_nil, map_asRead bannerValue fun _ ↦ rfl] at hobject
  exact hobject

/-- The last bucket of a grade is shown, and no other one. -/
theorem shownBy_distributionValue (buckets : List (String × Nat)) :
    DistributionShownBy buckets (distributionValue buckets).asRead := by
  refine ⟨_, by rw [distributionValue, asRead_object, List.map_map], ?_,
    fun grade content ↦ ?_⟩
  · rw [List.map_map]
    exact (increasing_sortByKey buckets).nodup
  · rw [List.mem_map]
    constructor
    · rintro ⟨⟨_, n⟩, hbucket, hmember⟩
      cases hmember
      exact ⟨n, mem_sortByKey.mp hbucket, rfl⟩
    · rintro ⟨n, hlookup, rfl⟩
      exact ⟨(grade, n), mem_sortByKey.mpr hlookup, rfl⟩

private theorem shownBy_gateValue (view : GateView) : view.ShownBy (gateValue view).asRead :=
  isObject_asRead [("grade", some (.string view.minGrade)),
    ("passed", some (.boolean view.passed))] (by simp)

/-- The entries of a sheet, with the one that may be left out. -/
def entries (sheet : ScoreSheet) : List (String × Option Value) :=
  [("metadata", some (imprintValue sheet.imprint)), ("package", some (packageValue sheet.package)),
    ("dependencies", some (.array (sheet.dependencies.map dependencyValue))),
    ("gradeDistribution", some (distributionValue sheet.distribution)),
    ("minGrade", sheet.gate.map gateValue)]

/-- The value of a sheet is the object of the entries that are present. -/
theorem toJson_eq (sheet : ScoreSheet) : sheet.toJson = .object (present sheet.entries) := by
  rw [toJson, entries]
  cases sheet.gate <;> rfl

/-- The keys of a sheet are all different. -/
theorem nodup_entries (sheet : ScoreSheet) : (sheet.entries.map (·.1)).Nodup := by
  simp [entries]

/-- The check for a minimum grade stands under its key, if there is one. -/
theorem lookup_minGrade (sheet : ScoreSheet) :
    lookup (present sheet.entries) "minGrade" = sheet.gate.map gateValue := by
  rw [lookup_present sheet.nodup_entries]
  rfl

private theorem shownBy_toJson (sheet : ScoreSheet) : sheet.ShownBy sheet.toJson.asRead := by
  have hobject := isObject_asRead sheet.entries sheet.nodup_entries
  rw [← toJson_eq, entries] at hobject
  simp only [List.map_cons, List.map_nil, Option.map_some, asRead_array] at hobject
  exact ⟨_, _, _, _, _, hobject, shownBy_imprintValue _, shownBy_packageValue _,
    forall₂_map_asRead shownBy_dependencyValue _, shownBy_distributionValue _,
    rel_map_asRead shownBy_gateValue _⟩

/-! ### The text of a sheet -/

section Readable

variable {depth : Nat}

/-- Entries with values that are spelled readably are read. -/
theorem readable_spelled_present {entries : List (String × Option Value)}
    (h : ∀ entry ∈ entries, ∀ value ∈ entry.2, value.spelled.Readable depth) :
    (Value.object (present entries)).spelled.Readable (depth + 1) :=
  readable_spelled_object fun _ hmember ↦ h _ (mem_present_iff.mp hmember) _ rfl

/-- Every score card is read. -/
theorem readable_spelled_packageValue (card : PackageCard) :
    (packageValue card).spelled.Readable (depth + 3) := by
  rw [packageValue_eq]
  refine readable_spelled_present ?_
  simp only [cardEntries, List.forall_mem_cons, Option.forall_mem_map, Option.mem_some_iff,
    forall_eq', bannerValue, (readable_string _).spelled, (readable_points _).spelled,
    (readable_count _).spelled, (readable_counts _).spelled, (readable_terms _).spelled,
    readable_spelled_float]
  simp

private theorem readable_dependencies (rows : List DependencyRow) :
    (Value.array (rows.map dependencyValue)).Readable (depth + 2) := by
  refine .array fun item hitem ↦ ?_
  obtain ⟨row, -, rfl⟩ := List.mem_map.mp hitem
  exact readable_dependencyValue row

/-- Every sheet with buckets of moderate size is read. -/
theorem readable_spelled_toJson {sheet : ScoreSheet}
    (hbuckets : ∀ bucket ∈ sheet.distribution, bucket.2 < 2 ^ 64) :
    sheet.toJson.spelled.Readable (depth + 4) := by
  rw [toJson_eq]
  refine readable_spelled_present ?_
  simp only [entries, List.forall_mem_cons, Option.forall_mem_map, Option.mem_some_iff, forall_eq']
  exact ⟨(readable_imprintValue _).spelled, readable_spelled_packageValue _,
    (readable_dependencies _).spelled, (readable_distributionValue hbuckets).spelled,
    fun view _ ↦ (readable_gateValue view).spelled, by simp⟩

end Readable

/-- A rendered sheet is read as the value of the sheet. -/
theorem read_render_eq {sheet : ScoreSheet}
    (hbuckets : ∀ bucket ∈ sheet.distribution, bucket.2 < 2 ^ 64) :
    read (OutputFormat.json.render sheet) = .ok sheet.toJson.asRead :=
  read_document (readable_spelled_toJson hbuckets)

/-- Every rendered sheet is one JSON document that shows all of the sheet, and sheets with the same
text show the same. -/
theorem shown_of_render {sheet : ScoreSheet}
    (hbuckets : ∀ bucket ∈ sheet.distribution, bucket.2 < 2 ^ 64) :
    ∃ value, read (OutputFormat.json.render sheet) = .ok value ∧ sheet.ShownBy value ∧
      ∀ other : ScoreSheet, (∀ bucket ∈ other.distribution, bucket.2 < 2 ^ 64) →
        OutputFormat.json.render other = OutputFormat.json.render sheet →
        sheet.SameShown other := by
  refine ⟨_, read_render_eq hbuckets, shownBy_toJson sheet, fun other hother htext ↦ ?_⟩
  have hread := read_render_eq hother
  rw [htext, read_render_eq hbuckets] at hread
  refine (shownBy_toJson sheet).sameShown ?_
  rw [Except.ok.inj hread]
  exact shownBy_toJson other

/-- A sheet with texts to escape, extreme numbers and two buckets of one grade. -/
private def oddSheet (freshness : Binary64) (icon : String) : ScoreSheet where
  imprint := ⟨"\n", "a\"b\\c", "", "\x00\x1f\x7f"⟩
  package := {
    name := "😀"
    version := "\u2028"
    total := Points.clamp Points.least
    grade := "A"
    gradeClass := "a"
    banner := some ⟨"fail", icon⟩
    freshness := freshness
    allDependencies := Count.clamp Count.max
    immediateDependencies := 0
    direct := ⟨Count.clamp Count.max, 0, 1, 0⟩
    indirect := 0
    authors := none
    contributors := some (Count.clamp Count.max)
    scoringDate := some ""
    releaseDate := none
    breakdown := some [⟨"\x7b", 0⟩, ⟨"\t", Points.clamp Points.greatest⟩] }
  dependencies := [⟨"b", "2", 0, "F", "f", 0, none⟩, ⟨"a", "1", 0, "A", "a", 1, none⟩]
  distribution := [("B", 1), ("A", 2), ("B", Count.max)]
  gate := none

/-- Neither the code without a number nor the icon of the banner is in the text. -/
theorem shown_of_render_odd :
    (∀ bucket ∈ (oddSheet (.nan true) "x").distribution, bucket.2 < 2 ^ 64) ∧
      ∃ value, read (OutputFormat.json.render (oddSheet (.nan true) "x")) = .ok value ∧
        (oddSheet (.nan true) "x").ShownBy value ∧
        (oddSheet (.nan true) "x").SameShown (oddSheet (.infinity false) "y") := by
  have hbuckets (freshness : Binary64) (icon : String) :
      ∀ bucket ∈ (oddSheet freshness icon).distribution, bucket.2 < 2 ^ 64 := by
    change ∀ bucket ∈ [("B", 1), ("A", 2), ("B", Count.max)], bucket.2 < 2 ^ 64
    decide
  obtain ⟨value, hread, hshown, hsame⟩ := shown_of_render (hbuckets (.nan true) "x")
  have htext : OutputFormat.json.render (oddSheet (.infinity false) "y") =
      OutputFormat.json.render (oddSheet (.nan true) "x") :=
    document_eq_of_spelled_eq rfl
  exact ⟨hbuckets _ _, value, hread, hshown, hsame _ (hbuckets _ _) htext⟩

end ScoreSheet

end PackageRisk
