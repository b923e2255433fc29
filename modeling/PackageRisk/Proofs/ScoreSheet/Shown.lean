import PackageRisk.Proofs.Json.FloatText
import PackageRisk.Proofs.Json.Object
import PackageRisk.ScoreSheet

/-!
# What JSON shows of a score sheet

The JSON value of a score sheet, told part by part: which members each object has, and what stands
under them. Members without a value are missing. Two sheets that one value shows agree on all that
is shown; the freshness is shown by what its text is read as, and the icons are not shown.
-/

namespace PackageRisk

open Json (Value)

/-! ### The parts of a sheet -/

/-- A number is shown by what its text is read as: a number, or null if it is not finite. -/
structure Binary64.ShownBy (x : Binary64) (value : Value) : Prop where
  read_eq : Json.read (Json.numberStyle.write x) = .ok value
  finite (h : x.isFinite = true) : ∃ y : Binary64, y.isFinite = true ∧ value = .number (.float y)
  null (h : x.isFinite = false) : value = .null

/-- An imprint is shown by an object, with another one for the program. -/
def Imprint.ShownBy (imprint : Imprint) (value : Value) : Prop :=
  ∃ tool,
    value.IsObject
      [("timestamp", some (.string imprint.timestamp)), ("tool", some tool),
        ("reportId", some (.string imprint.reportId))] ∧
    tool.IsObject
      [("name", some (.string imprint.toolName)), ("version", some (.string imprint.toolVersion))]

/-- Vulnerability counts are shown by the exact number for each severity. -/
def VulnerabilityCounts.ShownBy (counts : VulnerabilityCounts) (value : Value) : Prop :=
  value.IsObject
    [("critical", some (.integer counts.critical.val)), ("high", some (.integer counts.high.val)),
      ("medium", some (.integer counts.medium.val)), ("low", some (.integer counts.low.val))]

/-- A term is shown by its label and its exact points. -/
def Term.ShownBy (entry : Term) (value : Value) : Prop :=
  value.IsObject
    [("label", some (.string entry.label)), ("delta", some (.integer entry.points.val))]

/-- An explanation is shown by an array of its entries, in order. -/
def Term.AllShownBy (entries : List Term) (value : Value) : Prop :=
  ∃ items, value = .array items ∧ List.Forall₂ Term.ShownBy entries items

/-- A score card is shown by an object without members for what the card does not have. -/
def PackageCard.ShownBy (card : PackageCard) (value : Value) : Prop :=
  ∃ freshness direct indirect breakdown,
    value.IsObject
      [("name", some (.string card.name)), ("version", some (.string card.version)),
        ("totalScore", some (.integer card.total.val)), ("grade", some (.string card.grade)),
        ("gradeClass", some (.string card.gradeClass)),
        ("banner", card.banner.map fun banner ↦ .string banner.styleClass),
        ("freshnessScore", some freshness),
        ("allDependencyCount", some (.integer card.allDependencies.val)),
        ("immediateDependencyCount", some (.integer card.immediateDependencies.val)),
        ("directVulnerabilityCounts", some direct), ("indirectVulnerabilityCounts", some indirect),
        ("authors", card.authors.map fun count ↦ .integer count.val),
        ("contributors", card.contributors.map fun count ↦ .integer count.val),
        ("scoringDate", card.scoringDate.map .string),
        ("releaseDate", card.releaseDate.map .string), ("breakdown", breakdown)] ∧
    card.freshness.ShownBy freshness ∧ card.direct.ShownBy direct ∧
    card.indirect.ShownBy indirect ∧ Option.Rel Term.AllShownBy card.breakdown breakdown

/-- A row is shown by an object without a member for a missing banner. -/
def DependencyRow.ShownBy (row : DependencyRow) (value : Value) : Prop :=
  value.IsObject
    [("name", some (.string row.name)), ("version", some (.string row.version)),
      ("totalScore", some (.integer row.total.val)), ("grade", some (.string row.grade)),
      ("gradeClass", some (.string row.gradeClass)),
      ("allDependencyCount", some (.integer row.allDependencies.val)),
      ("banner", row.banner.map fun banner ↦ .string banner.styleClass)]

/-- A distribution is shown by the number of the last bucket of every grade. -/
def ScoreSheet.DistributionShownBy (buckets : List (String × Nat)) (value : Value) : Prop :=
  ∃ members, value = .object members ∧ (members.map (·.1)).Nodup ∧
    ∀ grade content, (grade, content) ∈ members ↔
      ∃ n : Nat, Json.lookup buckets grade = some n ∧ content = .integer n

/-- The check for a minimum grade is shown by this grade and the outcome. -/
def GateView.ShownBy (view : GateView) (value : Value) : Prop :=
  value.IsObject
    [("grade", some (.string view.minGrade)), ("passed", some (.boolean view.passed))]

/-- A sheet is shown by one object, with one item for every row and without a member for a missing
check. -/
def ScoreSheet.ShownBy (sheet : ScoreSheet) (value : Value) : Prop :=
  ∃ imprint package rows distribution gate,
    value.IsObject
      [("metadata", some imprint), ("package", some package), ("dependencies", some (.array rows)),
        ("gradeDistribution", some distribution), ("minGrade", gate)] ∧
    sheet.imprint.ShownBy imprint ∧ sheet.package.ShownBy package ∧
    List.Forall₂ DependencyRow.ShownBy sheet.dependencies rows ∧
    DistributionShownBy sheet.distribution distribution ∧
    Option.Rel GateView.ShownBy sheet.gate gate

/-! ### Sheets that show the same -/

/-- The same is shown of two score cards. -/
structure PackageCard.SameShown (card other : PackageCard) : Prop where
  name : card.name = other.name
  version : card.version = other.version
  total : card.total = other.total
  grade : card.grade = other.grade
  gradeClass : card.gradeClass = other.gradeClass
  banner : card.banner.map BannerView.styleClass = other.banner.map BannerView.styleClass
  freshness : Json.read (Json.numberStyle.write card.freshness) =
    Json.read (Json.numberStyle.write other.freshness)
  allDependencies : card.allDependencies = other.allDependencies
  immediateDependencies : card.immediateDependencies = other.immediateDependencies
  direct : card.direct = other.direct
  indirect : card.indirect = other.indirect
  authors : card.authors = other.authors
  contributors : card.contributors = other.contributors
  scoringDate : card.scoringDate = other.scoringDate
  releaseDate : card.releaseDate = other.releaseDate
  breakdown : card.breakdown = other.breakdown

/-- The same is shown of two rows. -/
structure DependencyRow.SameShown (row other : DependencyRow) : Prop where
  name : row.name = other.name
  version : row.version = other.version
  total : row.total = other.total
  grade : row.grade = other.grade
  gradeClass : row.gradeClass = other.gradeClass
  allDependencies : row.allDependencies = other.allDependencies
  banner : row.banner.map BannerView.styleClass = other.banner.map BannerView.styleClass

/-- The same is shown of two sheets. -/
structure ScoreSheet.SameShown (sheet other : ScoreSheet) : Prop where
  imprint : sheet.imprint = other.imprint
  package : sheet.package.SameShown other.package
  dependencies : List.Forall₂ DependencyRow.SameShown sheet.dependencies other.dependencies
  distribution (grade : String) :
    Json.lookup sheet.distribution grade = Json.lookup other.distribution grade
  gate : sheet.gate = other.gate

/-! ### One value shows one sheet -/

section Unique

variable {value : Value}

private theorem Count.integer_inj {a b : Count} : Value.integer a.val = .integer b.val ↔ a = b := by
  rw [Count.ext_iff, Value.integer, Value.integer, Value.number.injEq, Json.Number.integer.injEq,
    Int.natCast_inj]

private theorem Points.integer_inj {a b : Points} :
    Value.integer a.val = .integer b.val ↔ a = b := by
  rw [Points.ext_iff, Value.integer, Value.integer, Value.number.injEq, Json.Number.integer.injEq]

/-- Counts that may be missing are the same if the same is shown of them. -/
theorem Count.eq_of_map_integer {count? other? : Option Count}
    (h : count?.map (fun count ↦ Value.integer count.val) =
      other?.map fun count ↦ .integer count.val) : count? = other? :=
  Option.map_injective (fun _ _ ↦ Count.integer_inj.mp) h

/-- Texts that may be missing are the same if the same is shown of them. -/
theorem eq_of_map_string {text? other? : Option String}
    (h : text?.map Value.string = other?.map .string) : text? = other? :=
  Option.map_injective (fun _ _ ↦ Value.string.inj) h

/-- Banners have the same style class if the same is shown of them. -/
theorem BannerView.styleClass_eq_of_map_string {banner? other? : Option BannerView}
    (h : banner?.map (fun banner ↦ Value.string banner.styleClass) =
      other?.map fun banner ↦ .string banner.styleClass) :
    banner?.map BannerView.styleClass = other?.map BannerView.styleClass := by
  apply eq_of_map_string
  rwa [Option.map_map, Option.map_map]

private theorem Imprint.ShownBy.unique {imprint other : Imprint} (h : imprint.ShownBy value)
    (hother : other.ShownBy value) : imprint = other := by
  obtain ⟨tool, hobject, htool⟩ := h
  obtain ⟨_, hobjectOther, htoolOther⟩ := hother
  have hentries := hobject.entries_eq hobjectOther rfl (by simp)
  simp only [List.cons.injEq, Prod.mk.injEq, Option.some.injEq, Value.string.injEq, true_and,
    and_true] at hentries
  obtain ⟨htimestamp, rfl, hid⟩ := hentries
  have htoolEntries := htool.entries_eq htoolOther rfl (by simp)
  simp only [List.cons.injEq, Prod.mk.injEq, Option.some.injEq, Value.string.injEq, true_and,
    and_true] at htoolEntries
  cases imprint
  cases other
  simp_all

private theorem VulnerabilityCounts.ShownBy.unique {counts other : VulnerabilityCounts}
    (h : counts.ShownBy value) (hother : other.ShownBy value) : counts = other := by
  have hentries := Value.IsObject.entries_eq h hother rfl (by simp)
  simp only [List.cons.injEq, Prod.mk.injEq, Option.some.injEq, Count.integer_inj, true_and,
    and_true] at hentries
  cases counts
  cases other
  simp_all

private theorem Term.ShownBy.unique {entry other : Term} (h : entry.ShownBy value)
    (hother : other.ShownBy value) : entry = other := by
  have hentries := Value.IsObject.entries_eq h hother rfl (by simp)
  simp only [List.cons.injEq, Prod.mk.injEq, Option.some.injEq, Value.string.injEq,
    Points.integer_inj, true_and, and_true] at hentries
  cases entry
  cases other
  simp_all

private theorem Term.AllShownBy.unique {entries others : List Term} (h : AllShownBy entries value)
    (hother : AllShownBy others value) : entries = others := by
  obtain ⟨items, rfl, hitems⟩ := h
  obtain ⟨_, heq, hitemsOther⟩ := hother
  cases heq
  have hunique : Relator.LeftUnique Term.ShownBy := fun _ _ _ hentry ↦ hentry.unique
  exact List.left_unique_forall₂' hunique hitems hitemsOther

private theorem GateView.ShownBy.unique {view other : GateView} (h : view.ShownBy value)
    (hother : other.ShownBy value) : view = other := by
  have hentries := Value.IsObject.entries_eq h hother rfl (by simp)
  simp only [List.cons.injEq, Prod.mk.injEq, Option.some.injEq, Value.string.injEq,
    Value.boolean.injEq, true_and, and_true] at hentries
  cases view
  cases other
  simp_all

/-- What may be missing is the same if the same is shown of it. -/
theorem eq_of_rel {α : Type} {Shown : α → Value → Prop} (hunique : Relator.LeftUnique Shown)
    {content? other? : Option α} {value? : Option Value} (h : Option.Rel Shown content? value?)
    (hother : Option.Rel Shown other? value?) : content? = other? := by
  cases h with
  | none =>
    cases hother
    rfl
  | some hshown =>
    cases hother with
    | some hshownOther => rw [hunique hshown hshownOther]

private theorem PackageCard.ShownBy.sameShown {card other : PackageCard} (h : card.ShownBy value)
    (hother : other.ShownBy value) : card.SameShown other := by
  obtain ⟨freshness, direct, indirect, breakdown, hobject, hfreshness, hdirect, hindirect,
    hbreakdown⟩ := h
  obtain ⟨_, _, _, _, hobjectOther, hfreshnessOther, hdirectOther, hindirectOther,
    hbreakdownOther⟩ := hother
  have hentries := hobject.entries_eq hobjectOther rfl (by simp)
  simp only [List.cons.injEq, Prod.mk.injEq, Option.some.injEq, Value.string.injEq,
    Count.integer_inj, Points.integer_inj, true_and, and_true] at hentries
  obtain ⟨hname, hversion, htotal, hgrade, hclass, hbanner, rfl, hall, himmediate, rfl, rfl,
    hauthors, hcontributors, hscored, hreleased, rfl⟩ := hentries
  exact {
    name := hname
    version := hversion
    total := htotal
    grade := hgrade
    gradeClass := hclass
    banner := BannerView.styleClass_eq_of_map_string hbanner
    freshness := hfreshness.read_eq.trans hfreshnessOther.read_eq.symm
    allDependencies := hall
    immediateDependencies := himmediate
    direct := hdirect.unique hdirectOther
    indirect := hindirect.unique hindirectOther
    authors := Count.eq_of_map_integer hauthors
    contributors := Count.eq_of_map_integer hcontributors
    scoringDate := eq_of_map_string hscored
    releaseDate := eq_of_map_string hreleased
    breakdown := eq_of_rel (fun _ _ _ hentries ↦ hentries.unique) hbreakdown hbreakdownOther }

private theorem DependencyRow.ShownBy.sameShown {row other : DependencyRow} (h : row.ShownBy value)
    (hother : other.ShownBy value) : row.SameShown other := by
  have hentries := Value.IsObject.entries_eq h hother rfl (by simp)
  simp only [List.cons.injEq, Prod.mk.injEq, Option.some.injEq, Value.string.injEq,
    Count.integer_inj, Points.integer_inj, true_and, and_true] at hentries
  obtain ⟨hname, hversion, htotal, hgrade, hclass, hall, hbanner⟩ := hentries
  exact ⟨hname, hversion, htotal, hgrade, hclass, hall,
    BannerView.styleClass_eq_of_map_string hbanner⟩

/-- Rows that are shown by the same items show the same. -/
theorem DependencyRow.forall₂_sameShown {rows others : List DependencyRow} {items : List Value}
    (h : List.Forall₂ ShownBy rows items) (hother : List.Forall₂ ShownBy others items) :
    List.Forall₂ SameShown rows others := by
  induction h generalizing others with
  | nil =>
    cases hother
    exact .nil
  | cons hfirst _ ih =>
    cases hother with
    | cons hfirstOther hrestOther =>
      exact .cons (hfirst.sameShown hfirstOther) (ih hrestOther)

/-- Distributions that are shown by the same value have the same last buckets. -/
theorem ScoreSheet.DistributionShownBy.lookup_eq {buckets others : List (String × Nat)}
    (h : DistributionShownBy buckets value) (hother : DistributionShownBy others value)
    (grade : String) : Json.lookup buckets grade = Json.lookup others grade := by
  obtain ⟨members, rfl, -, hmem⟩ := h
  obtain ⟨_, heq, -, hmemOther⟩ := hother
  cases heq
  have hshown (n : Nat) (buckets : List (String × Nat)) :
      (∃ m : Nat, Json.lookup buckets grade = some m ∧ Value.integer n = .integer m) ↔
        Json.lookup buckets grade = some n := by
    constructor
    · rintro ⟨m, hlookup, hvalue⟩
      cases hvalue
      exact hlookup
    · exact fun hlookup ↦ ⟨n, hlookup, rfl⟩
  ext n
  rw [← hshown n buckets, ← hshown n others, ← hmem, ← hmemOther]

/-- Two sheets that are shown by the same value show the same. -/
theorem ScoreSheet.ShownBy.sameShown {sheet other : ScoreSheet} (h : sheet.ShownBy value)
    (hother : other.ShownBy value) : sheet.SameShown other := by
  obtain ⟨_, _, _, _, _, hobject, himprint, hpackage, hrows, hdistribution, hgate⟩ := h
  obtain ⟨_, _, _, _, _, hobjectOther, himprintOther, hpackageOther, hrowsOther,
    hdistributionOther, hgateOther⟩ := hother
  have hentries := hobject.entries_eq hobjectOther rfl (by simp)
  simp only [List.cons.injEq, Prod.mk.injEq, Option.some.injEq, Value.array.injEq, true_and,
    and_true] at hentries
  obtain ⟨rfl, rfl, rfl, rfl, rfl⟩ := hentries
  exact ⟨himprint.unique himprintOther, hpackage.sameShown hpackageOther,
    DependencyRow.forall₂_sameShown hrows hrowsOther,
    hdistribution.lookup_eq hdistributionOther,
    eq_of_rel (fun _ _ _ hview ↦ hview.unique) hgate hgateOther⟩

end Unique

end PackageRisk
