import PackageRisk.Proofs.Report.Resolved

/-!
# The faults of a node

The faults that resolving a raw report by itself can end with. A fault with an owner is a negative
count or a freshness that is not finite, and its owner is the package of the raw report.
-/

namespace PackageRisk

open Fallible

/-- The package that a fault names as the owner of the field at fault. -/
def ReportFault.owner? : ReportFault → Option Package
  | .negativeCount _ owner _ => some owner
  | .notFinite owner _ => some owner
  | _ => none

namespace RawReport

section Fields

variable {p : ReportFault → Prop} {source : String}
  (hanonymous : ∀ fault, fault.owner? = none → p fault)

include hanonymous

/-- A text of the wrong kind has no owner. -/
theorem faults_textOf? (raw : RawReport) (field : Field) :
    FaultsIn p (raw.textOf? source field) := by
  unfold textOf?
  split
  · exact .ok _
  · exact .ok _
  · exact .error (hanonymous _ rfl)

private theorem faults_numberOf? (raw : RawReport) (field : Field) :
    FaultsIn p (raw.numberOf? source field) := by
  unfold numberOf?
  split
  · exact .ok _
  · exact .ok _
  · exact .ok _
  · exact .error (hanonymous _ rfl)

private theorem faults_integerOf? (raw : RawReport) (field : Field) :
    FaultsIn p (raw.integerOf? source field) := by
  unfold integerOf?
  split
  · exact .ok _
  · split
    · exact .ok _
    · exact .error (hanonymous _ rfl)
  · exact .error (hanonymous _ rfl)

/-- A raw report without a package has a fault without an owner. -/
theorem faults_packageOf (raw : RawReport) : FaultsIn p (raw.packageOf source) := by
  refine (faults_textOf? hanonymous raw .name).bind fun found _ ↦ ?_
  cases found with
  | none => exact .error (hanonymous _ rfl)
  | some name =>
    refine (faults_textOf? hanonymous raw .version).bind fun found _ ↦ ?_
    cases found with
    | none => exact .error (hanonymous _ rfl)
    | some version => exact .mapError fun _ ↦ hanonymous _ rfl

end Fields

section Counts

variable {p : ReportFault → Prop} {source : String} {package : Package}
  (hanonymous : ∀ fault, fault.owner? = none → p fault)
  (hnegative : ∀ field n, p (.negativeCount field package n))

include hnegative

/-- A negative count is owned by the package that it is told to belong to. -/
theorem faults_countOfInteger (field : Field) (n : Int) :
    FaultsIn p (countOfInteger package field n) := by
  unfold countOfInteger
  split
  · exact .error (hnegative field n)
  · exact .ok _

include hanonymous

private theorem faults_countOf? (raw : RawReport) (field : Field) :
    FaultsIn p (raw.countOf? source package field) := by
  refine (faults_integerOf? hanonymous raw field).bind fun found _ ↦ ?_
  cases found with
  | none => exact .ok _
  | some n => exact (faults_countOfInteger hnegative field n).bind fun count _ ↦ .ok _

private theorem faults_vulnerabilityCounts (raw : RawReport) (scope : Scope) :
    FaultsIn p (raw.vulnerabilityCounts source package scope) := by
  refine FaultsIn.bind (.foldlM _ _ fun counts severity ↦ ?_) fun counts _ ↦
    FaultsIn.bind (.mapM _ fun entry ↦ ?_) fun entries _ ↦ .foldlM _ _ fun counts entry ↦ ?_
  · refine (faults_countOf? hanonymous hnegative raw _).bind fun found _ ↦ ?_
    cases found <;> exact .ok _
  · unfold entryOf
    split
    · exact .error (hanonymous _ rfl)
    · exact .ok _
  · exact (faults_countOfInteger hnegative _ _).bind fun count _ ↦ .ok _

/-- The one fault that input alone can have is a freshness that is not finite. -/
theorem faults_inputOf (raw : RawReport)
    (hfreshness : ∀ number?, raw.numberOf? source .freshness = .ok number? →
      (number?.getD .zero).isFinite = false → p (.notFinite package (number?.getD .zero))) :
    FaultsIn p (raw.inputOf source package) := by
  refine (faults_vulnerabilityCounts hanonymous hnegative raw .direct).bind fun direct _ ↦
    (faults_vulnerabilityCounts hanonymous hnegative raw .indirect).bind fun indirect _ ↦
    (faults_countOf? hanonymous hnegative raw .allDependencies).bind fun count _ ↦
    (faults_numberOf? hanonymous raw .freshness).bind fun number? hnumber ↦ ?_
  dsimp only
  split
  · rename_i hfacts
    refine .error (hfreshness number? hnumber ?_)
    simpa [ScoreInput.ofFacts?] using hfacts
  · exact .ok _

private theorem faults_detailsOf (raw : RawReport) : FaultsIn p (raw.detailsOf source package) :=
  (faults_textOf? hanonymous raw .scoringDate).bind fun _ _ ↦
    (faults_textOf? hanonymous raw .releaseDate).bind fun _ _ ↦
    (faults_countOf? hanonymous hnegative raw .authors).bind fun _ _ ↦
    (faults_countOf? hanonymous hnegative raw .contributors).bind fun _ _ ↦
    (faults_countOf? hanonymous hnegative raw .immediateDependencies).bind fun _ _ ↦ .ok _

end Counts

/-- A fault of a raw report by itself has no owner, or tells of a negative count or of a freshness
that is not finite, with its own package. -/
theorem faults_resolveAlone {p : ReportFault → Prop} {source : String} (raw : RawReport)
    (hanonymous : ∀ fault, fault.owner? = none → p fault)
    (hnegative : ∀ package, raw.packageOf source = .ok package →
      ∀ field n, p (.negativeCount field package n))
    (hfreshness : ∀ package, raw.packageOf source = .ok package →
      ∀ number?, raw.numberOf? source .freshness = .ok number? →
        (number?.getD .zero).isFinite = false → p (.notFinite package (number?.getD .zero))) :
    FaultsIn p (raw.resolveAlone source) :=
  (faults_packageOf hanonymous raw).bind fun package hpackage ↦
    (faults_inputOf hanonymous (hnegative package hpackage) raw
      (hfreshness package hpackage)).bind fun _ _ ↦
    (faults_detailsOf hanonymous (hnegative package hpackage) raw).bind fun _ _ ↦ .ok _

/-- The owner of a fault is the package of the raw report that the fault is found in. -/
theorem packageOf_of_owner {raw : RawReport} {source : String} {fault : ReportFault}
    {owner : Package}
    (h : raw.resolveAlone source = .error fault) (howner : fault.owner? = some owner) :
    raw.packageOf source = .ok owner := by
  have howned : FaultsIn
      (fun fault ↦ ∀ owner, fault.owner? = some owner → raw.packageOf source = .ok owner)
      (raw.resolveAlone source) := by
    apply faults_resolveAlone
    · intro fault hnone owner howner
      simp [hnone] at howner
    · rintro package hpackage field n owner ⟨⟩
      exact hpackage
    · rintro package hpackage number? - - owner ⟨⟩
      exact hpackage
  exact howned fault h owner howner

end RawReport

end PackageRisk
