import PackageRisk.Proofs.Assessment.Response
import PackageRisk.Proofs.Number.SignedUnits
import PackageRisk.Proofs.Report.RollUp

/-!
# What the verdict on a package depends on

The verdict on a package is its score, with the explanation if there is one, and its banner. It
depends on the input of the package only. A rolled-up input depends on the freshness and the own
vulnerabilities of the package and on the shares of its dependencies, in whatever order, and on
nothing else that the report tells.
-/

namespace PackageRisk

/-- The same facts in two inputs. The freshness is compared as a number: the two zeros are equal. -/
structure ScoreInput.SameFacts (input other : ScoreInput) : Prop where
  freshness : input.freshness.signedUnits = other.freshness.signedUnits
  allDependencies : input.allDependencies = other.allDependencies
  direct : input.direct = other.direct
  indirect : input.indirect = other.indirect

namespace ScoreInput.SameFacts

variable {input other : ScoreInput}

private theorem terms_eq (h : input.SameFacts other) : Score.terms input = Score.terms other := by
  have hbase : Score.basePoints input.freshness = Score.basePoints other.freshness := by
    unfold Score.basePoints
    rw [Binary64.round_mul_congr h.freshness]
  unfold Score.terms
  rw [hbase, h.allDependencies, h.direct, h.indirect]

private theorem compute_eq (h : input.SameFacts other) (wantsBreakdown : Bool) :
    Score.compute input wantsBreakdown = Score.compute other wantsBreakdown := by
  unfold Score.compute
  rw [h.terms_eq]

private theorem banner_eq (h : input.SameFacts other) :
    Banner.ofInput? input = Banner.ofInput? other := by
  unfold Banner.ofInput?
  rw [h.direct, h.indirect]

/-- A roll-up replaces the stored totals, and uses the shares of the dependencies in any order. -/
theorem rollUp (hfreshness : input.freshness.signedUnits = other.freshness.signedUnits)
    (hdirect : input.direct = other.direct) {reports others : List Report}
    (hshares : (reports.map Report.share).Perm (others.map Report.share)) :
    (input.rollUp reports).SameFacts (other.rollUp others) where
  freshness := hfreshness
  allDependencies := Report.rolledDependencies_perm hshares
  direct := hdirect
  indirect := Report.rolledVulnerabilities_perm hshares

end ScoreInput.SameFacts

namespace Assessment

variable {ε : Type}

/-- Two runs succeed with the same score, explanation included, and the same banner of the
package. -/
def AgreeOnPackage (run other : Except ε Assessment × List Event) : Prop :=
  ∃ assessment another, run.1 = .ok assessment ∧ other.1 = .ok another ∧
    assessment.package.score = another.package.score ∧
    assessment.package.banner = another.package.banner

/-- The verdict depends on the input of the package only. -/
theorem agreeOnPackage_of_sameFacts {request : Request} {report other : Report}
    (h : (inputFor request report).SameFacts (inputFor request other))
    (source otherSource : String) :
    AgreeOnPackage (run source (.ok report : Except ε Report) request)
      (run otherSource (.ok other : Except ε Report) request) :=
  ⟨_, _, rfl, rfl, h.compute_eq request.breakdown, h.banner_eq⟩

/-- Without a roll-up, reports with the same facts of the package have the same verdict, whatever
their names, details and dependencies. With a roll-up, reports with dependencies have the same
verdict if they agree on the freshness and the own vulnerabilities of the package and, up to the
order, on the shares of the dependencies, whatever the stored totals and whatever else the
dependencies tell. -/
theorem run_agreeOnPackage (source otherSource : String) (request : Request)
    (report other : Report) :
    (request.aggregate = false → report.input.SameFacts other.input →
      AgreeOnPackage (run source (.ok report : Except ε Report) request)
        (run otherSource (.ok other : Except ε Report) request)) ∧
    (request.aggregate = true → report.dependencies ≠ [] → other.dependencies ≠ [] →
      report.input.freshness.signedUnits = other.input.freshness.signedUnits →
      report.input.direct = other.input.direct →
      (report.dependencies.map Report.share).Perm (other.dependencies.map Report.share) →
      AgreeOnPackage (run source (.ok report : Except ε Report) request)
        (run otherSource (.ok other : Except ε Report) request)) := by
  constructor
  · intro hstored hfacts
    apply agreeOnPackage_of_sameFacts
    rwa [inputFor_of_stored hstored, inputFor_of_stored hstored]
  · intro haggregate hreport hother hfreshness hdirect hshares
    apply agreeOnPackage_of_sameFacts
    rw [inputFor_of_rollsUp ⟨haggregate, hreport⟩, inputFor_of_rollsUp ⟨haggregate, hother⟩]
    exact .rollUp hfreshness hdirect hshares

private def leanPackage : Package := ⟨"lean", "1.0", by decide +kernel, by decide +kernel⟩

private def fullPackage : Package := ⟨"@b/c", "2.0", by decide +kernel, by decide +kernel⟩

private def plainReport (package : Package) (freshness : Binary64)
    (finite : freshness.isFinite = true) (share : Report.Share) (dependencies : List Report) :
    Report :=
  ⟨package, ⟨freshness, share.allDependencies, share.direct, share.indirect, finite⟩,
    ⟨none, none, none, none, none⟩, dependencies⟩

/-- A dependency with a high vulnerability that exhausts the count of dependencies. -/
private def hugeShare : Report.Share := ⟨.clamp Count.max, ⟨0, .clamp 1, 0, 0⟩, 0⟩

/-- A dependency with two medium vulnerabilities below it. -/
private def smallShare : Report.Share := ⟨.clamp 3, 0, ⟨0, 0, .clamp 2, 0⟩⟩

/-- A report that stores no totals, and whose dependencies have nothing below them. -/
private def leanReport : Report :=
  plainReport leanPackage .zero Binary64.isFinite_zero ⟨0, ⟨.clamp 1, 0, 0, 0⟩, 0⟩ [
    plainReport leanPackage .zero Binary64.isFinite_zero hugeShare [],
    plainReport leanPackage .zero Binary64.isFinite_zero smallShare []]

/-- A report with a negative zero, stored totals and nested dependencies. -/
private def fullReport : Report :=
  plainReport fullPackage Binary64.zero.neg (by decide)
    ⟨.clamp 40, ⟨.clamp 1, 0, 0, 0⟩, ⟨.clamp 7, 0, 0, .clamp 9⟩⟩ [
      plainReport fullPackage (.ofNat 1) (by decide +kernel) smallShare [leanReport],
      plainReport leanPackage .zero Binary64.isFinite_zero hugeShare []]

/-- A report with a negative zero that stores the totals of the lean one. -/
private def renamedReport : Report :=
  plainReport fullPackage Binary64.zero.neg (by decide) leanReport.share [fullReport]

/-- Two reports with the same facts, and two with their dependencies in different orders. -/
theorem run_agreeOnPackage_reordered :
    (leanReport.input.SameFacts renamedReport.input ∧
      AgreeOnPackage (run "a" (.ok leanReport : Except Unit Report) ⟨true, false, some .a⟩)
        (run "b" (.ok renamedReport) ⟨true, false, some .a⟩)) ∧
    leanReport.dependencies ≠ [] ∧ fullReport.dependencies ≠ [] ∧
      leanReport.input.freshness.signedUnits = fullReport.input.freshness.signedUnits ∧
      leanReport.input.direct = fullReport.input.direct ∧
      (leanReport.dependencies.map Report.share).Perm (fullReport.dependencies.map Report.share) ∧
      AgreeOnPackage (run "a" (.ok leanReport : Except Unit Report) ⟨true, true, none⟩)
        (run "b" (.ok fullReport) ⟨true, true, none⟩) := by
  have hzeros : leanReport.input.freshness.signedUnits =
      fullReport.input.freshness.signedUnits := by
    decide
  have hfacts : leanReport.input.SameFacts renamedReport.input := ⟨hzeros, rfl, rfl, rfl⟩
  have hlean : leanReport.dependencies ≠ [] := by simp [leanReport, plainReport]
  have hfull : fullReport.dependencies ≠ [] := by simp [fullReport, plainReport]
  have hshares : (leanReport.dependencies.map Report.share).Perm
      (fullReport.dependencies.map Report.share) :=
    .swap ..
  refine ⟨⟨hfacts, ?_⟩, hlean, hfull, hzeros, rfl, hshares, ?_⟩
  · exact (run_agreeOnPackage "a" "b" _ leanReport renamedReport).1 rfl hfacts
  · exact (run_agreeOnPackage "a" "b" _ leanReport fullReport).2 rfl hlean hfull hzeros rfl hshares

end Assessment

end PackageRisk
