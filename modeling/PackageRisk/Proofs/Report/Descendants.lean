import PackageRisk.Proofs.Report.RollUp

/-!
# Totals of whole trees

A tree of reports whose every node stores the roll-up of its direct dependencies counts, at its
root, all packages below the root and all their own vulnerabilities. Sums that are clamped at every
node add up to the sum over all nodes, clamped once.
-/

namespace PackageRisk

namespace Report

mutual

/-- A report and all that are below it, in pre-order. -/
def nodes : Report → List Report
  | ⟨package, input, details, dependencies⟩ =>
    ⟨package, input, details, dependencies⟩ :: nodesOf dependencies

/-- Several reports, each with all that are below it. -/
def nodesOf : List Report → List Report
  | [] => []
  | report :: rest => report.nodes ++ nodesOf rest

end

/-- The reports below a report: its dependencies, their dependencies, and so on. -/
def descendants (report : Report) : List Report := nodesOf report.dependencies

/-- A tree is its root followed by what is below. -/
theorem nodes_eq (report : Report) : report.nodes = report :: report.descendants := by
  cases report
  rw [nodes, descendants]

/-- The total of a node is the sum, over its dependencies, of their own amounts and their totals, up
to a bound. -/
def Accumulates (own total : Report → Nat) (bound : Nat) (node : Report) : Prop :=
  total node = min (node.dependencies.map fun dependency ↦ own dependency + total dependency).sum
    bound

section

variable {own total : Report → Nat} {bound : Nat}

mutual

/-- Where every node accumulates, the total of the root is the sum of the own amounts of all nodes
below. -/
theorem total_eq_sum_descendants : ∀ report : Report,
    (∀ node ∈ report.nodes, Accumulates own total bound node) →
    total report = min (report.descendants.map own).sum bound
  | ⟨package, input, details, dependencies⟩, h => by
    rw [nodes_eq] at h
    rw [h _ List.mem_cons_self]
    exact sum_eq_sum_nodesOf dependencies fun node hnode ↦ h node (List.mem_cons_of_mem _ hnode)

/-- The clamp at an inner node is lost in the clamp at the nodes above. -/
theorem sum_eq_sum_nodesOf : ∀ reports : List Report,
    (∀ node ∈ nodesOf reports, Accumulates own total bound node) →
    min (reports.map fun report ↦ own report + total report).sum bound =
      min ((nodesOf reports).map own).sum bound
  | [], _ => rfl
  | report :: rest, h => by
    rw [nodesOf] at h ⊢
    have hfirst := total_eq_sum_descendants report fun node hnode ↦
      h node (List.mem_append_left _ hnode)
    have hrest := sum_eq_sum_nodesOf rest fun node hnode ↦ h node (List.mem_append_right _ hnode)
    rw [List.map_cons, List.sum_cons, List.map_append, List.sum_append, nodes_eq, List.map_cons,
      List.sum_cons]
    omega

end

end

namespace StoresRollUp

variable {report : Report}

/-- Every dependency is one package more. -/
theorem accumulates_packages (h : report.StoresRollUp) :
    Accumulates (fun _ ↦ 1) (·.input.allDependencies.val) Count.max report := by
  have htotal := congrArg Count.val h.1
  rw [val_rolledDependencies, List.map_map] at htotal
  exact htotal

/-- Every dependency adds its own vulnerabilities. -/
theorem accumulates_vulnerabilities (h : report.StoresRollUp) (severity : Severity) :
    Accumulates (fun node ↦ (node.input.direct.get severity).val)
      (fun node ↦ (node.input.indirect.get severity).val) Count.max report := by
  have htotal := congrArg (fun counts ↦ (counts.get severity).val) h.2
  simp only [val_get_rolledVulnerabilities, List.map_map] at htotal
  exact htotal

end StoresRollUp

/-- Where every node stores the roll-up of its direct dependencies, the root counts all packages
below it and, for every severity, all their own vulnerabilities. -/
theorem totals_of_storesRollUp (report : Report) (h : ∀ node ∈ report.nodes, node.StoresRollUp) :
    report.input.allDependencies.val = min report.descendants.length Count.max ∧
      ∀ severity, (report.input.indirect.get severity).val =
        min (report.descendants.map fun node ↦ (node.input.direct.get severity).val).sum
          Count.max := by
  constructor
  · have htotal := total_eq_sum_descendants report
      fun node hnode ↦ (h node hnode).accumulates_packages
    rwa [List.map_const', List.sum_replicate_nat, Nat.mul_one] at htotal
  · intro severity
    exact total_eq_sum_descendants report
      fun node hnode ↦ (h node hnode).accumulates_vulnerabilities severity

private def treePackage : Package := ⟨"tree", "0.1", by decide +kernel, by decide +kernel⟩

private def treeReport (allDependencies : Nat) (direct indirect : VulnerabilityCounts)
    (dependencies : List Report) : Report :=
  ⟨treePackage, ⟨.zero, .clamp allDependencies, direct, indirect, Binary64.isFinite_zero⟩,
    ⟨none, none, none, none, none⟩, dependencies⟩

private def criticalOnes (count : Nat) : VulnerabilityCounts :=
  ⟨.clamp count, 0, 0, 0⟩

/-- A tree of depth two, with as many critical vulnerabilities in its deepest node as can be
counted. -/
private def saturatedTree : Report :=
  treeReport 3 0 (criticalOnes Count.max) [
    treeReport 1 (criticalOnes 5) (criticalOnes Count.max) [
      treeReport 0 (criticalOnes Count.max) 0 []],
    treeReport 0 (criticalOnes 2) 0 []]

/-- The count at the limit stays there through the levels above. -/
theorem totals_of_storesRollUp_saturated :
    (∀ node ∈ saturatedTree.nodes, node.StoresRollUp) ∧
      saturatedTree.input.allDependencies.val = min 3 Count.max ∧
      (saturatedTree.input.indirect.get .critical).val =
        min (5 + (Count.max + (2 + 0))) Count.max := by
  have h : ∀ node ∈ saturatedTree.nodes, node.StoresRollUp := by decide +kernel
  have htotals := totals_of_storesRollUp saturatedTree h
  exact ⟨h, htotals.1, htotals.2 .critical⟩

end Report

end PackageRisk
