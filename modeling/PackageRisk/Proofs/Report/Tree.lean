import Mathlib.Data.List.Forall2
import PackageRisk.Report.Resolution

/-!
# Trees of reports

Raw reports and reports are trees: every node has the reports of its direct dependencies below it. A
path leads from the root to a node and gives, step by step, the place of a dependency among those of
its parent. The pre-order of a raw report has every node before its dependencies, and everything
below an earlier dependency before a later one.
-/

namespace PackageRisk

/-- The node of a tree at the end of a path, where `children` gives the nodes below a node. -/
def descend {α : Type} (children : α → List α) : List Nat → α → Option α
  | [], node => some node
  | place :: path, node => (children node)[place]?.bind (descend children path)

namespace RawReport

/-- The raw report at the end of a path. -/
def at? (raw : RawReport) (path : List Nat) : Option RawReport :=
  descend dependencies path raw

/-- The tree with the node at the end of a path changed, if there is one. -/
def modifyAt (f : RawReport → RawReport) : List Nat → RawReport → RawReport
  | [], raw => f raw
  | place :: path, raw =>
    { raw with dependencies := raw.dependencies.modify place (modifyAt f path) }

/-- The raw report by itself, with its dependencies removed. -/
def alone (raw : RawReport) : RawReport := { raw with dependencies := [] }

mutual

/-- A raw report and all that are below it, in pre-order. -/
def nodes : RawReport → List RawReport
  | ⟨members, directCounts, indirectCounts, dependencies⟩ =>
    ⟨members, directCounts, indirectCounts, dependencies⟩ :: nodesOf dependencies

/-- Several raw reports, each with all that are below it. -/
def nodesOf : List RawReport → List RawReport
  | [] => []
  | raw :: rest => raw.nodes ++ nodesOf rest

end

/-- Lists of trees are related when their trees are, one by one. -/
theorem nodewiseAll_iff {related : RawReport → RawReport → Prop} {as bs : List RawReport} :
    NodewiseAll related as bs ↔ List.Forall₂ (Nodewise related) as bs := by
  constructor
  · intro h
    induction as generalizing bs with
    | nil => cases h; exact .nil
    | cons a as ih => cases h with | cons first rest => exact .cons first (ih rest)
  · intro h
    induction h with
    | nil => exact .nil
    | cons first _ ih => exact .cons first ih

/-- The empty path leads to the tree itself. -/
@[simp] theorem at?_nil (raw : RawReport) : raw.at? [] = some raw := rfl

/-- A path goes through the dependency at its first place. -/
theorem at?_cons (raw : RawReport) (place : Nat) (path : List Nat) :
    raw.at? (place :: path) = raw.dependencies[place]?.bind (·.at? path) := rfl

/-- A node alone has no dependencies. -/
@[simp] theorem alone_dependencies (raw : RawReport) : raw.alone.dependencies = [] := rfl

/-- What is resolved of a node does not depend on the nodes below it. -/
theorem resolveAlone_alone (raw : RawReport) (source : String) :
    raw.alone.resolveAlone source = raw.resolveAlone source := rfl

/-- A tree is its root followed by what is below. -/
theorem nodes_eq (raw : RawReport) : raw.nodes = raw :: nodesOf raw.dependencies := by
  cases raw
  rw [nodes]

mutual

/-- Every node of a tree is at the end of a path. -/
theorem exists_at?_of_mem_nodes : ∀ raw : RawReport, ∀ node ∈ raw.nodes,
    ∃ path, raw.at? path = some node
  | ⟨members, directCounts, indirectCounts, dependencies⟩, node, h => by
    rw [nodes_eq] at h
    rcases List.mem_cons.mp h with rfl | h
    · exact ⟨[], rfl⟩
    · obtain ⟨place, raw, path, hplace, hpath⟩ :=
        exists_at?_of_mem_nodesOf dependencies node h
      refine ⟨place :: path, ?_⟩
      rw [at?_cons, hplace]
      exact hpath

private theorem exists_at?_of_mem_nodesOf : ∀ raws : List RawReport, ∀ node ∈ nodesOf raws,
    ∃ (place : Nat) (raw : RawReport) (path : List Nat),
      raws[place]? = some raw ∧ raw.at? path = some node
  | [], node, h => by cases h
  | raw :: rest, node, h => by
    rw [nodesOf] at h
    rcases List.mem_append.mp h with h | h
    · obtain ⟨path, hpath⟩ := exists_at?_of_mem_nodes raw node h
      exact ⟨0, raw, path, rfl, hpath⟩
    · obtain ⟨place, other, path, hplace, hpath⟩ := exists_at?_of_mem_nodesOf rest node h
      exact ⟨place + 1, other, path, hplace, hpath⟩

end

end RawReport

namespace Report

/-- The report at the end of a path. -/
def at? (report : Report) (path : List Nat) : Option Report :=
  descend dependencies path report

/-- The report by itself, with its dependencies removed. -/
def alone (report : Report) : Report := { report with dependencies := [] }

/-- The empty path leads to the report itself. -/
@[simp] theorem at?_nil (report : Report) : report.at? [] = some report := rfl

/-- A path goes through the dependency at its first place. -/
theorem at?_cons (report : Report) (place : Nat) (path : List Nat) :
    report.at? (place :: path) = report.dependencies[place]?.bind (·.at? path) := rfl

end Report

end PackageRisk
