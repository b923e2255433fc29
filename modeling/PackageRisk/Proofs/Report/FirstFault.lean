import Mathlib.Data.List.Forall2
import PackageRisk.Proofs.Report.Faults
import PackageRisk.Proofs.Report.Tree

/-!
# The first fault of a tree

A tree of raw reports is resolved node by node in pre-order, and each node as if it stood alone.
Hence a tree is resolved exactly when all of its nodes are, and otherwise the fault is that of the
first node with one.
-/

namespace PackageRisk

open Fallible

namespace RawReport

variable {source : String}

/-- A tree is its root resolved by itself, with its dependencies resolved. -/
theorem resolve_eq (raw : RawReport) :
    raw.resolve source = raw.resolveAlone source >>= fun report ↦
      resolveAll source raw.dependencies >>= fun resolved ↦
        .ok { report with dependencies := resolved } := by
  cases raw
  rw [resolve]
  rfl

/-- A raw report without dependencies is its root. -/
theorem resolve_alone (raw : RawReport) : raw.alone.resolve source = raw.resolveAlone source := by
  rw [resolve_eq, resolveAlone_alone, alone_dependencies, resolveAll]
  cases h : raw.resolveAlone source with
  | error fault => rfl
  | ok report =>
    have hnone := (resolveAlone_eq_ok_iff.mp h).dependencies
    cases report
    subst hnone
    rfl

/-- Raw reports are resolved one by one. -/
theorem resolveAll_eq_ok_iff (raws : List RawReport) (reports : List Report) :
    resolveAll source raws = .ok reports ↔
      List.Forall₂ (fun raw report ↦ raw.resolve source = .ok report) raws reports := by
  induction raws generalizing reports with
  | nil => simp [resolveAll, eq_comm]
  | cons raw rest ih =>
    simp only [resolveAll, bind_eq_ok_iff, List.forall₂_cons_left_iff, ih, Except.ok.injEq]
    constructor
    · rintro ⟨report, hraw, others, hrest, rfl⟩
      exact ⟨report, others, hraw, hrest, rfl⟩
    · rintro ⟨report, others, hraw, hrest, rfl⟩
      exact ⟨report, hraw, others, hrest, rfl⟩

/-- A tree is resolved when its root is resolved by itself and its dependencies are resolved. -/
theorem resolve_eq_ok_iff (raw : RawReport) (report : Report) :
    raw.resolve source = .ok report ↔ raw.alone.resolve source = .ok report.alone ∧
      List.Forall₂ (fun raw report ↦ raw.resolve source = .ok report) raw.dependencies
        report.dependencies := by
  rw [resolve_eq, resolve_alone, ← resolveAll_eq_ok_iff]
  simp only [bind_eq_ok_iff, Except.ok.injEq]
  constructor
  · rintro ⟨root, hroot, resolved, hall, rfl⟩
    have hnone := (resolveAlone_eq_ok_iff.mp hroot).dependencies
    refine ⟨?_, hall⟩
    cases root
    subst hnone
    exact hroot
  · rintro ⟨hroot, hall⟩
    refine ⟨report.alone, hroot, report.dependencies, hall, ?_⟩
    cases report
    rfl

/-- The fault of a tree is that of its root, or else that of its dependencies. -/
theorem fault?_resolve_eq (raw : RawReport) :
    fault? (raw.resolve source) = (fault? (raw.alone.resolve source)).or
      ((raw.alone.resolve source).toOption.bind fun _ ↦
        fault? (resolveAll source raw.dependencies)) := by
  rw [resolve_eq, resolve_alone, fault?_bind]
  congr 2
  funext report
  cases resolveAll source raw.dependencies <;> rfl

mutual

/-- The fault of a tree is that of its first node with one. -/
theorem fault?_resolve : ∀ raw : RawReport,
    fault? (raw.resolve source) = raw.nodes.findSome? fun node ↦ fault? (node.alone.resolve source)
  | ⟨members, directCounts, indirectCounts, dependencies⟩ => by
    rw [fault?_resolve_eq, nodes_eq, List.findSome?_cons, fault?_resolveAll dependencies]
    cases (RawReport.mk members directCounts indirectCounts dependencies).alone.resolve source <;>
      simp [fault?, Except.toOption]

/-- The fault of several trees is that of the first node with one. -/
theorem fault?_resolveAll : ∀ raws : List RawReport,
    fault? (resolveAll source raws) =
      (nodesOf raws).findSome? fun node ↦ fault? (node.alone.resolve source)
  | [] => rfl
  | raw :: rest => by
    rw [resolveAll, nodesOf, List.findSome?_append, ← fault?_resolve raw,
      ← fault?_resolveAll rest, fault?_bind]
    cases raw.resolve source <;> cases resolveAll source rest <;> rfl

end

/-- A tree is resolved exactly when each of its nodes is by itself. -/
theorem exists_resolve_iff (raw : RawReport) :
    (∃ report, raw.resolve source = .ok report) ↔
      ∀ node ∈ raw.nodes, ∃ report, node.alone.resolve source = .ok report := by
  rw [← fault?_eq_none_iff, fault?_resolve, List.findSome?_eq_none_iff]
  simp only [fault?_eq_none_iff]

/-- The first node with a fault decides how a tree fails. -/
theorem resolve_eq_error {raw node : RawReport} {before after : List RawReport}
    {fault : ReportFault} (hnodes : raw.nodes = before ++ node :: after)
    (hbefore : ∀ earlier ∈ before, ∃ report, earlier.alone.resolve source = .ok report)
    (hnode : node.alone.resolve source = .error fault) : raw.resolve source = .error fault := by
  rw [← fault?_eq_some_iff, fault?_resolve, List.findSome?_eq_some_iff]
  exact ⟨before, node, after, hnodes, fault?_eq_some_iff.mpr hnode,
    fun earlier h ↦ fault?_eq_none_iff.mpr (hbefore earlier h)⟩

/-- A report has as many dependencies as a node, and the rest is what the node gives by itself. -/
def Gives (source : String) (node : RawReport) (report : Report) : Prop :=
  report.dependencies.length = node.dependencies.length ∧
    node.alone.resolve source = .ok report.alone

/-- A resolved tree has the shape of its raw report, and each of its nodes is what the node at the
same place gives by itself. -/
theorem gives_of_resolve (path : List Nat) {raw : RawReport} {report : Report}
    (h : raw.resolve source = .ok report) :
    Option.Rel (Gives source) (raw.at? path) (report.at? path) := by
  induction path generalizing raw report with
  | nil =>
    obtain ⟨hroot, hall⟩ := (resolve_eq_ok_iff raw report).mp h
    exact .some ⟨hall.length_eq.symm, hroot⟩
  | cons place path ih =>
    obtain ⟨-, hall⟩ := (resolve_eq_ok_iff raw report).mp h
    rw [at?_cons, Report.at?_cons]
    by_cases hplace : place < raw.dependencies.length
    · have hplace' : place < report.dependencies.length := hall.length_eq ▸ hplace
      rw [List.getElem?_eq_getElem hplace, List.getElem?_eq_getElem hplace']
      exact ih (hall.get hplace hplace')
    · rw [List.getElem?_eq_none (Nat.le_of_not_lt hplace),
        List.getElem?_eq_none (hall.length_eq ▸ Nat.le_of_not_lt hplace)]
      exact .none

end RawReport

namespace Report

/-- A failure for an invalid input tells the owner of the field at fault. -/
theorem owner_of_invalidInput {fault : ReportFault} {field reason : String}
    (h : fault.failure = .invalidInput field reason) :
    ∃ owner label, fault.owner? = some owner ∧ field = label ++ " (" ++ owner.text ++ ")" := by
  cases fault <;> simp only [ReportFault.failure, reduceCtorEq, Failure.invalidInput.injEq] at h
  · exact ⟨_, _, rfl, h.1.symm⟩
  · exact ⟨_, _, rfl, h.1.symm⟩

/-- A document is a report, with its nested maps in some order, exactly when every node of its tree
in this order is by itself; the report then has the shape of the tree and holds at each place what
the node there gives by itself. Otherwise the first node with a fault, in pre-order, decides the
failure, and an invalid input is told with the name and the version of this node. -/
theorem parse_all_or_nothing {document source : String} {raw : RawReport}
    (hread : RawReport.read document = .ok raw) (order : RawReport.EntryOrder) :
    ((∃ report, parse document source order = .ok report) ↔
      ∀ node ∈ (order.arrange raw).nodes, ∃ report, node.alone.resolve source = .ok report) ∧
    (∀ report, parse document source order = .ok report → ∀ path,
      Option.Rel (RawReport.Gives source) ((order.arrange raw).at? path) (report.at? path)) ∧
    (∀ before node after fault, (order.arrange raw).nodes = before ++ node :: after →
      (∀ earlier ∈ before, ∃ report, earlier.alone.resolve source = .ok report) →
      node.alone.resolve source = .error fault →
      parse document source order = .error fault.failure ∧
      ∀ field reason, fault.failure = .invalidInput field reason →
        ∃ label name version, node.textOf? source .name = .ok (some name) ∧
          node.textOf? source .version = .ok (some version) ∧
          field = label ++ " (" ++ (name ++ "@" ++ version) ++ ")") := by
  have hparse : parse document source order =
      ((order.arrange raw).resolve source).mapError (·.failure) := by
    rw [parse, ofDocument, hread]
    rfl
  refine ⟨?_, ?_, ?_⟩
  · rw [← RawReport.exists_resolve_iff]
    simp only [hparse, mapError_eq_ok_iff]
  · intro report h path
    rw [hparse, mapError_eq_ok_iff] at h
    exact RawReport.gives_of_resolve path h
  · intro before node after fault hnodes hbefore hnode
    refine ⟨?_, ?_⟩
    · rw [hparse, RawReport.resolve_eq_error hnodes hbefore hnode]
      rfl
    · intro field reason h
      obtain ⟨owner, label, howner, hfield⟩ := owner_of_invalidInput h
      rw [RawReport.resolve_alone] at hnode
      obtain ⟨hname, hversion⟩ :=
        RawReport.packageOf_eq_ok_iff.mp (RawReport.packageOf_of_owner hnode howner)
      exact ⟨label, owner.name, owner.version, hname, hversion, hfield⟩

private def faultyDocument : String :=
  "\x7b\"name\":\"a\",\"version\":\"1\",\"dependencies\":[" ++
    "\x7b\"name\":\"b\",\"version\":\"2\",\"authors\":-1\x7d]\x7d"

/-- The root of this document is faultless, so the fault is that of its dependency. -/
theorem parse_all_or_nothing_negative :
    ∃ raw, RawReport.read faultyDocument = .ok raw ∧ raw.nodes.length = 2 ∧
      parse faultyDocument "r.json" =
        .error (.invalidInput "authors (b@2)" "count is negative (-1)") := by
  have hfaults : (RawReport.read faultyDocument).toOption.map
      (fun raw ↦ raw.nodes.map fun node ↦
        (fault? (node.alone.resolve "r.json")).map (·.failure)) =
      some [none, some (.invalidInput "authors (b@2)" "count is negative (-1)")] := by
    decide +kernel
  cases hread : RawReport.read faultyDocument with
  | error error =>
    rw [hread] at hfaults
    cases hfaults
  | ok raw =>
    rw [hread] at hfaults
    have hnodes := Option.some.inj hfaults
    obtain ⟨root, others, hroot, hfirst, hothers⟩ := List.map_eq_cons_iff.mp hnodes
    obtain ⟨dependency, rest, hdependency, hsecond, hrest⟩ := List.map_eq_cons_iff.mp hothers
    obtain ⟨fault, hfault, hfailure⟩ := Option.map_eq_some_iff.mp hsecond
    rw [List.map_eq_nil_iff] at hrest
    subst hrest hdependency
    refine ⟨raw, rfl, by rw [hroot]; rfl, ?_⟩
    rw [← hfailure]
    refine ((parse_all_or_nothing hread .byKey).2.2 [root] dependency [] fault hroot ?_
      (fault?_eq_some_iff.mp hfault)).1
    intro earlier hearlier
    rw [List.mem_singleton.mp hearlier]
    exact fault?_eq_none_iff.mp (Option.map_eq_none_iff.mp hfirst)

end Report

end PackageRisk
