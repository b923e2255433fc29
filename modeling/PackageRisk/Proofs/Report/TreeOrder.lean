import PackageRisk.Proofs.Report.Alike
import PackageRisk.Proofs.Report.Document
import PackageRisk.Proofs.Report.NestedOrder

/-!
# Trees in whatever order

Every nested map of a tree may be gone through in an order of its own. A tree that has a report in
some orders has the same report in all of them exactly when the foremost entries agree everywhere in
it. If no nested map has two keys without a severity besides, not even the fault depends on the
orders.
-/

namespace PackageRisk

open Fallible

namespace RawReport

/-- The foremost entries of a node for each severity have one value. -/
def NodeUntied (node : RawReport) : Prop :=
  ∀ scope severity, ∀ a ∈ foremost (node.nested scope) severity,
    ∀ b ∈ foremost (node.nested scope) severity, a.2 = b.2

/-- All nodes of a tree have foremost entries of one value for each severity. -/
def Untied (raw : RawReport) : Prop := ∀ node ∈ raw.nodes, node.NodeUntied

/-- The foremost entries of a node for each severity have one value, and each of its nested maps has
one key at most that names no severity. -/
def NodeSettled (node : RawReport) : Prop :=
  node.NodeUntied ∧ ∀ scope, ∀ a ∈ node.nested scope, ∀ b ∈ node.nested scope,
    Severity.ofName? a.1 = none → Severity.ofName? b.1 = none → a.1 = b.1

/-- All nodes of a tree have foremost entries of one value for each severity, and at most one key
without a severity in each nested map. -/
def Settled (raw : RawReport) : Prop := ∀ node ∈ raw.nodes, node.NodeSettled

/-- In whichever orders the entries of nested maps are gone through, the same report comes out, or
none does. -/
def IgnoresOrders (raw : RawReport) : Prop :=
  ∀ one other, Reorders raw one → Reorders raw other → ResolvesAlike one other

/-- Whatever comes out of a tree in some orders also comes out of another one in some orders. -/
def Follows (other raw : RawReport) : Prop :=
  ∀ reordered, Reorders other reordered → ∃ one, Reorders raw one ∧ ResolvesAlike reordered one

private theorem forall_scope_iff {p : Scope → Prop} :
    (∀ scope ∈ [Scope.direct, .indirect], p scope) ↔ ∀ scope, p scope :=
  ⟨fun h scope ↦ h scope (by cases scope <;> decide), fun h scope _ ↦ h scope⟩

/-- Ties at a node are found among its entries. -/
instance (node : RawReport) : Decidable node.NodeUntied :=
  decidable_of_iff (∀ scope ∈ [Scope.direct, .indirect], ∀ severity ∈ Severity.all,
    ∀ a ∈ foremost (node.nested scope) severity, ∀ b ∈ foremost (node.nested scope) severity,
      a.2 = b.2)
    (forall_scope_iff.trans
      (forall_congr' fun _ ↦ forall_congr' fun severity ↦ imp_iff_right severity.mem_all))

/-- Ties in a tree are found at its nodes. -/
instance (raw : RawReport) : Decidable raw.Untied :=
  inferInstanceAs (Decidable (∀ node ∈ raw.nodes, node.NodeUntied))

/-- Whether all orders give one result at a node is decided on its entries. -/
instance (node : RawReport) : Decidable node.NodeSettled :=
  haveI : Decidable (∀ scope, ∀ a ∈ node.nested scope, ∀ b ∈ node.nested scope,
      Severity.ofName? a.1 = none → Severity.ofName? b.1 = none → a.1 = b.1) :=
    decidable_of_iff _ forall_scope_iff
  inferInstanceAs (Decidable (_ ∧ _))

/-- Whether all orders give one result in a tree is decided at its nodes. -/
instance (raw : RawReport) : Decidable raw.Settled :=
  inferInstanceAs (Decidable (∀ node ∈ raw.nodes, node.NodeSettled))

/-! ### Related trees -/

mutual

/-- What holds of two trees if it holds of their dependencies holds of related trees. -/
theorem Nodewise.induction {related motive : RawReport → RawReport → Prop}
    (step : ∀ {a b}, related a b → List.Forall₂ motive a.dependencies b.dependencies → motive a b) :
    ∀ a {b}, Nodewise related a b → motive a b
  | ⟨_, _, _, dependencies⟩, _, .node self below =>
    step self (NodewiseAll.induction step dependencies below)

/-- What holds of two trees if it holds of their dependencies holds of lists of related trees. -/
theorem NodewiseAll.induction {related motive : RawReport → RawReport → Prop}
    (step : ∀ {a b}, related a b → List.Forall₂ motive a.dependencies b.dependencies → motive a b) :
    ∀ as {bs}, NodewiseAll related as bs → List.Forall₂ motive as bs
  | [], _, .nil => .nil
  | a :: as, _, .cons first rest =>
    .cons (Nodewise.induction step a first) (NodewiseAll.induction step as rest)

end

private theorem forall₂_trans {α β γ : Type} {r : α → β → Prop} {q : β → γ → Prop}
    {p : α → γ → Prop}
    (h : ∀ a b c, r a b → q b c → p a c) {as : List α} {bs : List β} {cs : List γ}
    (hfirst : List.Forall₂ r as bs) (hsecond : List.Forall₂ q bs cs) : List.Forall₂ p as cs := by
  induction hfirst generalizing cs with
  | nil => cases hsecond; exact .nil
  | cons hab _ ih =>
    cases hsecond with
    | cons hbc hrest => exact .cons (h _ _ _ hab hbc) (ih hrest)

namespace SameEntries

variable {a b c : RawReport}

private theorem refl (a : RawReport) : SameEntries a a := ⟨rfl, fun _ ↦ .refl _⟩

private theorem symm (h : SameEntries a b) : SameEntries b a :=
  ⟨h.members.symm, fun scope ↦ (h.nested scope).symm⟩

private theorem trans (h : SameEntries a b) (hnext : SameEntries b c) : SameEntries a c :=
  ⟨h.members.trans hnext.members, fun scope ↦ (h.nested scope).trans (hnext.nested scope)⟩

private theorem find?_eq (h : SameEntries a b) (field : Field) : a.find? field = b.find? field := by
  unfold find?
  rw [h.members]

/-- A node with foremost entries of one value says the same in every order. -/
theorem saysSame (h : SameEntries a b) (huntied : a.NodeUntied) : SaysSame b a := by
  have hvalue (field : Field) : b.valueOf? field = a.valueOf? field := by
    rw [valueOf?, valueOf?, h.find?_eq]
  refine ⟨fun field _ ↦ hvalue field, fun scope ↦ (allNamed_perm (h.nested scope)).symm,
    fun source package scope severity count ↦ ?_⟩
  exact countIs_congr (hvalue _) (nestedValue?_perm (h.nested scope) (huntied scope severity))
    source package count

end SameEntries

namespace Reorders

variable {a b c : RawReport}

/-- Every tree reorders itself. -/
theorem refl (a : RawReport) : Reorders a a := Nodewise.refl .refl a

private theorem symm (h : Reorders a b) : Reorders b a := by
  refine Nodewise.induction (motive := fun a b ↦ Reorders b a) (fun self below ↦ ?_) a h
  exact .node self.symm (nodewiseAll_iff.mpr below.flip)

private theorem trans (h : Reorders a b) (hnext : Reorders b c) : Reorders a c := by
  refine Nodewise.induction (motive := fun a b ↦ ∀ {c}, Reorders b c → Reorders a c)
    (fun self below c hnext ↦ ?_) a h hnext
  cases hnext with
  | node selfNext belowNext =>
    exact .node (self.trans selfNext)
      (nodewiseAll_iff.mpr (forall₂_trans (fun _ _ _ hab hbc ↦ hab hbc) below
        (nodewiseAll_iff.mp belowNext)))

end Reorders

/-! ### Nodes of related trees -/

private theorem nodesOf_eq (raws : List RawReport) : nodesOf raws = raws.flatMap nodes := by
  induction raws with
  | nil => rfl
  | cons raw rest ih => rw [nodesOf, List.flatMap_cons, ih]

/-- All nodes of a tree have a property if its root and all nodes below have it. -/
theorem forall_nodes_iff {p : RawReport → Prop} {raw : RawReport} :
    (∀ node ∈ raw.nodes, p node) ↔
      p raw ∧ ∀ child ∈ raw.dependencies, ∀ node ∈ child.nodes, p node := by
  rw [nodes_eq raw, nodesOf_eq]
  simp only [List.forall_mem_cons, List.mem_flatMap, forall_exists_index, and_imp]
  exact and_congr_right fun _ ↦ ⟨fun h child hchild node hnode ↦ h node child hchild hnode,
    fun h node child hchild hnode ↦ h child hchild node hnode⟩

/-- Where the foremost entries agree in the whole tree, the orders do not matter. -/
theorem Untied.resolvesAlike {raw other : RawReport} (huntied : raw.Untied)
    (h : Reorders raw other) : ResolvesAlike other raw := by
  refine Nodewise.induction (motive := fun raw other ↦ raw.Untied → ResolvesAlike other raw)
    (fun self below huntied ↦ ?_) raw h huntied
  obtain ⟨hroot, hbelow⟩ := forall_nodes_iff.mp huntied
  exact (self.saysSame hroot).resolvesAlike
    (((List.forall₂_and_left _ _).mpr ⟨hbelow, below⟩).imp fun _ _ h ↦ h.2 h.1).flip

/-- The node at the end of a path of a tree is in its place in every order. -/
theorem Reorders.at? {raw other node : RawReport} (path : List Nat) (h : Reorders raw other)
    (hnode : raw.at? path = some node) :
    ∃ reordered, other.at? path = some reordered ∧ Reorders node reordered := by
  induction path generalizing raw other with
  | nil =>
    cases hnode
    exact ⟨other, rfl, h⟩
  | cons place path ih =>
    cases h with
    | node self below =>
      rw [at?_cons] at hnode
      obtain ⟨child, hchild, hnode⟩ := Option.bind_eq_some_iff.mp hnode
      obtain ⟨hplace, rfl⟩ := List.getElem?_eq_some_iff.mp hchild
      have hall := nodewiseAll_iff.mp below
      have hplace' : place < other.dependencies.length := hall.length_eq ▸ hplace
      obtain ⟨reordered, hreordered, hbelow⟩ := ih (hall.get hplace hplace') hnode
      refine ⟨reordered, ?_, hbelow⟩
      rw [at?_cons, List.getElem?_eq_getElem hplace']
      exact hreordered

/-- A changed node stands where it stood before. -/
theorem at?_modifyAt {f : RawReport → RawReport} {raw node : RawReport} (path : List Nat)
    (hnode : raw.at? path = some node) : (raw.modifyAt f path).at? path = some (f node) := by
  induction path generalizing raw with
  | nil =>
    cases hnode
    rfl
  | cons place path ih =>
    rw [at?_cons] at hnode
    obtain ⟨child, hchild, hnode⟩ := Option.bind_eq_some_iff.mp hnode
    rw [modifyAt, at?_cons, List.getElem?_modify_eq, hchild]
    exact ih hnode

section Modify

variable {r : RawReport → RawReport → Prop} {f : RawReport → RawReport}
  (hrefl : ∀ raw, r raw raw)

include hrefl

/-- Changing one of several trees leaves them related, one by one. -/
private theorem forall₂_modify {raws : List RawReport} {place : Nat} {child : RawReport}
    (hchild : raws[place]? = some child) (h : r (f child) child) :
    List.Forall₂ r (raws.modify place f) raws := by
  induction raws generalizing place with
  | nil => cases hchild
  | cons first rest ih =>
    cases place with
    | zero =>
      obtain rfl : first = child := by simpa using hchild
      rw [List.modify_zero_cons]
      exact .cons h (List.forall₂_same.mpr fun raw _ ↦ hrefl raw)
    | succ place =>
      rw [List.modify_succ_cons]
      exact .cons (hrefl first) (ih (by simpa using hchild))

/-- Changing a node leaves the trees related if it leaves the nodes related. -/
theorem related_modifyAt
    (hcongr : ∀ (raw : RawReport) {dependencies : List RawReport},
      List.Forall₂ r dependencies raw.dependencies → r { raw with dependencies } raw)
    {raw node : RawReport} (path : List Nat) (hnode : raw.at? path = some node)
    (h : r (f node) node) : r (raw.modifyAt f path) raw := by
  induction path generalizing raw with
  | nil =>
    cases hnode
    exact h
  | cons place path ih =>
    rw [at?_cons] at hnode
    obtain ⟨child, hchild, hnode⟩ := Option.bind_eq_some_iff.mp hnode
    exact hcongr raw (forall₂_modify hrefl hchild (ih hnode))

end Modify

/-- A tree whose node at the end of a path is reordered is reordered. -/
theorem reorders_modifyAt {f : RawReport → RawReport} {raw node : RawReport} (path : List Nat)
    (hnode : raw.at? path = some node) (h : Reorders node (f node)) :
    Reorders raw (raw.modifyAt f path) :=
  (related_modifyAt .refl (fun _ _ hbelow ↦ .node ⟨rfl, fun _ ↦ .refl _⟩
    (nodewiseAll_iff.mpr hbelow)) path hnode h.symm).symm

/-- A tree with the entries of a nested map in another order reorders the tree. -/
theorem reorders_withNested (raw : RawReport) {scope : Scope} {entries : List (String × Option Int)}
    (h : (raw.nested scope).Perm entries) : Reorders raw (raw.withNested scope entries) := by
  have hmembers : raw.members = (raw.withNested scope entries).members := by cases scope <;> rfl
  have hdependencies : (raw.withNested scope entries).dependencies = raw.dependencies := by
    cases scope <;> rfl
  refine .node ⟨hmembers, fun other ↦ ?_⟩ ?_
  · cases scope <;> cases other
    · exact h
    · exact .refl _
    · exact .refl _
    · exact h
  · rw [hdependencies]
    exact .refl .refl _

/-! ### When the orders do not matter -/

/-- What a tree gives a node counts in every order of a nested map of the node, where the orders do
not matter. -/
theorem IgnoresOrders.vulnerabilityCounts_eq {raw one node : RawReport} {path : List Nat}
    {source : String} {report : Report} (h : raw.IgnoresOrders) (hone : Reorders raw one)
    (hresolve : one.resolve source = .ok report) (hnode : one.at? path = some node)
    (scope : Scope) :
    ∃ package counts, ∀ entries, (node.nested scope).Perm entries →
      (node.withNested scope entries).vulnerabilityCounts source package scope = .ok counts := by
  have hat := gives_of_resolve path hresolve
  rw [hnode] at hat
  cases hreport : report.at? path with
  | none =>
    rw [hreport] at hat
    cases hat
  | some own =>
    refine ⟨own.package, own.input.vulnerabilities scope, fun entries hperm ↦ ?_⟩
    have hreordered : Reorders raw (one.modifyAt (·.withNested scope entries) path) :=
      hone.trans (reorders_modifyAt path hnode (reorders_withNested node hperm))
    have hgives := gives_of_resolve path ((h one _ hone hreordered source report).mp hresolve)
    rw [at?_modifyAt path hnode, hreport] at hgives
    cases hgives with
    | some hgives =>
      rw [Gives, resolve_alone, resolveAlone_eq_ok_iff] at hgives
      exact hgives.2.vulnerabilities scope

/-- The orders of nested maps do not matter for the report of a tree exactly when there is a report
in none of them, or the foremost entries agree everywhere in the tree. -/
theorem ignoresOrders_iff {raw : RawReport} (hrange : raw.InRange) :
    raw.IgnoresOrders ↔
      (∀ one, Reorders raw one → ∀ source report, one.resolve source ≠ .ok report) ∨
        raw.Untied := by
  constructor
  · intro h
    by_cases hall : ∀ one, Reorders raw one → ∀ source report, one.resolve source ≠ .ok report
    · exact .inl hall
    · right
      push Not at hall
      obtain ⟨one, hone, source, report, hresolve⟩ := hall
      intro node hmem scope severity a ha b hb
      obtain ⟨path, hpath⟩ := raw.exists_at?_of_mem_nodes node hmem
      obtain ⟨reordered, hreordered, hnode⟩ := hone.at? path hpath
      obtain ⟨package, counts, hcounts⟩ :=
        h.vulnerabilityCounts_eq hone hresolve hreordered scope
      cases hnode with
      | node self below =>
        have hforemost := foremost_perm (self.nested scope) severity
        exact eq_of_mem_foremost
          (fun entry hentry ↦ hrange node hmem scope entry ((self.nested scope).mem_iff.mpr hentry))
          hcounts (hforemost.mem_iff.mp ha) (hforemost.mem_iff.mp hb)
  · rintro (hnone | huntied) one other hone hother
    · exact fun source report ↦ ⟨fun h ↦ absurd h (hnone one hone source report),
        fun h ↦ absurd h (hnone other hother source report)⟩
    · exact fun source report ↦ (huntied.resolvesAlike hone source report).trans
        (huntied.resolvesAlike hother source report).symm

/-! ### Trees that follow another one -/

namespace Follows

variable {raw other another : RawReport}

/-- Every tree follows itself. -/
theorem refl (raw : RawReport) : Follows raw raw :=
  fun reordered h ↦ ⟨reordered, h, .refl reordered⟩

/-- What follows a tree that follows another follows that other too. -/
theorem trans (h : Follows other raw) (hnext : Follows another other) : Follows another raw := by
  intro reordered hreordered
  obtain ⟨middle, hmiddle, halike⟩ := hnext reordered hreordered
  obtain ⟨one, hone, hsame⟩ := h middle hmiddle
  exact ⟨one, hone, fun source report ↦ (halike source report).trans (hsame source report)⟩

/-- A tree follows another one if its root says what the root of the other one says in some order,
and the dependencies of the one follow those of the other. -/
theorem of_dependencies
    (hself : ∀ reordered, SameEntries other reordered →
      ∃ one, SameEntries raw one ∧ SaysSame reordered one)
    (hbelow : List.Forall₂ Follows other.dependencies raw.dependencies) : Follows other raw := by
  intro reordered hreordered
  cases hreordered with
  | node self below =>
    obtain ⟨one, hone, hsame⟩ := hself reordered self
    obtain ⟨dependencies, hdependencies, halike⟩ :
        ∃ dependencies, List.Forall₂ Reorders raw.dependencies dependencies ∧
          List.Forall₂ ResolvesAlike reordered.dependencies dependencies := by
      have hbelow' := nodewiseAll_iff.mp below
      generalize other.dependencies = olds, raw.dependencies = raws,
        reordered.dependencies = news at hbelow hbelow'
      induction hbelow generalizing news with
      | nil =>
        cases hbelow'
        exact ⟨[], .nil, .nil⟩
      | cons hfirst _ ih =>
        cases hbelow' with
        | cons hnew hnews =>
          obtain ⟨first, hreorders, halike⟩ := hfirst _ hnew
          obtain ⟨rest, hrest, halikes⟩ := ih _ hnews
          exact ⟨first :: rest, .cons hreorders hrest, .cons halike halikes⟩
    refine ⟨{ one with dependencies }, .node ⟨hone.members, hone.nested⟩
      (nodewiseAll_iff.mpr hdependencies), ?_⟩
    have hsame' : SaysSame reordered { one with dependencies } :=
      ⟨hsame.value, hsame.named, hsame.counts⟩
    exact hsame'.resolvesAlike halike

/-- Where the entries are the same, so are the orders in which they can come. -/
theorem of_sameEntries (h : SameEntries raw other)
    (hbelow : List.Forall₂ Follows other.dependencies raw.dependencies) : Follows other raw :=
  of_dependencies (fun reordered hreordered ↦ ⟨reordered, h.trans hreordered, .refl reordered⟩)
    hbelow

/-- Changing a node gives a tree that follows the one before if the node does. -/
theorem modifyAt {f : RawReport → RawReport} {node : RawReport} (path : List Nat)
    (hnode : raw.at? path = some node) (h : Follows (f node) node) :
    Follows (raw.modifyAt f path) raw :=
  related_modifyAt .refl (fun _ _ hbelow ↦ .of_sameEntries ⟨rfl, fun _ ↦ .refl _⟩ hbelow) path
    hnode h

/-- A tree follows what comes out of it by changing a node if the node does. -/
theorem of_modifyAt {f : RawReport → RawReport} {node : RawReport} (path : List Nat)
    (hnode : raw.at? path = some node) (h : Follows node (f node)) :
    Follows raw (raw.modifyAt f path) :=
  related_modifyAt (r := fun changed raw ↦ Follows raw changed) .refl
    (fun _ _ hbelow ↦ .of_sameEntries ⟨rfl, fun _ ↦ .refl _⟩ hbelow.flip) path hnode h

/-- A tree that follows another one has the same report in whatever orders exactly when the orders
do not matter for the other one. -/
theorem resolvesAlike_iff (h : Follows other raw) :
    (∀ one reordered, Reorders raw one → Reorders other reordered → ResolvesAlike one reordered) ↔
      raw.IgnoresOrders := by
  constructor
  · intro hall one another hone hanother source report
    exact (hall one other hone (.refl other) source report).trans
      (hall another other hanother (.refl other) source report).symm
  · intro hignores one reordered hone hreordered source report
    obtain ⟨middle, hmiddle, halike⟩ := h reordered hreordered
    exact (hignores one middle hone hmiddle source report).trans (halike source report).symm

end Follows

/-! ### The fault of a tree -/

/-- Entries whose keys do not all name severities are refused for one that does not. -/
theorem mapM_entryOf_eq_error {nested : List (String × Option Int)} {source text : String}
    (htext : ∀ entry ∈ nested, Severity.ofName? entry.1 = none → entry.1 = text)
    (h : ¬AllNamed nested) :
    nested.mapM (entryOf source) = .error (.unknownSeverity source text) := by
  induction nested with
  | nil => exact absurd (fun entry hentry ↦ by cases hentry) h
  | cons entry rest ih =>
    obtain ⟨hentry, hrest⟩ := List.forall_mem_cons.mp htext
    rw [List.mapM_cons]
    cases hname : Severity.ofName? entry.1 with
    | none =>
      rw [entryOf, hname, hentry hname]
      rfl
    | some severity =>
      have hnot : ¬AllNamed rest :=
        fun hall ↦ h (List.forall_mem_cons.mpr ⟨⟨severity, hname⟩, hall⟩)
      rw [entryOf, hname, ih hrest hnot]
      rfl

/-- What a settled node counts, and with which fault it is refused, is the same in every order. -/
theorem SameEntries.vulnerabilityCounts_eq {a b : RawReport} (h : SameEntries a b)
    (hsettled : a.NodeSettled) (source : String) (package : Package) (scope : Scope) :
    b.vulnerabilityCounts source package scope = a.vulnerabilityCounts source package scope := by
  obtain ⟨huntied, hlone⟩ := hsettled
  have hflat : b.flatCounts source package scope = a.flatCounts source package scope := by
    simp only [flatCounts, countOf?, integerOf?, h.find?_eq]
  have hperm := h.nested scope
  unfold vulnerabilityCounts
  rw [hflat]
  refine bind_congr fun counts ↦ ?_
  by_cases hnamed : AllNamed (a.nested scope)
  · obtain ⟨entries, hentries⟩ : ∃ entries, (a.nested scope).mapM (entryOf source) = .ok entries :=
      (exists_mapM_entryOf_iff _).mpr hnamed
    obtain ⟨others, hothers⟩ : ∃ others, (b.nested scope).mapM (entryOf source) = .ok others :=
      (exists_mapM_entryOf_iff _).mpr ((allNamed_perm hperm).mp hnamed)
    have hoverride : override package scope others = override package scope entries := by
      funext counts severity
      unfold override
      rw [chosen?_entries hothers, chosen?_entries hentries,
        nestedValue?_perm hperm (huntied scope severity)]
    rw [hentries, hothers]
    change overrideCounts _ _ _ _ = overrideCounts _ _ _ _
    rw [overrideCounts_eq, overrideCounts_eq, hoverride]
  · obtain ⟨stranger, hmem, hstranger⟩ : ∃ entry ∈ a.nested scope,
        Severity.ofName? entry.1 = none := by
      unfold AllNamed at hnamed
      push Not at hnamed
      obtain ⟨entry, hentry, hnone⟩ := hnamed
      exact ⟨entry, hentry, Option.eq_none_iff_forall_ne_some.mpr hnone⟩
    have htext : ∀ entry ∈ a.nested scope, Severity.ofName? entry.1 = none →
        entry.1 = stranger.1 := fun entry hentry hnone ↦
      hlone scope entry hentry stranger hmem hnone hstranger
    rw [mapM_entryOf_eq_error htext hnamed, mapM_entryOf_eq_error
      (fun entry hentry ↦ htext entry (hperm.mem_iff.mpr hentry))
      (fun hall ↦ hnamed ((allNamed_perm hperm).mpr hall))]

/-- A node is resolved from its fields and from what its scopes count. -/
theorem SameEntries.resolveAlone_eq {a b : RawReport} (h : SameEntries a b)
    (hsettled : a.NodeSettled) (source : String) :
    b.resolveAlone source = a.resolveAlone source := by
  simp only [resolveAlone, packageOf, inputOf, detailsOf, countOf?, integerOf?, numberOf?, textOf?,
    h.find?_eq, h.vulnerabilityCounts_eq hsettled]

/-- In every order a settled tree has the same report, or is refused with the same fault. -/
theorem Settled.resolve_eq {raw other : RawReport} (hsettled : raw.Settled)
    (h : Reorders raw other) (source : String) : other.resolve source = raw.resolve source := by
  refine Nodewise.induction
    (motive := fun raw other ↦ raw.Settled → other.resolve source = raw.resolve source)
    (fun {a b} self below hsettled ↦ ?_) raw h hsettled
  obtain ⟨hroot, hbelow⟩ := forall_nodes_iff.mp hsettled
  have hall : resolveAll source b.dependencies = resolveAll source a.dependencies := by
    have hsame : List.Forall₂ (fun a b ↦ resolve source b = resolve source a) a.dependencies
        b.dependencies :=
      ((List.forall₂_and_left _ _).mpr ⟨hbelow, below⟩).imp fun _ _ h ↦ h.2 h.1
    generalize a.dependencies = as, b.dependencies = bs at hsame
    induction hsame with
    | nil => rfl
    | cons hfirst _ ih => rw [resolveAll, resolveAll, hfirst, ih]
  rw [RawReport.resolve_eq, RawReport.resolve_eq, self.resolveAlone_eq hroot, hall]

/-! ### Documents -/

/-- Every order of the nested maps of a tree can be chosen. -/
theorem exists_entryOrder {raw one : RawReport} (h : Reorders raw one) :
    ∃ order : EntryOrder, order.arrange raw = one := by
  classical
  refine ⟨⟨fun other ↦ if other = raw then one else other, fun other ↦ ?_⟩, if_pos rfl⟩
  split_ifs with heq
  · exact heq ▸ h
  · exact .refl other

end RawReport

namespace Report

open RawReport

variable {document other : String} {raw moved : RawReport}

/-- A document that is read is resolved in the order that is chosen. -/
theorem ofDocument_eq_resolve (hraw : RawReport.read document = .ok raw) (source : String)
    (order : EntryOrder) :
    ofDocument document source order = (order.arrange raw).resolve source := by
  rw [ofDocument, hraw]
  rfl

/-- A document that is read is parsed to the report that its tree is resolved to. -/
theorem parse_eq_ok_iff_resolve (hraw : RawReport.read document = .ok raw) {source : String}
    {order : EntryOrder} {report : Report} :
    parse document source order = .ok report ↔ (order.arrange raw).resolve source = .ok report := by
  rw [parse, mapError_eq_ok_iff, ofDocument_eq_resolve hraw]

/-- Whatever comes out of a document whose tree follows another one also comes out of the document
of the other one, in some order. -/
theorem exists_order_of_follows (hraw : RawReport.read document = .ok raw)
    (hmoved : RawReport.read other = .ok moved) (h : Follows moved raw) (order : EntryOrder) :
    ∃ another, ∀ source report,
      parse other source order = .ok report ↔ parse document source another = .ok report := by
  obtain ⟨one, hone, halike⟩ := h _ (order.reorders moved)
  obtain ⟨another, rfl⟩ := exists_entryOrder hone
  refine ⟨another, fun source report ↦ ?_⟩
  rw [parse_eq_ok_iff_resolve hraw, parse_eq_ok_iff_resolve hmoved]
  exact halike source report

/-- Every order of the entries of a nested map of the root can be chosen. -/
theorem exists_order_parse (hraw : RawReport.read document = .ok raw) {scope : Scope}
    {entries : List (String × Option Int)} (h : (raw.nested scope).Perm entries) :
    ∃ order, ∀ source, parse document source order =
      ((raw.withNested scope entries).resolve source).mapError (·.failure) := by
  obtain ⟨order, horder⟩ := exists_entryOrder (reorders_withNested raw h)
  exact ⟨order, fun source ↦ by rw [parse, ofDocument_eq_resolve hraw, horder]⟩

/-- Two documents, the tree of one of which follows that of the other, are parsed alike in whatever
orders exactly when there is a report in none of them, or the foremost entries agree everywhere. -/
theorem parsesAlike_iff (hraw : RawReport.read document = .ok raw)
    (hmoved : RawReport.read other = .ok moved) (h : Follows moved raw) (hrange : raw.InRange) :
    (∀ source one another report,
        parse document source one = .ok report ↔ parse other source another = .ok report) ↔
      (∀ source order report, parse document source order ≠ .ok report) ∨ raw.Untied := by
  have halike : (∀ source one another report,
      parse document source one = .ok report ↔ parse other source another = .ok report) ↔
        ∀ one reordered, Reorders raw one → Reorders moved reordered →
          ResolvesAlike one reordered := by
    simp only [parse_eq_ok_iff_resolve hraw, parse_eq_ok_iff_resolve hmoved]
    constructor
    · intro hall one reordered hone hreordered source report
      obtain ⟨order, rfl⟩ := exists_entryOrder hone
      obtain ⟨another, rfl⟩ := exists_entryOrder hreordered
      exact hall source order another report
    · exact fun hall source one another report ↦
        hall _ _ (one.reorders raw) (another.reorders moved) source report
  have hnone : (∀ source order report, parse document source order ≠ .ok report) ↔
      ∀ one, Reorders raw one → ∀ source report, one.resolve source ≠ .ok report := by
    simp only [ne_eq, parse_eq_ok_iff_resolve hraw]
    constructor
    · intro hall one hone source report
      obtain ⟨order, rfl⟩ := exists_entryOrder hone
      exact hall source order report
    · exact fun hall source order report ↦ hall _ (order.reorders raw) source report
  rw [halike, hnone, h.resolvesAlike_iff, ignoresOrders_iff hrange]

end Report

end PackageRisk
