import PackageRisk.OutputFormat
import PackageRisk.Proofs.ScoreSheet.Sections
import PackageRisk.Proofs.Text.Lines

/-!
# The outline of a Markdown sheet

What a sheet has, but not what it says, gives the lines of its text: which of them are headings,
table rows, items of a list, blank or prose. No text of a report can add a line, apart from the two
dates: these are written as they are, and every line break in one of them makes a line more, which
may look like any line of the sheet.
-/

namespace PackageRisk.ScoreSheet.Markdown

/-! ### Kinds of lines -/

/-- What a line is, as its first character tells. -/
inductive LineKind
  | blank
  | heading
  | item
  | row
  | prose
  deriving DecidableEq, Repr

/-- The kind of a line. -/
def LineKind.of : List Char → LineKind
  | [] => blank
  | '#' :: _ => heading
  | '-' :: _ => item
  | '|' :: _ => row
  | _ => prose

/-- What a sheet has: the facts of the score card that may be missing, the number of entries of the
explanation if there is one, the number of direct dependencies, and the check for a minimum
grade. -/
structure Shape where
  banner : Bool
  authors : Bool
  contributors : Bool
  releaseDate : Bool
  scoringDate : Bool
  breakdown : Option Nat
  dependencies : Nat
  gate : Bool
  deriving DecidableEq, Repr

/-- The number of facts of the score card. -/
def Shape.facts (shape : Shape) : Nat :=
  3 + [shape.banner, shape.authors, shape.contributors, shape.releaseDate,
    shape.scoringDate].count true

/-- A heading, and a table under it. -/
def tableOutline (rows : Nat) : List LineKind :=
  [.heading, .blank] ++ List.replicate (2 + rows) .row ++ [.blank]

/-- The kinds of the lines of a sheet. -/
def Shape.outline (shape : Shape) : List LineKind :=
  [.heading, .blank, .prose, .blank] ++
  ([.heading, .blank] ++ List.replicate shape.facts .item ++ [.blank]) ++
  tableOutline 4 ++
  (shape.breakdown.map tableOutline).getD [] ++
  (if shape.dependencies = 0 then [.heading, .blank, .prose, .blank]
    else tableOutline shape.dependencies) ++
  tableOutline 5 ++
  (if shape.gate then [.heading, .blank, .prose] else [])

/-- What a sheet has. -/
def shape (sheet : ScoreSheet) : Shape where
  banner := sheet.package.banner.isSome
  authors := sheet.package.authors.isSome
  contributors := sheet.package.contributors.isSome
  releaseDate := sheet.package.releaseDate.isSome
  scoringDate := sheet.package.scoringDate.isSome
  breakdown := sheet.package.breakdown.map List.length
  dependencies := sheet.dependencies.length
  gate := sheet.gate.isSome

/-- The kinds of lines. -/
def kinds (lines : List String) : List LineKind := lines.map fun line ↦ .of line.toList

/-- No lines have no kinds. -/
@[simp] theorem kinds_nil : kinds [] = [] := rfl

/-- The kinds of lines are told line by line. -/
@[simp] theorem kinds_cons (line : String) (lines : List String) :
    kinds (line :: lines) = .of line.toList :: kinds lines := rfl

@[simp] private theorem kinds_append (lines more : List String) :
    kinds (lines ++ more) = kinds lines ++ kinds more :=
  List.map_append

/-- Lines of one kind. -/
theorem kinds_eq_replicate {lines : List String} {kind : LineKind}
    (h : ∀ line ∈ lines, LineKind.of line.toList = kind) :
    kinds lines = List.replicate lines.length kind := by
  rw [kinds, List.eq_replicate_iff]
  refine ⟨List.length_map .., fun other hother ↦ ?_⟩
  obtain ⟨line, hline, rfl⟩ := List.mem_map.mp hother
  exact h line hline

private theorem of_row (cells : List String) : LineKind.of (row cells).toList = .row := by
  simp [row, LineKind.of]

private theorem of_fact (label value : String) : LineKind.of (fact label value).toList = .item := by
  simp [fact, LineKind.of]

/-- A heading and a table under it are told by the number of rows. -/
theorem kinds_table {title names rule : String} {rows : List String}
    (htitle : LineKind.of title.toList = .heading) (hnames : LineKind.of names.toList = .row)
    (hrule : LineKind.of rule.toList = .row) (hrows : ∀ line ∈ rows, ∃ cells, line = row cells) :
    kinds ([title, "", names, rule] ++ rows ++ [""]) = tableOutline rows.length := by
  have hkinds : kinds rows = List.replicate rows.length .row := by
    refine kinds_eq_replicate fun line hline ↦ ?_
    obtain ⟨cells, rfl⟩ := hrows line hline
    exact of_row cells
  simp only [kinds_append, kinds_cons, kinds_nil, htitle, hnames, hrule, hkinds, tableOutline,
    Nat.add_comm 2, List.replicate_succ]
  rfl

private theorem kinds_header (imprint : Imprint) :
    kinds (header imprint) = [.heading, .blank, .prose, .blank] := by
  simp [header, LineKind.of]

private theorem length_toList {α : Type} (content : Option α) :
    content.toList.length = if content.isSome = true then 1 else 0 := by
  cases content <;> rfl

/-- There are three facts, and those that are known. -/
theorem length_facts (sheet : ScoreSheet) : (facts sheet.package).length = (shape sheet).facts := by
  simp only [facts, List.length_append, List.length_map, length_toList, List.length_cons,
    List.length_nil, Shape.facts, shape, List.count_cons, List.count_nil, beq_iff_eq]
  omega

private theorem kinds_facts (card : PackageCard) :
    kinds (facts card) = List.replicate (facts card).length .item := by
  refine kinds_eq_replicate fun line hline ↦ ?_
  obtain ⟨label, value, rfl⟩ : ∃ label value, line = fact label value := by
    simp only [facts, List.mem_append, List.mem_cons, List.mem_map, Option.mem_toList,
      List.not_mem_nil, or_false] at hline
    obtain (((((rfl | ⟨_, -, rfl⟩) | rfl | rfl) | ⟨_, -, rfl⟩) | ⟨_, -, rfl⟩) | ⟨_, -, rfl⟩) |
      ⟨_, -, rfl⟩ := hline <;> exact ⟨_, _, rfl⟩
  exact of_fact label value

/-- The title of the score card and the facts. -/
theorem kinds_facts_section (card : PackageCard) :
    kinds (["## " ++ packageLink card.name ++ "@" ++ card.version, ""] ++ facts card ++ [""]) =
      [.heading, .blank] ++ List.replicate (facts card).length .item ++ [.blank] := by
  have htitle : LineKind.of ("## " ++ packageLink card.name ++ "@" ++ card.version).toList =
      .heading := by
    simp [LineKind.of]
  simp only [kinds_append, kinds_cons, kinds_nil, kinds_facts, htitle]
  rfl

/-- An explanation has a row for every entry. -/
theorem length_breakdownRows (entries : List Term) :
    (breakdownRows entries).length = entries.length := by
  induction entries with
  | nil => rfl
  | cons entry rest ih => rw [breakdownRows_cons, List.length_cons, ih, List.length_cons]

private theorem exists_row_of_mem_breakdownRows {entries : List Term} {line : String}
    (h : line ∈ breakdownRows entries) : ∃ cells, line = row cells := by
  induction entries with
  | nil => cases h
  | cons entry rest ih =>
    rw [breakdownRows_cons, List.mem_cons] at h
    obtain rfl | h := h
    · split
      · exact ⟨_, rfl⟩
      · exact ⟨_, rfl⟩
    · exact ih h

private theorem kinds_vulnerabilities (direct indirect : VulnerabilityCounts) :
    kinds (vulnerabilities direct indirect) = tableOutline 4 := by
  refine kinds_table (by decide) (by decide) (by decide) fun line hline ↦ ?_
  obtain ⟨severity, -, rfl⟩ := List.mem_map.mp hline
  exact ⟨_, rfl⟩

private theorem kinds_breakdown (entries : List Term) :
    kinds (breakdown entries) = tableOutline entries.length := by
  rw [← length_breakdownRows]
  exact kinds_table (by decide) (by decide) (by decide)
    fun _ hline ↦ exists_row_of_mem_breakdownRows hline

private theorem kinds_package (sheet : ScoreSheet) :
    kinds (package sheet.package) =
      ([.heading, .blank] ++ List.replicate (shape sheet).facts .item ++ [.blank]) ++
        tableOutline 4 ++ ((shape sheet).breakdown.map tableOutline).getD [] := by
  have hbreakdown : kinds ((sheet.package.breakdown.map breakdown).getD []) =
      ((shape sheet).breakdown.map tableOutline).getD [] := by
    unfold shape
    cases sheet.package.breakdown with
    | none => rfl
    | some entries => exact kinds_breakdown entries
  rw [package, kinds_append, kinds_append, kinds_facts_section, length_facts,
    kinds_vulnerabilities, hbreakdown]

private theorem kinds_dependencies (rows : List DependencyRow) :
    kinds (dependencies rows) =
      if rows.length = 0 then [.heading, .blank, .prose, .blank] else tableOutline rows.length := by
  cases rows with
  | nil => decide
  | cons first rest =>
    rw [if_neg (by simp), ← List.length_map dependencyRow]
    refine kinds_table (by decide) (by decide) (by decide) fun line hline ↦ ?_
    obtain ⟨dependency, -, rfl⟩ := List.mem_map.mp hline
    exact ⟨_, rfl⟩

private theorem kinds_distribution (buckets : List (String × Nat)) :
    kinds (distribution buckets) = tableOutline buckets.length := by
  rw [← List.length_map (fun bucket ↦ row [bucket.1, toString bucket.2])]
  refine kinds_table (by decide) (by decide) (by decide) fun line hline ↦ ?_
  obtain ⟨bucket, -, rfl⟩ := List.mem_map.mp hline
  exact ⟨_, rfl⟩

private theorem kinds_gate (grade : String) (view : GateView) :
    kinds (gate grade view) = [.heading, .blank, .prose] := by
  unfold gate
  cases view.passed <;> simp [LineKind.of]

/-- A sheet with five grades has the lines of its outline. -/
theorem kinds_lines {sheet : ScoreSheet} (hgrades : sheet.distribution.length = 5) :
    kinds (lines sheet) = (shape sheet).outline := by
  have hgate : kinds ((sheet.gate.map (gate sheet.package.grade)).getD []) =
      if (shape sheet).gate then [.heading, .blank, .prose] else [] := by
    unfold shape
    cases sheet.gate with
    | none => rfl
    | some view => exact kinds_gate _ view
  simp only [lines, kinds_append, kinds_header, kinds_package, kinds_dependencies,
    kinds_distribution, hgrades, hgate, Shape.outline, List.append_assoc]
  rfl

/-! ### Headings -/

/-- The headings among lines. -/
def headings (lines : List String) : List String :=
  lines.filter fun line ↦ LineKind.of line.toList = .heading

@[simp] private theorem headings_append (lines more : List String) :
    headings (lines ++ more) = headings lines ++ headings more :=
  List.filter_append ..

/-- The title of a section is its only heading. -/
theorem headings_eq_singleton {title : String} {rest : List String} {others : List LineKind}
    (h : kinds (title :: rest) = .heading :: others) (hothers : .heading ∉ others) :
    headings (title :: rest) = [title] := by
  obtain ⟨htitle, rfl⟩ := List.cons.inj h
  have hrest : headings rest = [] := by
    refine List.filter_eq_nil_iff.mpr fun line hline ↦ ?_
    have hmem : LineKind.of line.toList ∈ kinds rest := List.mem_map.mpr ⟨line, hline, rfl⟩
    rw [decide_eq_true_iff]
    exact fun heq ↦ hothers (heq ▸ hmem)
  rw [headings, List.filter_cons_of_pos (by simpa using htitle), ← headings, hrest]

private theorem headings_of_table {title : String} {rest : List String} {rows : Nat}
    (h : kinds (title :: rest) = tableOutline rows) : headings (title :: rest) = [title] :=
  headings_eq_singleton h (by simp)

private theorem headings_package (card : PackageCard) :
    headings (package card) =
      ["## " ++ packageLink card.name ++ "@" ++ card.version, "### Vulnerabilities"] ++
        if card.breakdown.isSome then ["### Score Explanation"] else [] := by
  have hfacts : headings (["## " ++ packageLink card.name ++ "@" ++ card.version, ""] ++
      facts card ++ [""]) = ["## " ++ packageLink card.name ++ "@" ++ card.version] :=
    headings_eq_singleton (kinds_facts_section card) (by simp)
  have hvulnerabilities : headings (vulnerabilities card.direct card.indirect) =
      ["### Vulnerabilities"] :=
    headings_of_table (kinds_vulnerabilities _ _)
  have hbreakdown : headings ((card.breakdown.map breakdown).getD []) =
      if card.breakdown.isSome then ["### Score Explanation"] else [] := by
    cases card.breakdown with
    | none => rfl
    | some entries => exact headings_of_table (kinds_breakdown entries)
  rw [package, headings_append, headings_append, hfacts, hvulnerabilities, hbreakdown]
  rfl

/-- The headings of a sheet. -/
theorem headings_lines (sheet : ScoreSheet) :
    headings (lines sheet) =
      ["# Package Score Report",
        "## " ++ packageLink sheet.package.name ++ "@" ++ sheet.package.version,
        "### Vulnerabilities"] ++
      (if sheet.package.breakdown.isSome then ["### Score Explanation"] else []) ++
      ["## Direct Dependencies", "## Grade Distribution"] ++
      if sheet.gate.isSome then ["## Minimum Grade"] else [] := by
  have hheader : headings (header sheet.imprint) = ["# Package Score Report"] :=
    headings_eq_singleton (kinds_header sheet.imprint) (by decide)
  have hdependencies : headings (dependencies sheet.dependencies) = ["## Direct Dependencies"] := by
    have hkinds := kinds_dependencies sheet.dependencies
    split at hkinds
    · exact headings_eq_singleton hkinds (by decide)
    · exact headings_of_table hkinds
  have hdistribution : headings (distribution sheet.distribution) = ["## Grade Distribution"] :=
    headings_of_table (kinds_distribution sheet.distribution)
  have hgate : headings ((sheet.gate.map (gate sheet.package.grade)).getD []) =
      if sheet.gate.isSome then ["## Minimum Grade"] else [] := by
    cases sheet.gate with
    | none => rfl
    | some view => exact headings_eq_singleton (kinds_gate _ view) (by decide)
  simp only [lines, headings_append, hheader, headings_package, hdependencies, hdistribution, hgate,
    List.append_assoc]
  rfl

end PackageRisk.ScoreSheet.Markdown
