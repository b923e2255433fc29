import Mathlib.Algebra.Ring.Nat
import Mathlib.Data.List.Basic
import PackageRisk.Proofs.Package
import PackageRisk.Proofs.Score.Explanation
import PackageRisk.Proofs.ScoreSheet.Cells
import PackageRisk.Proofs.ScoreSheet.Outline
import PackageRisk.Program
import PackageRisk.Timestamp

/-!
# Line breaks on a Markdown sheet

Every text that a sheet is made of fits on one line, apart from the dates of the report: names and
versions hold no line breaks, the other texts are numbers or fixed, and the imprint of the program
is made of such texts too. The line breaks of a section are those of its texts.
-/

namespace PackageRisk

open Text (lineBreaks isLineBreak)

/-! ### Texts on one line -/

/-- What line breaks are in a text that may be missing. -/
def optionalBreaks (text : Option String) : Nat := (text.map lineBreaks).getD 0

/-- The line breaks in the dates. -/
def ReportDetails.lineBreaks (details : ReportDetails) : Nat :=
  optionalBreaks details.releaseDate + optionalBreaks details.scoringDate

/-- The line breaks in an imprint. -/
def Imprint.lineBreaks (imprint : Imprint) : Nat :=
  Text.lineBreaks imprint.toolName + Text.lineBreaks imprint.toolVersion +
    Text.lineBreaks imprint.timestamp + Text.lineBreaks imprint.reportId

/-- Names of packages have no line breaks. -/
@[simp] theorem Package.lineBreaks_name (package : Package) : lineBreaks package.name = 0 :=
  Text.lineBreaks_eq_zero (by decide +kernel) (by decide +kernel)
    fun _ hc ↦ package.allows_of_mem_name hc

/-- Versions of packages have no line breaks. -/
@[simp] theorem Package.lineBreaks_version (package : Package) : lineBreaks package.version = 0 :=
  Text.lineBreaks_eq_zero (by decide +kernel) (by decide +kernel)
    fun _ hc ↦ package.allows_of_mem_version hc

/-- Letters of grades have no line breaks. -/
@[simp] theorem Grade.lineBreaks_letter (grade : Grade) : lineBreaks grade.letter = 0 := by
  cases grade <;> decide

@[simp] private theorem Grade.lineBreaks_styleClass (grade : Grade) :
    lineBreaks grade.styleClass = 0 := by
  cases grade <;> decide

@[simp] private theorem Severity.lineBreaks_title (severity : Severity) :
    lineBreaks severity.title = 0 := by
  cases severity <;> decide

/-- Every term of a score has a label on one line. -/
theorem Score.lineBreaks_label {input : ScoreInput} {entry : Term} (h : entry ∈ terms input) :
    lineBreaks entry.label = 0 := by
  have hlabels : ∀ label ∈ labels, lineBreaks label = 0 := by decide
  exact hlabels _ (label_mem_labels h)

/-- A whole number in place has digits only, and every other one a point besides. -/
theorem Decimal.point_or_isDigit_of_mem {d : Decimal} {c : Char} (hc : c ∈ d.positional "") :
    c = '.' ∨ c.isDigit = true := by
  have hdigit (h : c ∈ d.text) : c.isDigit = true :=
    Nat.isDigit_of_mem_toDigits (by decide) (by decide) h
  have hzero {n : Nat} (h : c ∈ List.replicate n '0') : c.isDigit = true := by
    rw [(List.mem_replicate.mp h).2]
    rfl
  unfold positional at hc
  split_ifs at hc
  · simp only [String.toList_empty, List.append_nil, List.mem_append] at hc
    exact .inr (hc.elim hdigit hzero)
  · simp only [List.mem_append, List.mem_cons] at hc
    obtain htake | rfl | hdrop := hc
    · exact .inr (hdigit (List.mem_of_mem_take htake))
    · exact .inl rfl
    · exact .inr (hdigit (List.mem_of_mem_drop hdrop))
  · simp only [List.mem_append, List.mem_cons] at hc
    obtain rfl | rfl | hzeros | htext := hc
    · exact .inr rfl
    · exact .inl rfl
    · exact .inr (hzero hzeros)
    · exact .inr (hdigit htext)

/-- A number in prose is a word, or it has digits with a point and a minus sign at most. -/
@[simp] theorem Decimal.lineBreaks_prose (x : Binary64) : lineBreaks (prose.write x) = 0 := by
  have hplace (sign : List Char) (hsign : ∀ c ∈ sign, c = '-') (d : Decimal) :
      lineBreaks (String.ofList (sign ++ d.positional "")) = 0 := by
    refine Text.lineBreaks_eq_zero (P := fun c ↦ c = '-' ∨ c = '.' ∨ c.isDigit = true) (by decide)
      (by decide) fun c hc ↦ ?_
    rw [String.toList_ofList, List.mem_append] at hc
    exact hc.imp (hsign c) point_or_isDigit_of_mem
  unfold Style.write
  split_ifs
  · decide
  · decide
  · decide
  · exact hplace ['-'] (by simp) _
  · exact hplace [] (by simp) _

/-! ### The imprint of the program -/

@[simp] private theorem Timestamp.lineBreaks_padded (width n : Nat) :
    lineBreaks (padded width n) = 0 := by
  refine Text.lineBreaks_eq_zero (P := fun c ↦ c.isDigit = true) (by decide) (by decide)
    fun c hc ↦ ?_
  rw [padded, String.toList_ofList, List.mem_append] at hc
  rcases hc with hzero | hdigit
  · rw [(List.mem_replicate.mp hzero).2]
    rfl
  · exact Nat.isDigit_of_mem_toDigits (by decide) (by decide) hdigit

private theorem Timestamp.lineBreaks_text (seconds nanos : Nat) :
    lineBreaks (text seconds nanos) = 0 := by
  have hfraction : lineBreaks (fraction nanos) = 0 := by
    unfold fraction
    split_ifs <;> simp +decide
  simp +decide [text, hfraction]

/-- The text of a byte is without line breaks. -/
theorem Program.isLineBreak_of_mem_byteText {byte : UInt8} {c : Char} (h : c ∈ byteText byte) :
    isLineBreak c = false := by
  have hdigits : ∀ n < 16, isLineBreak (Nat.digitChar n) = false := by decide
  have hbyte := byte.toNat_lt
  rcases List.mem_pair.mp h with rfl | rfl
  · exact hdigits _ (by omega)
  · exact hdigits _ (by omega)

private theorem Program.lineBreaks_reportId (bytes : List UInt8) :
    lineBreaks (reportId bytes) = 0 := by
  have hscheme : lineBreaks "urn:uuid:" = 0 := by decide
  rw [reportId, Text.lineBreaks_append, hscheme, Nat.zero_add]
  refine Text.lineBreaks_eq_zero_iff.mpr fun c hc ↦ ?_
  rw [String.toList_ofList] at hc
  obtain ⟨text, htext, hc⟩ := List.mem_flatten.mp hc
  obtain ⟨index, hindex, rfl⟩ := List.mem_mapIdx.mp htext
  rcases List.mem_append.mp hc with hdash | hdigit
  · split_ifs at hdash
    · rw [List.mem_singleton.mp hdash]
      decide
    · cases hdash
  · exact isLineBreak_of_mem_byteText hdigit

/-- The imprint of the program is without line breaks. -/
theorem Program.lineBreaks_imprint (seconds nanos : Nat) (bytes : List UInt8) :
    (imprint (Timestamp.text seconds nanos) (reportId bytes)).lineBreaks = 0 := by
  have hname : lineBreaks name = 0 := by decide
  have hversion : lineBreaks version = 0 := by decide
  rw [Imprint.lineBreaks, imprint, Timestamp.lineBreaks_text, lineBreaks_reportId, hname, hversion]

namespace ScoreSheet.Markdown

/-! ### Line breaks in sections -/

/-- The line breaks within lines. -/
def breaksIn (lines : List String) : Nat := (lines.map lineBreaks).sum

/-- No lines have no breaks in them. -/
@[simp] theorem breaksIn_nil : breaksIn [] = 0 := rfl

@[simp] private theorem breaksIn_cons (line : String) (lines : List String) :
    breaksIn (line :: lines) = lineBreaks line + breaksIn lines := by
  rw [breaksIn, List.map_cons, List.sum_cons, breaksIn]

@[simp] private theorem breaksIn_append (lines more : List String) :
    breaksIn (lines ++ more) = breaksIn lines + breaksIn more := by
  rw [breaksIn, List.map_append, List.sum_append, breaksIn, breaksIn]

/-- Lines have no breaks in them when none of them has. -/
theorem breaksIn_eq_zero_iff {lines : List String} :
    breaksIn lines = 0 ↔ ∀ line ∈ lines, lineBreaks line = 0 := by
  simp [breaksIn, List.sum_eq_zero_iff_forall_eq_nat]

/-- Lines that are written one like the other. -/
theorem breaksIn_map {α : Type} {line : α → String} {contents : List α}
    (h : ∀ content ∈ contents, lineBreaks (line content) = 0) :
    breaksIn (contents.map line) = 0 := by
  refine breaksIn_eq_zero_iff.mpr fun other hother ↦ ?_
  obtain ⟨content, hcontent, rfl⟩ := List.mem_map.mp hother
  exact h content hcontent

/-- The lines of the text are the lines of the sheet, each cut at its line breaks. -/
theorem lines_unlines (sheetLines : List String) :
    Text.lines (unlines sheetLines).toList =
      sheetLines.flatMap fun line ↦ line.toList.splitOnP isLineBreak := by
  induction sheetLines with
  | nil => rfl
  | cons line rest ih =>
    have hlist : (unlines (line :: rest)).toList =
        line.toList ++ '\n' :: (unlines rest).toList := by
      simp [unlines]
    rw [hlist, Text.lines_append_lineFeed, ih, List.flatMap_cons]

/-- A text has as many lines as were written, and one more for each break in them. -/
theorem length_lines_unlines (sheetLines : List String) :
    (Text.lines (unlines sheetLines).toList).length = sheetLines.length + breaksIn sheetLines := by
  rw [lines_unlines]
  induction sheetLines with
  | nil => rfl
  | cons line rest ih =>
    rw [List.flatMap_cons, List.length_append, ih, Text.length_splitOnP, List.length_cons,
      breaksIn_cons, lineBreaks]
    omega

/-- Lines without breaks in them are the lines of their text. -/
theorem lines_unlines_of_breaksIn {sheetLines : List String} (h : breaksIn sheetLines = 0) :
    Text.lines (unlines sheetLines).toList = sheetLines.map String.toList := by
  rw [lines_unlines, List.map_eq_flatMap]
  exact List.flatMap_congr fun line hline ↦
    Text.splitOnP_eq_singleton (breaksIn_eq_zero_iff.mp h line hline)

/-- Of the line breaks of a text, the carriage returns are left in a cell. -/
theorem lineBreaks_cell_eq (text : String) : lineBreaks (cell text) = text.toList.count '\r' := by
  have hchar (c : Char) : (cellChar c).countP isLineBreak = [c].count '\r' := by
    unfold cellChar
    split_ifs with hpipe hfeed
    · subst hpipe
      decide
    · subst hfeed
      decide
    · simp [isLineBreak, hfeed, List.countP_cons, List.count_cons]
  rw [lineBreaks, toList_cell]
  induction text.toList with
  | nil => rfl
  | cons c rest ih =>
    rw [List.flatMap_cons, List.countP_append, ih, hchar, ← List.count_append,
      List.singleton_append]

private theorem lineBreaks_cell {text : String} (h : lineBreaks text = 0) :
    lineBreaks (cell text) = 0 := by
  rw [lineBreaks_cell_eq, List.count_eq_zero]
  intro hmem
  have hnone := Text.lineBreaks_eq_zero_iff.mp h _ hmem
  cases hnone

private theorem lineBreaks_intercalate (cells : List String) :
    lineBreaks (" | ".intercalate cells) = breaksIn cells := by
  have hbar : lineBreaks " | " = 0 := by decide
  induction cells with
  | nil => decide
  | cons first rest ih =>
    cases rest with
    | nil => simp
    | cons next rest =>
      rw [String.intercalate_cons_cons, Text.lineBreaks_append, Text.lineBreaks_append, hbar, ih,
        breaksIn_cons first]
      omega

/-- A row has the line breaks of its cells. -/
theorem lineBreaks_row (cells : List String) : lineBreaks (row cells) = breaksIn cells := by
  have hleft : lineBreaks "| " = 0 := by decide
  have hright : lineBreaks " |" = 0 := by decide
  rw [row, Text.lineBreaks_append, Text.lineBreaks_append, lineBreaks_intercalate, hleft, hright]
  omega

private theorem lineBreaks_fact (label value : String) :
    lineBreaks (fact label value) = lineBreaks label + lineBreaks value := by
  have hleft : lineBreaks "- **" = 0 := by decide
  have hright : lineBreaks ":** " = 0 := by decide
  rw [fact, Text.lineBreaks_append, Text.lineBreaks_append, Text.lineBreaks_append, hleft, hright]
  omega

/-- A link is on one line exactly when the name is, which it shows escaped and as it is. -/
theorem lineBreaks_packageLink_eq_zero_iff {name : String} :
    lineBreaks (packageLink name) = 0 ↔ lineBreaks name = 0 := by
  have hliterals : lineBreaks "[" = 0 ∧ lineBreaks "](https://www.npmjs.com/package/" = 0 ∧
      lineBreaks ")" = 0 := by
    decide
  simp only [packageLink, Text.lineBreaks_append, hliterals]
  constructor
  · omega
  · intro hname
    rw [lineBreaks_cell hname, hname]

private theorem lineBreaks_packageLink (package : Package) :
    lineBreaks (packageLink package.name) = 0 :=
  lineBreaks_packageLink_eq_zero_iff.mpr package.lineBreaks_name

/-- The text of a banner has no line breaks. -/
theorem lineBreaks_bannerText (banner? : Option Banner) :
    lineBreaks (bannerText (banner?.map Banner.view)) = 0 := by
  rcases banner? with _ | _ | _ | _ <;> decide

private theorem breaksIn_header (imprint : Imprint) :
    breaksIn (header imprint) = imprint.lineBreaks := by
  have hliterals : lineBreaks "# Package Score Report" = 0 ∧ lineBreaks "" = 0 ∧
      lineBreaks "Generated by " = 0 ∧ lineBreaks " " = 0 ∧ lineBreaks " at " = 0 ∧
      lineBreaks " (" = 0 ∧ lineBreaks ")" = 0 := by
    decide
  simp [header, Imprint.lineBreaks, hliterals]

private theorem breaksIn_vulnerabilities (direct indirect : VulnerabilityCounts) :
    breaksIn (vulnerabilities direct indirect) = 0 := by
  simp +decide [vulnerabilities, Severity.all, lineBreaks_row]

private theorem breaksIn_facts (report : Report) (wantsBreakdown : Bool) :
    breaksIn (facts (ScoredPackage.ofReport report wantsBreakdown).card) =
      report.details.lineBreaks := by
  have hlabels : ∀ label ∈ ["Score", "Banner", "Freshness score", "Dependencies", "Authors",
      "Contributors", "Released", "Scored", " (grade **", "**, `", "`)", " immediate, ", " total"],
      lineBreaks label = 0 := by
    decide
  simp only [List.forall_mem_cons] at hlabels
  have hbanner (banner? : Option Banner) : breaksIn ((banner?.map Banner.view).toList.map
      fun banner ↦ fact "Banner" (bannerText (some banner))) = 0 := by
    rcases banner? with _ | _ | _ | _ <;> decide
  have hdate (label : String) (hlabel : lineBreaks label = 0) (date? : Option String) :
      breaksIn (date?.toList.map fun date ↦ fact label date) = optionalBreaks date? := by
    cases date? <;> simp [lineBreaks_fact, hlabel, optionalBreaks]
  have hcount (label : String) (hlabel : lineBreaks label = 0) (count? : Option Count) :
      breaksIn (count?.toList.map fun n ↦ fact label n.text) = 0 :=
    breaksIn_map fun n _ ↦ by simp [lineBreaks_fact, hlabel]
  simp [facts, ScoredPackage.card, ScoredPackage.ofReport, lineBreaks_fact, hlabels, hbanner, hdate,
    hcount, ReportDetails.lineBreaks]

private theorem lineBreaks_termRow {entry : Term} (h : lineBreaks entry.label = 0) :
    lineBreaks (termRow entry) = 0 := by
  simp [termRow, lineBreaks_row, lineBreaks_cell h]

private theorem lineBreaks_totalRow {entry : Term} (h : lineBreaks entry.label = 0) :
    lineBreaks (totalRow entry) = 0 := by
  simp +decide [totalRow, lineBreaks_row, lineBreaks_cell h]

private theorem breaksIn_breakdownRows {entries : List Term}
    (h : ∀ entry ∈ entries, lineBreaks entry.label = 0) : breaksIn (breakdownRows entries) = 0 := by
  induction entries with
  | nil => rfl
  | cons entry rest ih =>
    obtain ⟨hentry, hrest⟩ := List.forall_mem_cons.mp h
    rw [breakdownRows_cons, breaksIn_cons, ih hrest, Nat.add_zero]
    split
    · exact lineBreaks_totalRow hentry
    · exact lineBreaks_termRow hentry

private theorem breaksIn_breakdown {entries : List Term}
    (h : ∀ entry ∈ entries, lineBreaks entry.label = 0) : breaksIn (breakdown entries) = 0 := by
  simp +decide [breakdown, breaksIn_breakdownRows h]

/-- The line breaks of a score card are those of the dates. -/
theorem breaksIn_package (report : Report) (wantsBreakdown : Bool) :
    breaksIn (package (ScoredPackage.ofReport report wantsBreakdown).card) =
      report.details.lineBreaks := by
  have hbreakdown : breaksIn (((ScoredPackage.ofReport report wantsBreakdown).card.breakdown.map
      breakdown).getD []) = 0 := by
    cases wantsBreakdown with
    | false => rfl
    | true =>
      refine breaksIn_breakdown fun entry hentry ↦ ?_
      rcases List.mem_append.mp hentry with hterm | htotal
      · exact Score.lineBreaks_label hterm
      · rw [List.mem_singleton.mp htotal]
        change lineBreaks Score.totalLabel = 0
        decide
  have htitle : lineBreaks ("## " ++
      packageLink (ScoredPackage.ofReport report wantsBreakdown).card.name ++ "@" ++
        (ScoredPackage.ofReport report wantsBreakdown).card.version) = 0 := by
    simp +decide [ScoredPackage.card, ScoredPackage.ofReport, lineBreaks_packageLink]
  have hblank : lineBreaks "" = 0 := by decide
  simp only [package, breaksIn_append, breaksIn_cons, breaksIn_nil, breaksIn_facts,
    breaksIn_vulnerabilities, hbreakdown, htitle, hblank]
  omega

/-- The section of the dependencies has no breaks in its lines. -/
theorem breaksIn_dependencies (scored : List ScoredPackage) :
    breaksIn (dependencies (scored.map ScoredPackage.row)) = 0 := by
  have hrows : breaksIn ((scored.map ScoredPackage.row).map dependencyRow) = 0 := by
    rw [List.map_map]
    refine breaksIn_map fun dependency _ ↦ ?_
    simp [dependencyRow, lineBreaks_row, ScoredPackage.row, lineBreaks_packageLink, lineBreaks_cell,
      lineBreaks_bannerText]
  have hconstant : breaksIn ["## Direct Dependencies", "", "No direct dependency reports.",
      "| Package | Version | Score | Grade | All Deps | Banner |",
      "|---------|---------|------:|:-----:|---------:|--------|"] = 0 := by
    decide
  simp only [breaksIn_cons, breaksIn_nil] at hconstant
  unfold dependencies
  split <;> simp only [breaksIn_append, breaksIn_cons, breaksIn_nil, hrows] <;> omega

private theorem breaksIn_distribution (distribution : GradeDistribution) :
    breaksIn (Markdown.distribution
      (distribution.buckets.map fun bucket ↦ (bucket.1.letter, bucket.2))) = 0 := by
  have hrows : breaksIn ((distribution.buckets.map fun bucket ↦ (bucket.1.letter, bucket.2)).map
      fun bucket ↦ row [bucket.1, toString bucket.2]) = 0 := by
    rw [List.map_map]
    exact breaksIn_map fun bucket _ ↦ by simp [lineBreaks_row]
  have hconstant : breaksIn ["## Grade Distribution", "", "| Grade | Packages |",
      "|:-----:|---------:|"] = 0 := by
    decide
  simp only [Markdown.distribution, breaksIn_append, hrows, hconstant]
  rfl

private theorem breaksIn_gate (grade min : Grade) (passed : Bool) :
    breaksIn (gate grade.letter ⟨min.letter, passed⟩) = 0 := by
  cases passed <;> simp +decide [gate]

/-- The line breaks of a sheet are those of the imprint and of the dates. -/
theorem breaksIn_lines (imprint : Imprint) (request : Request) (report : Report) :
    breaksIn (lines (ofAssessment imprint (.ofReport request report))) =
      imprint.lineBreaks + report.details.lineBreaks := by
  have hpackage : breaksIn (package (Assessment.ofReport request report).package.card) =
      report.details.lineBreaks := breaksIn_package _ _
  have hdependencies : breaksIn (dependencies
      ((Assessment.ofReport request report).dependencies.map ScoredPackage.row)) = 0 :=
    breaksIn_dependencies _
  have hdistribution : breaksIn (Markdown.distribution
      (ofAssessment imprint (.ofReport request report)).distribution) = 0 :=
    breaksIn_distribution _
  have hgate : breaksIn (((ofAssessment imprint (.ofReport request report)).gate.map
      (gate (ofAssessment imprint (.ofReport request report)).package.grade)).getD []) = 0 := by
    obtain ⟨breakdown, aggregate, minGrade⟩ := request
    cases minGrade with
    | none => rfl
    | some min => exact breaksIn_gate _ min _
  rw [lines, breaksIn_append, breaksIn_append, breaksIn_append, breaksIn_append, breaksIn_header,
    hdistribution, hgate]
  exact congrArg₂ (imprint.lineBreaks + · + · + 0 + 0) hpackage hdependencies

end ScoreSheet.Markdown

end PackageRisk
