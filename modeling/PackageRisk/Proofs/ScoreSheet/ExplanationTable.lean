import PackageRisk.Proofs.Score.ExactTotal
import PackageRisk.Proofs.Score.Explanation
import PackageRisk.Proofs.ScoreSheet.Cells
import PackageRisk.Proofs.ScoreSheet.Decoding
import PackageRisk.Proofs.ScoreSheet.Sections
import PackageRisk.Proofs.Text.Numerals

/-!
# The explanation of a score on a sheet

The table of an explanation has a plain row for every term and a row in bold type for the total. A
reader finds the labels and the points of the terms in it, and adding the points up gives the total.
The score line has the same total, and so has the JSON text.
-/

namespace PackageRisk

namespace ScoreSheet

/-! ### Reading the rows of the table -/

namespace Markdown

/-- The text in bold type, if the whole text is. -/
def bold? (text : String) : Option String :=
  match text.toList with
  | '*' :: '*' :: rest =>
    if ['*', '*'].isSuffixOf rest then some (String.ofList (rest.take (rest.length - 2))) else none
  | _ => none

/-- A row of an explanation, as it is read. -/
inductive ExplanationRow
  | plain (label : String) (points : Int)
  | bold (label : String) (points : Int)
  deriving DecidableEq, Repr

/-- The label and the points of a row, in which both are in bold type or neither is. -/
def explanationRow? (line : String) : Option ExplanationRow :=
  match cells? line with
  | some [label, points] =>
    match bold? label, bold? points with
    | some label, some points => (Text.integer? points).map (.bold label)
    | none, none => (Text.integer? points).map (.plain label)
    | _, _ => none
  | _ => none

private theorem bold?_bold (text : String) : bold? ("**" ++ text ++ "**") = some text := by
  have hlist : ("**" ++ text ++ "**").toList = '*' :: '*' :: (text.toList ++ ['*', '*']) := by
    simp
  rw [bold?, hlist]
  simp

private theorem bold?_eq_none {text : String} (h : '*' ∉ text.toList) : bold? text = none := by
  unfold bold?
  split
  · rename_i rest hlist
    exact absurd (hlist ▸ List.mem_cons_self) h
  · rfl

/-- A label that is written as it is, and not in bold type. -/
def IsPlainLabel (label : String) : Prop :=
  ∀ c ∈ label.toList, c ≠ '|' ∧ c ≠ '\n' ∧ c ≠ '*'

/-- Plain labels are recognised by their characters. -/
instance (label : String) : Decidable (IsPlainLabel label) :=
  List.decidableBAll (fun c ↦ c ≠ '|' ∧ c ≠ '\n' ∧ c ≠ '*') label.toList

private theorem IsPlainLabel.cell_eq {label : String} (h : IsPlainLabel label) :
    cell label = label :=
  cell_eq_self (fun hc ↦ (h _ hc).1 rfl) fun hc ↦ (h _ hc).2.1 rfl

/-- The text of points with a sign is as plain as a label. -/
theorem isPlainLabel_signedText (p : Points) : IsPlainLabel p.signedText := by
  intro c hc
  rcases Points.sign_or_isDigit_of_mem_signedText hc with rfl | rfl | hdigit
  · decide
  · decide
  · refine ⟨?_, ?_, ?_⟩ <;> rintro rfl <;> cases hdigit

private theorem isPlainLabel_text (p : Points) : IsPlainLabel p.text := by
  intro c hc
  refine ⟨?_, ?_, ?_⟩ <;> rintro rfl <;> exact Points.not_mem_text (by decide) (by decide) hc

/-- The row of a term is read as a plain row. -/
theorem explanationRow?_termRow {entry : Term} (h : IsPlainLabel entry.label) :
    explanationRow? (termRow entry) = some (.plain entry.label entry.points.val) := by
  have hpoints := isPlainLabel_signedText entry.points
  have hcells : cells? (termRow entry) = some [entry.label, entry.points.signedText] := by
    rw [termRow, h.cell_eq, cells?_row (by simp)]
    simp only [List.forall_mem_cons]
    exact ⟨fun hmem ↦ (h _ hmem).1 rfl, fun hmem ↦ (hpoints _ hmem).1 rfl, by simp⟩
  rw [explanationRow?, hcells]
  simp only [bold?_eq_none fun hmem ↦ (h _ hmem).2.2 rfl,
    bold?_eq_none fun hmem ↦ (hpoints _ hmem).2.2 rfl, Points.integer?_signedText, Option.map_some]

/-- The row of the total is read as a row in bold type. -/
theorem explanationRow?_totalRow {entry : Term} (h : IsPlainLabel entry.label) :
    explanationRow? (totalRow entry) = some (.bold entry.label entry.points.val) := by
  have hpoints := isPlainLabel_text entry.points
  have hpipe {text : String} (htext : IsPlainLabel text) : '|' ∉ ("**" ++ text ++ "**").toList := by
    simpa using fun hmem ↦ (htext _ hmem).1 rfl
  have hcells : cells? (totalRow entry) =
      some ["**" ++ entry.label ++ "**", "**" ++ entry.points.text ++ "**"] := by
    rw [totalRow, h.cell_eq, cells?_row (by simp)]
    simp only [List.forall_mem_cons]
    exact ⟨hpipe h, hpipe hpoints, by simp⟩
  rw [explanationRow?, hcells]
  simp only [bold?_bold, Points.integer?_text, Option.map_some]

/-- The last entry of an explanation is the total. -/
theorem breakdownRows_concat (entries : List Term) (total : Term) :
    breakdownRows (entries ++ [total]) = entries.map termRow ++ [totalRow total] := by
  induction entries with
  | nil => rfl
  | cons entry rest ih =>
    rw [List.cons_append, breakdownRows_cons, ih, if_neg (by simp), List.map_cons,
      List.cons_append]

/-- The rows of an explanation are read as its terms and their total. -/
theorem map_explanationRow?_breakdownRows {entries : List Term} {total : Term}
    (hentries : ∀ entry ∈ entries, IsPlainLabel entry.label) (htotal : IsPlainLabel total.label) :
    (breakdownRows (entries ++ [total])).map explanationRow? =
      entries.map (fun entry ↦ some (.plain entry.label entry.points.val)) ++
        [some (.bold total.label total.points.val)] := by
  have hplain : (entries.map termRow).map explanationRow? =
      entries.map fun entry ↦ some (.plain entry.label entry.points.val) := by
    rw [List.map_map]
    refine List.map_congr_left fun entry hentry ↦ ?_
    rw [Function.comp_apply, explanationRow?_termRow (hentries entry hentry)]
  rw [breakdownRows_concat, List.map_append, hplain, List.map_singleton,
    explanationRow?_totalRow htotal]

end Markdown

end ScoreSheet

/-- Every term of a score has a plain label. -/
theorem Score.isPlainLabel_of_mem_terms {input : ScoreInput} {entry : Term}
    (h : entry ∈ terms input) : ScoreSheet.Markdown.IsPlainLabel entry.label := by
  have hlabels : ∀ label ∈ labels, ScoreSheet.Markdown.IsPlainLabel label := by decide
  exact hlabels _ (label_mem_labels h)

namespace ScoreSheet

open Json

/-! ### Explanations in JSON -/

/-- The points of an entry of an explanation. -/
def delta? : Value → Option Int
  | .object members =>
    match lookup members "delta" with
    | some (.number (.integer n)) => some n
    | _ => none
  | _ => none

/-- The object of a package explains a score: the entries have the points of the terms, and at the
end the total, which is the score and has its grade. -/
def Explains (package : Value) (terms : List Term) (total : Points) : Prop :=
  ∃ members entries, package = .object members ∧
    lookup members "totalScore" = some (.integer total.val) ∧
    lookup members "grade" = some (.string (Grade.ofScore total).letter) ∧
    lookup members "breakdown" = some (.array entries) ∧
    entries.map delta? = (terms.map fun entry ↦ some entry.points.val) ++ [some total.val]

/-- An explained card explains its score, also if its values are spelled in another way. -/
theorem explains_cardEntries {card : PackageCard} {terms : List Term} {label : String}
    (hbreakdown : card.breakdown = some (terms ++ [⟨label, card.total⟩]))
    (hgrade : card.grade = (Grade.ofScore card.total).letter) (spell : Value → Value)
    (hinteger : ∀ n, spell (.integer n) = .integer n)
    (hstring : ∀ text, spell (.string text) = .string text)
    (hentries : ∀ entries : List Term,
      spell (.array (entries.map termValue)) = .array (entries.map termValue)) :
    Explains (.object ((present (cardEntries card)).map fun member ↦ (member.1, spell member.2)))
      terms card.total := by
  refine ⟨_, (terms ++ [Term.mk label card.total]).map termValue, rfl, ?_, ?_, ?_, ?_⟩
  · rw [lookup_map, lookup_card]
    exact congrArg some (hinteger _)
  · rw [lookup_map, lookup_card, ← hgrade]
    exact congrArg some (hstring _)
  · have hentry : (lookup (cardEntries card) "breakdown").join =
        card.breakdown.map fun entries ↦ .array (entries.map termValue) := rfl
    rw [lookup_map, lookup_card, hentry, hbreakdown, Option.map_some, Option.map_some, hentries]
  · rw [List.map_map, List.map_append]
    rfl

/-! ### Explanations that add up -/

/-- A sheet explains its score by terms that add up to it. In the Markdown text the terms are read
from plain rows and the total from one row in bold type, and the score line has the same total with
its grade. In the JSON text the same points are read, and the same total and grade. -/
structure AddsUp (sheet : ScoreSheet) (terms : List Term) (total : Points) : Prop where
  sum : (terms.map fun entry ↦ entry.points.val).sum = total.val
  markdown : ∃ before between rows after,
    OutputFormat.markdown.render sheet = Markdown.unlines (before ++
      ["- **Score:** " ++ (toString total.val ++ " (grade **" ++ (Grade.ofScore total).letter ++
        "**, `" ++ (Grade.ofScore total).styleClass ++ "`)")] ++ between ++
      (["### Score Explanation", "", "| Term | Points |", "|------|-------:|"] ++ rows ++ [""]) ++
      after) ∧
    rows.map Markdown.explanationRow? =
      terms.map (fun entry ↦ some (.plain entry.label entry.points.val)) ++
        [some (.bold "Total" total.val)]
  json : ∃ members package, OutputFormat.json.render sheet = (Value.object members).document ∧
    lookup members "package" = some package ∧ Explains package terms total
  json_read (hlength : sheet.dependencies.length < 2 ^ 64) : ∃ members package,
    read (OutputFormat.json.render sheet) = .ok (.object members) ∧
      lookup members "package" = some package ∧ Explains package terms total

/-- The score card stands under its key. -/
theorem lookup_package (sheet : ScoreSheet) :
    lookup (present sheet.entries) "package" = some (packageValue sheet.package) := by
  rw [lookup_present sheet.nodup_entries]
  rfl

section Assessed

variable {request : Request} {report : Report}

private theorem breakdown_ofReport (hbreakdown : request.breakdown = true) (report : Report) :
    (Assessment.ofReport request report).package.card.breakdown =
      some (Score.terms (Assessment.inputFor request report) ++
        [Term.mk Score.totalLabel (Assessment.ofReport request report).package.card.total]) := by
  change (if request.breakdown then some _ else none) = some _
  rw [hbreakdown, if_pos rfl]
  rfl

private theorem addsUp_ofAssessment (imprint : Imprint) (hbreakdown : request.breakdown = true)
    (hsum : (Score.sum (Score.terms (Assessment.inputFor request report))).val =
      ((Score.terms (Assessment.inputFor request report)).map fun entry ↦ entry.points.val).sum) :
    (ofAssessment imprint (.ofReport request report)).AddsUp
      (Score.terms (Assessment.inputFor request report))
      (Assessment.ofReport request report).package.score.total where
  sum := hsum.symm
  markdown := by
    have hentries : (ofAssessment imprint (.ofReport request report)).package.breakdown = _ :=
      breakdown_ofReport hbreakdown report
    obtain ⟨before, between, after, hlines⟩ := Markdown.lines_eq_of_breakdown hentries
    have htotal : Markdown.IsPlainLabel Score.totalLabel := by decide
    have hrender : OutputFormat.markdown.render (ofAssessment imprint (.ofReport request report)) =
        Markdown.unlines _ := congrArg Markdown.unlines hlines
    exact ⟨before, between, _, after, hrender, Markdown.map_explanationRow?_breakdownRows
      (fun _ ↦ Score.isPlainLabel_of_mem_terms) htotal⟩
  json := by
    have hexplains := explains_cardEntries (breakdown_ofReport hbreakdown report) rfl id
      (fun _ ↦ rfl) (fun _ ↦ rfl) (fun _ ↦ rfl)
    refine ⟨_, _, by rw [OutputFormat.render, toJson_eq], lookup_package _, ?_⟩
    rw [packageValue_eq, ← List.map_id (present _)]
    exact hexplains
  json_read hlength := by
    have hlt : report.dependencies.length < 2 ^ 64 := by
      simpa [ofAssessment, Assessment.ofReport] using hlength
    have hread := read_render_eq (lt_of_mem_distribution hlt request imprint)
    rw [toJson_eq, asRead_object] at hread
    refine ⟨_, _, hread, by rw [lookup_map, lookup_package]; rfl, ?_⟩
    rw [packageValue_eq, asRead_object]
    exact explains_cardEntries (breakdown_ofReport hbreakdown report) rfl Value.asRead
      (fun _ ↦ rfl) (fun _ ↦ rfl) (fun _ ↦ by rw [asRead_array, List.map_map]; rfl)

end Assessed

end ScoreSheet

namespace Assessment

/-- If the points of the freshness keep their distance to the bounds, the explanation of a score
adds up to the score, on every sheet of an assessment that was asked to explain it. -/
theorem explanation_of_run {ε : Type} {source : String} {loaded : Except ε Report}
    {request : Request} {assessment : Assessment}
    (hrun : (run source loaded request).1 = .ok assessment) (hbreakdown : request.breakdown = true)
    (hleast : Points.least + 75 ≤
      (Score.basePoints assessment.package.report.input.freshness).val)
    (hgreatest : (Score.basePoints assessment.package.report.input.freshness).val ≤
      Points.greatest - 20) (imprint : Imprint) :
    (ScoreSheet.ofAssessment imprint assessment).AddsUp
      (Score.terms assessment.package.report.input) assessment.package.score.total := by
  obtain ⟨report, -, rfl⟩ := fst_run_eq_ok_iff.mp hrun
  exact ScoreSheet.addsUp_ofAssessment imprint hbreakdown (Score.val_sum_terms hleast hgreatest)

/-- With its roll-up, this report has every penalty, on top of a freshness far below zero. -/
private def gloomyDocument : String :=
  "\x7b\"name\":\"a\",\"version\":\"1\",\"freshnessScore\":-9e16," ++
    "\"directVulnerabilityCounts\":\x7b\"critical\":1,\"high\":2,\"medium\":3\x7d," ++
    "\"dependencies\":[\x7b\"name\":\"b\",\"version\":\"2\",\"allDependencyCount\":500," ++
    "\"directVulnerabilityCounts\":\x7b\"critical\":1,\"high\":2,\"medium\":3\x7d\x7d]\x7d"

/-- The base of this report is low, and its explanation still adds up. -/
theorem explanation_of_run_gloomy :
    ∃ assessment, (run "r.json" (Report.parse gloomyDocument "r.json") ⟨true, true, none⟩).1 =
        .ok assessment ∧
      Points.least + 75 ≤ (Score.basePoints assessment.package.report.input.freshness).val ∧
      (Score.basePoints assessment.package.report.input.freshness).val ≤ Points.greatest - 20 ∧
      (Score.terms assessment.package.report.input).length = 8 ∧
      assessment.package.score.total.val = -9000000000000000075 ∧
      (ScoreSheet.ofAssessment ⟨"", "", "", ""⟩ assessment).AddsUp
        (Score.terms assessment.package.report.input) assessment.package.score.total := by
  have hfacts : (run "r.json" (Report.parse gloomyDocument "r.json")
      ⟨true, true, none⟩).1.toOption.map (fun assessment ↦
        ((Score.basePoints assessment.package.report.input.freshness).val,
          (Score.terms assessment.package.report.input).length,
          assessment.package.score.total.val)) =
      some (-9000000000000000000, 8, -9000000000000000075) := by
    decide +kernel
  obtain ⟨assessment, hrun, hfacts⟩ := Fallible.exists_eq_ok_of_map hfacts
  obtain ⟨hbase, hrest⟩ := Prod.mk.inj hfacts
  obtain ⟨hterms, htotal⟩ := Prod.mk.inj hrest
  have hleast : Points.least + 75 ≤
      (Score.basePoints assessment.package.report.input.freshness).val := by
    rw [hbase]
    decide
  have hgreatest : (Score.basePoints assessment.package.report.input.freshness).val ≤
      Points.greatest - 20 := by
    rw [hbase]
    decide
  exact ⟨assessment, hrun, hleast, hgreatest, hterms, htotal,
    explanation_of_run hrun rfl hleast hgreatest _⟩

end Assessment

end PackageRisk
