import Mathlib.Data.List.Basic
import PackageRisk.ScoreSheet.Markdown

/-!
# Reading table rows

A reader takes a table row apart at its pipes: nothing stands outside of them, and every text
between two of them has a blank at either end. A row of cells without pipes is read as these cells.
-/

namespace PackageRisk.ScoreSheet.Markdown

/-- A text without the blanks at its ends, if there are both. -/
def stripped? : List Char → Option String
  | ' ' :: rest => if rest.getLast? = some ' ' then some (String.ofList rest.dropLast) else none
  | _ => none

/-- The cells of a line that begins and ends with a pipe. -/
def cells? (line : String) : Option (List String) :=
  match line.toList.splitOn '|' with
  | [] :: pieces => if pieces.getLast? = some [] then pieces.dropLast.mapM stripped? else none
  | _ => none

/-- A text with a blank at either end. -/
def padded (text : String) : List Char := ' ' :: (text.toList ++ [' '])

private theorem stripped?_padded (text : String) : stripped? (padded text) = some text := by
  simp [stripped?, padded]

/-- Texts that are each read as what they were written from are read as all of it. -/
theorem mapM_map_eq_some {α β : Type} {write : α → β} {read? : β → Option α} {contents : List α}
    (h : ∀ content ∈ contents, read? (write content) = some content) :
    (contents.map write).mapM read? = some contents := by
  induction contents with
  | nil => rfl
  | cons content rest ih =>
    obtain ⟨hcontent, hrest⟩ := List.forall_mem_cons.mp h
    rw [List.map_cons, List.mapM_cons, hcontent, ih hrest]
    rfl

/-- The blanks around the pipes belong to the cells. -/
theorem intercalate_padded {texts : List String} (hne : texts ≠ []) :
    ['|'].intercalate (texts.map padded) =
      ' ' :: ([' ', '|', ' '].intercalate (texts.map String.toList) ++ [' ']) := by
  induction texts with
  | nil => exact absurd rfl hne
  | cons text rest ih =>
    cases rest with
    | nil => simp [padded]
    | cons next rest =>
      have hrest := ih (by simp)
      simp only [List.map_cons] at hrest ⊢
      rw [List.intercalate_cons_cons, hrest, List.intercalate_cons_cons]
      simp [padded]

private theorem toList_row {texts : List String} (hne : texts ≠ []) :
    (row texts).toList = [] ++ '|' :: (['|'].intercalate (texts.map padded) ++ '|' :: []) := by
  have hbar : " | ".toList = [' ', '|', ' '] := rfl
  rw [intercalate_padded hne, row, String.toList_append, String.toList_append,
    String.toList_intercalate, hbar]
  simp

/-- A row is read as its cells if these are without pipes. -/
theorem cells?_row {texts : List String} (hne : texts ≠ [])
    (hpipes : ∀ text ∈ texts, '|' ∉ text.toList) : cells? (row texts) = some texts := by
  have hpadded : ∀ piece ∈ texts.map padded, '|' ∉ piece := by
    intro piece hpiece
    obtain ⟨text, htext, rfl⟩ := List.mem_map.mp hpiece
    simpa [padded] using hpipes text htext
  have hsplit : (row texts).toList.splitOn '|' = [] :: (texts.map padded ++ [[]]) := by
    rw [toList_row hne, List.splitOn_append_cons_self, List.splitOn_append_cons_self,
      List.splitOn_intercalate '|' hpadded (by simpa using hne), List.splitOn_nil]
    rfl
  rw [cells?, hsplit]
  simp only [List.getLast?_append, List.getLast?_singleton, Option.some_or, if_true,
    List.dropLast_concat, mapM_map_eq_some fun text _ ↦ stripped?_padded text]

/-- What a character becomes in a cell. -/
def cellChar (c : Char) : List Char :=
  if c = '|' then ['\\', '|'] else if c = '\n' then [' '] else [c]

/-- A cell is its text with each character written for the table. -/
theorem toList_cell (text : String) : (cell text).toList = text.toList.flatMap cellChar := by
  rw [cell, String.toList_ofList]
  rfl

/-- A text without pipes and line breaks is written in a cell as it is. -/
theorem cell_eq_self {text : String} (hpipe : '|' ∉ text.toList) (hbreak : '\n' ∉ text.toList) :
    cell text = text := by
  have hchars : ∀ c ∈ text.toList,
      (if c = '|' then ['\\', '|'] else if c = '\n' then [' '] else [c]) = [c] := by
    intro c hc
    rw [if_neg (ne_of_mem_of_not_mem hc hpipe), if_neg (ne_of_mem_of_not_mem hc hbreak)]
  rw [cell, List.flatMap_congr hchars, List.flatMap_singleton', String.ofList_toList]

end PackageRisk.ScoreSheet.Markdown
