import Mathlib.Data.List.TakeWhile
import PackageRisk.Text.Blank

/-!
# Trimmed texts

Trimming takes the blanks from both ends of a text and nothing else, so a text without blanks is
found again when blanks are put around it.
-/

namespace PackageRisk.Text

/-- Trimming takes away blanks, at both ends. -/
theorem exists_eq_trim (text : List Char) :
    ∃ before after, text = before ++ trim text ++ after ∧
      (∀ c ∈ before, isBlank c = true) ∧ ∀ c ∈ after, isBlank c = true := by
  have hfront : text.takeWhile isBlank ++ text.dropWhile isBlank = text :=
    List.takeWhile_append_dropWhile
  have hback : (text.dropWhile isBlank).reverse.takeWhile isBlank ++
      (text.dropWhile isBlank).reverse.dropWhile isBlank = (text.dropWhile isBlank).reverse :=
    List.takeWhile_append_dropWhile
  refine ⟨text.takeWhile isBlank, ((text.dropWhile isBlank).reverse.takeWhile isBlank).reverse,
    ?_, fun c ↦ List.mem_takeWhile_imp, fun c hc ↦ ?_⟩
  · rw [trim, List.append_assoc, ← List.reverse_append, hback, List.reverse_reverse, hfront]
  · exact List.mem_takeWhile_imp (List.mem_reverse.mp hc)

/-- Trimming takes away all blanks around a text without blanks. -/
theorem trim_padded {before letters after : List Char}
    (hbefore : ∀ c ∈ before, isBlank c = true) (hafter : ∀ c ∈ after, isBlank c = true)
    (hletters : ∀ c ∈ letters, isBlank c = false) :
    trim (before ++ letters ++ after) = letters := by
  have drop : ∀ s : List Char, (∀ c ∈ s, isBlank c = false) → s.dropWhile isBlank = s := by
    intro s hs
    cases s with
    | nil => rfl
    | cons c rest => simp [hs c (by simp)]
  unfold trim
  rw [List.append_assoc, List.dropWhile_append_of_pos hbefore]
  cases letters with
  | nil =>
    have hnil : (after ++ []).dropWhile isBlank = [] := List.dropWhile_append_of_pos hafter
    rw [List.append_nil] at hnil
    rw [List.nil_append, hnil]
    rfl
  | cons c rest =>
    have hkeep : (c :: rest ++ after).dropWhile isBlank = c :: rest ++ after := by
      simp [hletters c (by simp)]
    rw [hkeep, List.reverse_append, List.dropWhile_append_of_pos (by simpa using hafter),
      drop _ fun d hd ↦ hletters d (List.mem_reverse.mp hd), List.reverse_reverse]

end PackageRisk.Text
