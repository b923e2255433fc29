import PackageRisk.Proofs.Text.Numerals

/-!
# Lines of texts

A line ends with a line feed or a carriage return: readers of Markdown take either for the end of a
line. A text without them fits on one line, and every one of them makes one line more.
-/

namespace PackageRisk

namespace Text

/-- A character that ends a line. -/
def isLineBreak (c : Char) : Bool := c = '\n' || c = '\r'

/-- The number of line breaks in a text. -/
def lineBreaks (text : String) : Nat := text.toList.countP isLineBreak

/-- The lines of a text. What follows the last line break is a line too, unless it is empty. -/
def lines (text : List Char) : List (List Char) :=
  let pieces := text.splitOnP isLineBreak
  if pieces.getLast? = some [] then pieces.dropLast else pieces

/-- A text is cut at every line break. -/
theorem length_splitOnP (text : List Char) :
    (text.splitOnP isLineBreak).length = text.countP isLineBreak + 1 := by
  induction text with
  | nil => rfl
  | cons c text ih =>
    rw [List.splitOnP_cons_eq_if_modifyHead, List.countP_cons]
    split <;> simp [ih]

/-- A text without line breaks is one piece. -/
theorem splitOnP_eq_singleton {text : String} (h : lineBreaks text = 0) :
    text.toList.splitOnP isLineBreak = [text.toList] := by
  refine List.splitOnP_eq_singleton fun c hc ↦ ?_
  simpa using List.countP_eq_zero.mp h c hc

/-- A text that is ended by a line feed comes before all other lines. -/
theorem lines_append_lineFeed (text rest : List Char) :
    lines (text ++ '\n' :: rest) = text.splitOnP isLineBreak ++ lines rest := by
  have hne := List.splitOnP_ne_nil isLineBreak rest
  obtain ⟨last, hlast⟩ : ∃ last, (rest.splitOnP isLineBreak).getLast? = some last :=
    ⟨_, List.getLast?_eq_some_getLast hne⟩
  rw [lines, lines, List.splitOnP_append_cons _ _ (by decide), List.getLast?_append, hlast,
    Option.some_or, List.dropLast_append_of_ne_nil hne]
  split <;> rfl

/-! ### Texts on one line -/

/-- The line breaks of two texts add up. -/
@[simp] theorem lineBreaks_append (text more : String) :
    lineBreaks (text ++ more) = lineBreaks text + lineBreaks more := by
  rw [lineBreaks, String.toList_append, List.countP_append, lineBreaks, lineBreaks]

/-- A text has no line breaks when none of its characters is one. -/
theorem lineBreaks_eq_zero_iff {text : String} :
    lineBreaks text = 0 ↔ ∀ c ∈ text.toList, isLineBreak c = false := by
  simp [lineBreaks, List.countP_eq_zero]

/-- A text whose characters have a property that no line break has is without line breaks. -/
theorem lineBreaks_eq_zero {text : String} {P : Char → Prop} (hfeed : ¬P '\n') (hreturn : ¬P '\r')
    (h : ∀ c ∈ text.toList, P c) : lineBreaks text = 0 := by
  refine lineBreaks_eq_zero_iff.mpr fun c hc ↦ ?_
  have hfeed : c ≠ '\n' := by rintro rfl; exact hfeed (h _ hc)
  have hreturn : c ≠ '\r' := by rintro rfl; exact hreturn (h _ hc)
  simp [isLineBreak, hfeed, hreturn]

/-- Decimal numbers have no line breaks. -/
@[simp] theorem lineBreaks_repr (n : Nat) : lineBreaks n.repr = 0 :=
  lineBreaks_eq_zero (by decide) (by decide) fun _ hc ↦ isDigit_of_mem_repr hc

end Text

/-- Texts of counts have no line breaks. -/
@[simp] theorem Count.lineBreaks_text (count : Count) : Text.lineBreaks count.text = 0 :=
  Text.lineBreaks_repr count.val

/-- Texts of points have no line breaks. -/
@[simp] theorem Points.lineBreaks_text (p : Points) : Text.lineBreaks p.text = 0 :=
  Text.lineBreaks_eq_zero (by decide) (by decide) fun _ hc ↦ sign_or_isDigit_of_mem_text hc

/-- Texts of points with their sign have no line breaks. -/
@[simp] theorem Points.lineBreaks_signedText (p : Points) : Text.lineBreaks p.signedText = 0 :=
  Text.lineBreaks_eq_zero (by decide) (by decide) fun _ hc ↦ sign_or_isDigit_of_mem_signedText hc

end PackageRisk
