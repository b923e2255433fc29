import Mathlib.Data.List.Basic

/-!
# Pipes of a table row

A backslash takes its meaning from the character after it, unless it is escaped itself: a pipe after
an odd number of backslashes is escaped, and every other pipe parts two cells. Whether the first
pipes of a text are escaped depends on the backslashes at the end of the text before it, and on
nothing else of that text.
-/

namespace PackageRisk.Text

/-- A character after this text is escaped: the text ends with an odd number of backslashes. -/
def escapesNext (text : List Char) : Bool :=
  (text.reverse.takeWhile (· = '\\')).length % 2 = 1

/-- The number of pipes in a text that stands after another one: of the escaped pipes, or of the
others. -/
def pipesAfter (escaped : Bool) (before : List Char) : List Char → Nat
  | [] => 0
  | c :: rest =>
    (if c = '|' ∧ escapesNext before = escaped then 1 else 0) +
      pipesAfter escaped (before ++ [c]) rest

/-- The number of pipes in a text that are not escaped. -/
def barePipes (text : String) : Nat := pipesAfter false [] text.toList

/-- The number of escaped pipes in a text. -/
def escapedPipes (text : String) : Nat := pipesAfter true [] text.toList

/-- Every backslash turns around what is escaped after it, and any other character ends this. -/
theorem escapesNext_concat (text : List Char) (c : Char) :
    escapesNext (text ++ [c]) = (c = '\\' && !escapesNext text) := by
  unfold escapesNext
  rw [List.reverse_append, List.reverse_singleton, List.singleton_append]
  by_cases hc : c = '\\'
  · subst hc
    rw [List.takeWhile_cons_of_pos (by decide), List.length_cons]
    apply Bool.eq_iff_iff.mpr
    simp
    omega
  · rw [List.takeWhile_cons_of_neg (by simpa using hc)]
    simp [hc]

variable {escaped : Bool} {before other : List Char}

/-- Of the text before, only what it escapes counts. -/
theorem pipesAfter_congr (text : List Char) (h : escapesNext before = escapesNext other) :
    pipesAfter escaped before text = pipesAfter escaped other text := by
  induction text generalizing before other with
  | nil => rfl
  | cons c rest ih =>
    have hnext : escapesNext (before ++ [c]) = escapesNext (other ++ [c]) := by
      rw [escapesNext_concat, escapesNext_concat, h]
    rw [pipesAfter, pipesAfter, h, ih hnext]

/-- The pipes of a text and of what comes after it add up. -/
theorem pipesAfter_append (before text more : List Char) :
    pipesAfter escaped before (text ++ more) =
      pipesAfter escaped before text + pipesAfter escaped (before ++ text) more := by
  induction text generalizing before with
  | nil => simp [pipesAfter]
  | cons c rest ih =>
    rw [List.cons_append, pipesAfter, pipesAfter, ih, List.append_assoc, List.singleton_append,
      Nat.add_assoc]

/-- After a character that is neither a pipe nor a backslash, a text is counted by itself. -/
theorem pipesAfter_cons_of_ne {c : Char} (hpipe : c ≠ '|') (hbackslash : c ≠ '\\')
    (rest : List Char) : pipesAfter escaped before (c :: rest) = pipesAfter escaped [] rest := by
  have hnext : escapesNext (before ++ [c]) = escapesNext [] := by
    rw [escapesNext_concat, decide_eq_false hbackslash]
    rfl
  rw [pipesAfter, if_neg fun h ↦ hpipe h.1, Nat.zero_add, pipesAfter_congr rest hnext]

/-- A pipe is escaped or it is not. -/
theorem barePipes_add_escapedPipes (text : String) :
    barePipes text + escapedPipes text = text.toList.count '|' := by
  have hall (before chars : List Char) :
      pipesAfter false before chars + pipesAfter true before chars = chars.count '|' := by
    induction chars generalizing before with
    | nil => rfl
    | cons c rest ih =>
      have hrest := ih (before ++ [c])
      rw [pipesAfter, pipesAfter, List.count_cons, ← hrest]
      by_cases hc : c = '|'
      · cases escapesNext before <;> simp [hc] <;> omega
      · simp [hc]
  exact hall [] text.toList

example : barePipes "a\\|b\\\\|c" = 1 ∧ escapedPipes "a\\|b\\\\|c" = 1 := by decide

/-- A text without pipes has neither bare nor escaped ones. -/
theorem pipes_eq_zero {text : String} (h : '|' ∉ text.toList) :
    barePipes text = 0 ∧ escapedPipes text = 0 := by
  have hall := barePipes_add_escapedPipes text
  rw [List.count_eq_zero.mpr h] at hall
  exact Nat.add_eq_zero_iff.mp hall

/-! ### Texts one after the other -/

/-- A text that escapes nothing after it leaves the pipes of the next one as they are. -/
theorem barePipes_append_of_not_escapesNext {text : String} (h : escapesNext text.toList = false)
    (more : String) : barePipes (text ++ more) = barePipes text + barePipes more := by
  have hnext : escapesNext ([] ++ text.toList) = escapesNext [] := h
  rw [barePipes, String.toList_append, pipesAfter_append, pipesAfter_congr more.toList hnext,
    barePipes, barePipes]

/-- A text begins with neither a pipe nor a backslash, so what is escaped after the text before it
does not matter. -/
def beginsPlain (text : String) : Bool := text.toList.head?.any fun c ↦ c ≠ '|' && c ≠ '\\'

private theorem beginsPlain_append {text : String} (h : beginsPlain text = true) (more : String) :
    beginsPlain (text ++ more) = true := by
  unfold beginsPlain at h ⊢
  rw [String.toList_append]
  cases htext : text.toList with
  | nil =>
    rw [htext] at h
    cases h
  | cons c rest =>
    rw [htext] at h
    exact h

/-- What begins with no pipe adds its own bare pipes to those before it. -/
theorem barePipes_append_of_beginsPlain {more : String} (h : beginsPlain more = true)
    (text : String) : barePipes (text ++ more) = barePipes text + barePipes more := by
  unfold beginsPlain at h
  rw [barePipes, String.toList_append, pipesAfter_append, barePipes, barePipes]
  cases hmore : more.toList with
  | nil => rfl
  | cons c rest =>
    rw [hmore] at h
    have hne : c ≠ '|' ∧ c ≠ '\\' := by simpa using h
    rw [pipesAfter_cons_of_ne hne.1 hne.2, pipesAfter_cons_of_ne hne.1 hne.2]

/-- A text that is plain at its beginning and escapes nothing at its end keeps the texts around it
apart. -/
theorem barePipes_around {seam : String} (hbegin : beginsPlain seam = true)
    (hend : escapesNext seam.toList = false) (text more : String) :
    barePipes (text ++ seam ++ more) = barePipes text + barePipes seam + barePipes more := by
  rw [String.append_assoc, barePipes_append_of_beginsPlain (beginsPlain_append hbegin more),
    barePipes_append_of_not_escapesNext hend, Nat.add_assoc]

end PackageRisk.Text
