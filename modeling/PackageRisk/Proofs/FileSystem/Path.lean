import Mathlib.Data.List.Infix
import Mathlib.Data.List.Induction
import Mathlib.Tactic.SplitIfs
import PackageRisk.FileSystem

/-!
# Paths and their parents

A path that ends with a name is its parent and this name, with nothing but single dots between them.
So its steps are those of the parent, some that stay where they are, and the name.
-/

namespace PackageRisk.Path

variable {path : String}

/-! ### Pieces -/

private theorem splitSlashes_eq_splitOn (text : List Char) :
    splitSlashes text = text.splitOn '/' := by
  induction text with
  | nil => rw [splitSlashes, List.splitOn_nil]
  | cons c rest ih =>
    rw [splitSlashes, List.splitOn_cons_eq_if_modifyHead, ih]
    by_cases hc : c = '/'
    · rw [if_pos hc, if_pos (by simpa using hc)]
    · rw [if_neg hc, if_neg (by simpa using hc)]
      obtain ⟨piece, others, hrest⟩ := List.exists_cons_of_ne_nil (List.splitOn_ne_nil '/' rest)
      rw [hrest]
      rfl

private theorem splitSlashes_cons (c : Char) (rest : List Char) :
    splitSlashes (c :: rest) =
      if c = '/' then [] :: splitSlashes rest else (splitSlashes rest).modifyHead (c :: ·) := by
  rw [splitSlashes_eq_splitOn, splitSlashes_eq_splitOn, List.splitOn_cons_eq_if_modifyHead]
  simp only [beq_iff_eq]

private theorem slash_notMem_of_mem_splitSlashes {text piece : List Char}
    (h : piece ∈ splitSlashes text) : '/' ∉ piece := by
  induction text generalizing piece with
  | nil =>
    rw [splitSlashes, List.mem_singleton] at h
    subst h
    exact List.not_mem_nil
  | cons c rest ih =>
    rw [splitSlashes_cons] at h
    split_ifs at h with hc
    · rcases List.mem_cons.mp h with rfl | h
      · exact List.not_mem_nil
      · exact ih h
    · cases hrest : splitSlashes rest with
      | nil =>
        rw [hrest] at h
        cases h
      | cons first others =>
        rw [hrest] at h ih
        rcases List.mem_cons.mp h with rfl | h
        · rw [List.mem_cons, not_or]
          exact ⟨fun heq ↦ hc heq.symm, ih List.mem_cons_self⟩
        · exact ih (List.mem_cons_of_mem _ h)

private theorem slash_notMem_of_mem_pieces {piece : String} (h : piece ∈ pieces path) :
    '/' ∉ piece.toList := by
  obtain ⟨text, htext, rfl⟩ := List.mem_map.mp h
  rw [String.toList_ofList]
  exact slash_notMem_of_mem_splitSlashes htext

/-- The pieces of a path with slashes between them are the path. -/
theorem intercalate_pieces (path : String) : "/".intercalate (pieces path) = path := by
  have hslash : "/".toList = ['/'] := by decide
  rw [← String.toList_inj, String.toList_intercalate, hslash, pieces, List.map_map]
  simp [Function.comp_def, splitSlashes_eq_splitOn]

/-- Pieces that are joined by slashes are found again. -/
theorem pieces_intercalate {parts : List String} (hne : parts ≠ [])
    (hparts : ∀ part ∈ parts, '/' ∉ part.toList) : pieces ("/".intercalate parts) = parts := by
  have hslash : "/".toList = ['/'] := by decide
  rw [pieces, splitSlashes_eq_splitOn, String.toList_intercalate, hslash,
    List.splitOn_intercalate _ (by simpa using hparts) (by simpa using hne), List.map_map]
  simp [Function.comp_def]

/-- A path begins at the root when its first piece is empty and others follow. -/
theorem isAbsolute_iff {first : String} {rest : List String} (h : pieces path = first :: rest) :
    isAbsolute path = true ↔ first = "" ∧ rest ≠ [] := by
  unfold isAbsolute
  unfold pieces at h
  cases hpath : path.toList with
  | nil =>
    rw [hpath] at h
    cases h
    simp
  | cons c text =>
    rw [hpath, splitSlashes_cons] at h
    split_ifs at h with hc
    · cases h
      simp [hc, splitSlashes_eq_splitOn]
    · have hfirst : first ≠ "" := by
        rintro rfl
        cases htext : splitSlashes text with
        | nil =>
          rw [htext] at h
          cases h
        | cons piece others =>
          rw [htext] at h
          simp at h
      simp [hc, hfirst]

/-- Two paths begin alike if the pieces of one are the first ones of the other. -/
theorem isAbsolute_eq_of_pieces {shorter piece : String} {front rest : List String}
    (hshorter : pieces shorter = front ++ [piece]) (hpath : pieces path = front ++ piece :: rest)
    (hpiece : piece ≠ "") : isAbsolute shorter = isAbsolute path := by
  rw [Bool.eq_iff_iff]
  cases front with
  | nil => simp [isAbsolute_iff hshorter, isAbsolute_iff hpath, hpiece]
  | cons first front => simp [isAbsolute_iff hshorter, isAbsolute_iff hpath]

private theorem suffix_intercalate (before : List (List Char)) (last : List Char) :
    last <:+ ['/'].intercalate (before ++ [last]) := by
  induction before with
  | nil => simp
  | cons first before ih =>
    rw [List.cons_append, List.intercalate_cons_of_ne_nil (by simp)]
    exact ih.trans (List.suffix_append _ _)

/-- A path ends with a slash only when its last piece is empty. -/
theorem endsWithSlash_eq_false {before : List String} {last : String}
    (h : pieces path = before ++ [last]) (hlast : last ≠ "") : endsWithSlash path = false := by
  have hslash : "/".toList = ['/'] := by decide
  have hsuffix : last.toList <:+ path.toList := by
    rw [← intercalate_pieces path, h, String.toList_intercalate, hslash, List.map_append]
    exact suffix_intercalate _ _
  obtain ⟨front, hfront⟩ := hsuffix
  have hpiece : last ∈ pieces path := by simp [h]
  have hmem := slash_notMem_of_mem_pieces hpiece
  unfold endsWithSlash
  rw [← hfront, List.getLast?_append]
  cases hend : last.toList.getLast? with
  | none => exact (hlast (by simpa using hend)).elim
  | some c =>
    have hne : c ≠ '/' := ne_of_mem_of_not_mem (List.mem_of_getLast? hend) hmem
    simp [hne]

/-! ### Components -/

/-- The places of those pieces that are components. -/
def componentPlaces (all : List String) : List Nat :=
  (all.zipIdx.filter fun (piece, index) ↦ isComponent index piece).map (·.2)

private theorem componentPlaces_concat (before : List String) (last : String) :
    componentPlaces (before ++ [last]) =
      componentPlaces before ++ if isComponent before.length last then [before.length] else [] := by
  unfold componentPlaces
  rw [List.zipIdx_append, List.filter_append, List.map_append]
  by_cases h : isComponent before.length last = true <;> simp [h]

/-- Unless there is no component, the last one has only empty pieces and dots behind it. -/
theorem exists_last_component (all : List String) :
    ((componentPlaces all).getLast? = none ∧ ∀ piece ∈ all, piece = "" ∨ piece = ".") ∨
    ∃ before piece gap, all = before ++ piece :: gap ∧ piece ≠ "" ∧
      (∀ between ∈ gap, between = "" ∨ between = ".") ∧
      (componentPlaces all).getLast? = some before.length := by
  induction all using List.reverseRecOn with
  | nil => exact .inl ⟨rfl, by simp⟩
  | append_singleton all last ih =>
    rw [componentPlaces_concat]
    by_cases hlast : isComponent all.length last = true
    · have hne : last ≠ "" := by
        rintro rfl
        simp [isComponent] at hlast
      refine .inr ⟨all, last, [], rfl, hne, by simp, ?_⟩
      rw [if_pos hlast, List.getLast?_concat]
    · have hgap : last = "" ∨ last = "." := by
        by_contra hgap
        simp_all [isComponent]
      rw [if_neg hlast, List.append_nil]
      rcases ih with ⟨hplaces, hall⟩ | ⟨before, piece, gap, rfl, hpiece, hbetween, hplace⟩
      · refine .inl ⟨hplaces, ?_⟩
        simp only [List.forall_mem_append, List.forall_mem_singleton]
        exact ⟨hall, hgap⟩
      · refine .inr ⟨before, piece, gap ++ [last], by simp, hpiece, ?_, hplace⟩
        simp only [List.forall_mem_append, List.forall_mem_singleton]
        exact ⟨hbetween, hgap⟩

private theorem eq_dot_of_mem_filter {gap : List String}
    (h : ∀ piece ∈ gap, piece = "" ∨ piece = ".") : ∀ step ∈ gap.filter (· ≠ ""), step = "." := by
  intro step hstep
  obtain ⟨hmem, hne⟩ := List.mem_filter.mp hstep
  exact (h step hmem).resolve_left (by simpa using hne)

/-! ### Parents -/

/-- The path ends with a name, not with a slash or dots. -/
def EndsWithName (path name : String) : Prop :=
  (pieces path).getLast? = some name ∧ name ≠ "" ∧ name ≠ "." ∧ name ≠ ".."

/-- The name at the end of a path is compared. -/
instance (path name : String) : Decidable (EndsWithName path name) :=
  inferInstanceAs (Decidable (_ ∧ _ ∧ _ ∧ _))

namespace EndsWithName

variable {name : String} {before : List String}

private theorem exists_pieces (h : EndsWithName path name) :
    ∃ before, pieces path = before ++ [name] :=
  ⟨_, (List.dropLast_append_getLast? name h.1).symm⟩

private theorem steps_eq (h : EndsWithName path name) (hpieces : pieces path = before ++ [name]) :
    FileSystem.steps path = before.filter (· ≠ "") ++ [name] := by
  simp [FileSystem.steps, endsWithSlash_eq_false hpieces h.2.1, hpieces, h.2.1]

/-- The name is the last component, so the parent ends with the one before. -/
theorem parent?_eq (h : EndsWithName path name) (hpieces : pieces path = before ++ [name]) :
    parent? path = some ((componentPlaces before).getLast?.elim
      (if isAbsolute path then "/" else "")
      fun previous ↦ "/".intercalate ((pieces path).take (previous + 1))) := by
  have hname : isComponent before.length name = true := by
    simp [isComponent, h.2.1, h.2.2.1]
  have hplaces : (componentPlaces (pieces path)).reverse =
      before.length :: (componentPlaces before).reverse := by
    rw [hpieces, componentPlaces_concat, if_pos hname, List.reverse_concat]
  rw [← List.head?_reverse]
  unfold parent?
  dsimp only
  split
  · next hnone => cases hplaces.symm.trans hnone
  · next place hone =>
    have hbefore := (List.cons.inj (hplaces.symm.trans hone)).2
    rw [hbefore]
    rfl
  · next place previous others hmore =>
    have hbefore := (List.cons.inj (hplaces.symm.trans hmore)).2
    rw [hbefore]
    rfl

/-- The path is its parent and the name. The parent is missing, the root, or another path, and
single dots may stand between. -/
theorem exists_parent (h : EndsWithName path name) :
    ∃ (parent : String) (gap : List String), parent? path = some parent ∧
      (∀ step ∈ gap, step = ".") ∧
      ((parent = "" ∧ isAbsolute path = false ∧ FileSystem.steps path = gap ++ [name]) ∨
        (parent = "/" ∧ isAbsolute path = true ∧ FileSystem.steps path = gap ++ [name]) ∨
        (parent ≠ "" ∧ isAbsolute parent = isAbsolute path ∧
          FileSystem.steps path = FileSystem.steps parent ++ (gap ++ [name]))) := by
  obtain ⟨before, hpieces⟩ := h.exists_pieces
  have hsteps := h.steps_eq hpieces
  rcases exists_last_component before with ⟨hnone, hall⟩ |
    ⟨front, piece, gap, rfl, hpiece, hgap, hplace⟩
  · refine ⟨_, before.filter (· ≠ ""), h.parent?_eq hpieces, eq_dot_of_mem_filter hall, ?_⟩
    rw [hnone, Option.elim_none]
    cases habsolute : isAbsolute path with
    | false => exact .inl ⟨rfl, rfl, hsteps⟩
    | true => exact .inr (.inl ⟨rfl, rfl, hsteps⟩)
  · have htake : (pieces path).take (front.length + 1) = front ++ [piece] := by
      rw [hpieces]
      simp [List.take_append]
    have hparent := h.parent?_eq hpieces
    rw [hplace, Option.elim_some, htake] at hparent
    have hfound : pieces ("/".intercalate (front ++ [piece])) = front ++ [piece] := by
      refine pieces_intercalate (by simp) fun part hpart ↦ ?_
      rw [← htake] at hpart
      exact slash_notMem_of_mem_pieces (List.mem_of_mem_take hpart)
    generalize "/".intercalate (front ++ [piece]) = parent at hparent hfound
    refine ⟨parent, gap.filter (· ≠ ""), hparent, eq_dot_of_mem_filter hgap,
      .inr (.inr ⟨?_, ?_, ?_⟩)⟩
    · rintro rfl
      have hlast := congrArg List.getLast? hfound
      rw [List.getLast?_concat] at hlast
      exact hpiece (Option.some.inj hlast).symm
    · rw [List.append_assoc, List.cons_append] at hpieces
      exact isAbsolute_eq_of_pieces hfound hpieces hpiece
    · rw [hsteps, FileSystem.steps, endsWithSlash_eq_false hfound hpiece, hfound]
      simp [hpiece]

/-- A dot between the parent and the name belongs to neither. -/
example : EndsWithName "out/./score.md" "score.md" ∧ parent? "out/./score.md" = some "out" := by
  decide

end EndsWithName

end PackageRisk.Path
