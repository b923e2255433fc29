import PackageRisk.Proofs.Package
import PackageRisk.Proofs.Report.Resolved
import PackageRisk.Proofs.Text.Cut

/-!
# The grammar of names

A name is plain, or it is a scope and a name with a sign before each of them. The characters `@` and
`/` are these signs, and a part of a name is meant to hold neither. The check of a name looks for
both of them in the part after the slash, but only for the slash in the scope, so it lets through
the names of the grammar and those with an `@` in their scope.
-/

namespace PackageRisk.PackageName

/-- A text is made of a scope and a name, each after its sign. The name holds neither of the signs,
and the scope no character that is barred from scopes. -/
structure IsScopeAndName (barred text scope name : List Char) : Prop where
  text_eq : text = '@' :: (scope ++ '/' :: name)
  scope_ne_nil : scope ≠ []
  scope_free : ∀ c ∈ barred, c ∉ scope
  name_ne_nil : name ≠ []
  name_free : '@' ∉ name ∧ '/' ∉ name

/-- A text is a name, where some characters are barred from scopes. -/
structure IsName (barred : List Char) (text : String) : Prop where
  nonempty : text ≠ ""
  size : text.utf8ByteSize ≤ 214
  characters : ∀ c ∈ text.toList,
    Text.isAlphanumeric c = true ∨ c ∈ ['-', '_', '.', '~', '@', '/']
  form : ('@' ∉ text.toList ∧ '/' ∉ text.toList) ∨
    ∃ scope name, IsScopeAndName barred text.toList scope name

/-- The names of the grammar: scopes hold neither of the signs. -/
def FollowsGrammar (text : String) : Prop := IsName ['@', '/'] text

private theorem allows_iff {c : Char} :
    allows c = true ↔ Text.isAlphanumeric c = true ∨ c ∈ ['-', '_', '.', '~', '@', '/'] := by
  simp [allows, or_assoc]

/-- The check of scoped names bars the slash from the scope. -/
theorem isScoped_iff {text : List Char} :
    isScoped text = true ↔ ∃ scope name, IsScopeAndName ['/'] text scope name := by
  constructor
  · intro h
    unfold isScoped at h
    split at h
    · next rest =>
      dsimp only at h
      split at h
      · cases h
      · next slash name hname =>
        have hslash := Text.head_eq_of_dropWhile hname
        subst hslash
        obtain ⟨hrest, hscope⟩ := Text.takeWhile_dropWhile_iff.mp ⟨rfl, hname⟩
        simp only [Bool.and_eq_true, Bool.not_eq_true', List.isEmpty_eq_false_iff,
          List.contains_eq_mem, decide_eq_false_iff_not] at h
        obtain ⟨⟨⟨hscopeSome, hnameSome⟩, hnameSlash⟩, hnameAt⟩ := h
        exact ⟨_, name, congrArg _ hrest, hscopeSome, by simpa using hscope, hnameSome, hnameAt,
          hnameSlash⟩
    · cases h
  · rintro ⟨scope, name, ⟨rfl, hscopeSome, hscope, hnameSome, hnameAt, hnameSlash⟩⟩
    obtain ⟨htake, hdrop⟩ : (scope ++ '/' :: name).takeWhile (· != '/') = scope ∧
        (scope ++ '/' :: name).dropWhile (· != '/') = '/' :: name :=
      Text.takeWhile_dropWhile_iff.mpr ⟨rfl, hscope '/' (by simp)⟩
    simp [isScoped, htake, hdrop, hscopeSome, hnameSome, hnameAt, hnameSlash]

/-- A name without a fault passes all four checks. -/
theorem fault?_eq_none_iff_checks {text : String} :
    fault? text = none ↔ text.toList ≠ [] ∧ text.utf8ByteSize ≤ maxBytes ∧
      (∀ c ∈ text.toList, allows c = true) ∧
      ('@' ∈ text.toList ∨ '/' ∈ text.toList → isScoped text.toList = true) := by
  unfold fault?
  dsimp only
  split_ifs with hempty hsize hall hform
  · exact iff_of_false (by simp) fun h ↦ h.1 (List.isEmpty_iff.mp hempty)
  · exact iff_of_false (by simp) fun h ↦ Nat.not_lt.mpr h.2.1 hsize
  · refine iff_of_false (by simp) fun h ↦ ?_
    rw [List.all_eq_true.mpr h.2.2.1] at hall
    cases hall
  · refine iff_of_false (by simp) fun h ↦ ?_
    simp only [Bool.and_eq_true, Bool.or_eq_true, List.contains_iff_mem] at hform
    rw [h.2.2.2 hform.1] at hform
    cases hform.2
  · refine iff_of_true rfl ⟨by simpa using hempty, Nat.not_lt.mp hsize, by simpa using hall, ?_⟩
    simpa using hform

/-- A name passes the check exactly when it is a name but for an `@` in its scope. -/
theorem fault?_eq_none_iff_isName {text : String} : fault? text = none ↔ IsName ['/'] text := by
  have hnonempty : text.toList ≠ [] ↔ text ≠ "" := by simp
  have hform : ('@' ∈ text.toList ∨ '/' ∈ text.toList → isScoped text.toList = true) ↔
      ('@' ∉ text.toList ∧ '/' ∉ text.toList) ∨
        ∃ scope name, IsScopeAndName ['/'] text.toList scope name := by
    rw [← isScoped_iff, ← not_or, ← imp_iff_not_or]
  rw [fault?_eq_none_iff_checks, hnonempty, hform]
  simp only [allows_iff]
  constructor
  · rintro ⟨hnonempty, hsize, hall, hform⟩
    exact ⟨hnonempty, hsize, hall, hform⟩
  · rintro ⟨hnonempty, hsize, hall, hform⟩
    exact ⟨hnonempty, hsize, hall, hform⟩

/-- A scope is free of both signs when it is free of the slash and the text has one `@` only. -/
theorem isScopeAndName_signs_iff {text scope name : List Char} :
    IsScopeAndName ['@', '/'] text scope name ↔
      IsScopeAndName ['/'] text scope name ∧ text.count '@' ≤ 1 := by
  have hcount {barred : List Char} (h : IsScopeAndName barred text scope name) :
      text.count '@' = scope.count '@' + 1 := by
    obtain ⟨rfl, -, -, -, hname, -⟩ := h
    rw [List.count_cons_self, List.count_append, List.count_cons_of_ne (by decide),
      List.count_eq_zero.mpr hname, Nat.add_zero]
  constructor
  · intro h
    have hscope : scope.count '@' = 0 := List.count_eq_zero.mpr (h.scope_free '@' (by simp))
    have hslash : ∀ c ∈ ['/'], c ∉ scope := fun c hc ↦ h.scope_free c (List.mem_cons_of_mem _ hc)
    exact ⟨{ h with scope_free := hslash }, by rw [hcount h, hscope]⟩
  · rintro ⟨h, hone⟩
    have hscope : '@' ∉ scope := by
      rw [hcount h] at hone
      exact List.count_eq_zero.mp (by omega)
    exact { h with scope_free := List.forall_mem_cons.mpr ⟨hscope, h.scope_free⟩ }

/-- The names of the grammar are those that pass the check and have one `@` at most. -/
theorem followsGrammar_iff {text : String} :
    FollowsGrammar text ↔ fault? text = none ∧ text.toList.count '@' ≤ 1 := by
  rw [fault?_eq_none_iff_isName]
  constructor
  · rintro ⟨hnonempty, hsize, hall, hplain | ⟨scope, name, hscoped⟩⟩
    · have hnone : text.toList.count '@' = 0 := List.count_eq_zero.mpr hplain.1
      exact ⟨⟨hnonempty, hsize, hall, .inl hplain⟩, by omega⟩
    · obtain ⟨hslash, hone⟩ := isScopeAndName_signs_iff.mp hscoped
      exact ⟨⟨hnonempty, hsize, hall, .inr ⟨scope, name, hslash⟩⟩, hone⟩
  · rintro ⟨⟨hnonempty, hsize, hall, hplain | ⟨scope, name, hscoped⟩⟩, hone⟩
    · exact ⟨hnonempty, hsize, hall, .inl hplain⟩
    · have hsigns := isScopeAndName_signs_iff.mpr ⟨hscoped, hone⟩
      exact ⟨hnonempty, hsize, hall, .inr ⟨scope, name, hsigns⟩⟩

/-- A text is accepted as a name if and only if it is not empty, fits into 214 bytes, holds letters,
digits and the six marks only, and is plain or has the form `@scope/name` with both parts present,
no slash but the one between them, and no `@` in the second. Accepted texts are those of the grammar
and those with a further `@`, which stands in the scope; a package keeps its name as it is given. -/
theorem accepts_iff (text : String) :
    (fault? text = none ↔ IsName ['/'] text) ∧
    (FollowsGrammar text ↔ fault? text = none ∧ text.toList.count '@' ≤ 1) ∧
    ∀ version package, Package.ofTexts text version = .ok package ↔
      package.name = text ∧ package.version = version :=
  ⟨fault?_eq_none_iff_isName, followsGrammar_iff, fun _ _ ↦ Package.ofTexts_eq_ok_iff⟩

/-- A scope with an `@` in it is accepted, and no scope of the grammar. -/
theorem accepts_sign_in_scope :
    fault? "@a@b/c" = none ∧ ¬FollowsGrammar "@a@b/c" := by
  refine ⟨by decide +kernel, fun h ↦ ?_⟩
  have hone := (followsGrammar_iff.mp h).2
  exact absurd hone (by decide)

end PackageRisk.PackageName
