import Mathlib.Data.List.Forall2

/-!
# Computations that may fail

When a computation that may fail succeeds, and with which fault it fails.
-/

namespace PackageRisk

namespace Fallible

variable {ε δ α β : Type}

/-- The fault of a computation, if it fails. -/
def fault? : Except ε α → Option ε
  | .ok _ => none
  | .error fault => some fault

/-- Two steps succeed exactly when the first does and the second does on its result. -/
@[simp] theorem bind_eq_ok_iff {x : Except ε α} {f : α → Except ε β} {b : β} :
    (x >>= f) = .ok b ↔ ∃ a, x = .ok a ∧ f a = .ok b := by
  cases x <;> simp [bind, Except.bind]

/-- Two steps fail in the first, or in the second on the result of the first. -/
theorem bind_eq_error_iff {x : Except ε α} {f : α → Except ε β} {fault : ε} :
    (x >>= f) = .error fault ↔
      x = .error fault ∨ ∃ a, x = .ok a ∧ f a = .error fault := by
  cases x <;> simp [bind, Except.bind]

/-- A mapped result is a value when the result is. -/
@[simp] theorem map_eq_ok_iff {x : Except ε α} {f : α → β} {b : β} :
    x.map f = .ok b ↔ ∃ a, x = .ok a ∧ f a = b := by
  cases x <;> simp [Except.map]

/-- Renaming faults changes no result. -/
@[simp] theorem mapError_eq_ok_iff {x : Except ε α} {f : ε → δ} {a : α} :
    x.mapError f = .ok a ↔ x = .ok a := by
  cases x <;> simp [Except.mapError]

/-- A result with its fault mapped is a fault when the result is. -/
@[simp] theorem mapError_eq_error_iff {x : Except ε α} {f : ε → δ} {fault : δ} :
    x.mapError f = .error fault ↔ ∃ cause, x = .error cause ∧ f cause = fault := by
  cases x <;> simp [Except.mapError]

/-- A computation succeeds if something is known of its result. -/
theorem exists_eq_ok_of_map {x : Except ε α} {f : α → β} {b : β}
    (h : x.toOption.map f = some b) : ∃ a, x = .ok a ∧ f a = b := by
  cases x with
  | ok a => exact ⟨a, rfl, Option.some.inj h⟩
  | error fault => cases h

/-- A list is gone through when each of its elements gives a result. -/
theorem mapM_eq_ok_iff {f : α → Except ε β} {xs : List α} {ys : List β} :
    xs.mapM f = .ok ys ↔ List.Forall₂ (fun x y ↦ f x = .ok y) xs ys := by
  induction xs generalizing ys with
  | nil => simp [pure, Except.pure, eq_comm]
  | cons x xs ih =>
    rw [List.mapM_cons, List.forall₂_cons_left_iff, bind_eq_ok_iff]
    constructor
    · rintro ⟨y, hy, h⟩
      obtain ⟨others, hothers, h⟩ := bind_eq_ok_iff.mp h
      cases h
      exact ⟨y, others, hy, ih.mp hothers, rfl⟩
    · rintro ⟨y, others, hy, hothers, rfl⟩
      exact ⟨y, hy, bind_eq_ok_iff.mpr ⟨others, ih.mpr hothers, rfl⟩⟩

/-- A value that may be missing is gone through when it is missing or gives a result. -/
theorem exists_optionMapM_eq_ok_iff {f : α → Except ε β} {x : Option α} :
    (∃ y, x.mapM f = .ok y) ↔ ∀ a, x = some a → ∃ b, f a = .ok b := by
  cases x with
  | none => simp [pure, Except.pure]
  | some a =>
    rw [Option.mapM_some]
    cases h : f a <;> simp [h, Functor.map, Except.map]

/-- Each result comes from an element of the list. -/
theorem exists_of_mapM_ok {f : α → Except ε β} {xs : List α} {ys : List β}
    (h : xs.mapM f = .ok ys) {y : β} (hy : y ∈ ys) : ∃ x ∈ xs, f x = .ok y := by
  have hall := mapM_eq_ok_iff.mp h
  clear h
  induction hall with
  | nil => cases hy
  | cons hfirst _ ih =>
    rcases List.mem_cons.mp hy with rfl | hy
    · exact ⟨_, List.mem_cons_self, hfirst⟩
    · obtain ⟨x, hx, h⟩ := ih hy
      exact ⟨x, List.mem_cons_of_mem _ hx, h⟩

/-- There is no fault exactly when there is a result. -/
theorem fault?_eq_none_iff {x : Except ε α} : fault? x = none ↔ ∃ a, x = .ok a := by
  cases x <;> simp [fault?]

/-- The fault of a result is the one that the result is. -/
theorem fault?_eq_some_iff {x : Except ε α} {fault : ε} :
    fault? x = some fault ↔ x = .error fault := by
  cases x <;> simp [fault?]

/-- The fault of two steps is that of the first, or else that of the second. -/
theorem fault?_bind (x : Except ε α) (f : α → Except ε β) :
    fault? (x >>= f) = (fault? x).or (x.toOption.bind fun a ↦ fault? (f a)) := by
  cases x <;> simp [bind, Except.bind, fault?, Except.toOption]

/-- Whatever fault a computation fails with has a property. -/
def FaultsIn (p : ε → Prop) (x : Except ε α) : Prop := ∀ fault, x = .error fault → p fault

namespace FaultsIn

variable {p : ε → Prop}

/-- A value has no faults. -/
theorem ok (a : α) : FaultsIn p (.ok a : Except ε α) := by
  intro fault h
  cases h

/-- A fault with the property is a result with faults of that property. -/
theorem error {fault : ε} (h : p fault) : FaultsIn p (.error fault : Except ε α) := by
  intro other hother
  cases hother
  exact h

/-- The faults of two steps in turn are those of each step. -/
theorem bind {x : Except ε α} {f : α → Except ε β} (hx : FaultsIn p x)
    (hf : ∀ a, x = .ok a → FaultsIn p (f a)) : FaultsIn p (x >>= f) := by
  intro fault h
  rcases bind_eq_error_iff.mp h with h | ⟨a, ha, h⟩
  · exact hx fault h
  · exact hf a ha fault h

/-- Where all faults are mapped, only the images of the mapping count. -/
theorem mapError {q : δ → Prop} {x : Except ε α} {f : ε → δ} (h : ∀ fault, q (f fault)) :
    FaultsIn q (x.mapError f) := by
  intro fault hfault
  obtain ⟨cause, -, rfl⟩ := mapError_eq_error_iff.mp hfault
  exact h cause

/-- Mapping the value leaves the faults as they are. -/
theorem map {x : Except ε α} {f : α → β} (hx : FaultsIn p x) : FaultsIn p (x.map f) := by
  intro fault h
  cases x with
  | ok a => cases h
  | error other =>
    cases h
    exact hx _ rfl

/-- The faults of a fold are those of its steps. -/
theorem foldlM {γ : Type} {step : β → γ → Except ε β} (items : List γ) (init : β)
    (hstep : ∀ b item, FaultsIn p (step b item)) : FaultsIn p (items.foldlM step init) := by
  induction items generalizing init with
  | nil => exact ok init
  | cons item rest ih =>
    rw [List.foldlM_cons]
    exact (hstep init item).bind fun b _ ↦ ih b

/-- The faults of a list gone through item by item are those of the items. -/
theorem mapM {γ : Type} {f : γ → Except ε β} (items : List γ)
    (hf : ∀ item, FaultsIn p (f item)) : FaultsIn p (items.mapM f) := by
  induction items with
  | nil => exact ok []
  | cons item rest ih =>
    rw [List.mapM_cons]
    exact (hf item).bind fun b _ ↦ ih.bind fun bs _ ↦ ok (b :: bs)

end FaultsIn

/-- Two computations succeed with the same result, or fail with related faults. -/
inductive SameBut (related : ε → δ → Prop) : Except ε α → Except δ α → Prop
  | ok (a : α) : SameBut related (.ok a) (.ok a)
  | error {fault : ε} {other : δ} (h : related fault other) :
      SameBut related (.error fault) (.error other)

namespace SameBut

variable {related : ε → δ → Prop}

/-- The one computation has the results of the other. -/
theorem eq_ok_iff {x : Except ε α} {y : Except δ α} (h : SameBut related x y) {a : α} :
    x = .ok a ↔ y = .ok a := by
  cases h <;> simp

/-- Steps that fail alike fail alike one after the other. -/
theorem bind {x : Except ε α} {y : Except δ α} {f : α → Except ε β} {g : α → Except δ β}
    (hx : SameBut related x y) (hf : ∀ a, SameBut related (f a) (g a)) :
    SameBut related (x >>= f) (y >>= g) := by
  cases hx with
  | ok a => exact hf a
  | error h => exact .error h

/-- Faults that are renamed stay related if their names are. -/
theorem mapError {ε' δ' : Type} {renamed : ε' → δ' → Prop} {f : ε → ε'} {g : δ → δ'}
    {x : Except ε α} {y : Except δ α} (h : SameBut related x y)
    (hrenamed : ∀ fault other, related fault other → renamed (f fault) (g other)) :
    SameBut renamed (x.mapError f) (y.mapError g) := by
  cases h with
  | ok a => exact .ok a
  | error h => exact .error (hrenamed _ _ h)

/-- Loops whose steps fail alike fail alike. -/
theorem foldlM {γ : Type} {f : β → γ → Except ε β} {g : β → γ → Except δ β} (items : List γ)
    (init : β) (hstep : ∀ b item, SameBut related (f b item) (g b item)) :
    SameBut related (items.foldlM f init) (items.foldlM g init) := by
  induction items generalizing init with
  | nil => exact .ok init
  | cons item rest ih =>
    rw [List.foldlM_cons, List.foldlM_cons]
    exact (hstep init item).bind ih

/-- Lists whose elements fail alike fail alike. -/
theorem mapM {γ : Type} {f : γ → Except ε β} {g : γ → Except δ β} (items : List γ)
    (hstep : ∀ item, SameBut related (f item) (g item)) :
    SameBut related (items.mapM f) (items.mapM g) := by
  induction items with
  | nil => exact .ok []
  | cons item rest ih =>
    rw [List.mapM_cons, List.mapM_cons]
    exact (hstep item).bind fun b ↦ ih.bind fun bs ↦ .ok (b :: bs)

end SameBut

end Fallible

end PackageRisk
