import Mathlib.Data.List.Nodup
import PackageRisk.Json.Value

/-!
# Bindings

A list of bindings gives every key the value of its last binding. Sorting the bindings keeps exactly
these.
-/

namespace PackageRisk.Json

variable {α β : Type} {bindings : List (String × α)} {key : String} {value : α}

/-- Without bindings no key is found. -/
@[simp] theorem lookup_nil (key : String) : lookup ([] : List (String × α)) key = none := rfl

/-- Later bindings come before earlier ones. -/
theorem lookup_append (first last : List (String × α)) (key : String) :
    lookup (first ++ last) key = (lookup last key).or (lookup first key) := by
  simp [lookup, List.find?_append, Option.map_or]

/-- One binding binds its own key only. -/
theorem lookup_singleton (binding : String × α) (key : String) :
    lookup [binding] key = if binding.1 = key then some binding.2 else none := by
  by_cases h : binding.1 = key <;> simp [lookup, h]

/-- A later binding of a key hides the first one. -/
theorem lookup_cons (binding : String × α) (bindings : List (String × α)) (key : String) :
    lookup (binding :: bindings) key =
      (lookup bindings key).or (if binding.1 = key then some binding.2 else none) := by
  rw [← lookup_singleton, ← lookup_append]
  rfl

/-- The value of a key stands in one of its bindings. -/
theorem mem_of_lookup (h : lookup bindings key = some value) : (key, value) ∈ bindings := by
  obtain ⟨binding, hfind, rfl⟩ := Option.map_eq_some_iff.mp h
  obtain rfl : binding.1 = key := by simpa using List.find?_some hfind
  exact List.mem_reverse.mp (List.mem_of_find?_eq_some hfind)

/-- Only keys without a binding have no value. -/
theorem lookup_eq_none_iff :
    lookup bindings key = none ↔ ∀ binding ∈ bindings, binding.1 ≠ key := by
  simp [lookup]

/-- Values can be changed before or after looking one up. -/
theorem lookup_map (f : α → β) (bindings : List (String × α)) (key : String) :
    lookup (bindings.map fun binding ↦ (binding.1, f binding.2)) key =
      (lookup bindings key).map f := by
  induction bindings with
  | nil => rfl
  | cons binding bindings ih =>
    rw [List.map_cons, lookup_cons, lookup_cons, ih, Option.map_or]
    split <;> rfl

/-- Removing the bindings of some keys keeps the values of the others. -/
theorem lookup_filter (p : String → Bool) (bindings : List (String × α)) (key : String) :
    lookup (bindings.filter fun binding ↦ p binding.1) key =
      if p key then lookup bindings key else none := by
  induction bindings with
  | nil => simp
  | cons binding bindings ih =>
    rw [List.filter_cons, lookup_cons]
    split
    · rw [lookup_cons, ih]
      grind
    · rw [ih]
      grind

/-- What holds of the bindings of one key only picks its binding. -/
theorem filter_eq_singleton {binding : String × α} {p : String × α → Bool}
    (hnodup : (bindings.map (·.1)).Nodup) (hmem : binding ∈ bindings)
    (hp : ∀ other ∈ bindings, p other = true ↔ other.1 = binding.1) :
    bindings.filter p = [binding] := by
  induction bindings with
  | nil => cases hmem
  | cons first rest ih =>
    obtain ⟨hnew, hrest⟩ := List.nodup_cons.mp hnodup
    obtain ⟨hfirst, hothers⟩ := List.forall_mem_cons.mp hp
    rcases List.mem_cons.mp hmem with rfl | hmem
    · have hnil : rest.filter p = [] := by
        rw [List.filter_eq_nil_iff]
        intro other hother hkey
        exact hnew (List.mem_map.mpr ⟨other, hother, (hothers other hother).mp hkey⟩)
      rw [List.filter_cons_of_pos (hfirst.mpr rfl), hnil]
    · have hskip : ¬p first = true := by
        intro hkey
        exact hnew (List.mem_map.mpr ⟨binding, hmem, (hfirst.mp hkey).symm⟩)
      rw [List.filter_cons_of_neg hskip, ih hrest hmem hothers]

/-- A binding under a new key decides the value of this key only. -/
theorem lookup_insert {before after : List (String × α)}
    (hnew : ∀ binding ∈ before ++ after, binding.1 ≠ key) (other : String) :
    lookup (before ++ (key, value) :: after) other =
      if other = key then some value else lookup (before ++ after) other := by
  rw [lookup_append, lookup_cons, lookup_append]
  by_cases hother : other = key
  · subst hother
    have hnone : lookup after other = none :=
      lookup_eq_none_iff.mpr fun binding h ↦ hnew binding (List.mem_append_right _ h)
    simp [hnone]
  · simp [hother, Ne.symm hother]

/-- Where no key is repeated, every binding is the value of its key. -/
theorem lookup_of_mem (hnodup : (bindings.map (·.1)).Nodup) (h : (key, value) ∈ bindings) :
    lookup bindings key = some value := by
  obtain ⟨before, after, rfl⟩ := List.append_of_mem h
  rw [List.map_append, List.map_cons, List.nodup_middle, ← List.map_append] at hnodup
  have hnew : ∀ binding ∈ before ++ after, binding.1 ≠ key := by
    rintro binding hbinding rfl
    exact (List.nodup_cons.mp hnodup).1 (List.mem_map.mpr ⟨binding, hbinding, rfl⟩)
  rw [lookup_insert hnew, if_pos rfl]

/-- Where no key is repeated, the order of the bindings does not matter. -/
theorem lookup_perm {others : List (String × α)} (hperm : bindings.Perm others)
    (hnodup : (bindings.map (·.1)).Nodup) (key : String) :
    lookup bindings key = lookup others key := by
  cases hvalue : lookup bindings key with
  | none =>
    symm
    rw [lookup_eq_none_iff] at hvalue ⊢
    exact fun binding h ↦ hvalue binding (hperm.mem_iff.mpr h)
  | some value =>
    have hothers : (others.map (·.1)).Nodup := (hperm.map _).nodup_iff.mp hnodup
    rw [lookup_of_mem hothers (hperm.mem_iff.mp (mem_of_lookup hvalue))]

/-! ### Sorted bindings -/

/-- Bindings in increasing order of their keys. -/
def Increasing (bindings : List (String × α)) : Prop :=
  bindings.Pairwise fun a b ↦ a.1 < b.1

private theorem mem_insertByKey (hsorted : Increasing bindings) {newKey : String} {newValue : α} :
    (key, value) ∈ insertByKey newKey newValue bindings ↔
      (key = newKey ∧ value = newValue) ∨ (key ≠ newKey ∧ (key, value) ∈ bindings) := by
  induction bindings with
  | nil => simp [insertByKey]
  | cons binding bindings ih =>
    obtain ⟨hfirst, hrest⟩ := List.pairwise_cons.mp hsorted
    have hafter (h : (key, value) ∈ bindings) : binding.1 < key := hfirst _ h
    rw [insertByKey]
    split
    · rename_i hlt
      have hne (h : (key, value) ∈ binding :: bindings) : key ≠ newKey := by
        rintro rfl
        rcases List.mem_cons.mp h with rfl | h
        · exact String.lt_irrefl _ hlt
        · exact String.lt_irrefl _ (String.lt_trans hlt (hafter h))
      rw [List.mem_cons, Prod.mk.injEq]
      grind
    · split
      · rename_i heq
        subst heq
        have hne (h : (key, value) ∈ bindings) : key ≠ binding.1 := by
          rintro rfl
          exact String.lt_irrefl _ (hafter h)
        grind
      · rw [List.mem_cons, ih hrest, List.mem_cons]
        grind

private theorem increasing_insertByKey (hsorted : Increasing bindings) (newKey : String)
    (newValue : α) : Increasing (insertByKey newKey newValue bindings) := by
  induction bindings with
  | nil => simp [insertByKey, Increasing]
  | cons binding bindings ih =>
    obtain ⟨hfirst, hrest⟩ := List.pairwise_cons.mp hsorted
    rw [insertByKey]
    split
    · rename_i hlt
      refine List.pairwise_cons.mpr ⟨fun other hother ↦ ?_, hsorted⟩
      rcases List.mem_cons.mp hother with rfl | hother
      · exact hlt
      · exact String.lt_trans hlt (hfirst other hother)
    · rename_i hnot
      split
      · rename_i heq
        subst heq
        exact List.pairwise_cons.mpr ⟨hfirst, hrest⟩
      · rename_i hne
        have hlt : binding.1 < newKey := by
          apply Decidable.byContradiction
          intro hge
          exact hne (String.le_antisymm (String.not_lt.mp hge) (String.not_lt.mp hnot))
        refine List.pairwise_cons.mpr ⟨fun other hother ↦ ?_, ih hrest⟩
        rcases (mem_insertByKey hrest).mp hother with ⟨hkey, -⟩ | ⟨-, hother⟩
        · rwa [hkey]
        · exact hfirst other hother

/-- Bindings sorted by key are in increasing order. -/
theorem increasing_sortByKey (bindings : List (String × α)) :
    Increasing (sortByKey bindings) := by
  have general : ∀ sorted : List (String × α), Increasing sorted →
      Increasing (bindings.foldl
        (fun sorted binding ↦ insertByKey binding.1 binding.2 sorted) sorted) := by
    induction bindings with
    | nil => exact fun _ h ↦ h
    | cons binding bindings ih =>
      intro sorted hsorted
      exact ih _ (increasing_insertByKey hsorted _ _)
  exact general [] List.Pairwise.nil

/-- Increasing keys are not repeated. -/
theorem Increasing.nodup (h : Increasing bindings) : (bindings.map (·.1)).Nodup := by
  refine List.pairwise_map.mpr (List.Pairwise.imp ?_ h)
  intro a b hlt heq
  exact String.lt_irrefl _ (heq ▸ hlt)

/-- Sorting keeps the value of every key, and nothing else. -/
theorem mem_sortByKey : (key, value) ∈ sortByKey bindings ↔ lookup bindings key = some value := by
  have general : ∀ sorted : List (String × α), Increasing sorted →
      ((key, value) ∈ bindings.foldl (fun sorted binding ↦ insertByKey binding.1 binding.2 sorted)
        sorted ↔ lookup bindings key = some value ∨
          lookup bindings key = none ∧ (key, value) ∈ sorted) := by
    induction bindings with
    | nil => simp
    | cons binding bindings ih =>
      intro sorted hsorted
      rw [List.foldl_cons, ih _ (increasing_insertByKey hsorted _ _), mem_insertByKey hsorted,
        lookup_cons]
      cases lookup bindings key with
      | some found => simp
      | none =>
        by_cases hkey : binding.1 = key
        · simp [hkey, eq_comm]
        · have hne : ¬key = binding.1 := fun h ↦ hkey h.symm
          simp [hkey, hne]
  unfold sortByKey
  simpa using general [] List.Pairwise.nil

end PackageRisk.Json
