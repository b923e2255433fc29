import Mathlib.Data.List.Forall2
import PackageRisk.Json.Value

/-!
# Objects by their content

What an object says, without the order of its members: the keys that it may have, and the value of
each of those that it has. An object says one thing only.
-/

namespace PackageRisk.Json

/-- The object has exactly the members that the entries give a value, each under a key of its
own. -/
def Value.IsObject (value : Value) (entries : List (String × Option Value)) : Prop :=
  ∃ members, value = .object members ∧ (members.map (·.1)).Nodup ∧
    ∀ key content, (key, content) ∈ members ↔ (key, some content) ∈ entries

/-- Entries under the same keys are the same if they give the same values. -/
theorem entries_eq_of_mem_iff {entries others : List (String × Option Value)}
    (hkeys : entries.map (·.1) = others.map (·.1)) (hnodup : (entries.map (·.1)).Nodup)
    (hmem : ∀ key content, (key, some content) ∈ entries ↔ (key, some content) ∈ others) :
    entries = others := by
  induction entries generalizing others with
  | nil => exact (List.map_eq_nil_iff.mp hkeys.symm).symm
  | cons entry entries ih =>
    cases others with
    | nil => cases hkeys
    | cons other others =>
      obtain ⟨key, content?⟩ := entry
      obtain ⟨otherKey, other?⟩ := other
      obtain ⟨rfl, htail⟩ := List.cons.inj hkeys
      obtain ⟨hnew, hrest⟩ := List.nodup_cons.mp hnodup
      have habsent (any : Option Value) : (key, any) ∉ entries := fun h ↦
        hnew (List.mem_map.mpr ⟨_, h, rfl⟩)
      have habsentOther (any : Option Value) : (key, any) ∉ others := fun h ↦
        hnew (htail ▸ List.mem_map.mpr ⟨_, h, rfl⟩)
      have hfirst : content? = other? := by
        ext content
        have hiff := hmem key content
        simp only [List.mem_cons, Prod.mk.injEq, true_and, habsent, habsentOther, or_false] at hiff
        exact eq_comm.trans (hiff.trans eq_comm)
      have hothers : entries = others := by
        refine ih htail hrest fun other content ↦ ?_
        by_cases heq : other = key
        · subst heq
          exact iff_of_false (habsent _) (habsentOther _)
        · have hiff := hmem other content
          simpa only [List.mem_cons, Prod.mk.injEq, heq, false_and, false_or] using hiff
      rw [hfirst, hothers]

/-- The entries of an object are known from their keys and the object. -/
theorem Value.IsObject.entries_eq {value : Value} {entries others : List (String × Option Value)}
    (h : value.IsObject entries) (hother : value.IsObject others)
    (hkeys : entries.map (·.1) = others.map (·.1)) (hnodup : (entries.map (·.1)).Nodup) :
    entries = others := by
  obtain ⟨members, rfl, -, hmem⟩ := h
  obtain ⟨_, heq, -, hmemOther⟩ := hother
  cases heq
  exact entries_eq_of_mem_iff hkeys hnodup fun key content ↦
    (hmem key content).symm.trans (hmemOther key content)

end PackageRisk.Json
