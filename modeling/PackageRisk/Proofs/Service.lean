import Mathlib.Data.List.DropRight
import PackageRisk.Service

/-!
# Bases without slashes at their end

The base of a request loses the slashes at its end, all of them and nothing else.
-/

namespace PackageRisk.Service

/-- A text of slashes only. -/
def slashes (count : Nat) : String := String.ofList (List.replicate count '/')

/-- A text is what a base is before the slashes at its end. -/
structure IsTrimmed (base root : String) : Prop where
  base_eq : ∃ count, base = root ++ slashes count
  ends : root.toList.getLast? ≠ some '/'

/-- A number of slashes is that many characters. -/
@[simp] theorem toList_slashes (count : Nat) :
    (slashes count).toList = List.replicate count '/' := by
  rw [slashes, String.toList_ofList]

/-- Slashes after slashes are slashes. -/
theorem slashes_append_slashes (count more : Nat) :
    slashes count ++ slashes more = slashes (count + more) := by
  apply String.toList_inj.mp
  simp

/-- A text is made of slashes when each of its characters is one. -/
theorem exists_eq_slashes_iff {text : String} :
    (∃ count, text = slashes count) ↔ ∀ c ∈ text.toList, c = '/' := by
  constructor
  · rintro ⟨count, rfl⟩
    simp
  · intro hall
    refine ⟨text.toList.length, String.toList_inj.mp ?_⟩
    rw [toList_slashes]
    exact List.eq_replicate_of_mem hall

private theorem toList_trimSlashes (base : String) :
    (trimSlashes base).toList = base.toList.rdropWhile (· = '/') := by
  rw [trimSlashes, String.toList_ofList, List.rdropWhile]

/-- A text has no slashes to lose when it does not end with one. -/
theorem rdropWhile_slash_eq_self_iff {text : List Char} :
    text.rdropWhile (· = '/') = text ↔ text.getLast? ≠ some '/' := by
  rw [List.rdropWhile_eq_self_iff]
  by_cases hempty : text = []
  · simp [hempty]
  · simp [List.getLast?_eq_some_getLast hempty, hempty]

/-- Trimming takes the slashes at the end, and no others. -/
theorem isTrimmed_trimSlashes (base : String) : IsTrimmed base (trimSlashes base) where
  base_eq := by
    have hall : ∀ c ∈ (String.ofList (base.toList.rtakeWhile (· = '/'))).toList, c = '/' := by
      intro c hc
      rw [String.toList_ofList] at hc
      simpa using List.mem_rtakeWhile_imp hc
    obtain ⟨count, hslashes⟩ := exists_eq_slashes_iff.mpr hall
    refine ⟨count, String.toList_inj.mp ?_⟩
    rw [← hslashes, String.toList_append, toList_trimSlashes, String.toList_ofList,
      List.rdropWhile_append_rtakeWhile]
  ends := by
    rw [toList_trimSlashes, ← rdropWhile_slash_eq_self_iff, List.rdropWhile_idempotent]

/-- A base is what is before the slashes at its end, and these. -/
theorem trimSlashes_eq_iff {base root : String} :
    trimSlashes base = root ↔ IsTrimmed base root := by
  constructor
  · rintro rfl
    exact isTrimmed_trimSlashes base
  · rintro ⟨⟨count, rfl⟩, hends⟩
    apply String.toList_inj.mp
    rw [toList_trimSlashes, String.toList_append, toList_slashes, List.rdropWhile,
      List.reverse_append, List.reverse_replicate, List.dropWhile_append_of_pos (by simp),
      ← List.rdropWhile, rdropWhile_slash_eq_self_iff.mpr hends]

/-- What stands before a text with something other than slashes stays. -/
theorem trimSlashes_append {front rest : String} (h : ∃ c ∈ rest.toList, c ≠ '/') :
    trimSlashes (front ++ rest) = front ++ trimSlashes rest := by
  obtain ⟨⟨count, hrest⟩, hends⟩ := isTrimmed_trimSlashes rest
  have hne : (trimSlashes rest).toList ≠ [] := by
    intro hempty
    rw [String.toList_eq_nil_iff.mp hempty, String.empty_append] at hrest
    obtain ⟨c, hc, hslash⟩ := h
    exact hslash (exists_eq_slashes_iff.mp ⟨count, hrest⟩ c hc)
  apply trimSlashes_eq_iff.mpr
  constructor
  · exact ⟨count, by rw [String.append_assoc, ← hrest]⟩
  · rwa [String.toList_append, List.getLast?_append_of_ne_nil _ hne]

/-- More slashes at the end of a base change nothing. -/
theorem trimSlashes_append_slashes (base : String) (count : Nat) :
    trimSlashes (base ++ slashes count) = trimSlashes base := by
  obtain ⟨⟨already, hbase⟩, hends⟩ := isTrimmed_trimSlashes base
  apply trimSlashes_eq_iff.mpr
  refine ⟨⟨already + count, ?_⟩, hends⟩
  rw [← slashes_append_slashes, ← String.append_assoc, ← hbase]

end PackageRisk.Service
