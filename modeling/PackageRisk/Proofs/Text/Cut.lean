import Mathlib.Data.List.TakeWhile

/-!
# Texts cut at a sign

A text that holds a sign can be cut at the first or at the last place of it. The part before the
first place is without the sign, and so is the part after the last one: this tells where the text is
cut.
-/

namespace PackageRisk.Text

variable {sign : Char}

/-- Where a text does not go on without the sign, it goes on with the sign. -/
theorem head_eq_of_dropWhile {text after : List Char} {first : Char}
    (h : text.dropWhile (· != sign) = first :: after) : first = sign := by
  have hfirst := List.head?_dropWhile_not (· != sign) text
  rw [h] at hfirst
  simpa using hfirst

/-- A text is cut at the first place of the sign exactly when the part before it is without the
sign. -/
theorem takeWhile_dropWhile_iff {text before after : List Char} :
    text.takeWhile (· != sign) = before ∧ text.dropWhile (· != sign) = sign :: after ↔
      text = before ++ sign :: after ∧ sign ∉ before := by
  constructor
  · rintro ⟨rfl, hafter⟩
    constructor
    · rw [← hafter, List.takeWhile_append_dropWhile]
    · intro hsign
      have hne := List.mem_takeWhile_imp hsign
      simp at hne
  · rintro ⟨rfl, hbefore⟩
    have hall : ∀ c ∈ before, (c != sign) = true := by
      intro c hc
      simpa using ne_of_mem_of_not_mem hc hbefore
    rw [List.takeWhile_append_of_pos hall, List.dropWhile_append_of_pos hall]
    simp

/-- The parts of a text before and after the last place of a sign, if it has one. -/
def cutAtLast? (sign : Char) (text : String) : Option (String × String) :=
  match text.toList.reverse.dropWhile (· != sign) with
  | [] => none
  | _ :: before =>
    some (String.ofList before.reverse,
      String.ofList (text.toList.reverse.takeWhile (· != sign)).reverse)

/-- A text is cut at the last place of the sign exactly when the part after it is without the
sign. -/
theorem cutAtLast?_eq_some_iff {text before after : String} :
    cutAtLast? sign text = some (before, after) ↔
      text.toList = before.toList ++ sign :: after.toList ∧ sign ∉ after.toList := by
  -- The last place is the first one in the reversed text.
  have hcut : text.toList.reverse.takeWhile (· != sign) = after.toList.reverse ∧
      text.toList.reverse.dropWhile (· != sign) = sign :: before.toList.reverse ↔
        text.toList.reverse = after.toList.reverse ++ sign :: before.toList.reverse ∧
          sign ∉ after.toList.reverse :=
    takeWhile_dropWhile_iff
  rw [List.mem_reverse, List.reverse_eq_iff, List.reverse_append, List.reverse_cons,
    List.reverse_reverse, List.reverse_reverse, List.append_assoc, List.singleton_append] at hcut
  rw [← hcut, cutAtLast?]
  split
  · next hnone => simp [hnone]
  · next first rest hrest =>
    rw [hrest, head_eq_of_dropWhile hrest]
    simp only [Option.some.injEq, Prod.mk.injEq, List.cons.injEq, true_and]
    rw [← String.toList_inj, ← String.toList_inj, String.toList_ofList, String.toList_ofList,
      List.reverse_eq_iff, List.reverse_eq_iff, and_comm]

end PackageRisk.Text
