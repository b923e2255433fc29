import PackageRisk.Number.Power

/-!
# Counts

A count lies between zero and 2 ^ 64 - 1. Adding counts never overflows: a sum beyond the greatest
count is the greatest count.
-/

namespace PackageRisk

/-- A natural number below 2 ^ 64. -/
structure Count where
  val : Nat
  lt : val < 2 ^ 64
  deriving DecidableEq, Repr

namespace Count

/-- The greatest count. -/
def max : Nat := 2 ^ 64 - 1

/-- The count nearest to a natural number. -/
def clamp (n : Nat) : Count := ⟨min n max, by simp only [max]; omega⟩

/-- No items. -/
instance : Zero Count := ⟨⟨0, by decide⟩⟩

/-- One item. -/
instance : One Count := ⟨⟨1, by decide⟩⟩

/-- The sum, or the greatest count if that is less. -/
instance : Add Count := ⟨fun a b ↦ clamp (a.val + b.val)⟩

/-- Counts are ordered as their numbers are. -/
instance : LE Count := ⟨fun a b ↦ a.val ≤ b.val⟩

/-- The order of counts is decided on their numbers. -/
instance (a b : Count) : Decidable (a ≤ b) := inferInstanceAs (Decidable (a.val ≤ b.val))

/-- The decimal text of a count. -/
def text (c : Count) : String := toString c.val

/-- Counts are equal when their numbers are. -/
@[ext] theorem ext {a b : Count} (h : a.val = b.val) : a = b := by
  cases a
  cases b
  cases h
  rfl

/-- The count zero is the number zero. -/
@[simp] theorem val_zero : (0 : Count).val = 0 := rfl

/-- The count one is the number one. -/
@[simp] theorem val_one : (1 : Count).val = 1 := rfl

/-- A number is clamped to the largest count. -/
@[simp] theorem val_clamp (n : Nat) : (clamp n).val = min n max := rfl

/-- Addition is exact up to the greatest count. -/
@[simp] theorem val_add (a b : Count) : (a + b).val = min (a.val + b.val) max := rfl

/-- No count passes the largest one. -/
theorem val_le_max (c : Count) : c.val ≤ max := by
  have := c.lt
  simp only [max]
  omega

end Count

end PackageRisk
