import Mathlib.Algebra.BigOperators.Group.List.Basic
import PackageRisk.Proofs.Number.PointSum

/-!
# The order of points in a sum

Points of one sign add up to their exact sum, clamped once. So do gains before losses and losses
before gains, with one clamp where the sum turns around. These two orders show whether any order
matters: it does exactly when there are both gains and losses, and one of them alone leads beyond
the bounds.
-/

namespace PackageRisk.Points

/-- A gain, or nothing. -/
def isGain (p : Points) : Bool := 0 ≤ p.val

variable {addends : List Points}

/-- The exact sum is what is gained and what is lost. -/
theorem sum_eq_losses_add_gains (addends : List Points) :
    (addends.map val).sum = losses addends + gains addends := by
  induction addends with
  | nil => rfl
  | cons p rest ih =>
    rw [List.map_cons, List.sum_cons, losses_cons, gains_cons, ih]
    omega

private theorem losses_perm {order : List Points} (h : order.Perm addends) :
    losses order = losses addends :=
  (h.map _).sum_eq

private theorem gains_perm {order : List Points} (h : order.Perm addends) :
    gains order = gains addends :=
  (h.map _).sum_eq

/-- Nothing is lost exactly when no addend is negative. -/
theorem losses_eq_zero_iff : losses addends = 0 ↔ ∀ p ∈ addends, 0 ≤ p.val := by
  induction addends with
  | nil => simp
  | cons p rest ih =>
    have hrest := losses_le_zero rest
    rw [losses_cons, List.forall_mem_cons, ← ih]
    omega

/-! ### Points of one sign -/

/-- Gains are clamped once. -/
theorem val_foldl_add_of_losses_eq_zero {start : Points} (h : losses addends = 0) :
    (addends.foldl (· + ·) start).val = min (start.val + gains addends) greatest := by
  induction addends generalizing start with
  | nil =>
    have hlt := start.lt
    simp only [List.foldl_nil, gains_nil, greatest]
    omega
  | cons p rest ih =>
    have hrest := losses_le_zero rest
    have hgains := zero_le_gains rest
    have hge := start.ge
    rw [losses_cons] at h
    rw [List.foldl_cons, ih (by omega), gains_cons, val_add]
    simp only [least, greatest]
    omega

/-- Losses are clamped once. -/
theorem val_foldl_add_of_gains_eq_zero {start : Points} (h : gains addends = 0) :
    (addends.foldl (· + ·) start).val = max least (start.val + losses addends) := by
  induction addends generalizing start with
  | nil =>
    have hge := start.ge
    simp only [List.foldl_nil, losses_nil, least]
    omega
  | cons p rest ih =>
    have hrest := zero_le_gains rest
    have hlosses := losses_le_zero rest
    have hlt := start.lt
    rw [gains_cons] at h
    rw [List.foldl_cons, ih (by omega), losses_cons, val_add]
    simp only [least, greatest]
    omega

/-! ### Gains and losses apart -/

/-- The gains among the addends gain as much and lose nothing. -/
theorem totals_filter_isGain (addends : List Points) :
    losses (addends.filter isGain) = 0 ∧ gains (addends.filter isGain) = gains addends := by
  induction addends with
  | nil => exact ⟨rfl, rfl⟩
  | cons p rest ih =>
    obtain ⟨hlosses, hgains⟩ := ih
    by_cases hp : 0 ≤ p.val
    · rw [List.filter_cons_of_pos (by simpa [isGain] using hp), losses_cons, gains_cons, gains_cons]
      omega
    · rw [List.filter_cons_of_neg (by simpa [isGain] using hp), gains_cons]
      omega

/-- The losses among the addends lose as much and gain nothing. -/
theorem totals_filter_not_isGain (addends : List Points) :
    losses (addends.filter fun p ↦ !isGain p) = losses addends ∧
      gains (addends.filter fun p ↦ !isGain p) = 0 := by
  induction addends with
  | nil => exact ⟨rfl, rfl⟩
  | cons p rest ih =>
    obtain ⟨hlosses, hgains⟩ := ih
    by_cases hp : 0 ≤ p.val
    · rw [List.filter_cons_of_neg (by simpa [isGain] using hp), losses_cons]
      omega
    · rw [List.filter_cons_of_pos (by simpa [isGain] using hp), losses_cons, losses_cons,
        gains_cons]
      omega

/-- Gains come first: the sum is clamped where it turns around, and at the end. -/
theorem val_foldl_gains_first (addends : List Points) :
    ((addends.filter isGain ++ addends.filter fun p ↦ !isGain p).foldl (· + ·) 0).val =
      max least (min (gains addends) greatest + losses addends) := by
  obtain ⟨hnoLosses, hgains⟩ := totals_filter_isGain addends
  obtain ⟨hlosses, hnoGains⟩ := totals_filter_not_isGain addends
  rw [List.foldl_append, val_foldl_add_of_gains_eq_zero hnoGains,
    val_foldl_add_of_losses_eq_zero hnoLosses, hgains, hlosses, val_zero, Int.zero_add]

/-- Losses come first. -/
theorem val_foldl_losses_first (addends : List Points) :
    (((addends.filter fun p ↦ !isGain p) ++ addends.filter isGain).foldl (· + ·) 0).val =
      min (max least (losses addends) + gains addends) greatest := by
  obtain ⟨hnoLosses, hgains⟩ := totals_filter_isGain addends
  obtain ⟨hlosses, hnoGains⟩ := totals_filter_not_isGain addends
  rw [List.foldl_append, val_foldl_add_of_losses_eq_zero hnoLosses,
    val_foldl_add_of_gains_eq_zero hnoGains, hgains, hlosses, val_zero, Int.zero_add]

/-! ### Every order -/

/-- No order turns back from beyond a bound: all points gain, or all lose, or neither the gains nor
the losses lead beyond the bounds. -/
def NeverTurnsBack (addends : List Points) : Prop :=
  losses addends = 0 ∨ gains addends = 0 ∨ least ≤ losses addends ∧ gains addends ≤ greatest

private theorem NeverTurnsBack.perm {order : List Points} (h : NeverTurnsBack addends)
    (hperm : order.Perm addends) : NeverTurnsBack order := by
  rwa [NeverTurnsBack, losses_perm hperm, gains_perm hperm]

/-- Such points add up to their exact sum, clamped once. -/
theorem NeverTurnsBack.val_foldl (h : NeverTurnsBack addends) :
    (addends.foldl (· + ·) 0).val = max least (min (losses addends + gains addends) greatest) := by
  have hlosses := losses_le_zero addends
  have hgains := zero_le_gains addends
  rcases h with hnoLosses | hnoGains | ⟨hleast, hgreatest⟩
  · rw [val_foldl_add_of_losses_eq_zero hnoLosses, val_zero]
    simp only [least, greatest]
    omega
  · rw [val_foldl_add_of_gains_eq_zero hnoGains, val_zero]
    simp only [least, greatest]
    omega
  · rw [val_foldl_add (by rw [val_zero]; omega) (by rw [val_zero]; omega), val_zero,
      sum_eq_losses_add_gains]
    simp only [least, greatest] at hleast hgreatest ⊢
    omega

/-- Every order of some items has the same sum of points exactly when the points never turn back
from beyond a bound. -/
theorem forall_perm_iff {α : Type} {points : α → Points} {items : List α} :
    (∀ order : List α, order.Perm items →
      (order.map points).foldl (· + ·) 0 = (items.map points).foldl (· + ·) 0) ↔
      NeverTurnsBack (items.map points) := by
  constructor
  · intro h
    have hapart := List.filter_append_perm (isGain ∘ points) items
    have hgainsFirst := h _ hapart
    have hlossesFirst := h _ (List.perm_append_comm.trans hapart)
    have hsame := congrArg val (hgainsFirst.trans hlossesFirst.symm)
    have hgains := val_foldl_gains_first (items.map points)
    have hlosses := val_foldl_losses_first (items.map points)
    rw [List.filter_map, List.filter_map, ← List.map_append] at hgains hlosses
    have hturn := hgains.symm.trans (hsame.trans hlosses)
    have hle := losses_le_zero (items.map points)
    have hge := zero_le_gains (items.map points)
    simp only [NeverTurnsBack, least, greatest] at hturn ⊢
    omega
  · intro h order hperm
    have hperm := hperm.map points
    apply ext
    rw [h.val_foldl, (h.perm hperm).val_foldl, losses_perm hperm, gains_perm hperm]

end PackageRisk.Points
