import PackageRisk.Number.Points

/-!
# Adding up within bounds

How integers are added up from left to right without passing a bound, told step by step: a sum
within the bounds is exact, and any other sum stops at the bound that it passes. Sums of points are
added up in this way.
-/

namespace PackageRisk.Points

/-- Starting with one integer and adding others from left to right ends with a total. -/
inductive Accrues : Int → List Int → Int → Prop
  | done (sum : Int) : Accrues sum [] sum
  | exact {sum n total : Int} {rest : List Int} (hlow : least ≤ sum + n)
    (hhigh : sum + n ≤ greatest) (h : Accrues (sum + n) rest total) : Accrues sum (n :: rest) total
  | stopsLow {sum n total : Int} {rest : List Int} (hlow : sum + n < least)
    (h : Accrues least rest total) : Accrues sum (n :: rest) total
  | stopsHigh {sum n total : Int} {rest : List Int} (hhigh : greatest < sum + n)
    (h : Accrues greatest rest total) : Accrues sum (n :: rest) total

/-- A step goes on with the clamped sum. -/
theorem accrues_cons_iff {sum n total : Int} {rest : List Int} :
    Accrues sum (n :: rest) total ↔ Accrues (max least (min (sum + n) greatest)) rest total := by
  have hbounds : least ≤ greatest := by decide
  constructor
  · intro h
    cases h with
    | exact hlow hhigh h => rwa [Int.min_eq_left hhigh, Int.max_eq_right hlow]
    | stopsLow hlow h => rwa [Int.min_eq_left (by omega), Int.max_eq_left (by omega)]
    | stopsHigh hhigh h => rwa [Int.min_eq_right (by omega), Int.max_eq_right hbounds]
  · intro h
    by_cases hlow : sum + n < least
    · rw [Int.min_eq_left (by omega), Int.max_eq_left (by omega)] at h
      exact .stopsLow hlow h
    · by_cases hhigh : greatest < sum + n
      · rw [Int.min_eq_right (by omega), Int.max_eq_right hbounds] at h
        exact .stopsHigh hhigh h
      · rw [Int.min_eq_left (by omega), Int.max_eq_right (by omega)] at h
        exact .exact (by omega) (by omega) h

/-- Adding up ends with the sum of the points, and with no other total. -/
theorem accrues_iff {start : Points} {addends : List Points} {total : Int} :
    Accrues start.val (addends.map val) total ↔ total = (addends.foldl (· + ·) start).val := by
  induction addends generalizing start with
  | nil =>
    constructor
    · intro h
      cases h
      rfl
    · rintro rfl
      exact .done start.val
  | cons p rest ih => rw [List.map_cons, accrues_cons_iff, ← val_add, ih, List.foldl_cons]

end PackageRisk.Points
