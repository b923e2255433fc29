import Mathlib.Tactic.Ring
import PackageRisk.Json.Printer
import PackageRisk.Proofs.Json.NumberText
import PackageRisk.Proofs.Number.Shortest

/-!
# Reading printed floats

The text of a finite float is read as a finite float again, not always the same: the digits are
scaled by a rounded power of ten, with a rounding of their own. This leads beyond the finite numbers
only from a few of the greatest ones, and from none of those that are printed.
-/

namespace PackageRisk

namespace Json

open Binary64 Decimal Fallible

/-! ### Scaling the digits of a float -/

section Scaling

variable {x : Binary64}

/-- The greatest magnitudes. -/
theorem unitsOfCode_top {back : Nat} (hback : back ≤ 2 ^ 52) :
    unitsOfCode (infinityCode - back) = (2 ^ 53 - back) * 2 ^ 2045 := by
  have hcode : infinityCode - back = 2045 * 2 ^ 52 + (2 ^ 53 - back) := by
    unfold infinityCode
    omega
  rw [hcode, unitsOfCode_binade (.inr (by omega)) (Nat.sub_le ..)]

/-- Two factors that are each a little too great have a product below a bound, if their exact
product is far enough below it. -/
theorem mul_le_of_factors {m p a b near far unit q r last : Nat} (hq : 0 < q)
    (ha : m * q ≤ a * unit * r) (hb : p * q ≤ b * unit * r)
    (hexact : 2 * (a * b * unit) ≤ near * far) (hfar : near * (r * r) ≤ last * (2 * (q * q))) :
    m * p ≤ last * far * unit := by
  have hpos : 0 < 2 * (q * q) := Nat.mul_pos (by decide) (Nat.mul_pos hq hq)
  refine Nat.le_of_mul_le_mul_right ?_ hpos
  calc m * p * (2 * (q * q))
      = 2 * ((m * q) * (p * q)) := by ring
    _ ≤ 2 * ((a * unit * r) * (b * unit * r)) :=
      Nat.mul_le_mul_left 2 (Nat.mul_le_mul ha hb)
    _ = 2 * (a * b * unit) * (unit * (r * r)) := by ring
    _ ≤ near * far * (unit * (r * r)) := Nat.mul_le_mul_right _ hexact
    _ = near * (r * r) * (far * unit) := by ring
    _ ≤ last * (2 * (q * q)) * (far * unit) := Nat.mul_le_mul_right _ hfar
    _ = last * far * unit * (2 * (q * q)) := by ring

/-- Digits that round to a number well below infinity are scaled to a finite number. -/
theorem isFinite_mul_powerOfTen {digits exponent : Nat} (hdigits : 0 < digits)
    (hcode : x.code ≤ infinityCode - 4) (hreads : readsBack x exponent digits = true) :
    ((ofNat digits).mul (powerOfTen exponent)).isFinite = true := by
  apply isFinite_ofUnits Binary64.one_pos
  have hpower : 0 < 10 ^ exponent := Nat.pow_pos (by decide)
  have hfirst := units_ofNat_mul_le hdigits
  have hsecond := units_ofNat_mul_le hpower
  have htop : highEnd x ≤ (2 ^ 54 - 7) * 2 ^ 2045 := by
    have hunits : x.units ≤ unitsOfCode (infinityCode - 4) := unitsOfCode_le_iff.mpr hcode
    have hnext : unitsOfCode (x.code + 1) ≤ unitsOfCode (infinityCode - 3) := by
      refine unitsOfCode_le_iff.mpr ?_
      unfold infinityCode at hcode ⊢
      omega
    rw [unitsOfCode_top (by decide)] at hunits hnext
    unfold highEnd
    generalize 2 ^ 2045 = unit at *
    omega
  have hdecimal : 2 * (digits * 10 ^ exponent * one) ≤ (2 ^ 54 - 7) * 2 ^ 2045 := by
    obtain ⟨-, hhigh⟩ := readsBack_le hreads
    unfold gridStep gridScale at hhigh
    rw [show (-(exponent : Int)).toNat = 0 by omega, Int.toNat_natCast, Nat.pow_zero,
      Nat.mul_one] at hhigh
    refine Nat.le_trans (Nat.le_of_eq ?_) (Nat.le_trans hhigh htop)
    generalize one = unit
    ring
  rw [unitsOfCode_top (by decide)]
  exact mul_le_of_factors (by decide) hfirst hsecond hdecimal (by decide)

/-- The greatest three numbers are printed with digits that are scaled to a finite number. -/
theorem scale?_greatest : ∀ (back : Fin 3) (negative : Bool),
    let x : Binary64 := ⟨negative, infinityCode - 1 - back, by unfold infinityCode; omega⟩
    (scale? (shortest .toEven x).digits (shortest .toEven x).exponent).isSome = true := by
  decide +kernel

/-- The printed digits of a finite float are scaled to a finite number. -/
theorem exists_scale?_shortest (hfinite : x.isFinite = true) :
    ∃ y, scale? (shortest .toEven x).digits (shortest .toEven x).exponent = some y := by
  apply Option.isSome_iff_exists.mp
  rcases shortest_spec hfinite with hzero | ⟨hdigits, -, -, hmax, hreads⟩
  · rw [hzero]
    decide +kernel
  · have hcode : x.code < infinityCode := of_decide_eq_true hfinite
    by_cases htop : x.code ≤ infinityCode - 4
    · generalize (shortest .toEven x).digits = digits at *
      generalize (shortest .toEven x).exponent = exponent at *
      unfold scale?
      split
      · rename_i hexponent
        have hnat : exponent = (exponent.toNat : Int) := by omega
        rw [hnat] at hreads
        have hproduct := isFinite_mul_powerOfTen hdigits htop hreads
        have hpower : exponent ≤ (maxPower : Int) := by
          unfold maxPower
          omega
        simp only [hpower, if_true, hproduct, Option.isSome_some]
      · rfl
    · obtain ⟨negative, code, _⟩ := x
      dsimp only at hcode htop
      have hback : infinityCode - 1 - (infinityCode - 1 - code) = code := by omega
      have hgreatest := scale?_greatest ⟨infinityCode - 1 - code, by omega⟩ negative
      simpa only [hback] using hgreatest

end Scaling

private theorem exists_scale?_of_neg (significand : Nat) {exponent : Int}
    (hexponent : exponent < 0) : ∃ y, scale? significand exponent = some y := by
  unfold scale?
  rw [if_neg (by omega)]
  exact ⟨_, rfl⟩

/-! ### The layouts of a float -/

/-- A decimal as floats are printed: of few digits, with an exponent near those of the finite
numbers, and zero in one way only. -/
structure IsPrinted (d : Decimal) : Prop where
  digits_le : d.digits ≤ 10 * 2 ^ 54
  lt_exponent : -325 < d.exponent
  exponent_le : d.exponent ≤ 308
  zero : d.digits = 0 → d.exponent = 0

private theorem isPrinted_shortest {x : Binary64} (hfinite : x.isFinite = true) :
    IsPrinted (shortest .toEven x) := by
  rcases shortest_spec hfinite with hzero | ⟨hpos, hle, hmin, hmax, -⟩
  · rw [hzero]
    exact ⟨by decide, by decide, by decide, fun _ ↦ rfl⟩
  · exact ⟨hle, hmin, hmax, fun h ↦ by omega⟩

section Layout

variable {d : Decimal} {rest : List Char}

private theorem length_text_le (h : IsPrinted d) : d.text.length ≤ 18 := by
  have hdigits := h.digits_le
  refine (Nat.length_toDigits_le_iff (by decide) (by decide)).mpr ?_
  omega

private theorem length_text_pos (d : Decimal) : 0 < d.text.length := Nat.length_toDigits_pos

private theorem ofDigitChars_text (d : Decimal) : Nat.ofDigitChars 10 d.text 0 = d.digits :=
  Nat.ofDigitChars_ten_toDigits

/-- A text that starts with another character has no digit first. -/
theorem noDigitFirst_cons {c : Char} (hc : c.isDigit = false) : NoDigitFirst (c :: rest) := by
  rintro d ⟨⟩
  exact hc

/-- The reader's number for a layout: the same digits and exponent whatever follows. -/
def ReadsAs (negative : Bool) (layout : List Char) (significand : Nat) (exponent : Int) : Prop :=
  ∀ rest, NumberEnds rest → readNumber negative (layout ++ rest) =
    float? negative significand exponent >>= fun n ↦ .ok (n, rest)

/-- Digits before and after a point are read with as many places as there are digits after it. -/
theorem readsAs_point (negative : Bool) {before after : List Char} (hbefore : WholePart before)
    (hafter : after ≠ []) (hdigits : ∀ c ∈ after, c.isDigit = true) {significand : Nat}
    (hvalue : Nat.ofDigitChars 10 (before ++ after) 0 = significand)
    (hfits : significand ≤ maxSignificand) {exponent : Int}
    (hexponent : exponent = -(after.length : Int)) :
    ReadsAs negative (before ++ '.' :: after) significand exponent := by
  intro rest hrest
  rw [Nat.ofDigitChars_append] at hvalue
  have hfirst : Nat.ofDigitChars 10 before 0 ≤ maxSignificand :=
    Nat.le_trans (hvalue ▸ le_ofDigitChars after _) hfits
  rw [List.append_assoc, List.cons_append,
    readNumber_wholePart hbefore (noDigitFirst_cons (by decide)) hfirst, afterWhole_point,
    readFraction_eq hafter hdigits hrest.digit (hvalue ▸ hfits), afterFraction_of_ends hrest,
    hvalue, hexponent, Int.zero_sub]

/-- The exponent of a printed decimal is small. -/
theorem leading_bounds (h : IsPrinted d) : -400 < d.leading ∧ d.leading < 400 := by
  have hmin := h.lt_exponent
  have hmax := h.exponent_le
  have hlength := length_text_le h
  have hpos := length_text_pos d
  unfold leading
  omega

private theorem natAbs_leading (d : Decimal) :
    d.leading = if decide (d.leading < 0) = true then 0 - (d.leading.natAbs : Int)
      else 0 + (d.leading.natAbs : Int) := by
  by_cases hneg : d.leading < 0
  · simp only [hneg, decide_true, if_true]
    omega
  · simp only [hneg, decide_false, Bool.false_eq_true, if_false]
    omega

/-- The exponent of a layout leads from the places after the point to the exponent of the digits. -/
theorem readExponent_leading (negative : Bool) (h : IsPrinted d) {start : Int}
    (hstart : d.exponent = start + d.leading) (hrest : NumberEnds rest) :
    readExponent negative d.digits start (exponentSign (decide (d.leading < 0)) ::
        (Nat.toDigits 10 d.leading.natAbs ++ rest)) =
      float? negative d.digits d.exponent >>= fun n ↦ .ok (n, rest) := by
  have habs := natAbs_leading d
  have hbounds := leading_bounds h
  have hmin := h.lt_exponent
  have hmax := h.exponent_le
  refine readExponent_eq _ Nat.toDigits_ne_nil (isDigit_toDigits _) hrest.digit
    Nat.ofDigitChars_ten_toDigits ?_ ?_
  · split at habs <;> rename_i hneg
    · rw [if_pos hneg]
      omega
    · rw [if_neg hneg]
      omega
  · unfold maxExponent
    omega

/-- The text of a decimal is a leading digit and the others. -/
theorem exists_text_eq (d : Decimal) : ∃ c fraction, d.text = c :: fraction ∧
    WholePart [c] ∧ (∀ digit ∈ fraction, digit.isDigit = true) ∧
      d.leading = d.exponent + fraction.length := by
  obtain ⟨c, fraction, htext⟩ := List.exists_cons_of_ne_nil
    (List.length_pos_iff.mp (length_text_pos d))
  have hdigits : ∀ digit ∈ c :: fraction, digit.isDigit = true := htext ▸ isDigit_toDigits d.digits
  obtain ⟨hc, hfraction⟩ := List.forall_mem_cons.mp hdigits
  refine ⟨c, fraction, htext, ⟨by simp, by simpa using hc, ?_⟩, hfraction, ?_⟩
  · rintro ⟨⟩
    rfl
  · unfold leading
    rw [htext, List.length_cons]
    omega

/-- What a float is read as that is laid out with an exponent. -/
theorem readsAs_scientific (negative : Bool) (h : IsPrinted d) :
    ReadsAs negative d.scientific d.digits d.exponent := by
  intro rest hrest
  obtain ⟨c, fraction, htext, hwhole, hfraction, hleading⟩ := exists_text_eq d
  have hvalue := ofDigitChars_text d
  rw [htext] at hvalue
  have hfits : d.digits ≤ maxSignificand := Nat.le_trans h.digits_le (by decide)
  have hsign : (if d.leading < 0 then '-' else '+') = exponentSign (decide (d.leading < 0)) := by
    by_cases hneg : d.leading < 0 <;> simp [exponentSign, hneg]
  unfold scientific
  simp only [htext, hsign, List.take_succ_cons, List.take_zero, List.drop_succ_cons,
    List.drop_zero]
  cases fraction with
  | nil =>
    change readNumber negative ([c] ++ 'e' :: exponentSign (decide (d.leading < 0)) ::
      (Nat.toDigits 10 d.leading.natAbs ++ rest)) = _
    rw [readNumber_wholePart hwhole (noDigitFirst_cons (by decide)) (hvalue ▸ hfits), hvalue]
    exact readExponent_leading negative h (by simpa using hleading.symm) hrest
  | cons next others =>
    have hsplit : Nat.ofDigitChars 10 (next :: others) (Nat.ofDigitChars 10 [c] 0) = d.digits := by
      rw [← Nat.ofDigitChars_append, List.singleton_append, hvalue]
    have hfirst : Nat.ofDigitChars 10 [c] 0 ≤ maxSignificand :=
      Nat.le_trans (hsplit ▸ le_ofDigitChars (next :: others) _) hfits
    rw [if_neg (by simp), List.append_assoc]
    change readNumber negative ([c] ++ '.' :: ((next :: others) ++
      'e' :: exponentSign (decide (d.leading < 0)) ::
        (Nat.toDigits 10 d.leading.natAbs ++ rest))) = _
    rw [readNumber_wholePart hwhole (noDigitFirst_cons (by decide)) hfirst, afterWhole_point,
      readFraction_eq (by simp) hfraction (noDigitFirst_cons (by decide)) (hsplit ▸ hfits), hsplit]
    exact readExponent_leading negative h (by omega) hrest

/-- The digits of a decimal stand before the point, and zeros up to it. -/
theorem readsAs_whole (negative : Bool) (h : IsPrinted d) (hexponent : 0 ≤ d.exponent)
    (hplace : d.leading ≤ 15) :
    ReadsAs negative (d.text ++ List.replicate d.exponent.toNat '0' ++ '.' :: ['0'])
      (d.digits * 10 ^ d.exponent.toNat * 10) (-1) := by
  have hne := List.length_pos_iff.mp (length_text_pos d)
  have hplaces : d.text.length + d.exponent.toNat ≤ 16 := by
    unfold leading at hplace
    omega
  have hscaled : d.digits * 10 ^ d.exponent.toNat * 10 ≤ maxSignificand := by
    have hle : d.digits * 10 ^ d.exponent.toNat ≤ 10 ^ d.text.length * 10 ^ d.exponent.toNat :=
      Nat.mul_le_mul_right _ (Nat.le_of_lt (lt_pow_length_toDigits d.digits))
    rw [← Nat.pow_add] at hle
    have hpow : 10 ^ (d.text.length + d.exponent.toNat) ≤ 10 ^ 16 :=
      Nat.pow_le_pow_right (by decide) hplaces
    unfold maxSignificand
    omega
  have hwhole : WholePart (d.text ++ List.replicate d.exponent.toNat '0') := by
    refine ⟨by simp [hne], ?_, ?_⟩
    · intro c hc
      rcases List.mem_append.mp hc with hc | hc
      · exact isDigit_toDigits d.digits c hc
      · rw [(List.mem_replicate.mp hc).2]
        rfl
    · intro hhead
      rw [List.head?_append_of_ne_nil _ hne] at hhead
      have hzero : d.digits = 0 :=
        Decidable.byContradiction fun hpos ↦
          head?_toDigits_ne_zero (Nat.pos_of_ne_zero hpos) hhead
      rw [h.zero hzero]
      simp [text, hzero]
  refine readsAs_point negative hwhole (by simp) (by simp) ?_ hscaled rfl
  rw [Nat.ofDigitChars_append, Nat.ofDigitChars_append, ofDigitChars_text,
    Nat.ofDigitChars_replicate_zero, Nat.mul_comm (10 ^ _), Nat.mul_comm _ 10]
  rfl

/-- The point stands among the digits of a decimal. -/
theorem readsAs_inside (negative : Bool) (h : IsPrinted d) (hexponent : d.exponent < 0)
    (hleading : 0 ≤ d.leading) :
    ReadsAs negative (d.text.take (d.leading.toNat + 1) ++ '.' :: d.text.drop (d.leading.toNat + 1))
      d.digits d.exponent := by
  have hdigits : ∀ c ∈ d.text, c.isDigit = true := isDigit_toDigits d.digits
  have hne : d.digits ≠ 0 := by
    intro hzero
    have := h.zero hzero
    omega
  have hcut : d.leading.toNat + 1 < d.text.length := by
    unfold leading at hleading ⊢
    omega
  have hwhole : WholePart (d.text.take (d.leading.toNat + 1)) := by
    refine ⟨by simp [List.length_pos_iff.mp (length_text_pos d)],
      fun c hc ↦ hdigits c (List.mem_of_mem_take hc), fun hhead ↦ ?_⟩
    rw [List.head?_take, if_neg (by omega)] at hhead
    exact absurd hhead (head?_toDigits_ne_zero (Nat.pos_of_ne_zero hne))
  refine readsAs_point negative hwhole ?_ (fun c hc ↦ hdigits c (List.mem_of_mem_drop hc)) ?_
    (Nat.le_trans h.digits_le (by decide)) ?_
  · rw [ne_eq, List.drop_eq_nil_iff]
    omega
  · rw [List.take_append_drop, ofDigitChars_text]
  · rw [List.length_drop]
    unfold leading at hleading ⊢
    omega

/-- All digits of a decimal stand after the point, and zeros before them. -/
theorem readsAs_below (negative : Bool) (h : IsPrinted d) (hleading : d.leading < 0) :
    ReadsAs negative ('0' :: '.' :: (List.replicate (-d.leading - 1).toNat '0' ++ d.text))
      d.digits d.exponent := by
  have hwhole : WholePart ['0'] := ⟨by simp, by simp, fun _ ↦ rfl⟩
  refine readsAs_point negative hwhole (by simp [List.length_pos_iff.mp (length_text_pos d)]) ?_ ?_
    (Nat.le_trans h.digits_le (by decide)) ?_
  · intro c hc
    rcases List.mem_append.mp hc with hc | hc
    · rw [(List.mem_replicate.mp hc).2]
      rfl
    · exact isDigit_toDigits d.digits c hc
  · rw [List.singleton_append, Nat.ofDigitChars_cons, Nat.ofDigitChars_append,
      Nat.ofDigitChars_replicate_zero]
    exact ofDigitChars_text d
  · rw [List.length_append, List.length_replicate]
    unfold leading at hleading ⊢
    omega

/-- What a float is read as whose digits are laid out in place. -/
theorem exists_readsAs_positional (negative : Bool) (h : IsPrinted d) (hplace : d.leading ≤ 15) :
    ∃ significand exponent, exponent < 0 ∧
      ReadsAs negative (d.positional ".0") significand exponent := by
  unfold positional
  by_cases hexponent : 0 ≤ d.exponent
  · rw [if_pos hexponent, show ".0".toList = ['.', '0'] by decide]
    exact ⟨_, -1, by decide, readsAs_whole negative h hexponent hplace⟩
  · rw [if_neg hexponent]
    refine ⟨d.digits, d.exponent, by omega, ?_⟩
    by_cases hleading : 0 ≤ d.leading
    · rw [if_pos hleading]
      exact readsAs_inside negative h (by omega) hleading
    · rw [if_neg hleading]
      exact readsAs_below negative h (by omega)

end Layout

/-! ### The whole text of a float -/

section Text

variable {x : Binary64} {rest : List Char}

/-- The number that the text of a finite number is read as. -/
def readBack (x : Binary64) : Binary64 :=
  match read (numberStyle.write x) with
  | .ok (.number (.float y)) => y
  | _ => x

/-- The text of a decimal, without a sign. -/
def layout (d : Decimal) : List Char :=
  if numberStyle.inPlace d.leading then d.positional ".0" else d.scientific

private theorem toList_write (hfinite : x.isFinite = true) :
    (numberStyle.write x).toList =
      if x.negative then '-' :: layout (shortest .toEven x) else layout (shortest .toEven x) := by
  have hnumber : x.isNaN = false := by
    unfold isFinite at hfinite
    unfold isNaN
    have hcode := of_decide_eq_true hfinite
    exact decide_eq_false (by omega)
  rw [Style.write, hnumber, hfinite]
  exact String.toList_ofList

/-- The layout of a finite number is read as digits that can be scaled. -/
theorem exists_readsAs_layout (negative : Bool) (hfinite : x.isFinite = true) :
    ∃ significand exponent y, scale? significand exponent = some y ∧
      ReadsAs negative (layout (shortest .toEven x)) significand exponent := by
  have hprinted := isPrinted_shortest hfinite
  unfold layout
  by_cases hplace : numberStyle.inPlace (shortest .toEven x).leading = true
  · have hleading : (shortest .toEven x).leading ≤ 15 := by
      simp only [numberStyle, Bool.and_eq_true, decide_eq_true_eq] at hplace
      exact hplace.2
    obtain ⟨significand, exponent, hneg, hreads⟩ :=
      exists_readsAs_positional negative hprinted hleading
    obtain ⟨y, hscale⟩ := exists_scale?_of_neg significand hneg
    rw [if_pos hplace]
    exact ⟨significand, exponent, y, hscale, hreads⟩
  · obtain ⟨y, hscale⟩ := exists_scale?_shortest hfinite
    rw [if_neg hplace]
    exact ⟨_, _, y, hscale, readsAs_scientific negative hprinted⟩

/-- The text of a finite number is read as a float, the same whatever follows it. -/
theorem exists_readScalar_write (hfinite : x.isFinite = true) :
    ∃ y, ∀ rest, NumberEnds rest →
      readScalar ((numberStyle.write x).toList ++ rest) = .ok (.number (.float y), rest) := by
  obtain ⟨significand, exponent, y, hscale, hreads⟩ := exists_readsAs_layout x.negative hfinite
  refine ⟨if x.negative then y.neg else y, fun rest hrest ↦ ?_⟩
  have hread := hreads rest hrest
  rw [float?, hscale] at hread
  rw [toList_write hfinite]
  cases hnegative : x.negative with
  | true =>
    rw [hnegative] at hread
    change (readNumber true (layout (shortest .toEven x) ++ rest)).map _ = _
    rw [hread]
    rfl
  | false =>
    rw [hnegative] at hread
    exact readScalar_of_readNumber hread

/-- The end of a text ends a number. -/
theorem numberEnds_nil : NumberEnds [] :=
  ⟨fun _ h ↦ absurd h (by simp), by simp, by simp, by simp⟩

/-- The text of a finite number is a document. -/
theorem read_write (hfinite : x.isFinite = true) :
    read (numberStyle.write x) = .ok (.number (.float (readBack x))) := by
  obtain ⟨y, hread⟩ := exists_readScalar_write hfinite
  have hscalar := hread [] numberEnds_nil
  rw [List.append_nil] at hscalar
  have hdocument : read (numberStyle.write x) = .ok (.number (.float y)) :=
    readDocument_eq_ok_iff.mpr ⟨[], readValue_of_readScalar hscalar rfl, rfl⟩
  rw [readBack, hdocument]

/-- The text of a finite number is read as the same number within any text. -/
theorem readScalar_write (hfinite : x.isFinite = true) (hrest : NumberEnds rest) :
    readScalar ((numberStyle.write x).toList ++ rest) =
      .ok (.number (.float (readBack x)), rest) := by
  obtain ⟨y, hread⟩ := exists_readScalar_write hfinite
  have hscalar := hread [] numberEnds_nil
  rw [List.append_nil] at hscalar
  obtain ⟨_, hvalue, -⟩ := readDocument_eq_ok_iff.mp (read_write hfinite)
  rw [readValue_of_readScalar hscalar rfl] at hvalue
  cases hvalue
  exact hread rest hrest

/-- What the text of a finite number is read as is finite. -/
theorem isFinite_readBack (hfinite : x.isFinite = true) : (readBack x).isFinite = true := by
  obtain ⟨hown, -, -⟩ := numbers_of_readDocument (read_write hfinite)
  exact hown _ rfl

end Text

end Json

end PackageRisk
