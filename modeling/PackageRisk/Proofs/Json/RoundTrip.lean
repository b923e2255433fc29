import Mathlib.Data.List.DropRight
import PackageRisk.Proofs.Json.FloatText
import PackageRisk.Proofs.Json.StringText

/-!
# Reading printed values

A printed value is read as the same value, except that each float in it may have become a neighbour:
the reader scales the digits of a float with more than one rounding. The layout does not matter, nor
does what follows the value.
-/

namespace PackageRisk.Json

open Fallible

/-! ### What is read of a value -/

/-- The number that the text of a number is read as. -/
def Number.reread : Number → Number
  | .integer n => .integer n
  | .float x => .float (readBack x)

mutual

/-- The value that the text of a value is read as. -/
def Value.reread : Value → Value
  | .number n => .number n.reread
  | .array items => .array (rereadItems items)
  | .object members => .object (rereadMembers members)
  | value => value

/-- Every item reread. -/
def rereadItems : List Value → List Value
  | [] => []
  | item :: rest => item.reread :: rereadItems rest

/-- The value of every member reread. -/
def rereadMembers : Members → Members
  | [] => []
  | (key, value) :: rest => (key, value.reread) :: rereadMembers rest

end

/-- Items are read again one by one. -/
theorem rereadItems_eq (items : List Value) : rereadItems items = items.map Value.reread := by
  induction items with
  | nil => rfl
  | cons item items ih => rw [rereadItems, ih, List.map_cons]

/-- Members are read again one by one, with their keys. -/
theorem rereadMembers_eq (members : Members) :
    rereadMembers members = members.map fun member ↦ (member.1, member.2.reread) := by
  induction members with
  | nil => rfl
  | cons member members ih => rw [rereadMembers, ih, List.map_cons]

/-- A value that the reader can hold: arrays and objects nest at most so deep in it, and its numbers
are in range. -/
inductive Value.Readable : Nat → Value → Prop
  | scalar {depth : Nat} {value : Value} (isScalar : value.isScalar = true)
      (inRange : ∀ n, value = .number n → n.InRange) : value.Readable depth
  | array {depth : Nat} {items : List Value} (readable : ∀ item ∈ items, item.Readable depth) :
      Value.Readable (depth + 1) (.array items)
  | object {depth : Nat} {members : Members}
      (readable : ∀ member ∈ members, member.2.Readable depth) :
      Value.Readable (depth + 1) (.object members)

/-- Strings can be read at any depth. -/
theorem readable_string {depth : Nat} (text : String) : (Value.string text).Readable depth :=
  .scalar rfl fun _ h ↦ by cases h

/-- Whole numbers in range can be read at any depth. -/
theorem readable_integer {depth : Nat} {n : Int} (h : (Number.integer n).InRange) :
    (Value.integer n).Readable depth :=
  .scalar rfl fun _ heq ↦ by cases heq; exact h

/-! ### Scalars -/

section Scalars

variable {rest : List Char}

/-- A natural number is read from its digits. -/
theorem readNumber_toDigits (negative : Bool) {n : Nat} (hfits : n ≤ maxSignificand)
    (hrest : NumberEnds rest) :
    readNumber negative (Nat.toDigits 10 n ++ rest) = .ok (whole negative n, rest) := by
  have hvalue : Nat.ofDigitChars 10 (Nat.toDigits 10 n) 0 = n := Nat.ofDigitChars_ten_toDigits
  rw [readNumber_wholePart (wholePart_toDigits n) hrest.digit
    (Nat.le_trans (Nat.le_of_eq hvalue) hfits), hvalue, afterWhole_of_ends hrest]

/-- An integer is read from its text. -/
theorem readScalar_integerText {n : Int} (h : (Number.integer n).InRange)
    (hrest : NumberEnds rest) :
    readScalar (integerText n ++ rest) = .ok (.number (.integer n), rest) := by
  obtain ⟨hlow, hhigh⟩ := h
  have hfits : n.natAbs ≤ maxSignificand := by
    unfold maxSignificand
    omega
  unfold integerText
  split
  · have hwhole : whole true n.natAbs = .integer n := by
      rw [whole, if_pos rfl, if_pos (by omega), show -(n.natAbs : Int) = n by omega]
    change (readNumber true (Nat.toDigits 10 n.natAbs ++ rest)).map _ = _
    rw [readNumber_toDigits true hfits hrest, hwhole]
    rfl
  · have hwhole : whole false n.natAbs = .integer n := by
      rw [whole, if_neg (by decide), show (n.natAbs : Int) = n by omega]
    refine readScalar_of_readNumber ?_
    rw [readNumber_toDigits false hfits hrest, hwhole]

/-- A scalar is read from its text. -/
theorem readScalar_indented {value : Value} (hscalar : value.isScalar = true)
    (hnumber : ∀ n, value = .number n → n.InRange) (hrest : NumberEnds rest) (level : Nat) :
    readScalar (value.indented level ++ rest) = .ok (value.reread, rest) := by
  cases value with
  | null => rfl
  | boolean b => cases b <;> rfl
  | number n =>
    have hrange := hnumber n rfl
    cases n with
    | integer n => exact readScalar_integerText hrange hrest
    | float x => exact readScalar_write hrange hrest
  | string text =>
    change (readString (text.toList.flatMap escapeChar ++ ['"'] ++ rest)).map _ = _
    rw [List.append_assoc, List.singleton_append, readString_escaped]
    rfl
  | array items => cases hscalar
  | object members => cases hscalar

end Scalars

/-! ### Lines -/

section Lines

variable {level : Nat}

/-- Parts that are joined by commas stand in the whole one by one. -/
theorem exists_intercalate_eq {part : List Char} {parts : List (List Char)} (h : part ∈ parts) :
    ∃ before after, [','].intercalate parts = before ++ (part ++ after) := by
  induction parts with
  | nil => cases h
  | cons first others ih =>
    by_cases hothers : others = []
    · rw [hothers, List.mem_singleton] at h
      rw [hothers, List.intercalate_singleton, h]
      exact ⟨[], [], by simp⟩
    · rw [List.intercalate_cons_of_ne_nil hothers]
      rcases List.mem_cons.mp h with rfl | h
      · exact ⟨[], _, by rw [List.nil_append, List.append_assoc]⟩
      · obtain ⟨before, after, heq⟩ := ih h
        exact ⟨first ++ [','] ++ before, after, by rw [heq, List.append_assoc _ before]⟩

/-- Lines that are joined by commas make a text at least as long as there are lines, and as each
line, if none is empty. -/
theorem length_le_intercalate {α : Type} (line : α → List Char) (hline : ∀ a, line a ≠ [])
    (parts : List α) :
    parts.length ≤ ([','].intercalate (parts.map line)).length ∧
      ∀ part ∈ parts, (line part).length ≤ ([','].intercalate (parts.map line)).length := by
  constructor
  · induction parts with
    | nil => exact Nat.zero_le _
    | cons first others ih =>
      have hpos := List.length_pos_iff.mpr (hline first)
      by_cases hothers : others = []
      · rw [hothers, List.map_singleton, List.intercalate_singleton]
        exact hpos
      · rw [List.map_cons, List.intercalate_cons_of_ne_nil (by simpa using hothers),
          List.length_append, List.length_append, List.length_cons]
        omega
  · intro part hpart
    obtain ⟨before, after, heq⟩ := exists_intercalate_eq (List.mem_map_of_mem (f := line) hpart)
    rw [heq, List.length_append, List.length_append]
    omega

/-- The line of an item. -/
def itemLine (level : Nat) (item : Value) : List Char := newLine level ++ item.indented level

/-- The line of a member. -/
def memberLine (level : Nat) (member : String × Value) : List Char :=
  newLine level ++ stringText member.1 ++ ':' :: ' ' :: member.2.indented level

/-- An item before others is followed by a comma. -/
theorem indentedItems_cons_cons {item next : Value} {more : List Value} :
    indentedItems level (item :: next :: more) =
      newLine level ++ item.indented level ++ ',' :: indentedItems level (next :: more) := by
  rw [indentedItems]
  simp

/-- A member before others is followed by a comma. -/
theorem indentedMembers_cons_cons {member next : String × Value} {more : Members} :
    indentedMembers level (member :: next :: more) =
      newLine level ++ stringText member.1 ++ ':' :: ' ' :: member.2.indented level ++
        ',' :: indentedMembers level (next :: more) := by
  rw [indentedMembers]
  simp

/-- Items are lines joined by commas. -/
theorem indentedItems_eq (items : List Value) :
    indentedItems level items = [','].intercalate (items.map (itemLine level)) := by
  induction items with
  | nil => rfl
  | cons item others ih =>
    cases others with
    | nil =>
      rw [List.map_singleton, List.intercalate_singleton]
      rfl
    | cons next more =>
      rw [List.map_cons, List.intercalate_cons_of_ne_nil (by simp), ← ih, indentedItems_cons_cons,
        itemLine, List.append_assoc _ [',']]
      rfl

/-- Members are lines joined by commas. -/
theorem indentedMembers_eq (members : Members) :
    indentedMembers level members = [','].intercalate (members.map (memberLine level)) := by
  induction members with
  | nil => rfl
  | cons member others ih =>
    cases others with
    | nil =>
      rw [List.map_singleton, List.intercalate_singleton]
      rfl
    | cons next more =>
      rw [List.map_cons, List.intercalate_cons_of_ne_nil (by simp), ← ih,
        indentedMembers_cons_cons, memberLine, List.append_assoc _ [',']]
      rfl

/-- The text of items is at least as long as there are items, and as the text of each. -/
theorem length_indentedItems (level : Nat) (items : List Value) :
    items.length ≤ (indentedItems level items).length ∧
      ∀ item ∈ items, (item.indented level).length ≤ (indentedItems level items).length := by
  rw [indentedItems_eq]
  obtain ⟨hlength, hlines⟩ :=
    length_le_intercalate (itemLine level) (fun _ ↦ List.cons_ne_nil _ _) items
  refine ⟨hlength, fun item hitem ↦ Nat.le_trans ?_ (hlines item hitem)⟩
  rw [itemLine, List.length_append]
  omega

/-- The text of members is at least as long as there are members, and as the text of the value of
each. -/
theorem length_indentedMembers (level : Nat) (members : Members) :
    members.length ≤ (indentedMembers level members).length ∧
      ∀ member ∈ members,
        (member.2.indented level).length ≤ (indentedMembers level members).length := by
  rw [indentedMembers_eq]
  obtain ⟨hlength, hlines⟩ :=
    length_le_intercalate (memberLine level) (fun _ ↦ List.cons_ne_nil _ _) members
  refine ⟨hlength, fun member hmember ↦ Nat.le_trans ?_ (hlines member hmember)⟩
  rw [memberLine, List.length_append, List.length_cons, List.length_cons]
  omega

end Lines

/-! ### Items and members -/

section Reading

variable {limit depth level : Nat} {text rest : List Char}

/-- The spaces of a new line are skipped. -/
theorem skipSpace_newLine (level : Nat) (text : List Char) :
    skipSpace (newLine level ++ text) = skipSpace text := by
  have hspaces : ∀ c ∈ newLine level, isSpace c = true := by
    intro c hc
    rcases List.mem_cons.mp hc with rfl | hc
    · decide
    · rw [(List.mem_replicate.mp hc).2]
      decide
  exact List.dropWhile_append_of_pos hspaces

/-- Spaces are skipped once. -/
theorem skipSpace_skipSpace (text : List Char) : skipSpace (skipSpace text) = skipSpace text :=
  List.dropWhile_idempotent ..

/-- A value may stand after spaces. -/
theorem readValue_skipSpace {P : Type} (schema : Schema P) (place : P) (text : List Char) :
    readValue schema limit depth place (skipSpace text) =
      readValue schema limit depth place text := by
  rw [readValue_eq, readValue_eq, skipSpace_skipSpace]

/-- No number goes on after the end of an item or a member. -/
theorem numberEnds_cons {c : Char} (h : c = ',' ∨ c = '\n') : NumberEnds (c :: text) := by
  rcases h with rfl | rfl
  all_goals exact ⟨noDigitFirst_cons (by decide), by simp, by simp, by simp⟩

/-- No value begins like the end of an array. -/
theorem head?_ne_of_readValue {P : Type} {schema : Schema P} {place : P} {value : Value}
    (h : readValue schema limit depth place text = .ok (value, rest)) :
    skipSpace text ≠ [] ∧ (skipSpace text).head? ≠ some ']' := by
  rcases (readValue_eq_ok_iff.mp h).2 with hread | ⟨-, after, -, -, htext, -⟩ |
    ⟨-, after, -, -, htext, -⟩
  · refine ⟨fun hnil ↦ ?_, fun hhead ↦ ?_⟩
    · rw [hnil] at hread
      cases hread
    · obtain ⟨tail, htail⟩ := List.head?_eq_some_iff.mp hhead
      rw [htail] at hread
      cases hread
  · rw [htext]
    exact ⟨by simp, by simp⟩
  · rw [htext]
    exact ⟨by simp, by simp⟩

/-- Items go on where a value is read. -/
theorem head?_ne_of_readItems {width : Nat} {items : List Value}
    (h : readItems (readValue .unrestricted limit depth ()) width (skipSpace text) =
      .ok (items, rest)) : skipSpace text ≠ [] ∧ (skipSpace text).head? ≠ some ']' := by
  cases width with
  | zero => cases h
  | succ width =>
    obtain ⟨_, _, hitem, -⟩ := readItems_eq_ok_iff.mp h
    rw [readValue_skipSpace] at hitem
    exact head?_ne_of_readValue hitem

/-- Members go on where a key is read. -/
theorem head?_ne_of_readMembers {isUnique : String → Bool}
    {readMember : String → List Char → Except ReadError (Value × List Char)} {width : Nat}
    {seen : List String} {members : Members}
    (h : readMembers isUnique readMember width seen text = .ok (members, rest)) :
    text ≠ [] ∧ text.head? ≠ some '}' := by
  cases width with
  | zero => cases h
  | succ width =>
    obtain ⟨_, _, _, _, _, _, rfl, -⟩ := readMembers_eq_ok_iff.mp h
    exact ⟨by simp, by simp⟩

/-- What the reader makes of a value at a level, whatever follows it. -/
def RoundTrips (limit depth level : Nat) (value : Value) : Prop :=
  ∀ rest, NumberEnds rest →
    readValue .unrestricted limit depth () (value.indented level ++ rest) =
      .ok (value.reread, rest)

/-- Items on lines of their own are read one after the other, up to the end of the array. -/
theorem readItems_indentedItems {items : List Value} (hne : items ≠ [])
    (hitems : ∀ item ∈ items, RoundTrips limit depth level item) {width : Nat}
    (hwidth : items.length ≤ width) {tail : List Char} (hends : NumberEnds tail)
    (htail : skipSpace tail = ']' :: rest) :
    readItems (readValue .unrestricted limit depth ()) width
      (skipSpace (indentedItems level items ++ tail)) = .ok (rereadItems items, rest) := by
  induction items generalizing width with
  | nil => exact absurd rfl hne
  | cons item others ih =>
    obtain ⟨hitem, hothers⟩ := List.forall_mem_cons.mp hitems
    obtain ⟨width, rfl⟩ := Nat.exists_eq_add_of_le' (Nat.le_trans (Nat.le_add_left 1 _) hwidth)
    cases others with
    | nil =>
      have hread := hitem tail hends
      rw [← readValue_skipSpace] at hread
      rw [indentedItems, List.append_assoc, skipSpace_newLine]
      exact readItems_eq_ok_iff.mpr ⟨_, _, hread, .inl ⟨htail, rfl⟩⟩
    | cons next more =>
      have hmore := ih (by simp) hothers (Nat.le_of_succ_le_succ hwidth)
      obtain ⟨hnil, hhead⟩ := head?_ne_of_readItems hmore
      have hread := hitem (',' :: (indentedItems level (next :: more) ++ tail))
        (numberEnds_cons (.inl rfl))
      rw [← readValue_skipSpace] at hread
      rw [indentedItems_cons_cons, List.append_assoc, List.append_assoc, skipSpace_newLine,
        List.cons_append]
      exact readItems_eq_ok_iff.mpr
        ⟨_, _, hread, .inr ⟨_, _, ⟨_, rfl, rfl, hnil, hhead⟩, hmore, rfl⟩⟩

/-- A member on a line of its own, without the line break, and what follows it. -/
def memberText (level : Nat) (member : String × Value) (tail : List Char) : List Char :=
  '"' :: (member.1.toList.flatMap escapeChar ++
    '"' :: ':' :: ' ' :: (member.2.indented level ++ tail))

private theorem skipSpace_indentedMembers_singleton (member : String × Value) (tail : List Char) :
    skipSpace (indentedMembers level [member] ++ tail) = memberText level member tail := by
  rw [indentedMembers, List.append_assoc, List.append_assoc, skipSpace_newLine, stringText,
    List.cons_append, List.append_assoc]
  rfl

private theorem skipSpace_indentedMembers_cons {member next : String × Value} {more : Members}
    (tail : List Char) :
    skipSpace (indentedMembers level (member :: next :: more) ++ tail) =
      memberText level member (',' :: (indentedMembers level (next :: more) ++ tail)) := by
  rw [indentedMembers_cons_cons, List.append_assoc, List.append_assoc, List.append_assoc,
    skipSpace_newLine, stringText, List.cons_append, List.append_assoc]
  rfl

/-- A member is read from its text. -/
theorem readMembers_memberText {member : String × Value}
    (hmember : RoundTrips limit depth level member.2) {width : Nat} {seen : List String}
    {tail rest : List Char} (hends : NumberEnds tail) {others : Members}
    (hothers : (skipSpace tail = '}' :: rest ∧ others = []) ∨
      ∃ next, GoesOn '}' (skipSpace tail) next ∧
        readMembers (fun _ ↦ false) (fun _ ↦ readValue .unrestricted limit depth ()) width
          (member.1 :: seen) next = .ok (others, rest)) :
    readMembers (fun _ ↦ false) (fun _ ↦ readValue .unrestricted limit depth ()) (width + 1) seen
        (memberText level member tail) =
      .ok ((member.1, member.2.reread) :: others, rest) := by
  have hread := hmember tail hends
  rw [← readValue_skipSpace] at hread
  change readValue _ _ _ _ (skipSpace (' ' :: (member.2.indented level ++ tail))) = _ at hread
  rw [readValue_skipSpace] at hread
  refine readMembers_eq_ok_iff.mpr ⟨_, member.1, _, _, _, _, rfl, readString_escaped _ _, by simp,
    rfl, hread, ?_⟩
  rcases hothers with ⟨hclose, rfl⟩ | ⟨next, hnext, hmore⟩
  · exact .inl ⟨hclose, rfl⟩
  · exact .inr ⟨next, others, hnext, hmore, rfl⟩

/-- Members on lines of their own are read one after the other, up to the end of the object. -/
theorem readMembers_indentedMembers {members : Members} (hne : members ≠ [])
    (hmembers : ∀ member ∈ members, RoundTrips limit depth level member.2) {width : Nat}
    (hwidth : members.length ≤ width) {seen : List String} {tail : List Char}
    (hends : NumberEnds tail) (htail : skipSpace tail = '}' :: rest) :
    readMembers (fun _ ↦ false) (fun _ ↦ readValue .unrestricted limit depth ()) width seen
      (skipSpace (indentedMembers level members ++ tail)) = .ok (rereadMembers members, rest) := by
  induction members generalizing width seen with
  | nil => exact absurd rfl hne
  | cons member others ih =>
    obtain ⟨hmember, hothers⟩ := List.forall_mem_cons.mp hmembers
    obtain ⟨width, rfl⟩ := Nat.exists_eq_add_of_le' (Nat.le_trans (Nat.le_add_left 1 _) hwidth)
    cases others with
    | nil =>
      rw [skipSpace_indentedMembers_singleton]
      exact readMembers_memberText hmember hends (.inl ⟨htail, rfl⟩)
    | cons next more =>
      have hmore : readMembers _ _ width (member.1 :: seen) _ = .ok (_, rest) :=
        ih (by simp) hothers (Nat.le_of_succ_le_succ hwidth)
      obtain ⟨hnil, hhead⟩ := head?_ne_of_readMembers hmore
      rw [skipSpace_indentedMembers_cons]
      exact readMembers_memberText hmember (numberEnds_cons (.inl rfl))
        (.inr ⟨_, ⟨_, rfl, rfl, hnil, hhead⟩, hmore⟩)

end Reading

/-! ### Whole values -/

section Whole

variable {limit depth : Nat}

/-- An array that is not empty is written with its items on lines of their own. -/
theorem indented_array_cons (level : Nat) (item : Value) (others : List Value) :
    (Value.array (item :: others)).indented level =
      '[' :: (indentedItems (level + 1) (item :: others) ++ newLine level ++ [']']) := by
  rw [Value.indented]
  simp

/-- An object that is not empty is written with its members on lines of their own. -/
theorem indented_object_cons (level : Nat) (member : String × Value) (others : Members) :
    (Value.object (member :: others)).indented level =
      '{' :: (indentedMembers (level + 1) (member :: others) ++ newLine level ++ ['}']) := by
  rw [Value.indented]
  simp

/-- An array is read from its text if its items are. -/
theorem roundTrips_array {items : List Value} (level : Nat) (hlength : items.length ≤ limit)
    (hitems : ∀ item ∈ items, RoundTrips limit depth (level + 1) item) :
    RoundTrips limit (depth + 1) level (.array items) := by
  intro rest hrest
  refine readValue_eq_ok_iff.mpr ⟨rfl, .inr (.inl ?_)⟩
  cases items with
  | nil => exact ⟨depth, _, [], rfl, rfl, rfl, readArray_eq_ok_iff.mpr (.inl ⟨rfl, rfl⟩)⟩
  | cons item others =>
    have hclose : skipSpace (newLine level ++ ']' :: rest) = ']' :: rest := skipSpace_newLine ..
    have hread := readItems_indentedItems (List.cons_ne_nil item others) hitems hlength
      (numberEnds_cons (.inr rfl)) hclose
    obtain ⟨hnil, hhead⟩ := head?_ne_of_readItems hread
    have htext : (Value.array (item :: others)).indented level ++ rest =
        '[' :: (indentedItems (level + 1) (item :: others) ++ (newLine level ++ ']' :: rest)) := by
      rw [indented_array_cons, List.cons_append, List.append_assoc, List.append_assoc,
        List.singleton_append]
    rw [htext]
    exact ⟨depth, _, _, rfl, rfl, rfl, readArray_eq_ok_iff.mpr (.inr ⟨hnil, hhead, hread⟩)⟩

/-- An object is read from its text if the values of its members are. -/
theorem roundTrips_object {members : Members} (level : Nat) (hlength : members.length ≤ limit)
    (hmembers : ∀ member ∈ members, RoundTrips limit depth (level + 1) member.2) :
    RoundTrips limit (depth + 1) level (.object members) := by
  intro rest hrest
  refine readValue_eq_ok_iff.mpr ⟨rfl, .inr (.inr ?_)⟩
  cases members with
  | nil => exact ⟨depth, _, [], rfl, rfl, rfl, readObject_eq_ok_iff.mpr (.inl ⟨rfl, rfl⟩)⟩
  | cons member others =>
    have hclose : skipSpace (newLine level ++ '}' :: rest) = '}' :: rest := skipSpace_newLine ..
    have hread : readMembers _ _ limit [] _ = .ok (_, rest) :=
      readMembers_indentedMembers (List.cons_ne_nil member others) hmembers hlength
        (numberEnds_cons (.inr rfl)) hclose
    obtain ⟨hnil, hhead⟩ := head?_ne_of_readMembers hread
    have htext : (Value.object (member :: others)).indented level ++ rest = '{' ::
        (indentedMembers (level + 1) (member :: others) ++ (newLine level ++ '}' :: rest)) := by
      rw [indented_object_cons, List.cons_append, List.append_assoc, List.append_assoc,
        List.singleton_append]
    rw [htext]
    exact ⟨depth, _, _, rfl, rfl, rfl, readObject_eq_ok_iff.mpr (.inr ⟨hnil, hhead, hread⟩)⟩

/-- The text of an array is at least as long as the array, and as the text of each item. -/
theorem length_indented_array (items : List Value) (level : Nat) :
    items.length ≤ ((Value.array items).indented level).length ∧
      ∀ item ∈ items,
        (item.indented (level + 1)).length ≤ ((Value.array items).indented level).length := by
  cases items with
  | nil => exact ⟨Nat.zero_le _, by simp⟩
  | cons item others =>
    obtain ⟨hlength, hitems⟩ := length_indentedItems (level + 1) (item :: others)
    rw [indented_array_cons, List.length_cons (a := '['), List.length_append, List.length_append]
    exact ⟨by omega, fun other hother ↦ Nat.le_trans (hitems other hother) (by omega)⟩

/-- The text of an object is at least as long as there are members, and as the text of the value of
each. -/
theorem length_indented_object (members : Members) (level : Nat) :
    members.length ≤ ((Value.object members).indented level).length ∧
      ∀ member ∈ members,
        (member.2.indented (level + 1)).length ≤
          ((Value.object members).indented level).length := by
  cases members with
  | nil => exact ⟨Nat.zero_le _, by simp⟩
  | cons member others =>
    obtain ⟨hlength, hmembers⟩ := length_indentedMembers (level + 1) (member :: others)
    rw [indented_object_cons, List.length_cons (a := '{'), List.length_append, List.length_append]
    exact ⟨by omega, fun other hother ↦ Nat.le_trans (hmembers other hother) (by omega)⟩

/-- A value is read from its text. -/
theorem roundTrips_of_readable {value : Value} (h : value.Readable depth) (level : Nat)
    (hlimit : (value.indented level).length ≤ limit) : RoundTrips limit depth level value := by
  induction h generalizing level with
  | scalar hscalar hnumber =>
    intro rest hrest
    exact readValue_of_readScalar (readScalar_indented hscalar hnumber hrest level) rfl
  | @array depth items hitems ih =>
    obtain ⟨hlength, hall⟩ := length_indented_array items level
    exact roundTrips_array level (Nat.le_trans hlength hlimit) fun item hitem ↦
      ih item hitem (level + 1) (Nat.le_trans (hall item hitem) hlimit)
  | @object depth members hmembers ih =>
    obtain ⟨hlength, hall⟩ := length_indented_object members level
    exact roundTrips_object level (Nat.le_trans hlength hlimit) fun member hmember ↦
      ih member hmember (level + 1) (Nat.le_trans (hall member hmember) hlimit)

/-- The text of a value at any level is a document of its own. -/
theorem read_indented {value : Value} (h : value.Readable maxDepth) (level : Nat) :
    read (String.ofList (value.indented level)) = .ok value.reread := by
  refine readDocument_eq_ok_iff.mpr ⟨[], ?_, rfl⟩
  rw [String.toList_ofList]
  have hread := roundTrips_of_readable h level (Nat.le_succ _) [] numberEnds_nil
  rw [List.append_nil] at hread
  exact hread

/-- A member stands in the text of an object: its key, a colon and a space, and its value. -/
theorem exists_indented_object {members : Members} {member : String × Value}
    (h : member ∈ members) (level : Nat) :
    ∃ before after, (Value.object members).indented level =
      before ++ stringText member.1 ++ [':', ' '] ++ member.2.indented (level + 1) ++ after := by
  cases members with
  | nil => cases h
  | cons first others =>
    obtain ⟨before, after, heq⟩ :=
      exists_intercalate_eq (List.mem_map_of_mem (f := memberLine (level + 1)) h)
    rw [indented_object_cons, indentedMembers_eq, heq, memberLine]
    refine ⟨'{' :: (before ++ newLine (level + 1)), after ++ newLine level ++ ['}'], ?_⟩
    simp only [List.append_assoc, List.cons_append, List.nil_append]

end Whole

end PackageRisk.Json
