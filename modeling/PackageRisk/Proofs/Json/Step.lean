import PackageRisk.Json.Reader
import PackageRisk.Proofs.Fallible

/-!
# The steps of the reader

What each part of the reader accepts, in terms of the parts that it calls. The reader of values
treats scalars, arrays and objects apart; what all of them share is that the place of the value
raises no objection.
-/

namespace PackageRisk.Json

open Fallible

/-- The items of an array; other values have none. -/
def Value.items : Value → List Value
  | .array items => items
  | _ => []

/-- The members of an object; other values have none. -/
def Value.members : Value → Members
  | .object members => members
  | _ => []

/-- Reads a string, a word or a number, from its first character on. -/
def readScalar : List Char → Except ReadError (Value × List Char)
  | [] => .error .unfinishedValue
  | '"' :: rest => (readString rest).map fun read ↦ (.string read.1, read.2)
  | 'n' :: rest => (readWord "ull".toList rest).map fun rest ↦ (.null, rest)
  | 't' :: rest => (readWord "rue".toList rest).map fun rest ↦ (.boolean true, rest)
  | 'f' :: rest => (readWord "alse".toList rest).map fun rest ↦ (.boolean false, rest)
  | '-' :: rest => (readNumber true rest).map fun read ↦ (.number read.1, read.2)
  | c :: rest =>
    if c.isDigit then (readNumber false (c :: rest)).map fun read ↦ (.number read.1, read.2)
    else .error .noValue

/-- Neither an array nor an object. -/
def Value.isScalar : Value → Bool
  | .array _ => false
  | .object _ => false
  | _ => true

/-- What is read as a scalar is one. -/
theorem isScalar_of_readScalar {text rest : List Char} {value : Value}
    (h : readScalar text = .ok (value, rest)) : value.isScalar = true := by
  unfold readScalar at h
  split at h <;> try split at h
  all_goals
    first
    | cases h
    | obtain ⟨read, -, h⟩ := map_eq_ok_iff.mp h
      cases h
      rfl

/-- A number without a sign is a scalar. -/
theorem readScalar_of_readNumber {text rest : List Char} {n : Number}
    (h : readNumber false text = .ok (n, rest)) : readScalar text = .ok (.number n, rest) := by
  have hread := h
  unfold readNumber at h
  split at h
  · cases h
  · split at h
    · cases h
    · split at h
      · rename_i c after _ hdigit
        unfold readScalar
        split <;> rename_i heq
        · cases heq
        iterate 5
          cases heq
          exact absurd hdigit (by decide)
        · cases heq
          rw [if_pos hdigit, hread]
          rfl
      · cases h

/-- No scalar begins with a space. -/
theorem skipSpace_of_readScalar {text rest : List Char} {value : Value}
    (h : readScalar text = .ok (value, rest)) : skipSpace text = text := by
  cases text with
  | nil => rfl
  | cons c tail =>
    by_cases hspace : isSpace c = true
    · unfold isSpace at hspace
      simp only [Bool.or_eq_true, decide_eq_true_eq] at hspace
      obtain ((rfl | rfl) | rfl) | rfl := hspace <;> cases h
    · rw [skipSpace, List.dropWhile_cons_of_neg hspace]

/-- A text that does not begin with a character has another first, or none. -/
theorem head?_ne_of_ne_cons {text : List Char} {c : Char} (h : ∀ tail, text ≠ c :: tail) :
    text.head? ≠ some c := by
  intro hhead
  obtain ⟨tail, htail⟩ := List.head?_eq_some_iff.mp hhead
  exact h tail htail

/-- A comma follows, and after it something other than a closing mark. -/
def GoesOn (close : Char) (text next : List Char) : Prop :=
  ∃ after, text = ',' :: after ∧ skipSpace after = next ∧ next ≠ [] ∧ next.head? ≠ some close

/-- An item is followed by the end of the array, or by a comma and more items. -/
theorem readItems_eq_ok_iff {readItem : List Char → Except ReadError (Value × List Char)}
    {limit : Nat} {text rest : List Char} {items : List Value} :
    readItems readItem (limit + 1) text = .ok (items, rest) ↔
      ∃ item after, readItem text = .ok (item, after) ∧
        ((skipSpace after = ']' :: rest ∧ items = [item]) ∨
          ∃ next others, GoesOn ']' (skipSpace after) next ∧
            readItems readItem limit next = .ok (others, rest) ∧ items = item :: others) := by
  rw [readItems, bind_eq_ok_iff]
  constructor
  · rintro ⟨⟨item, after⟩, hitem, h⟩
    refine ⟨item, after, hitem, ?_⟩
    dsimp only at h
    split at h
    · cases h
    · cases h
      exact .inl ⟨‹_›, rfl⟩
    · rename_i afterComma hafter
      split at h
      · cases h
      · cases h
      · rename_i hnil hclose
        obtain ⟨⟨others, rest'⟩, hothers, h⟩ := bind_eq_ok_iff.mp h
        cases h
        exact .inr ⟨_, others, ⟨afterComma, hafter, rfl, hnil, head?_ne_of_ne_cons hclose⟩,
          hothers, rfl⟩
    · cases h
  · rintro ⟨item, after, hitem, h⟩
    refine ⟨(item, after), hitem, ?_⟩
    rcases h with ⟨hafter, rfl⟩ | ⟨next, others, ⟨afterComma, hafter, rfl, hnil, hclose⟩, h, rfl⟩
    · simp [hafter]
    · simp only [hafter]
      split
      · contradiction
      · rename_i tail htail
        simp [htail] at hclose
      · simp [h]

/-- A member is a new key, a colon and a value, followed by the end of the object, or by a comma and
more members. -/
theorem readMembers_eq_ok_iff {isUnique : String → Bool}
    {readMember : String → List Char → Except ReadError (Value × List Char)}
    {limit : Nat} {seen : List String} {text rest : List Char} {members : Members} :
    readMembers isUnique readMember (limit + 1) seen text = .ok (members, rest) ↔
      ∃ afterQuote key afterKey afterColon value after,
        text = '"' :: afterQuote ∧ readString afterQuote = .ok (key, afterKey) ∧
        ¬(isUnique key = true ∧ key ∈ seen) ∧ skipSpace afterKey = ':' :: afterColon ∧
        readMember key afterColon = .ok (value, after) ∧
        ((skipSpace after = '}' :: rest ∧ members = [(key, value)]) ∨
          ∃ next others, GoesOn '}' (skipSpace after) next ∧
            readMembers isUnique readMember limit (key :: seen) next = .ok (others, rest) ∧
            members = (key, value) :: others) := by
  constructor
  · intro h
    unfold readMembers at h
    split at h
    · rename_i afterQuote heq
      cases heq
      obtain ⟨⟨key, afterKey⟩, hkey, h⟩ := bind_eq_ok_iff.mp h
      dsimp only at h
      split at h
      · cases h
      · rename_i hnew
        split at h
        · cases h
        · rename_i afterColon hcolon
          obtain ⟨⟨value, after⟩, hvalue, h⟩ := bind_eq_ok_iff.mp h
          refine ⟨_, key, afterKey, afterColon, value, after, rfl, hkey, by simpa using hnew,
            hcolon, hvalue, ?_⟩
          dsimp only at h
          split at h
          · cases h
          · cases h
            exact .inl ⟨‹_›, rfl⟩
          · rename_i afterComma hafter
            split at h
            · cases h
            · cases h
            · rename_i hnil hclose
              obtain ⟨⟨others, rest'⟩, hothers, h⟩ := bind_eq_ok_iff.mp h
              cases h
              exact .inr ⟨_, others, ⟨afterComma, hafter, rfl, hnil, head?_ne_of_ne_cons hclose⟩,
                hothers, rfl⟩
          · cases h
        · cases h
    · cases h
  · rintro ⟨afterQuote, key, afterKey, afterColon, value, after, rfl, hkey, hnew, hcolon, hvalue,
      h⟩
    have hnew' : (isUnique key && seen.contains key) = false := by simpa using hnew
    simp only [readMembers, hkey, bind_eq_ok_iff, Except.ok.injEq, exists_eq_left', hnew', hcolon,
      hvalue, Bool.false_eq_true, if_false]
    rcases h with ⟨hafter, rfl⟩ | ⟨next, others, ⟨afterComma, hafter, rfl, hnil, hclose⟩, h, rfl⟩
    · simp [hafter]
    · simp only [hafter]
      split
      · contradiction
      · rename_i tail htail
        simp [htail] at hclose
      · simp [h]

/-- An array is empty or has items up to its end. -/
theorem readArray_eq_ok_iff {readItem : List Char → Except ReadError (Value × List Char)}
    {limit : Nat} {text rest : List Char} {items : List Value} :
    readArray readItem limit text = .ok (items, rest) ↔
      (skipSpace text = ']' :: rest ∧ items = []) ∨
        (skipSpace text ≠ [] ∧ (skipSpace text).head? ≠ some ']' ∧
          readItems readItem limit (skipSpace text) = .ok (items, rest)) := by
  unfold readArray
  split <;> rename_i h
  · simp [h]
  · simp [h, eq_comm, and_comm]
  · rename_i hnil
    have hhead := head?_ne_of_ne_cons h
    have hne : skipSpace text ≠ ']' :: rest := h rest
    simp only [hne, hhead, ne_eq, show skipSpace text ≠ [] from hnil, not_false_eq_true, true_and,
      false_and, false_or]

/-- An object is empty or has members up to its end. -/
theorem readObject_eq_ok_iff {isUnique : String → Bool}
    {readMember : String → List Char → Except ReadError (Value × List Char)}
    {limit : Nat} {text rest : List Char} {members : Members} :
    readObject isUnique readMember limit text = .ok (members, rest) ↔
      (skipSpace text = '}' :: rest ∧ members = []) ∨
        (skipSpace text ≠ [] ∧ (skipSpace text).head? ≠ some '}' ∧
          readMembers isUnique readMember limit [] (skipSpace text) = .ok (members, rest)) := by
  unfold readObject
  split <;> rename_i h
  · simp [h]
  · simp [h, eq_comm, and_comm]
  · rename_i hnil
    have hhead := head?_ne_of_ne_cons h
    have hne : skipSpace text ≠ '}' :: rest := h rest
    simp only [hne, hhead, ne_eq, show skipSpace text ≠ [] from hnil, not_false_eq_true, true_and,
      false_and, false_or]

section Value

variable {P : Type} {schema : Schema P} {limit depth : Nat} {place : P} {text rest : List Char}

private theorem check_eq_ok_iff {found : Found} {u : Unit} :
    schema.check place found = .ok u ↔ schema.objection place found = none := by
  unfold Schema.check
  split <;> simp_all

/-- An array or an object is known by its opening mark; everything else is a scalar. -/
theorem readValue_eq (schema : Schema P) (limit depth : Nat) (place : P) (text : List Char) :
    readValue schema limit depth place text =
      match skipSpace text with
      | '[' :: rest =>
        schema.check place .array >>= fun _ ↦
          match depth with
          | 0 => .error .tooDeep
          | level + 1 =>
            readArray (readValue schema limit level (schema.item place)) limit rest >>=
              fun (items, rest) ↦ .ok (.array items, rest)
      | '{' :: rest =>
        schema.check place .object >>= fun _ ↦
          match depth with
          | 0 => .error .tooDeep
          | level + 1 =>
            readObject (schema.isUnique place)
              (fun key ↦ readValue schema limit level (schema.member place key)) limit rest >>=
              fun (members, rest) ↦ .ok (.object members, rest)
      | start => readScalar start >>= fun scalar ↦
          schema.check place scalar.1.found >>= fun _ ↦ .ok scalar := by
  rw [readValue]
  generalize skipSpace text = start
  symm
  split
  · cases depth <;> rfl
  · cases depth <;> rfl
  · rename_i harray hobject
    split
    · rfl
    · exact absurd rfl (harray _)
    · exact absurd rfl (hobject _)
    · rw [readScalar]
      cases readString _ <;> rfl
    · rw [readScalar]
      cases readWord _ _ <;> rfl
    · rw [readScalar]
      cases readWord _ _ <;> rfl
    · rw [readScalar]
      cases readWord _ _ <;> rfl
    · rw [readScalar]
      cases readNumber _ _ <;> rfl
    · rw [readScalar]
      · split
        · cases readNumber _ _ <;> rfl
        · rfl
      all_goals assumption

/-- A value is read if its place takes it, and it is a scalar, an array whose items are read one
level deeper, or an object whose members are. -/
theorem readValue_eq_ok_iff {value : Value} :
    readValue schema limit depth place text = .ok (value, rest) ↔
      schema.objection place value.found = none ∧
        (readScalar (skipSpace text) = .ok (value, rest) ∨
          (∃ level after items, depth = level + 1 ∧ skipSpace text = '[' :: after ∧
            value = .array items ∧
            readArray (readValue schema limit level (schema.item place)) limit after =
              .ok (items, rest)) ∨
          ∃ level after members, depth = level + 1 ∧ skipSpace text = '{' :: after ∧
            value = .object members ∧
            readObject (schema.isUnique place)
              (fun key ↦ readValue schema limit level (schema.member place key)) limit after =
              .ok (members, rest)) := by
  rw [readValue_eq]
  split
  · rename_i after htext
    simp only [bind_eq_ok_iff, check_eq_ok_iff, htext]
    constructor
    · rintro ⟨-, hplace, h⟩
      split at h
      · cases h
      · obtain ⟨⟨items, _⟩, hread, h⟩ := bind_eq_ok_iff.mp h
        cases h
        exact ⟨hplace, .inr (.inl ⟨_, after, items, rfl, rfl, rfl, hread⟩)⟩
    · rintro ⟨hplace, h | ⟨level, after', items, rfl, htext', rfl, hread⟩ |
        ⟨level, after', members, -, htext', -⟩⟩
      · cases h
      · cases htext'
        exact ⟨(), hplace, bind_eq_ok_iff.mpr ⟨_, hread, rfl⟩⟩
      · cases htext'
  · rename_i after htext
    simp only [bind_eq_ok_iff, check_eq_ok_iff, htext]
    constructor
    · rintro ⟨-, hplace, h⟩
      split at h
      · cases h
      · obtain ⟨⟨members, _⟩, hread, h⟩ := bind_eq_ok_iff.mp h
        cases h
        exact ⟨hplace, .inr (.inr ⟨_, after, members, rfl, rfl, rfl, hread⟩)⟩
    · rintro ⟨hplace, h | ⟨level, after', items, -, htext', -⟩ |
        ⟨level, after', members, rfl, htext', rfl, hread⟩⟩
      · cases h
      · cases htext'
      · cases htext'
        exact ⟨(), hplace, bind_eq_ok_iff.mpr ⟨_, hread, rfl⟩⟩
  · rename_i harray hobject
    simp only [bind_eq_ok_iff, check_eq_ok_iff, Except.ok.injEq]
    constructor
    · rintro ⟨_, hread, _, hplace, rfl⟩
      exact ⟨hplace, .inl hread⟩
    · rintro ⟨hplace, hread | ⟨_, after, _, _, htext, _⟩ | ⟨_, after, _, _, htext, _⟩⟩
      · exact ⟨_, hread, (), hplace, rfl⟩
      · exact absurd htext (harray after)
      · exact absurd htext (hobject after)

/-- A scalar is a value wherever its place takes it. -/
theorem readValue_of_readScalar {value : Value} (h : readScalar text = .ok (value, rest))
    (hplace : schema.objection place value.found = none) :
    readValue schema limit depth place text = .ok (value, rest) := by
  refine readValue_eq_ok_iff.mpr ⟨hplace, .inl ?_⟩
  rw [skipSpace_of_readScalar h]
  exact h

/-- A document is a value with nothing but spaces after it. -/
theorem readDocument_eq_ok_iff {document : String} {value : Value} :
    readDocument schema place document = .ok value ↔
      ∃ rest, readValue schema (document.toList.length + 1) maxDepth place document.toList =
        .ok (value, rest) ∧ skipSpace rest = [] := by
  simp only [readDocument, bind_eq_ok_iff]
  constructor
  · rintro ⟨⟨_, rest⟩, hread, h⟩
    dsimp only at h
    split at h <;> cases h
    exact ⟨rest, hread, ‹_›⟩
  · rintro ⟨rest, hread, hrest⟩
    exact ⟨_, hread, by rw [hrest]⟩

end Value

end PackageRisk.Json
