import PackageRisk.Proofs.Text.Bytes
import PackageRisk.Text.Percent

/-!
# Encoded texts as values of a query

Percent encoding leaves ASCII characters only, and none of those that have a meaning in a URL but
the percent sign, which two hexadecimal digits follow. The text is read back from its encoding, so
different texts are encoded differently.
-/

namespace PackageRisk.Text.Percent

/-- The characters that end a value in the query of a URL, or do not stand for themselves there. -/
def delimiters : List Char := ['&', '=', '?', '#', '/', '@', '+']

/-- A text can stand as a value in the query of a URL. -/
structure IsQueryValue (text : String) : Prop where
  nonempty : text ≠ ""
  ascii : ∀ c ∈ text.toList, c.toNat < 128
  undelimited : ∀ c ∈ delimiters, c ∉ text.toList
  escapes : ∀ before after, text.toList = before ++ '%' :: after →
    ∃ high low rest, after = high :: low :: rest ∧
      (digit? high).isSome = true ∧ (digit? low).isSome = true

/-! ### Single bytes -/

/-- Bytes have a property if all numbers below 256 have it. -/
private theorem forall_byte {p : UInt8 → Prop} (h : ∀ n < 256, p (UInt8.ofNat n)) (byte : UInt8) :
    p byte := by
  have hbyte := h byte.toNat byte.toNat_lt
  rwa [UInt8.ofNat_toNat] at hbyte

private theorem digit?_hexDigit : ∀ n < 16, digit? (hexDigit n) = some n := by decide

/-- What a byte is encoded with. -/
theorem of_mem_encodeByte (byte : UInt8) :
    ∀ c ∈ encodeByte byte, c.toNat < 128 ∧ c ∉ delimiters := by
  have hall : ∀ byte : UInt8,
      (encodeByte byte).all (fun c ↦ c.toNat < 128 ∧ c ∉ delimiters) = true :=
    forall_byte (by decide +kernel)
  simpa only [List.all_eq_true, decide_eq_true_eq] using hall byte

/-- A byte that stands for itself is a character of its own and no percent sign. -/
theorem encodeChar_of_isUnreserved : ∀ byte : UInt8, isUnreserved byte = true →
    Char.ofNat byte.toNat ≠ '%' ∧ String.utf8EncodeChar (Char.ofNat byte.toNat) = [byte] :=
  forall_byte (by decide +kernel)

/-! ### Reading back -/

/-- A percent sign begins an escape. -/
theorem decodeBytes?_escape (high low : Char) (rest : List Char) :
    decodeBytes? ('%' :: high :: low :: rest) = do
      let byte := UInt8.ofNat ((← digit? high) * 16 + (← digit? low))
      return byte :: (← decodeBytes? rest) := by
  rw [decodeBytes?]

/-- Another character stands for its bytes. -/
theorem decodeBytes?_cons {c : Char} (hc : c ≠ '%') (rest : List Char) :
    decodeBytes? (c :: rest) = (decodeBytes? rest).map (String.utf8EncodeChar c ++ ·) := by
  rw [decodeBytes?, if_neg hc]
  intro _ _ _ hpercent
  exact absurd hpercent hc

/-- A byte is read back from its characters. -/
theorem decodeBytes?_encodeByte (byte : UInt8) (rest : List Char) :
    decodeBytes? (encodeByte byte ++ rest) = (decodeBytes? rest).map (byte :: ·) := by
  unfold encodeByte
  split
  · next hbyte =>
    obtain ⟨hpercent, hchar⟩ := encodeChar_of_isUnreserved byte hbyte
    rw [List.singleton_append, decodeBytes?_cons hpercent, hchar]
    rfl
  · have hlt : byte.toNat < 256 := byte.toNat_lt
    have hbyte : byte.toNat / 16 * 16 + byte.toNat % 16 = byte.toNat := by omega
    simp only [List.cons_append, List.nil_append]
    rw [decodeBytes?_escape, digit?_hexDigit _ (by omega), digit?_hexDigit _ (by omega)]
    simp only [bind, Option.bind_some, pure, hbyte, UInt8.ofNat_toNat]
    cases decodeBytes? rest <;> rfl

private theorem decodeBytes?_flatMap_encodeByte (bytes : List UInt8) :
    decodeBytes? (bytes.flatMap encodeByte) = some bytes := by
  induction bytes with
  | nil => rw [List.flatMap_nil, decodeBytes?]
  | cons byte bytes ih => rw [List.flatMap_cons, decodeBytes?_encodeByte, ih, Option.map_some]

/-- A text is read back from its encoding. -/
theorem decode?_encode (text : String) : decode? (encode text) = some text := by
  unfold decode? encode
  rw [String.toList_ofList, decodeBytes?_flatMap_encodeByte, Option.bind_eq_bind,
    Option.bind_some, toByteArray_toList, fromUTF8?_eq_some_iff]

private theorem encode_empty : encode "" = "" := by
  rw [encode, toList_toUTF8]
  rfl

/-- Different texts are encoded differently. -/
theorem encode_injective : Function.Injective encode := by
  intro text other h
  have hdecode := decode?_encode text
  rw [h, decode?_encode] at hdecode
  exact (Option.some.inj hdecode).symm

/-- In a text that can be read, two digits follow every percent sign. -/
theorem escape_of_decodeBytes? {text : List Char} {bytes : List UInt8}
    (h : decodeBytes? text = some bytes) {before after : List Char}
    (htext : text = before ++ '%' :: after) :
    ∃ high low rest, after = high :: low :: rest ∧
      (digit? high).isSome = true ∧ (digit? low).isSome = true := by
  have hpercent : digit? '%' = none := by decide
  fun_induction decodeBytes? text generalizing before bytes with
  | case1 => simp at htext
  | case2 high low rest ih =>
    simp only [Option.bind_eq_bind, Option.bind_eq_some_iff] at h
    obtain ⟨highValue, hhigh, lowValue, hlow, others, hothers, -⟩ := h
    -- The sign is the one that begins the escape, or it comes after the escape.
    match before with
    | [] =>
      obtain ⟨-, rfl⟩ := List.cons.inj htext
      exact ⟨high, low, rest, rfl, by rw [hhigh]; rfl, by rw [hlow]; rfl⟩
    | [_] =>
      obtain ⟨-, rfl, -⟩ : _ ∧ high = '%' ∧ _ := by simpa using htext
      rw [hpercent] at hhigh
      cases hhigh
    | [_, _] =>
      obtain ⟨-, -, rfl, -⟩ : _ ∧ _ ∧ low = '%' ∧ _ := by simpa using htext
      rw [hpercent] at hlow
      cases hlow
    | _ :: _ :: _ :: before =>
      obtain ⟨-, -, -, hrest⟩ : _ ∧ _ ∧ _ ∧ rest = before ++ '%' :: after := by simpa using htext
      exact ih hothers hrest
  | case3 => cases h
  | case4 c rest _ hc ih =>
    obtain ⟨others, hothers, -⟩ := Option.map_eq_some_iff.mp h
    cases before with
    | nil => exact absurd (List.cons.inj htext).1 hc
    | cons first before => exact ih hothers (List.cons.inj htext).2

/-! ### Encodings as values -/

/-- A text that is not empty is encoded as a value of a query. -/
theorem isQueryValue_encode {text : String} (h : text ≠ "") : IsQueryValue (encode text) where
  nonempty hempty := h (encode_injective (hempty.trans encode_empty.symm))
  ascii c hc := by
    obtain ⟨byte, -, hbyte⟩ := List.mem_flatMap.mp (by simpa [encode] using hc)
    exact (of_mem_encodeByte byte c hbyte).1
  undelimited c hdelimiter hc := by
    obtain ⟨byte, -, hbyte⟩ := List.mem_flatMap.mp (by simpa [encode] using hc)
    exact (of_mem_encodeByte byte c hbyte).2 hdelimiter
  escapes before after htext := by
    have hdecode := decodeBytes?_flatMap_encodeByte text.toUTF8.toList
    exact escape_of_decodeBytes? hdecode (by simpa [encode] using htext)

end PackageRisk.Text.Percent
