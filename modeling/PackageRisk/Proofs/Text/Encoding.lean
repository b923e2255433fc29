import PackageRisk.Proofs.Text.Bytes
import PackageRisk.Text.Encoding

/-!
# Decoding the bytes of texts

The decoder of replies takes every byte sequence for some text. The bytes of a text it takes for
that text, unless the text begins with the character that serves as the byte order mark.
-/

namespace PackageRisk.Text

/-- The character whose bytes are the byte order mark. -/
def byteOrderMark : Char := '\uFEFF'

/-! ### First bytes -/

section

variable {byte : Nat}

private theorem beginChar_of_lt (h : byte < 0x80) : beginChar byte = .inl (Char.ofNat byte) := by
  rw [beginChar, if_pos h]

private theorem beginChar_of_two (hlow : 0xc2 ≤ byte) (hhigh : byte ≤ 0xdf) :
    beginChar byte = .inr (some ⟨1, 0x80, 0xbf, byte - 0xc0⟩) := by
  rw [beginChar, if_neg (by omega), if_pos ⟨hlow, hhigh⟩]

/-- After two of these bytes the range of the next one is smaller: it leaves out what has a shorter
form, and the surrogates. -/
theorem beginChar_of_three (hlow : 0xe0 ≤ byte) (hhigh : byte ≤ 0xef) :
    beginChar byte = .inr (some ⟨2, if byte = 0xe0 then 0xa0 else 0x80,
      if byte = 0xed then 0x9f else 0xbf, byte - 0xe0⟩) := by
  by_cases hfirst : byte = 0xe0
  · subst hfirst
    rfl
  · by_cases hsurrogate : byte = 0xed
    · subst hsurrogate
      rfl
    · rw [beginChar, if_neg (by omega), if_neg (by omega), if_neg hfirst, if_neg hsurrogate,
        if_pos (by omega), if_neg hfirst, if_neg hsurrogate]

/-- The smaller ranges leave out what has a shorter form, and what is beyond the last character. -/
theorem beginChar_of_four (hlow : 0xf0 ≤ byte) (hhigh : byte ≤ 0xf4) :
    beginChar byte = .inr (some ⟨3, if byte = 0xf0 then 0x90 else 0x80,
      if byte = 0xf4 then 0x8f else 0xbf, byte - 0xf0⟩) := by
  have hcases : byte = 0xf0 ∨ byte = 0xf1 ∨ byte = 0xf2 ∨ byte = 0xf3 ∨ byte = 0xf4 := by omega
  obtain rfl | rfl | rfl | rfl | rfl := hcases <;> rfl

end

/-! ### Bytes of characters -/

section

variable {byte low high bits : Nat} (rest : List Nat)

private theorem decodeUtf8From_of_inl {c : Char} (h : beginChar byte = .inl c) :
    decodeUtf8From none (byte :: rest) = c :: decodeUtf8From none rest := by
  rw [decodeUtf8From, h]
  rfl

private theorem decodeUtf8From_of_inr {part : PartialChar} (h : beginChar byte = .inr (some part)) :
    decodeUtf8From none (byte :: rest) = decodeUtf8From (some part) rest := by
  rw [decodeUtf8From, h]
  rfl

/-- The last byte of a character. -/
theorem decodeUtf8From_last (hlow : low ≤ byte) (hhigh : byte ≤ high) :
    decodeUtf8From (some ⟨1, low, high, bits⟩) (byte :: rest) =
      Char.ofNat (bits * 0x40 + (byte - 0x80)) :: decodeUtf8From none rest := by
  rw [decodeUtf8From]
  simp only [hlow, hhigh, and_self, if_true]

/-- A byte between the first and the last one of a character. -/
theorem decodeUtf8From_middle {missing : Nat} (hlow : low ≤ byte) (hhigh : byte ≤ high) :
    decodeUtf8From (some ⟨missing + 2, low, high, bits⟩) (byte :: rest) =
      decodeUtf8From (some ⟨missing + 1, 0x80, 0xbf, bits * 0x40 + (byte - 0x80)⟩) rest := by
  rw [decodeUtf8From]
  simp only [hlow, hhigh, and_self, if_true]
  rfl

end

/-- The bytes of a character as numbers. -/
def codes (c : Char) : List Nat := (String.utf8EncodeChar c).map UInt8.toNat

section

variable {c : Char}

/-- The code points are those of Unicode but for the surrogates. -/
theorem toNat_range (c : Char) :
    c.toNat < 0xd800 ∨ 0xdfff < c.toNat ∧ c.toNat < 0x110000 :=
  c.valid

private theorem codes_of_lt (h : c.toNat < 0x80) : codes c = [c.toNat] := by
  have hval : c.val.toNat = c.toNat := rfl
  unfold codes String.utf8EncodeChar
  dsimp only
  rw [hval, if_pos (by omega)]
  simp only [List.map_cons, List.map_nil, UInt8.toNat_ofNat', List.cons.injEq, and_true]
  omega

private theorem codes_of_two (hlow : 0x80 ≤ c.toNat) (hhigh : c.toNat < 0x800) :
    codes c = [0xc0 + c.toNat / 0x40, 0x80 + c.toNat % 0x40] := by
  have hval : c.val.toNat = c.toNat := rfl
  unfold codes String.utf8EncodeChar
  dsimp only
  rw [hval, if_neg (by omega), if_pos (by omega)]
  simp only [List.map_cons, List.map_nil, UInt8.toNat_ofNat', List.cons.injEq, and_true]
  omega

private theorem codes_of_three (hlow : 0x800 ≤ c.toNat) (hhigh : c.toNat < 0x10000) :
    codes c =
      [0xe0 + c.toNat / 0x1000, 0x80 + c.toNat / 0x40 % 0x40, 0x80 + c.toNat % 0x40] := by
  have hval : c.val.toNat = c.toNat := rfl
  unfold codes String.utf8EncodeChar
  dsimp only
  rw [hval, if_neg (by omega), if_neg (by omega), if_pos (by omega)]
  simp only [List.map_cons, List.map_nil, UInt8.toNat_ofNat', List.cons.injEq, and_true]
  omega

private theorem codes_of_four (hlow : 0x10000 ≤ c.toNat) :
    codes c =
      [0xf0 + c.toNat / 0x40000, 0x80 + c.toNat / 0x1000 % 0x40, 0x80 + c.toNat / 0x40 % 0x40,
        0x80 + c.toNat % 0x40] := by
  have hval : c.val.toNat = c.toNat := rfl
  have hrange := toNat_range c
  unfold codes String.utf8EncodeChar
  dsimp only
  rw [hval, if_neg (by omega), if_neg (by omega), if_neg (by omega)]
  simp only [List.map_cons, List.map_nil, UInt8.toNat_ofNat', List.cons.injEq, and_true]
  omega

end

/-- No byte of a character is one of a byte order mark of UTF-16. -/
theorem lt_of_mem_codes {c : Char} {code : Nat} (h : code ∈ codes c) : code < 0xf8 := by
  have hrange := toNat_range c
  by_cases hone : c.toNat < 0x80
  · rw [codes_of_lt hone, List.mem_singleton] at h
    omega
  by_cases htwo : c.toNat < 0x800
  · rw [codes_of_two (by omega) htwo] at h
    simp only [List.mem_cons, List.not_mem_nil, or_false] at h
    omega
  by_cases hthree : c.toNat < 0x10000
  · rw [codes_of_three (by omega) hthree] at h
    simp only [List.mem_cons, List.not_mem_nil, or_false] at h
    omega
  · rw [codes_of_four (by omega)] at h
    simp only [List.mem_cons, List.not_mem_nil, or_false] at h
    omega

/-- The decoder reads a character back from its bytes and goes on after them. -/
theorem decodeUtf8From_codes (c : Char) (rest : List Nat) :
    decodeUtf8From none (codes c ++ rest) = c :: decodeUtf8From none rest := by
  have hrange := toNat_range c
  have hread {bits : Nat} (hbits : bits = c.toNat) : Char.ofNat bits = c := by
    rw [hbits, Char.ofNat_toNat]
  by_cases hone : c.toNat < 0x80
  · rw [codes_of_lt hone, List.cons_append, List.nil_append,
      decodeUtf8From_of_inl rest (beginChar_of_lt hone), hread rfl]
  by_cases htwo : c.toNat < 0x800
  · rw [codes_of_two (by omega) htwo, List.cons_append, List.cons_append, List.nil_append,
      decodeUtf8From_of_inr _ (beginChar_of_two (by omega) (by omega)),
      decodeUtf8From_last _ (by omega) (by omega), hread (by omega)]
  by_cases hthree : c.toNat < 0x10000
  · rw [codes_of_three (by omega) hthree]
    simp only [List.cons_append, List.nil_append]
    rw [decodeUtf8From_of_inr _ (beginChar_of_three (by omega) (by omega)),
      decodeUtf8From_middle _ (by split <;> omega) (by split <;> omega),
      decodeUtf8From_last _ (by omega) (by omega), hread (by omega)]
  · rw [codes_of_four (by omega)]
    simp only [List.cons_append, List.nil_append]
    rw [decodeUtf8From_of_inr _ (beginChar_of_four (by omega) (by omega)),
      decodeUtf8From_middle _ (by split <;> omega) (by split <;> omega),
      decodeUtf8From_middle _ (by omega) (by omega),
      decodeUtf8From_last _ (by omega) (by omega), hread (by omega)]

/-! ### Bytes of texts -/

/-- The bytes of a text as numbers. -/
theorem map_toNat_toUTF8 (text : String) :
    text.toUTF8.toList.map UInt8.toNat = text.toList.flatMap codes := by
  rw [toList_toUTF8, List.map_flatMap]
  rfl

private theorem decodeUtf8From_flatMap_codes (chars : List Char) :
    decodeUtf8From none (chars.flatMap codes) = chars := by
  induction chars with
  | nil => rfl
  | cons c chars ih => rw [List.flatMap_cons, decodeUtf8From_codes, ih]

/-- The bytes of a text are decoded to this text, if no byte order mark is at their head. -/
theorem decodeBody_toUTF8 {text : String} (h : text.toList.head? ≠ some byteOrderMark) :
    decodeBody text.toUTF8 = text := by
  have hdecode := decodeUtf8From_flatMap_codes text.toList
  have hbyte : ∀ code ∈ text.toList.flatMap codes, code < 0xf8 := by
    intro code hcode
    obtain ⟨c, -, hc⟩ := List.mem_flatMap.mp hcode
    exact lt_of_mem_codes hc
  unfold decodeBody
  rw [map_toNat_toUTF8]
  dsimp only
  split
  · next rest hcodes =>
    rw [hcodes] at hdecode
    have hmark : decodeUtf8From none (0xef :: 0xbb :: 0xbf :: rest) =
        byteOrderMark :: decodeUtf8From none rest := rfl
    rw [← hdecode, hmark] at h
    exact absurd rfl h
  · next rest hcodes => exact absurd (hbyte 0xfe (by simp [hcodes])) (by decide)
  · next rest hcodes => exact absurd (hbyte 0xff (by simp [hcodes])) (by decide)
  · rw [hdecode, String.ofList_toList]

end PackageRisk.Text
