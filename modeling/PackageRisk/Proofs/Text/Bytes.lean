/-!
# Bytes of texts

The bytes of a text are those of its characters one after another, and a text is read back from its
bytes and from no others.
-/

namespace PackageRisk.Text

/-- The loop puts the bytes from an index on behind those that it has gathered. -/
private theorem toList_loop_eq (bytes : ByteArray) (index : Nat) (gathered : List UInt8) :
    ByteArray.toList.loop bytes index gathered =
      gathered.reverse ++ bytes.data.toList.drop index := by
  fun_induction ByteArray.toList.loop bytes index gathered with
  | case1 index gathered hindex ih =>
    have hlength : index < bytes.data.toList.length := by simpa using hindex
    rw [ih, List.drop_eq_getElem_cons hlength]
    simp [ByteArray.get!, hindex]
  | case2 index gathered hindex =>
    rw [List.drop_eq_nil_of_le (by simpa using Nat.le_of_not_lt hindex)]
    simp

private theorem toList_eq_data_toList (bytes : ByteArray) : bytes.toList = bytes.data.toList := by
  rw [ByteArray.toList, toList_loop_eq]
  simp

@[simp] private theorem toList_toByteArray (bytes : List UInt8) :
    bytes.toByteArray.toList = bytes := by
  rw [toList_eq_data_toList, List.toList_data_toByteArray]

/-- The bytes of an array make the array again. -/
@[simp] theorem toByteArray_toList (bytes : ByteArray) : bytes.toList.toByteArray = bytes := by
  apply ByteArray.ext
  apply Array.toList_inj.mp
  rw [List.toList_data_toByteArray, toList_eq_data_toList]

/-- A text is encoded character by character. -/
theorem toList_toUTF8 (text : String) :
    text.toUTF8.toList = text.toList.flatMap String.utf8EncodeChar := by
  rw [String.toUTF8_eq_toByteArray, ← String.utf8Encode_toList, List.utf8Encode,
    toList_toByteArray]

/-- Bytes are read as a text exactly when they are the bytes of this text. -/
theorem fromUTF8?_eq_some_iff {bytes : ByteArray} {text : String} :
    String.fromUTF8? bytes = some text ↔ bytes = text.toUTF8 := by
  unfold String.fromUTF8?
  constructor
  · intro h
    split at h
    · cases h
      rfl
    · cases h
  · rintro rfl
    rw [String.toUTF8_eq_toByteArray, dif_pos text.isValidUTF8]
    rfl

end PackageRisk.Text
