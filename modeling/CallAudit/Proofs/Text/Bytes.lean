/-!
# The bytes of a text

Results:
* `toList_toUTF8`: the bytes of a text are those of its characters, one after the other.
* `fromUTF8?_eq_some`: bytes that are a text are the bytes of that text and of no other.
-/
namespace CallAudit

theorem toList_loop (bytes : ByteArray) (i : Nat) (r : List UInt8) :
    ByteArray.toList.loop bytes i r = r.reverse ++ bytes.data.toList.drop i := by
  fun_induction ByteArray.toList.loop bytes i r with
  | case1 i r h ih =>
    have hi : i < bytes.data.toList.length := h
    rw [ih, List.reverse_cons, List.append_assoc, List.drop_eq_getElem_cons hi]
    have hget : bytes.get! i = bytes.data.toList[i] := by
      rw [ByteArray.get!, getElem!_pos bytes.data i h, Array.getElem_toList]
    rw [hget]
    rfl
  | case2 i r h =>
    have hi : bytes.data.toList.length ≤ i := Nat.not_lt.1 h
    rw [List.drop_of_length_le hi, List.append_nil]

theorem toList_eq_data (bytes : ByteArray) : bytes.toList = bytes.data.toList := by
  rw [ByteArray.toList, toList_loop]
  rfl

theorem toByteArray_toList (bytes : ByteArray) : bytes.toList.toByteArray = bytes := by
  apply ByteArray.ext
  rw [toList_eq_data, ← Array.toList_inj, List.toList_data_toByteArray]

theorem toList_toByteArray (bs : List UInt8) : bs.toByteArray.toList = bs := by
  rw [toList_eq_data, List.toList_data_toByteArray]

theorem toList_toUTF8 (s : String) : s.toUTF8.toList = s.toList.flatMap String.utf8EncodeChar := by
  have hbytes : s.toUTF8 = s.toList.utf8Encode := by
    rw [← String.toByteArray_ofList, String.ofList_toList]
    rfl
  rw [toList_eq_data, hbytes, List.utf8Encode, List.data_toByteArray]

theorem toList_toUTF8_inj (s t : String) : s.toUTF8.toList = t.toUTF8.toList ↔ s = t := by
  refine ⟨fun h => ?_, fun h => h ▸ rfl⟩
  rw [toList_eq_data, toList_eq_data] at h
  exact String.toByteArray_inj.1 (ByteArray.ext (Array.toList_inj.1 h))

/-- Bytes that are a text are the bytes of that text and of no other. -/
theorem fromUTF8?_eq_some (bs : List UInt8) (s : String) :
    String.fromUTF8? bs.toByteArray = some s ↔ bs = s.toUTF8.toList := by
  unfold String.fromUTF8?
  constructor
  · intro h
    split at h
    · cases h
      exact (toList_toByteArray bs).symm
    · cases h
  · rintro rfl
    rw [toByteArray_toList]
    exact dif_pos (show s.toUTF8.IsValidUTF8 from s.isValidUTF8)

end CallAudit
