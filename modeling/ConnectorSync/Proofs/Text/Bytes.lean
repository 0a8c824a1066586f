import ConnectorSync.Text.Bytes

/-!
# Texts by their bytes

A text is told from every other by its bytes.
-/

namespace ConnectorSync.Text

theorem loop_toList (bs : ByteArray) (i : Nat) (taken : Bytes) :
    ByteArray.toList.loop bs i taken = taken.reverse ++ bs.data.toList.drop i := by
  fun_induction ByteArray.toList.loop bs i taken with
  | case1 i taken inside ih =>
    have inside : i < bs.data.toList.length := inside
    rw [ih, List.reverse_cons, List.append_assoc, List.drop_eq_getElem_cons inside]
    have get : bs.get! i = bs.data.toList[i] := by
      rw [ByteArray.get!, getElem!_pos bs.data i (by simpa using inside), Array.getElem_toList]
    rw [get, List.singleton_append]
  | case2 i taken outside =>
    rw [List.drop_of_length_le (Nat.le_of_not_lt outside), List.append_nil]

theorem bytes_inj {s u : String} : bytes s = bytes u ↔ s = u := by
  constructor
  · intro same
    unfold bytes ByteArray.toList at same
    rw [loop_toList, loop_toList] at same
    exact String.toByteArray_inj.1 (ByteArray.ext (Array.toList_inj.1 same))
  · rintro rfl
    rfl

end ConnectorSync.Text
