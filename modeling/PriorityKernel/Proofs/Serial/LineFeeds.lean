import PriorityKernel.Device.SerialLine

namespace PriorityKernel

theorem toList_loop_eq (bytes : ByteArray) (place : Nat) (taken : List UInt8) :
    ByteArray.toList.loop bytes place taken = taken.reverse ++ bytes.data.toList.drop place := by
  fun_induction ByteArray.toList.loop bytes place taken with
  | case1 place taken inside ih =>
    have within : place < bytes.data.size := inside
    have here : bytes.get! place = bytes.data[place] := getElem!_pos bytes.data place within
    rw [ih, List.drop_eq_getElem_cons (show place < bytes.data.toList.length from within), here]
    simp
  | case2 place taken outside =>
    have beyond : bytes.data.toList.length ≤ place := Nat.not_lt.mp outside
    rw [List.drop_of_length_le beyond, List.append_nil]

theorem toList_eq_data (bytes : ByteArray) : bytes.toList = bytes.data.toList := toList_loop_eq bytes 0 []

/-- The bytes of a text, in order. -/
def textBytes (text : String) : List UInt8 := text.toUTF8.toList

theorem textBytes_empty : textBytes "" = [] := ByteArray.toList_empty

theorem textBytes_append (first second : String) :
    textBytes (first ++ second) = textBytes first ++ textBytes second := by
  simp only [textBytes, toList_eq_data, String.toUTF8_eq_toByteArray, String.toByteArray_append,
    ByteArray.toList_data_append]

/-- Texts one after another are as good as one text. -/
theorem textBytes_join (texts : List String) : textBytes (String.join texts) = texts.flatMap textBytes := by
  induction texts with
  | nil => exact textBytes_empty
  | cons text rest ih => rw [String.join_cons, textBytes_append, ih, List.flatMap_cons]

namespace SerialLine

/-- Each byte goes out by itself, so that it makes no difference where a text is cut. -/
theorem wire_eq_flatMap (bytes : List UInt8) :
    wire bytes = bytes.flatMap fun byte => if byte = 10 then [13, 10] else [byte] := by
  induction bytes with
  | nil => rfl
  | cons byte rest ih =>
    by_cases feed : byte = 10
    · simp [wire, feed, ih]
    · simp [wire, feed, ih]

theorem wire_append (bytes later : List UInt8) : wire (bytes ++ later) = wire bytes ++ wire later := by
  simp only [wire_eq_flatMap, List.flatMap_append]

theorem wire_flatMap {α : Type} (parts : List α) (bytes : α → List UInt8) :
    wire (parts.flatMap bytes) = parts.flatMap fun part => wire (bytes part) := by
  induction parts with
  | nil => rfl
  | cons part rest ih => rw [List.flatMap_cons, wire_append, ih, List.flatMap_cons]

end SerialLine

end PriorityKernel
