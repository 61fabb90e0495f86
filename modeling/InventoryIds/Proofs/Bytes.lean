import Mathlib.Data.String.Basic

/-!
# Texts in bytes

How many bytes a text takes and which they are. A character of one byte is that byte
(`SingleByte.bytes_eq`).
-/

namespace InventoryIds

def bytes (text : String) : List UInt8 := text.toUTF8.data.toList

def SingleByte (cs : List Char) : Prop := ∀ c ∈ cs, c.utf8Size = 1

theorem SingleByte.utf8ByteSize {cs : List Char} (single : SingleByte cs) :
    (String.ofList cs).utf8ByteSize = cs.length := by
  rw [String.utf8ByteSize_ofList]
  induction cs with
  | nil => rfl
  | cons c cs ih =>
    obtain ⟨first, others⟩ := List.forall_mem_cons.mp single
    rw [String.utf8Len_cons, ih others, first, List.length_cons]

theorem SingleByte.bytes_eq {cs : List Char} (single : SingleByte cs) :
    bytes (String.ofList cs) = cs.map fun c => c.val.toUInt8 := by
  have encoded : bytes (String.ofList cs) = cs.flatMap String.utf8EncodeChar :=
    (congrArg (·.data.toList) String.toByteArray_ofList).trans List.toList_data_toByteArray
  have alone : ∀ c ∈ cs, String.utf8EncodeChar c = [c.val.toUInt8] :=
    fun c member => String.utf8EncodeChar_eq_singleton (single c member)
  rw [encoded, List.flatMap_congr alone, ← List.map_eq_flatMap]

end InventoryIds
