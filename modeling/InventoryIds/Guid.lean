import InventoryIds.Draw
import InventoryIds.Numeral

/-!
# GUIDs

Random identifiers of 128 bits: six of the bits state the version and the variant, the others
are drawn. They are written as 32 hexadecimal digits in five groups.
-/

namespace InventoryIds.Guid

def drawnBits : BitVec 128 := 0xffffffffffff0fff3fffffffffffffff

/-- Version 4 (random) and the variant `10`, at their places. -/
def fixedBits : BitVec 128 := 0x00000000000040008000000000000000

def ofDraw (draw : Draw) : BitVec 128 := draw &&& drawnBits ||| fixedBits

def groups : List Nat := [8, 4, 4, 4, 12]

def length : Nat := 36

/-- Cuts digits into groups, with a dash between them. -/
def dashed : List Nat → List Char → List Char
  | [], digits => digits
  | [_], digits => digits
  | size :: sizes, digits => digits.take size ++ '-' :: dashed sizes (digits.drop size)

def text (guid : BitVec 128) : List Char :=
  dashed groups ((Numeral.digits 16 32 guid.toNat).map Nat.digitChar)

@[simp] theorem length_text (guid : BitVec 128) : (text guid).length = length := by
  simp [text, dashed, groups, length]

end InventoryIds.Guid
