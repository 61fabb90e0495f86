import InventoryIds.Numeral

/-!
# Base 36

Numbers in the digits `0`–`9` and the letters `A`–`Z`, at a fixed width.
-/

namespace InventoryIds.Base36

/-- Thirteen characters hold every 64-bit number. -/
def maxWidth : Nat := 13

def maxBits : Nat := 64

def letter (d : Nat) : Char :=
  if d < 10 then Char.ofNat ('0'.toNat + d) else Char.ofNat ('A'.toNat + (d - 10))

/-- The least width whose codes are at least as many as the numbers of `bits` bits. -/
def leastWidth (bits : Nat) : Nat :=
  ((List.range bits).find? fun width => decide (Nat.pow 2 bits ≤ Nat.pow 36 width)).getD bits

def widthForBits? (bits : Nat) : Option Nat :=
  if bits ≤ maxBits then some (leastWidth bits) else none

def tooManyBits : String := "base36 widths are defined for at most 64 bits"

def encode (value : UInt64) (width : Nat) : List Char :=
  (Numeral.digits 36 (min width maxWidth) value.toNat).map letter

@[simp] theorem length_encode (value : UInt64) (width : Nat) :
    (encode value width).length = min width maxWidth := by
  simp [encode]

def append (text : String) (value : UInt64) (width : Nat) : String :=
  text ++ String.ofList (encode value width)

end InventoryIds.Base36
