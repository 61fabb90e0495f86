import InventoryIds.Fault
import InventoryIds.Numeral.Base36

/-!
# Random codes

The sizes of random codes, their masks and their widths in base 36.
-/

namespace InventoryIds

inductive RandomCode where
  | six
  | nine
  | twenty
  | thirtyTwo
deriving DecidableEq, Repr

namespace RandomCode

def all : List RandomCode := [six, nine, twenty, thirtyTwo]

def standard : RandomCode := six

def bits : RandomCode → Nat
  | six => 6
  | nine => 9
  | twenty => 20
  | thirtyTwo => 32

def ofBits (bits : Nat) : Except ArgumentIssue RandomCode :=
  match all.find? (·.bits == bits) with
  | some code => .ok code
  | none => .error (.unsupportedBits bits)

@[simp] theorem ofBits_bits (code : RandomCode) : ofBits code.bits = .ok code := by
  cases code <;> rfl

/-- The word whose lowest `bits` bits are set. -/
def mask (code : RandomCode) : UInt64 := UInt64.ofNat (Nat.pow 2 code.bits - 1)

def width (code : RandomCode) : Nat := Base36.leastWidth code.bits

/-- The code taken from the lowest bits of a drawn word. -/
def ofWord (code : RandomCode) (word : UInt64) : List Char :=
  Base36.encode (word &&& code.mask) code.width

end RandomCode
end InventoryIds
