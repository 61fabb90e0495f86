import InventoryIds.Fault

/-!
# Widths of ordinals

How many digits an ordinal is padded to.
-/

namespace InventoryIds

/-- The least number of digits of an ordinal: the standard width, or a width of its own. -/
inductive OrdinalWidth where
  | standard
  | explicit (digits : UInt8)
deriving DecidableEq, Repr

namespace OrdinalWidth

def standardDigits : Nat := 5

def maxDigits : Nat := 20

/-- A width that was asked for; it lies between 1 and `maxDigits`. -/
def ofNat (width : Nat) : Except ArgumentIssue OrdinalWidth :=
  if 1 ≤ width ∧ width ≤ maxDigits then .ok (.explicit (UInt8.ofNat width))
  else .error (.widthOutOfRange width)

def ofNat? : Option Nat → Except ArgumentIssue OrdinalWidth
  | none => .ok .standard
  | some width => ofNat width

def explicit? : OrdinalWidth → Option Nat
  | standard => none
  | explicit digits => some digits.toNat

def minDigits : OrdinalWidth → Nat
  | standard => standardDigits
  | explicit digits => digits.toNat

end OrdinalWidth
end InventoryIds
