/-!
# Numerals

Positional numerals over `Nat`, most significant digit first: a fixed number of digits in any
base, and decimals padded with zeros.
-/

namespace InventoryIds.Numeral

/-- The last `width` digits of `n` in `base`. -/
def digits (base : Nat) : Nat → Nat → List Nat
  | 0, _ => []
  | width + 1, n => digits base width (n / base) ++ [n % base]

/-- The number that the digits `ds` write in `base`. -/
def value (base : Nat) (ds : List Nat) : Nat :=
  ds.foldl (fun n d => base * n + d) 0

/-- `n` in decimal, with zeros in front up to `width` characters; longer numbers stay whole. -/
def padded (width n : Nat) : List Char :=
  (Nat.toDigits 10 n).leftpad width '0'

@[simp] theorem length_digits (base width n : Nat) : (digits base width n).length = width := by
  induction width generalizing n with
  | zero => rfl
  | succ width ih => simp [digits, ih]

end InventoryIds.Numeral
