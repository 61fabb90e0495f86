import InventoryIds.Numeral.Base36
import InventoryIds.Proofs.Bytes
import InventoryIds.Proofs.Numerals

/-!
# Base 36, read back

A number that fits into its width is read back from its text (`number_encode_of_fits`), and the
width of a number of bits is the least one into which all such numbers fit (`leastWidth_least`).
-/

namespace InventoryIds.Base36

/-- The digits of base 36, each at the place that is its value. -/
def alphabet : List Char := "0123456789ABCDEFGHIJKLMNOPQRSTUVWXYZ".toList

def number (text : List Char) : Nat := Numeral.read alphabet text

theorem idxOf_letter {d : Nat} (digit : d < 36) : alphabet.idxOf (letter d) = d :=
  (by decide : ∀ d < 36, alphabet.idxOf (letter d) = d) d digit

theorem letter_mem_alphabet {d : Nat} (digit : d < 36) : letter d ∈ alphabet := by
  rw [← List.idxOf_lt_length_iff, idxOf_letter digit]
  exact digit

theorem mem_alphabet_of_mem_encode {value : UInt64} {width : Nat} {c : Char}
    (member : c ∈ encode value width) : c ∈ alphabet := by
  obtain ⟨d, listed, rfl⟩ := List.mem_map.mp member
  exact letter_mem_alphabet (Numeral.lt_of_mem_digits (by decide) listed)

theorem number_encode (value : UInt64) (width : Nat) :
    number (encode value width) = value.toNat % 36 ^ min width maxWidth :=
  Numeral.read_map_digits (fun _ => idxOf_letter) (by decide) _ _

theorem singleByte_encode (value : UInt64) (width : Nat) :
    SingleByte (encode value width) := by
  intro c member
  obtain ⟨d, digit, rfl⟩ := List.mem_map.mp member
  have small := Numeral.lt_of_mem_digits (by decide) digit
  exact (by decide : ∀ d < 36, (letter d).utf8Size = 1) d small

/-! ### Numbers that fit -/

/-- No digit of the number is lost at this width. The greatest width takes every word. -/
def Fits (value : UInt64) (width : Nat) : Prop := maxWidth ≤ width ∨ value.toNat < 36 ^ width

instance (value : UInt64) (width : Nat) : Decidable (Fits value width) :=
  inferInstanceAs (Decidable (_ ∨ _))

variable {value : UInt64} {width : Nat}

theorem fits_min_iff : Fits value (min width maxWidth) ↔ Fits value width := by
  rcases Nat.le_total maxWidth width with wide | narrow
  · rw [Nat.min_eq_right wide]
    exact iff_of_true (.inl (Nat.le_refl _)) (.inl wide)
  · rw [Nat.min_eq_left narrow]

theorem toNat_lt_of_fits (fits : Fits value width) : value.toNat < 36 ^ min width maxWidth := by
  rcases fits_min_iff.mpr fits with wide | less
  · have full : min width maxWidth = maxWidth := Nat.le_antisymm (Nat.min_le_right _ _) wide
    -- Thirteen digits of base 36 hold more than 64 bits.
    rw [full]
    exact Nat.lt_trans value.toNat_lt (by decide)
  · exact less

theorem number_encode_of_fits (fits : Fits value width) :
    number (encode value width) = value.toNat := by
  rw [number_encode, Nat.mod_eq_of_lt (toNat_lt_of_fits fits)]

/-! ### Widths -/

theorem leastWidth_least (bits : Nat) :
    2 ^ bits ≤ 36 ^ leastWidth bits ∧ ∀ width < leastWidth bits, 36 ^ width < 2 ^ bits := by
  cases found : (List.range bits).find? fun width => decide (Nat.pow 2 bits ≤ Nat.pow 36 width) with
  | none =>
    have least : leastWidth bits = bits := by rw [leastWidth, found, Option.getD_none]
    have short := List.find?_range_eq_none.mp found
    rw [least]
    exact ⟨Nat.pow_le_pow_left (by decide) bits, fun width less => by simpa using short width less⟩
  | some width =>
    have least : leastWidth bits = width := by rw [leastWidth, found, Option.getD_some]
    obtain ⟨fits, -, short⟩ := List.find?_range_eq_some.mp found
    rw [least]
    exact ⟨of_decide_eq_true fits, fun shorter less => by simpa using short shorter less⟩

end InventoryIds.Base36
