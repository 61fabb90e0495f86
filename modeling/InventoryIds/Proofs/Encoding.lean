import InventoryIds.Proofs.Base36
import InventoryIds.Proofs.NumeralOrder
import InventoryIds.Proofs.Outcomes

/-!
# Encoding in base 36

A number is encoded into a buffer that is filled from the back: the last digit of what is left of
the number goes to the last free place, and a division leaves the digits for the places in front.
The steps are written out here over words and lists that check what is done with them: products
stay among the words, and every access finds its place. All numbers and widths pass these checks,
so that nothing but a number that does not fit stops an encoding (`appendChecked_eq`). Numbers that
fit are read back from their texts, and the texts stand in the order of the numbers
(`append_exact_and_ordered`).
-/

namespace InventoryIds.Base36

inductive EncodingFault where
  /-- There is no such word. -/
  | overflow
  | outOfBounds (length place : Nat)
  /-- The number does not fit into so many digits. -/
  | unfit (value : UInt64) (places : Nat)
deriving DecidableEq, Repr

def times (first second : UInt64) : Except EncodingFault UInt64 :=
  if first.toNat * second.toNat < UInt64.size then .ok (first * second) else .error .overflow

/-- The number of texts of a width, multiplied out among the words. -/
def capacity : Nat → Except EncodingFault UInt64
  | 0 => .ok 1
  | width + 1 => do times (← capacity width) 36

/-- The comparison of a number with the capacity of a buffer, which only the buffers below the
greatest width need. -/
def fitsChecked (value : UInt64) (places : Nat) : Except EncodingFault Bool :=
  if maxWidth ≤ places then return true
  else do
    let bound ← capacity places
    return decide (value < bound)

structure Filling where
  buffer : List Char
  left : UInt64
deriving DecidableEq, Repr

def digitAt (digit : UInt64) : Except EncodingFault Char :=
  match alphabet[digit.toNat]? with
  | some c => .ok c
  | none => .error (.outOfBounds alphabet.length digit.toNat)

def put (buffer : List Char) (place : Nat) (c : Char) : Except EncodingFault (List Char) :=
  if place < buffer.length then .ok (buffer.set place c)
  else .error (.outOfBounds buffer.length place)

def Filling.write (state : Filling) (place : Nat) : Except EncodingFault Filling := do
  let c ← digitAt (state.left % 36)
  let buffer ← put state.buffer place c
  return ⟨buffer, state.left / 36⟩

/-- Fills the places in front of `place`, the last of them first. -/
def fill : (place : Nat) → Filling → Except EncodingFault Filling
  | 0, state => .ok state
  | place + 1, state => do fill place (← state.write place)

def encodeChecked (buffer : List Char) (value : UInt64) : Except EncodingFault (List Char) := do
  if ← fitsChecked value buffer.length then
    let filled ← fill buffer.length ⟨buffer, value⟩
    return filled.buffer
  else .error (.unfit value buffer.length)

def front (buffer : List Char) (place : Nat) : Except EncodingFault (List Char) :=
  if place ≤ buffer.length then .ok (buffer.take place)
  else .error (.outOfBounds buffer.length place)

def appendChecked (text : String) (value : UInt64) (width : Nat) :
    Except EncodingFault String := do
  let buffer ← front (List.replicate maxWidth '0') (min width maxWidth)
  let digits ← encodeChecked buffer value
  return digits.foldl String.push text

variable {value first second : UInt64} {width place : Nat} {buffer : List Char} {state : Filling}

/-! ### Capacities -/

theorem times_of_lt (room : first.toNat * second.toNat < UInt64.size) :
    times first second = .ok (first * second) ∧
      (first * second).toNat = first.toNat * second.toNat :=
  ⟨if_pos room, (UInt64.toNat_mul first second).trans (Nat.mod_eq_of_lt room)⟩

theorem exists_capacity (narrow : width < maxWidth) :
    ∃ bound, capacity width = .ok bound ∧ bound.toNat = 36 ^ width := by
  induction width with
  | zero => exact ⟨1, rfl, rfl⟩
  | succ width ih =>
    obtain ⟨bound, multiplied, power⟩ := ih (Nat.lt_of_succ_lt narrow)
    -- The greatest capacity that is asked for is still a word, and no product before it is greater.
    have room : bound.toNat * (36 : UInt64).toNat < UInt64.size := by
      calc bound.toNat * 36 = 36 ^ (width + 1) := by rw [power, Nat.pow_succ]
        _ ≤ 36 ^ 12 := Nat.pow_le_pow_right (by decide) (Nat.le_of_lt_succ narrow)
        _ < UInt64.size := by decide
    obtain ⟨product, exact_product⟩ := times_of_lt room
    refine ⟨bound * 36, ?_, ?_⟩
    · rw [capacity, multiplied, ok_bind, product]
    · rw [exact_product, power, Nat.pow_succ]
      rfl

theorem fitsChecked_eq (value : UInt64) (places : Nat) :
    fitsChecked value places = .ok (decide (Fits value places)) := by
  unfold fitsChecked Fits
  by_cases wide : maxWidth ≤ places
  · simp only [wide, true_or, decide_true, if_true]
    rfl
  · obtain ⟨bound, multiplied, power⟩ := exists_capacity (Nat.lt_of_not_le wide)
    simp only [wide, false_or, if_false, multiplied, ok_bind, UInt64.lt_iff_toNat_lt, power]
    rfl

/-! ### Filling -/

/-- From a place on the buffer holds the last digits of the number, and in front it is as it was.
What is left is the number without these digits. -/
structure Filling.Reached (buffer : List Char) (value : UInt64) (place : Nat) (state : Filling) :
    Prop where
  buffer_eq : state.buffer =
    buffer.take place ++ (Numeral.digits 36 (buffer.length - place) value.toNat).map letter
  left_eq : state.left.toNat = value.toNat / 36 ^ (buffer.length - place)

theorem reached_start (buffer : List Char) (value : UInt64) :
    Filling.Reached buffer value buffer.length ⟨buffer, value⟩ := by
  constructor
  · simp [Numeral.digits]
  · simp

theorem digitAt_of_lt {digit : UInt64} (small : digit.toNat < 36) :
    digitAt digit = .ok (letter digit.toNat) := by
  have listed : alphabet[digit.toNat]? = some (letter digit.toNat) :=
    (by decide : ∀ d < 36, alphabet[d]? = some (letter d)) _ small
  rw [digitAt, listed]

theorem set_take_append (inside : place < buffer.length) (digits : List Char) (c : Char) :
    (buffer.take (place + 1) ++ digits).set place c = buffer.take place ++ c :: digits := by
  have free : (buffer.take place).length = place := List.length_take_of_le (Nat.le_of_lt inside)
  rw [← List.take_append_getElem inside, List.append_assoc,
    List.set_append_right _ _ (Nat.le_of_eq free), free, Nat.sub_self]
  rfl

theorem exists_write (reached : state.Reached buffer value (place + 1))
    (inside : place < buffer.length) :
    ∃ next, state.write place = .ok next ∧ next.Reached buffer value place := by
  obtain ⟨written, left⟩ := reached
  have places : buffer.length - place = buffer.length - (place + 1) + 1 := by omega
  -- The last digit of what is left is the next digit of the number, counted from the back.
  have last : (state.left % 36).toNat = value.toNat / 36 ^ (buffer.length - (place + 1)) % 36 := by
    rw [UInt64.toNat_mod, left]
    rfl
  have small : (state.left % 36).toNat < 36 := last ▸ Nat.mod_lt _ (by decide)
  have room : place < state.buffer.length := by
    rw [written, List.length_append, List.length_take]
    omega
  refine ⟨⟨state.buffer.set place (letter (state.left % 36).toNat), state.left / 36⟩, ?_, ?_, ?_⟩
  · rw [Filling.write, digitAt_of_lt small, ok_bind, put, if_pos room]
    rfl
  · rw [written, set_take_append inside, places, Numeral.digits_succ_eq_cons, List.map_cons, last]
  · rw [UInt64.toNat_div, left, places, Nat.pow_succ, ← Nat.div_div_eq_div_mul]
    rfl

theorem exists_fill (reached : state.Reached buffer value place) (inside : place ≤ buffer.length) :
    ∃ filled, fill place state = .ok filled ∧ filled.Reached buffer value 0 := by
  -- On the free places, for every state: the state of the next step is not the one at hand.
  induction place generalizing state with
  | zero => exact ⟨state, rfl, reached⟩
  | succ place ih =>
    obtain ⟨next, written, further⟩ := exists_write reached inside
    obtain ⟨filled, rest, full⟩ := ih further (Nat.le_of_lt inside)
    exact ⟨filled, by rw [fill, written, ok_bind, rest], full⟩

/-- A buffer of any size is filled with as many of the last digits of a number. -/
theorem exists_filled (buffer : List Char) (value : UInt64) :
    ∃ left : UInt64, left.toNat = value.toNat / 36 ^ buffer.length ∧
      fill buffer.length ⟨buffer, value⟩ =
        .ok ⟨(Numeral.digits 36 buffer.length value.toNat).map letter, left⟩ := by
  obtain ⟨⟨filled, left⟩, run, digits, rest⟩ :=
    exists_fill (reached_start buffer value) (Nat.le_refl _)
  exact ⟨left, rest, run.trans (congrArg (fun cs => Except.ok (Filling.mk cs left)) digits)⟩

theorem encodeChecked_eq (buffer : List Char) (value : UInt64) :
    encodeChecked buffer value =
      if Fits value buffer.length then
        .ok ((Numeral.digits 36 buffer.length value.toNat).map letter)
      else .error (.unfit value buffer.length) := by
  obtain ⟨left, -, filled⟩ := exists_filled buffer value
  rw [encodeChecked, fitsChecked_eq, ok_bind, filled]
  by_cases fits : Fits value buffer.length
  · simp only [fits, decide_true, if_true]
    rfl
  · simp only [fits, decide_false, if_false]
    rfl

theorem foldl_push (cs : List Char) (text : String) :
    cs.foldl String.push text = text ++ String.ofList cs := by
  induction cs generalizing text with
  | nil => simp
  | cons c cs ih =>
    rw [List.foldl_cons, ih]
    apply String.toList_inj.mp
    simp

theorem appendChecked_eq (text : String) (value : UInt64) (width : Nat) :
    appendChecked text value width =
      if Fits value width then .ok (append text value width) else .error (.unfit value width) := by
  have within : min width maxWidth ≤ (List.replicate maxWidth '0').length := by
    rw [List.length_replicate]
    exact Nat.min_le_right _ _
  have places : ((List.replicate maxWidth '0').take (min width maxWidth)).length =
      min width maxWidth := List.length_take_of_le within
  rw [appendChecked, front, if_pos within, ok_bind, encodeChecked_eq, places]
  by_cases fits : Fits value width
  · rw [if_pos (fits_min_iff.mpr fits), if_pos fits, ok_bind, foldl_push]
    rfl
  · have narrow : width ≤ maxWidth := Nat.le_of_not_le (not_or.mp fits).1
    rw [if_neg (mt fits_min_iff.mp fits), if_neg fits, Nat.min_eq_left narrow, error_bind]

/-! ### Exactness and order -/

theorem append_eq_append_iff {text : String} (left : Fits first width) (right : Fits second width) :
    append text first width = append text second width ↔ first = second := by
  constructor
  · intro same
    have codes := String.ofList_injective (String.append_right_inj text |>.mp same)
    apply UInt64.toNat_inj.mp
    rw [← number_encode_of_fits left, codes, number_encode_of_fits right]
  · rintro rfl
    rfl

theorem toNat_letter {d : Nat} (digit : d < 36) :
    (letter d).val.toUInt8.toNat = if d < 10 then 48 + d else 55 + d :=
  (by decide : ∀ d < 36, (letter d).val.toUInt8.toNat = if d < 10 then 48 + d else 55 + d) d digit

theorem byte_letter_lt_iff {d e : Nat} (left : d < 36) (right : e < 36) :
    (letter d).val.toUInt8 < (letter e).val.toUInt8 ↔ d < e := by
  rw [UInt8.lt_iff_toNat_lt, toNat_letter left, toNat_letter right]
  split <;> split <;> omega

theorem bytes_encode (value : UInt64) (width : Nat) :
    bytes (String.ofList (encode value width)) =
      (Numeral.digits 36 (min width maxWidth) value.toNat).map fun d =>
        (letter d).val.toUInt8 := by
  rw [(singleByte_encode value width).bytes_eq, encode, List.map_map]
  rfl

theorem bytes_encode_lt_iff (left : Fits first width) (right : Fits second width) :
    bytes (String.ofList (encode first width)) < bytes (String.ofList (encode second width)) ↔
      first < second := by
  have digit {value : UInt64} : ∀ d ∈ Numeral.digits 36 (min width maxWidth) value.toNat, d < 36 :=
    fun d listed => Numeral.lt_of_mem_digits (by decide) listed
  rw [bytes_encode, bytes_encode,
    Numeral.map_lt_map_iff (fun _ d_lt _ e_lt => byte_letter_lt_iff d_lt e_lt) digit digit,
    Numeral.digits_lt_digits_iff (by decide), Nat.mod_eq_of_lt (toNat_lt_of_fits left),
    Nat.mod_eq_of_lt (toNat_lt_of_fits right), UInt64.lt_iff_toNat_lt]

/-- A number that fits into a width is written behind a text in as many digits as the width asks
for, thirteen at most, and these digits write the number. At one width no two numbers are written
alike, and the bytes that are written stand in the order of the numbers. The comparison with the
capacity and the filling of a buffer pass every check for all numbers and sizes, so that an
encoding in checked steps comes to the same text, or is stopped as the number does not fit. -/
theorem append_exact_and_ordered (text : String) (width : Nat) :
    (∀ value : UInt64, Fits value width →
      (append text value width).toList = text.toList ++ encode value width ∧
      (encode value width).length = min width 13 ∧
      (∀ c ∈ encode value width, c ∈ alphabet) ∧
      number (encode value width) = value.toNat) ∧
    (∀ first second : UInt64, Fits first width → Fits second width →
      (append text first width = append text second width ↔ first = second) ∧
      (bytes (String.ofList (encode first width)) < bytes (String.ofList (encode second width)) ↔
        first < second)) ∧
    (∀ (value : UInt64) (places : Nat),
      fitsChecked value places = .ok (decide (Fits value places))) ∧
    (∀ (value : UInt64) (buffer : List Char), ∃ left : UInt64,
      left.toNat = value.toNat / 36 ^ buffer.length ∧
      fill buffer.length ⟨buffer, value⟩ =
        .ok ⟨(Numeral.digits 36 buffer.length value.toNat).map letter, left⟩) ∧
    ∀ value : UInt64, appendChecked text value width =
      if Fits value width then .ok (append text value width) else .error (.unfit value width) := by
  refine ⟨fun value fits => ⟨?_, length_encode value width,
      fun c member => mem_alphabet_of_mem_encode member, number_encode_of_fits fits⟩,
    fun first second left right => ⟨append_eq_append_iff left right, bytes_encode_lt_iff left right⟩,
    fitsChecked_eq, fun value buffer => exists_filled buffer value,
    fun value => appendChecked_eq text value width⟩
  rw [append, String.toList_append, String.toList_ofList]

theorem append_exact_and_ordered_two_widths :
    ∃ first second last : UInt64,
      (Fits first 2 ∧ (append "id-" first 2).toList = ['i', 'd', '-', '1', 'R'] ∧
        number (encode first 2) = 63) ∧
      ('R' ∈ encode first 2 ∧ 'R' ∈ alphabet) ∧
      (Fits second 2 ∧ encode second 2 = ['Z', 'Z'] ∧ first < second ∧
        append "id-" first 2 ≠ append "id-" second 2 ∧
        bytes (String.ofList (encode first 2)) < bytes (String.ofList (encode second 2))) ∧
      (¬Fits last 2 ∧ appendChecked "id-" last 2 = .error (.unfit last 2)) ∧
      (Fits last 20 ∧ number (encode last 20) = 18446744073709551615 ∧
        appendChecked "id-" last 20 = .ok "id-3W5E11264SGSF") := by
  let first : UInt64 := 63
  let second : UInt64 := 1295
  let last : UInt64 := 18446744073709551615
  obtain ⟨written, ordered, -, -, checked⟩ := append_exact_and_ordered "id-" 2
  obtain ⟨widest, -, -, -, complete⟩ := append_exact_and_ordered "id-" 20
  have fits : Fits first 2 := by decide
  have fits' : Fits second 2 := by decide
  have wide : Fits last 20 := by decide
  have large : ¬Fits last 2 := by decide
  have member : 'R' ∈ encode first 2 := by decide
  obtain ⟨text, -, digits, value⟩ := written first fits
  obtain ⟨apart, order⟩ := ordered first second fits fits'
  refine ⟨first, second, last, ⟨fits, text.trans (by decide), value⟩, ⟨member, digits 'R' member⟩,
    ⟨fits', by decide, by decide, fun same => ?_, order.mpr (by decide)⟩,
    ⟨large, (checked last).trans (if_neg large)⟩, wide, (widest last wide).2.2.2, ?_⟩
  · exact absurd (apart.mp same) (by decide)
  · rw [complete last, if_pos wide]
    exact congrArg Except.ok (by decide)

end InventoryIds.Base36
