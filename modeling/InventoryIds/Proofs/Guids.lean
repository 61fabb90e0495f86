import InventoryIds.Rendering
import InventoryIds.Proofs.Numerals

/-!
# GUIDs as they are shown

A GUID keeps every bit of the draw that it is made of, but for six (`getLsbD_ofDraw`). Its text has
five groups of digits, from which the whole number is read back (`number_text`). So two draws are
shown alike exactly if they differ in those six bits only (`text_ofDraw_eq_iff`).
-/

namespace InventoryIds.Guid

/-- The digits of base 16 in lower case, each at the place that is its value. -/
def alphabet : List Char := "0123456789abcdef".toList

def bare (text : List Char) : List Char := text.filter (· ≠ '-')

/-- The number that a text writes in base 16, whatever its groups. -/
def number (text : List Char) : Nat := Numeral.read alphabet (bare text)

/-- The places of the bits that are not drawn: four for the version, two for the variant. -/
def statedBits : List Nat := [79, 78, 77, 76, 63, 62]

def freeBits : List Nat := (List.range 128).filter (· ∉ statedBits)

/-! ### Groups -/

/-- Digits cut into groups; the last group takes what is left. -/
def cut : List Nat → List Char → List (List Char)
  | [], digits => [digits]
  | [_], digits => [digits]
  | size :: sizes, digits => digits.take size :: cut sizes (digits.drop size)

variable {sizes : List Nat} {digits : List Char}

theorem splitOn_dashed (plain : '-' ∉ digits) :
    (dashed sizes digits).splitOn '-' = cut sizes digits := by
  fun_induction dashed sizes digits with
  | case1 digits => exact List.splitOn_eq_singleton plain
  | case2 digits => exact List.splitOn_eq_singleton plain
  | case3 size sizes digits more ih =>
    have front : '-' ∉ digits.take size := fun member => plain (List.mem_of_mem_take member)
    rw [List.splitOn_append_cons_self_of_not_mem front,
      ih fun member => plain (List.mem_of_mem_drop member), cut]
    exact more

theorem map_length_cut (some_group : sizes ≠ []) (whole : digits.length = sizes.sum) :
    (cut sizes digits).map List.length = sizes := by
  fun_induction cut sizes digits with
  | case1 digits => exact absurd rfl some_group
  | case2 digits => simpa using whole
  | case3 size sizes digits more ih =>
    rw [List.sum_cons] at whole
    have behind : (digits.drop size).length = sizes.sum := by
      rw [List.length_drop]
      omega
    rw [List.map_cons, ih more behind, List.length_take, Nat.min_eq_left (by omega)]

theorem bare_dashed (plain : '-' ∉ digits) : bare (dashed sizes digits) = digits := by
  have kept {cs : List Char} (plain : '-' ∉ cs) : bare cs = cs :=
    List.filter_eq_self.mpr fun c member => decide_eq_true fun same => plain (same ▸ member)
  fun_induction dashed sizes digits with
  | case1 digits => exact kept plain
  | case2 digits => exact kept plain
  | case3 size sizes digits more ih =>
    have front : '-' ∉ digits.take size := fun member => plain (List.mem_of_mem_take member)
    have behind := ih fun member => plain (List.mem_of_mem_drop member)
    rw [bare] at behind ⊢
    rw [List.filter_append, List.filter_cons_of_neg (by decide), behind]
    exact (congrArg (· ++ digits.drop size) (kept front)).trans (List.take_append_drop size digits)

/-! ### Digits -/

def hexadecimal (guid : BitVec 128) : List Char :=
  (Numeral.digits 16 32 guid.toNat).map Nat.digitChar

variable {guid : BitVec 128}

theorem text_eq_dashed (guid : BitVec 128) : text guid = dashed groups (hexadecimal guid) := by
  rw [text, hexadecimal]

theorem mem_alphabet_of_mem_hexadecimal {c : Char} (member : c ∈ hexadecimal guid) :
    c ∈ alphabet := by
  obtain ⟨d, listed, rfl⟩ := List.mem_map.mp member
  have small := Numeral.lt_of_mem_digits (by decide) listed
  exact (by decide : ∀ d < 16, Nat.digitChar d ∈ alphabet) d small

theorem dash_not_mem_hexadecimal : '-' ∉ hexadecimal guid := fun member =>
  absurd (mem_alphabet_of_mem_hexadecimal member) (by decide)

theorem bare_text (guid : BitVec 128) : bare (text guid) = hexadecimal guid := by
  rw [text_eq_dashed, bare_dashed dash_not_mem_hexadecimal]

theorem mem_text {c : Char} (member : c ∈ text guid) : c = '-' ∨ c ∈ alphabet := by
  by_cases dash : c = '-'
  · exact .inl dash
  · have kept : c ∈ bare (text guid) := List.mem_filter.mpr ⟨member, decide_eq_true dash⟩
    rw [bare_text] at kept
    exact .inr (mem_alphabet_of_mem_hexadecimal kept)

theorem map_length_splitOn_text (guid : BitVec 128) :
    ((text guid).splitOn '-').map List.length = groups := by
  have whole : (hexadecimal guid).length = groups.sum := by
    rw [hexadecimal, List.length_map, Numeral.length_digits]
    rfl
  rw [text_eq_dashed, splitOn_dashed dash_not_mem_hexadecimal, map_length_cut (by decide) whole]

/-- The number is read back from the text, the highest bits first. -/
theorem number_text (guid : BitVec 128) : number (text guid) = guid.toNat := by
  have places : ∀ d < alphabet.length, alphabet.idxOf (Nat.digitChar d) = d := by decide
  have back : number (text guid) = guid.toNat % 16 ^ 32 := by
    rw [number, bare_text]
    exact Numeral.read_map_digits places (by decide) 32 guid.toNat
  rw [back]
  -- Nothing is lost to the remainder: 32 digits of base 16 are all 128 bits.
  exact Nat.mod_eq_of_lt guid.isLt

theorem text_injective : Function.Injective text := by
  intro guid other same
  apply BitVec.eq_of_toNat_eq
  rw [← number_text guid, same, number_text]

/-- The digit at a place shows the four bits at this place, counted from the highest. -/
theorem getElem?_hexadecimal {place : Nat} (within : place < 32) :
    (hexadecimal guid)[place]? =
      some (Nat.digitChar (guid.extractLsb' (4 * (31 - place)) 4).toNat) := by
  rw [hexadecimal, List.getElem?_map, Numeral.getElem?_digits within, Option.map_some,
    BitVec.extractLsb'_toNat, Nat.shiftRight_eq_div_pow, Nat.pow_mul]

/-! ### Bits -/

theorem getLsbD_ofDraw (draw : Draw) {i : Nat} (within : i < 128) :
    (ofDraw draw).getLsbD i =
      if i ∈ statedBits then decide (i = 78 ∨ i = 63) else draw.getLsbD i := by
  have drawn : drawnBits.getLsbD i = decide (i ∉ statedBits) :=
    (by decide : ∀ i < 128, drawnBits.getLsbD i = decide (i ∉ statedBits)) i within
  have fixed : fixedBits.getLsbD i = decide (i = 78 ∨ i = 63) :=
    (by decide : ∀ i < 128, fixedBits.getLsbD i = decide (i = 78 ∨ i = 63)) i within
  have apart : i = 78 ∨ i = 63 → i ∈ statedBits := by rintro (rfl | rfl) <;> decide
  rw [ofDraw, BitVec.getLsbD_or, BitVec.getLsbD_and, drawn, fixed]
  by_cases stated : i ∈ statedBits
  · simp [stated]
  · simp [stated, mt apart stated]

theorem ofDraw_eq_ofDraw_iff {draw other : Draw} :
    ofDraw draw = ofDraw other ↔ ∀ i ∈ freeBits, draw.getLsbD i = other.getLsbD i := by
  constructor
  · intro same i free
    obtain ⟨within, free⟩ := List.mem_filter.mp free
    have bit := congrArg (BitVec.getLsbD · i) same
    simpa [getLsbD_ofDraw _ (List.mem_range.mp within), of_decide_eq_true free] using bit
  · intro agree
    apply BitVec.eq_of_getLsbD_eq
    intro i within
    rw [getLsbD_ofDraw draw within, getLsbD_ofDraw other within]
    split
    · rfl
    · next free =>
      exact agree i (List.mem_filter.mpr ⟨List.mem_range.mpr within, decide_eq_true free⟩)

theorem text_ofDraw_eq_iff {draw other : Draw} :
    text (ofDraw draw) = text (ofDraw other) ↔
      ∀ i ∈ freeBits, draw.getLsbD i = other.getLsbD i :=
  text_injective.eq_iff.trans ofDraw_eq_ofDraw_iff

theorem stated_bit (draw : Draw) {start i : Nat} (low : i < 4) (stated : start + i ∈ statedBits) :
    ((ofDraw draw).extractLsb' start 4).getLsbD i = decide (start + i = 78 ∨ start + i = 63) := by
  have within : start + i < 128 := (by decide : ∀ j ∈ statedBits, j < 128) _ stated
  rw [BitVec.getLsbD_extractLsb', getLsbD_ofDraw draw within, if_pos stated, decide_eq_true low,
    Bool.true_and]

theorem version_digit (draw : Draw) : (bare (text (ofDraw draw)))[12]? = some '4' := by
  have four : ∀ bits : BitVec 4, bits.getLsbD 3 = false → bits.getLsbD 2 = true →
      bits.getLsbD 1 = false → bits.getLsbD 0 = false → Nat.digitChar bits.toNat = '4' := by decide
  have bit (i : Nat) (low : i < 4) (stated : 76 + i ∈ statedBits) := stated_bit draw low stated
  rw [bare_text, getElem?_hexadecimal (by decide), Option.some_inj]
  exact four _ (bit 3 (by decide) (by decide)) (bit 2 (by decide) (by decide))
    (bit 1 (by decide) (by decide)) (bit 0 (by decide) (by decide))

theorem variant_digit (draw : Draw) :
    ∃ c ∈ ['8', '9', 'a', 'b'], (bare (text (ofDraw draw)))[16]? = some c := by
  have eight : ∀ bits : BitVec 4, bits.getLsbD 3 = true → bits.getLsbD 2 = false →
      Nat.digitChar bits.toNat ∈ ['8', '9', 'a', 'b'] := by decide
  have bit (i : Nat) (low : i < 4) (stated : 60 + i ∈ statedBits) := stated_bit draw low stated
  rw [bare_text, getElem?_hexadecimal (by decide)]
  exact ⟨_, eight _ (bit 3 (by decide) (by decide)) (bit 2 (by decide) (by decide)), rfl⟩

/-- A GUID is written for the next draw, in 36 characters: digits of base 16 in lower case in
groups of 8, 4, 4, 4 and 12, the thirteenth one `4` and the seventeenth one of `8`, `9`, `a` and `b`.
Without the dashes it is the number of the draw, the highest bits first, in which four bits are set
to the version and two to the variant. So two draws are shown alike exactly if their other bits
agree. -/
theorem text_ofDraw_shows_draw (draw : Draw) :
    (∀ (context : Context) (draft : Draft),
      (Token.directive .guid).render context draft =
        { text := draft.text ++ String.ofList (text (ofDraw draft.draws.head))
          draws := draft.draws.advance 1 }) ∧
    ((text (ofDraw draw)).length = 36 ∧
      ((text (ofDraw draw)).splitOn '-').map List.length = [8, 4, 4, 4, 12] ∧
      (∀ c ∈ bare (text (ofDraw draw)), c ∈ alphabet) ∧
      (bare (text (ofDraw draw)))[12]? = some '4' ∧
      ∃ c ∈ ['8', '9', 'a', 'b'], (bare (text (ofDraw draw)))[16]? = some c) ∧
    (number (text (ofDraw draw)) = (ofDraw draw).toNat ∧
      ∀ i < 128, (ofDraw draw).getLsbD i =
        if i ∈ statedBits then decide (i = 78 ∨ i = 63) else draw.getLsbD i) ∧
    (freeBits.length = 122 ∧
      ∀ other : Draw, text (ofDraw draw) = text (ofDraw other) ↔
        ∀ i ∈ freeBits, draw.getLsbD i = other.getLsbD i) := by
  refine ⟨fun _ _ => rfl, ⟨length_text _, map_length_splitOn_text _, fun c member => ?digits,
    version_digit draw, variant_digit draw⟩, ⟨number_text _, fun i => getLsbD_ofDraw draw⟩,
    rfl, fun other => text_ofDraw_eq_iff⟩
  case digits =>
    rw [bare_text] at member
    exact mem_alphabet_of_mem_hexadecimal member

theorem text_ofDraw_shows_draw_counted_bytes :
    ∃ draw other : Draw,
      String.ofList (text (ofDraw draw)) = "00112233-4455-4677-8899-aabbccddeeff" ∧
      ('f' ∈ bare (text (ofDraw draw)) ∧ 'f' ∈ alphabet) ∧
      (draw.getLsbD 77 = true ∧ (ofDraw draw).getLsbD 77 = false) ∧
      draw ≠ other ∧ (∀ i ∈ freeBits, draw.getLsbD i = other.getLsbD i) ∧
      text (ofDraw draw) = text (ofDraw other) := by
  let draw : Draw := 0x00112233445566778899aabbccddeeff
  let other : Draw := 0x00112233445596774899aabbccddeeff
  obtain ⟨-, ⟨-, -, digits, -⟩, ⟨-, bits⟩, -, alike⟩ := text_ofDraw_shows_draw draw
  have member : 'f' ∈ bare (text (ofDraw draw)) := by decide
  have agree : ∀ i ∈ freeBits, draw.getLsbD i = other.getLsbD i := by decide +kernel
  exact ⟨draw, other, by decide, ⟨member, digits 'f' member⟩, ⟨by decide, bits 77 (by decide)⟩,
    by decide, agree, (alike other).mpr agree⟩

end InventoryIds.Guid
