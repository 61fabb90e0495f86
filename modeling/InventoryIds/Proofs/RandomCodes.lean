import Mathlib.Data.Int.CardIntervalMod
import Mathlib.Data.Set.Card
import InventoryIds.Rendering
import InventoryIds.Proofs.Base36

/-!
# Random codes as they are shown

A random code writes the lowest bits of a drawn word, all of them and nothing else. So two words
make one code exactly if they agree in these bits (`ofWord_eq_ofWord_iff`), and every code is made
of equally many words (`ofWord_uniform`).
-/

namespace InventoryIds.RandomCode

def wordsOf (code : RandomCode) (text : List Char) : Set UInt64 :=
  {word | code.ofWord word = text}

variable {code : RandomCode}

theorem toNat_and_mask (code : RandomCode) (word : UInt64) :
    (word &&& code.mask).toNat = word.toNat % 2 ^ code.bits := by
  have mask : code.mask.toNat = 2 ^ code.bits - 1 := by cases code <;> rfl
  rw [UInt64.toNat_and, mask, Nat.and_two_pow_sub_one_eq_mod]

theorem width_le_maxWidth (code : RandomCode) : code.width ≤ Base36.maxWidth := by
  cases code <;> decide

theorem bits_le (code : RandomCode) : code.bits ≤ 64 := by
  cases code <;> decide

theorem length_ofWord (code : RandomCode) (word : UInt64) :
    (code.ofWord word).length = code.width := by
  rw [ofWord, Base36.length_encode, Nat.min_eq_left code.width_le_maxWidth]

/-- The lowest bits of a word fit into the width of the code, so no digit of theirs is dropped. -/
theorem toNat_and_mask_lt (code : RandomCode) (word : UInt64) :
    (word &&& code.mask).toNat < 36 ^ code.width := by
  rw [toNat_and_mask]
  exact Nat.lt_of_lt_of_le (Nat.mod_lt _ (Nat.two_pow_pos _)) (Base36.leastWidth_least _).1

theorem number_ofWord (code : RandomCode) (word : UInt64) :
    Base36.number (code.ofWord word) = word.toNat % 2 ^ code.bits := by
  rw [ofWord, Base36.number_encode_of_fits (.inr (toNat_and_mask_lt code word)), toNat_and_mask]

theorem ofWord_eq_ofWord_iff {first second : UInt64} :
    code.ofWord first = code.ofWord second ↔ first.toNat ≡ second.toNat [MOD 2 ^ code.bits] := by
  constructor
  · intro same
    rw [Nat.ModEq, ← number_ofWord, same, number_ofWord]
  · intro congruent
    have masked : first &&& code.mask = second &&& code.mask := by
      apply UInt64.toNat_inj.mp
      rw [toNat_and_mask, toNat_and_mask, congruent]
    rw [ofWord, masked, ofWord]

/-! ### How many words make a code -/

theorem image_toNat_wordsOf (code : RandomCode) (word : UInt64) :
    UInt64.toNat '' code.wordsOf (code.ofWord word) =
      {n ∈ Finset.range (2 ^ 64) | n ≡ word.toNat [MOD 2 ^ code.bits]} := by
  ext n
  rw [Set.mem_image, Finset.mem_coe, Finset.mem_filter, Finset.mem_range]
  constructor
  · rintro ⟨other, same, rfl⟩
    exact ⟨other.toNat_lt, ofWord_eq_ofWord_iff.mp same⟩
  · rintro ⟨word_size, congruent⟩
    have value : (UInt64.ofNat n).toNat = n := UInt64.toNat_ofNat_of_lt' word_size
    exact ⟨.ofNat n, ofWord_eq_ofWord_iff.mpr (by rwa [value]), value⟩

theorem ncard_wordsOf (code : RandomCode) (word : UInt64) :
    (code.wordsOf (code.ofWord word)).ncard = 2 ^ (64 - code.bits) := by
  have divides : 2 ^ code.bits ∣ 2 ^ 64 := Nat.pow_dvd_pow 2 code.bits_le
  rw [← Set.ncard_image_of_injective _ fun _ _ => UInt64.toNat_inj.mp, image_toNat_wordsOf,
    Set.ncard_coe_finset, ← Nat.count_eq_card_filter_range,
    Nat.count_modEq_card _ (Nat.two_pow_pos _), Nat.mod_eq_zero_of_dvd divides, if_neg (by omega),
    Nat.pow_div code.bits_le (by decide), Nat.add_zero]

theorem image_number_range (code : RandomCode) :
    Base36.number '' Set.range code.ofWord = Finset.range (2 ^ code.bits) := by
  ext n
  rw [← Set.range_comp, Set.mem_range, Finset.mem_coe, Finset.mem_range]
  constructor
  · rintro ⟨word, rfl⟩
    rw [Function.comp_apply, number_ofWord]
    exact Nat.mod_lt _ (Nat.two_pow_pos _)
  · intro less
    have word_size : n < 2 ^ 64 :=
      Nat.lt_of_lt_of_le less (Nat.pow_le_pow_right (by decide) code.bits_le)
    refine ⟨.ofNat n, ?_⟩
    rw [Function.comp_apply, number_ofWord, UInt64.toNat_ofNat_of_lt' word_size,
      Nat.mod_eq_of_lt less]

theorem ncard_range_ofWord (code : RandomCode) :
    (Set.range code.ofWord).ncard = 2 ^ code.bits := by
  have apart : Set.InjOn Base36.number (Set.range code.ofWord) := by
    rintro _ ⟨first, rfl⟩ _ ⟨second, rfl⟩ same
    rw [number_ofWord, number_ofWord] at same
    exact ofWord_eq_ofWord_iff.mpr same
  rw [← apart.ncard_image, image_number_range, Set.ncard_coe_finset, Finset.card_range]

/-- A random code writes what it makes of the next draw: as many of the digits `0`–`9` and `A`–`Z`
as the least width for its bits, and these digits write the lowest bits of the drawn word. Two words
make one code exactly if they agree in these bits. So there are as many codes as numbers of that
many bits, and equally many words make each of them. -/
theorem ofWord_uniform (code : RandomCode) :
    (∀ (context : Context) (draft : Draft),
      (Token.directive (.random code)).render context draft =
        { text := draft.text ++ String.ofList (code.ofWord draft.draws.head.word)
          draws := draft.draws.advance 1 }) ∧
    (Base36.widthForBits? code.bits = some code.width ∧ 2 ^ code.bits ≤ 36 ^ code.width ∧
      ∀ width < code.width, 36 ^ width < 2 ^ code.bits) ∧
    (∀ word : UInt64,
      (code.ofWord word).length = code.width ∧
      (∀ c ∈ code.ofWord word, c ∈ Base36.alphabet) ∧
      Base36.number (code.ofWord word) = word.toNat % 2 ^ code.bits ∧
      (word &&& code.mask).toNat < 36 ^ code.width) ∧
    (∀ first second : UInt64,
      code.ofWord first = code.ofWord second ↔ first.toNat ≡ second.toNat [MOD 2 ^ code.bits]) ∧
    (Set.range code.ofWord).ncard = 2 ^ code.bits ∧
    ∀ text ∈ Set.range code.ofWord, (code.wordsOf text).ncard = 2 ^ (64 - code.bits) := by
  refine ⟨fun _ _ => rfl, ⟨if_pos code.bits_le, Base36.leastWidth_least _⟩, fun word => ?text,
    fun _ _ => ofWord_eq_ofWord_iff, ncard_range_ofWord code, ?words⟩
  case text =>
    exact ⟨length_ofWord code word, fun c member => Base36.mem_alphabet_of_mem_encode member,
      number_ofWord code word, toNat_and_mask_lt code word⟩
  case words =>
    rintro _ ⟨word, rfl⟩
    exact ncard_wordsOf code word

theorem ofWord_uniform_twenty_bits :
    ∃ (code : RandomCode) (word other : UInt64) (text : List Char),
      code.bits = 20 ∧ text = ['M', 'H', '3', '3'] ∧ word ≠ other ∧
      code.ofWord word = text ∧ code.ofWord other = text ∧
      ('M' ∈ code.ofWord word ∧ 'M' ∈ Base36.alphabet) ∧
      (3 < code.width ∧ 36 ^ 3 < 2 ^ code.bits) ∧
      (text ∈ Set.range code.ofWord ∧ (code.wordsOf text).ncard = 2 ^ 44) := by
  let word : UInt64 := 18446744073709551615
  let other : UInt64 := 1048575
  obtain ⟨-, ⟨-, -, shorter⟩, texts, -, -, words⟩ := ofWord_uniform twenty
  have member : 'M' ∈ twenty.ofWord word := by decide
  have narrow : 3 < twenty.width := by decide
  have made : ['M', 'H', '3', '3'] ∈ Set.range twenty.ofWord := ⟨word, by decide⟩
  exact ⟨twenty, word, other, _, rfl, rfl, by decide, by decide, by decide,
    ⟨member, (texts word).2.1 'M' member⟩, ⟨narrow, shorter 3 narrow⟩, ⟨made, words _ made⟩⟩

end InventoryIds.RandomCode
