import InventoryIds.Proofs.Base36
import InventoryIds.Proofs.Fragments
import InventoryIds.Proofs.Guids

/-!
# Estimated lengths

All that is made of an instant, of an ordinal or of a draw is written in characters of one byte
(`Directive.singleByte_shown`). An identifier is therefore as long as its format is estimated to be,
but for the digits of an ordinal that are too many for its width (`utf8ByteSize_render`).
-/

namespace InventoryIds

theorem utf8ByteSize_join (parts : List String) :
    (String.join parts).utf8ByteSize = (parts.map String.utf8ByteSize).sum := by
  induction parts with
  | nil => rfl
  | cons part parts ih =>
    rw [String.join_cons, String.utf8ByteSize_append, ih, List.map_cons, List.sum_cons]

/-! ### Digits -/

theorem utf8Size_of_isDigit {c : Char} (digit : c.isDigit) : c.utf8Size = 1 := by
  obtain ⟨d, small, rfl⟩ := Numeral.digitChar_of_isDigit digit
  exact (by decide : ∀ d < 10, (Nat.digitChar d).utf8Size = 1) d small

namespace Numeral

theorem singleByte_padded (width n : Nat) : SingleByte (padded width n) :=
  fun _ member => utf8Size_of_isDigit (isDigit_of_mem_padded member)

end Numeral

theorem Guid.singleByte_text (guid : BitVec 128) : SingleByte (text guid) := by
  intro c member
  rcases mem_text member with rfl | digit
  · rfl
  · have sizes : alphabet.all fun d => d.utf8Size = 1 := by decide
    exact of_decide_eq_true (List.all_eq_true.mp sizes c digit)

/-! ### Dates -/

theorem singleByte_yearText (year : Int) : SingleByte (yearText year) := by
  unfold yearText
  split
  · exact Numeral.singleByte_padded 4 _
  · refine List.forall_mem_cons.mpr ⟨?_, Numeral.singleByte_padded 4 _⟩
    split <;> rfl

theorem DatePattern.utf8Size_mark {pattern : DatePattern} {c : Char}
    (member : .mark c ∈ pattern.fields) : c.utf8Size = 1 := by
  have mark : c = '-' ∨ c = '.' := by
    cases pattern <;> simp [fields] at member <;> simp [member]
  rcases mark with rfl | rfl <;> rfl

theorem DateField.singleByte_text {time : CivilTime} {field : DateField}
    (mark : ∀ c, field = .mark c → c.utf8Size = 1) : SingleByte (field.text time) := by
  cases field with
  | year => exact singleByte_yearText time.year
  | mark c => exact List.forall_mem_singleton.mpr (mark c rfl)
  | _ => exact Numeral.singleByte_padded 2 _

theorem DatePattern.singleByte_text (pattern : DatePattern) (now : Instant) :
    SingleByte (pattern.text now) := by
  intro c member
  obtain ⟨field, listed, inside⟩ := List.mem_flatMap.mp member
  refine DateField.singleByte_text (fun mark same => ?_) c inside
  exact utf8Size_mark (same ▸ listed)

/-! ### Tokens -/

theorem Directive.singleByte_shown (context : Context) (draw : Draw) (directive : Directive) :
    SingleByte (directive.shown context draw) := by
  cases directive with
  | random code => exact Base36.singleByte_encode _ _
  | guid => exact Guid.singleByte_text _
  | date pattern => exact pattern.singleByte_text context.now
  | sequence width => exact Numeral.singleByte_padded _ _

namespace Token

/-- The digits of an ordinal that are too many for the width that a token pads it to. -/
def overrun (ordinal : Nat) : Token → Nat
  | directive (.sequence width) => (Nat.toDigits 10 ordinal).length - width.minDigits
  | _ => 0

theorem shownAt_directive (context : Context) (draw : Draw) (d : Directive) :
    (directive d).shownAt context.now context.ordinal draw =
      String.ofList (d.shown context draw) := by
  cases d <;> rfl

theorem shownLength_eq (ordinal : Nat) (d : Directive) :
    d.shownLength ordinal =
      (directive d).estimatedLength + (directive d).overrun ordinal := by
  cases d with
  | sequence width =>
    simp only [Directive.shownLength, estimatedLength, overrun]
    omega
  | _ => rfl

theorem utf8ByteSize_shownAt {context : Context} (fourDigits : context.now.FourDigitYear)
    (draw : Draw) (token : Token) :
    (token.shownAt context.now context.ordinal draw).utf8ByteSize =
      token.estimatedLength + token.overrun context.ordinal := by
  cases token with
  | literal text => rfl
  | directive d =>
    rw [shownAt_directive, (d.singleByte_shown context draw).utf8ByteSize,
      d.length_shown fourDigits, shownLength_eq]

theorem overrun_eq_zero_iff {ordinal : Nat} {token : Token} :
    token.overrun ordinal = 0 ↔
      ∀ width, token = .directive (.sequence width) →
        (Nat.toDigits 10 ordinal).length ≤ width.minDigits := by
  cases token with
  | literal text => exact iff_of_true rfl nofun
  | directive d =>
    cases d with
    | sequence width => simp [overrun, Nat.sub_eq_zero_iff_le]
    | _ => exact iff_of_true rfl nofun

end Token

/-! ### Identifiers -/

theorem utf8ByteSize_join_fragmentsOf {context : Context}
    (fourDigits : context.now.FourDigitYear) (tokens : List Token) (draws : Feed Draw) :
    (String.join (fragmentsOf context tokens draws)).utf8ByteSize =
      (tokens.map fun token => token.estimatedLength + token.overrun context.ordinal).sum := by
  rw [utf8ByteSize_join]
  induction tokens generalizing draws with
  | nil => rfl
  | cons token tokens ih =>
    rw [fragmentsOf_cons, List.map_cons, List.sum_cons, ih,
      token.utf8ByteSize_shownAt fourDigits, List.map_cons, List.sum_cons]

namespace Format

def overrun (format : Format) (ordinal : Nat) : Nat :=
  (format.tokens.map (Token.overrun ordinal)).sum

theorem overrun_eq_zero_iff {format : Format} {ordinal : Nat} :
    format.overrun ordinal = 0 ↔
      ∀ width, .directive (.sequence width) ∈ format.tokens →
        (Nat.toDigits 10 ordinal).length ≤ width.minDigits := by
  rw [overrun, List.sum_eq_zero_iff, List.forall_mem_map]
  simp only [Token.overrun_eq_zero_iff]
  exact ⟨fun fits width member => fits _ member width rfl,
    fun fits token member width same => fits width (same ▸ member)⟩

/-- An identifier takes the bytes that are expected of its format, and those of the digits that its
ordinal has too many. So no more are expected than it takes, and just as many if the ordinal fits
into every width. -/
theorem utf8ByteSize_render {context : Context} (fourDigits : context.now.FourDigitYear)
    (format : Format) (draws : Feed Draw) :
    (format.render context draws).1.utf8ByteSize =
      format.estimatedLength + format.overrun context.ordinal ∧
    format.estimatedLength ≤ (format.render context draws).1.utf8ByteSize ∧
    ((format.render context draws).1.utf8ByteSize = format.estimatedLength ↔
      ∀ width, .directive (.sequence width) ∈ format.tokens →
        (Nat.toDigits 10 context.ordinal).length ≤ width.minDigits) := by
  have size : (format.render context draws).1.utf8ByteSize =
      format.estimatedLength + format.overrun context.ordinal := by
    rw [render_eq_join_fragments, fragments, utf8ByteSize_join_fragmentsOf fourDigits,
      List.sum_map_add]
    rfl
  refine ⟨size, ?_, ?_⟩
  · omega
  · rw [← overrun_eq_zero_iff, size]
    omega

theorem utf8ByteSize_render_outgrown :
    ∃ (now : Instant) (short long : Context) (format : Format) (draws : Feed Draw),
      now.FourDigitYear ∧ short.now = now ∧ long.now = now ∧
      (short.ordinal = 10 ∧ long.ordinal = 1000) ∧
      (format.render long draws).1 = "ü2N9C-14.11.2023-1000/01000" ∧
      format.estimatedLength = 26 ∧ format.overrun long.ordinal = 2 ∧
      (format.render long draws).1.utf8ByteSize = 28 ∧
      (format.render short draws).1.utf8ByteSize = 26 := by
  let now : Instant := ⟨1700000000, 0⟩
  let format : Format :=
    ⟨[.literal "ü", .directive (.random .twenty), .literal "-", .directive (.date .dotted),
      .literal "-", .directive (.sequence (.explicit 2)), .literal "/",
      .directive (.sequence .standard)]⟩
  let short : Context := .commit ⟨7⟩ now (some 9)
  let long : Context := .commit ⟨7⟩ now (some 999)
  let draws : Feed Draw := .const 123456
  have fourDigits : now.FourDigitYear := by decide
  have longYear : long.now.FourDigitYear := fourDigits
  have shortYear : short.now.FourDigitYear := fourDigits
  have longSize := (utf8ByteSize_render longYear format draws).1
  have shortSize := (utf8ByteSize_render shortYear format draws).1
  exact ⟨now, short, long, format, draws, fourDigits, rfl, rfl, ⟨rfl, rfl⟩, by decide, by decide,
    by decide, longSize.trans (by decide), shortSize.trans (by decide)⟩

end Format
end InventoryIds
