import InventoryIds.Proofs.CallEffects

/-!
# Previews and identifiers

A preview and the identifier that would be made instead have the same parts, but for the ordinals:
the preview shows the first one, and the identifier that of the counter. Before anything is
reserved they are the same text (`preview_side_by_side`).
-/

namespace InventoryIds

/-- The parts that two renderings have for the tokens of a format: one shows the ordinal `first`
and the other one `second`, and where no ordinal is shown the parts are the same. -/
inductive SideBySide (first second : Nat) : List Token → List String → List String → Prop
  | nil : SideBySide first second [] [] []
  | same {token : Token} {part : String} {tokens : List Token} {parts others : List String}
      (silent : token.kind ≠ .sequence) (behind : SideBySide first second tokens parts others) :
      SideBySide first second (token :: tokens) (part :: parts) (part :: others)
  | ordinal {width : OrdinalWidth} {tokens : List Token} {parts others : List String}
      (behind : SideBySide first second tokens parts others) :
      SideBySide first second (.directive (.sequence width) :: tokens)
        (String.ofList (Numeral.padded width.minDigits first) :: parts)
        (String.ofList (Numeral.padded width.minDigits second) :: others)

theorem SideBySide.eq {ordinal : Nat} {tokens : List Token} {parts others : List String}
    (beside : SideBySide ordinal ordinal tokens parts others) : parts = others := by
  induction beside with
  | nil => rfl
  | same silent behind ih => rw [ih]
  | ordinal behind ih => rw [ih]

/-- Two contexts at one instant give parts that differ in the ordinals only. If no ordinal is
shown, it does not matter which ordinals the contexts have. -/
theorem sideBySide_fragmentsOf {left right : Context} {first second : Nat} {tokens : List Token}
    (instant : left.now = right.now)
    (leftOrdinal : .sequence ∈ tokens.map Token.kind → left.ordinal = first)
    (rightOrdinal : .sequence ∈ tokens.map Token.kind → right.ordinal = second)
    (draws : Feed Draw) :
    SideBySide first second tokens (fragmentsOf left tokens draws)
      (fragmentsOf right tokens draws) := by
  induction tokens generalizing draws with
  | nil => exact .nil
  | cons token tokens ih =>
    have behind := ih (fun later => leftOrdinal (List.mem_cons_of_mem _ later))
      (fun later => rightOrdinal (List.mem_cons_of_mem _ later))
      (draws.advance token.draws.toNat)
    rw [fragmentsOf_cons, fragmentsOf_cons]
    by_cases silent : token.kind = .sequence
    · rw [leftOrdinal (List.mem_cons.mpr (.inl silent.symm)),
        rightOrdinal (List.mem_cons.mpr (.inl silent.symm))]
      match token, silent with
      | .directive (.sequence width), _ => exact .ordinal behind
    · rw [instant, Token.shownAt_of_kind_ne silent left.ordinal right.ordinal]
      exact .same silent behind

namespace Mint
variable {σ : Type} [CounterStore σ]

/-- A preview shows what the identifier shows that would be made of the format instead, part by
part and with the ordinal 1. Nothing is different as long as nothing is reserved. -/
structure Mirrors (mint : Mint σ) (inventory : InventoryId) (format : Format)
    (preview identifier : String) : Prop where
  shown : preview = String.join (format.fragments (.preview mint.clock.head) mint.draws)
  made : identifier =
    String.join (format.fragments (mint.nextContext inventory format) mint.draws)
  parts : SideBySide 1 ((mint.counter inventory).toNat + 1) format.tokens
    (format.fragments (.preview mint.clock.head) mint.draws)
    (format.fragments (mint.nextContext inventory format) mint.draws)
  fresh : CounterStore.current? mint.store inventory = none ∨
    CounterStore.current? mint.store inventory = some 0 → preview = identifier

variable [LawfulCounterStore σ]

theorem sideBySide_nextContext (mint : Mint σ) (inventory : InventoryId) (format : Format) :
    SideBySide 1 ((mint.counter inventory).toNat + 1) format.tokens
      (format.fragments (.preview mint.clock.head) mint.draws)
      (format.fragments (mint.nextContext inventory format) mint.draws) := by
  have instant : (Context.preview mint.clock.head).now =
      (mint.nextContext inventory format).now := rfl
  refine sideBySide_fragmentsOf instant (fun _ => rfl) (fun shows => ?_) mint.draws
  exact ordinal_nextContext mint inventory (Format.hasSequence_iff_mem.mpr shows)

omit [LawfulCounterStore σ] in
theorem counter_eq_zero {mint : Mint σ} {inventory : InventoryId}
    (fresh : CounterStore.current? mint.store inventory = none ∨
      CounterStore.current? mint.store inventory = some 0) : mint.counter inventory = 0 := by
  rcases fresh with missing | zero
  · rw [counter, missing, Option.getD_none]
  · rw [counter, zero, Option.getD_some]

theorem mirrors (mint : Mint σ) (inventory : InventoryId) (format : Format) :
    mint.Mirrors inventory format (mint.sample format).1
      (mint.generateFormat inventory format).1 := by
  have shown : (mint.sample format).1 =
      String.join (format.fragments (.preview mint.clock.head) mint.draws) := by
    rw [sample, renderNow_eq, Format.render_eq_join_fragments]
  have made : (mint.generateFormat inventory format).1 =
      String.join (format.fragments (mint.nextContext inventory format) mint.draws) := by
    rw [generateFormat_eq, nextIdentifier, Format.render_eq_join_fragments]
  have parts := sideBySide_nextContext mint inventory format
  refine ⟨shown, made, parts, fun fresh => ?_⟩
  -- The first number that is reserved has the ordinal that previews show.
  rw [counter_eq_zero fresh] at parts
  rw [shown, made, parts.eq]

end Mint
end InventoryIds
