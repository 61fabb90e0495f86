import InventoryIds.Proofs.Rendering

/-!
# Identifiers part by part

A token writes its part of an identifier behind what has been written. The part is made of the
instant, of the ordinal and of the draw that the token is handed. An identifier is its parts one
behind the other (`render_eq_join_fragments`), so that a format is rendered behind another one with
the draws that this one has left (`render_part_by_part`).
-/

namespace InventoryIds

/-! ### Texts at an instant -/

/-- What a token shows at an instant for an ordinal, if this draw is handed to it. -/
def Token.shownAt (now : Instant) (ordinal : Nat) (draw : Draw) : Token → String
  | literal text => text
  | directive (.random code) => String.ofList (code.ofWord draw.word)
  | directive .guid => String.ofList (Guid.text (Guid.ofDraw draw))
  | directive (.date pattern) => String.ofList (pattern.text now)
  | directive (.sequence width) => String.ofList (Numeral.padded width.minDigits ordinal)

/-- The draws that tokens take: one for every random code, and one for every GUID. -/
def drawsOf (tokens : List Token) : Nat :=
  tokens.countP fun token => token.kind = .random ∨ token.kind = .guid

/-- What tokens show, one behind the other. A token is handed the draw behind those that the
tokens in front of it take. -/
def shownTokensAt (now : Instant) (ordinal : Nat) (tokens : List Token) (draws : Feed Draw) :
    String :=
  String.join (tokens.mapIdx fun place token =>
    token.shownAt now ordinal (draws.advance (drawsOf (tokens.take place))).head)

variable {now : Instant} {context : Context}

theorem Token.draws_iff (token : Token) :
    token.draws = decide (token.kind = .random ∨ token.kind = .guid) := by
  rcases token with text | directive
  · rfl
  · cases directive <;> rfl

theorem drawsOf_eq_countP (tokens : List Token) : drawsOf tokens = tokens.countP Token.draws :=
  List.countP_congr fun token _ => by rw [token.draws_iff]

theorem drawsOf_cons (token : Token) (tokens : List Token) :
    drawsOf (token :: tokens) = token.draws.toNat + drawsOf tokens := by
  rw [drawsOf_eq_countP, drawsOf_eq_countP, toNat_add_countP]

theorem drawsOf_append (left right : List Token) :
    drawsOf (left ++ right) = drawsOf left + drawsOf right :=
  List.countP_append

/-- The first token is handed the first draw, and the others begin behind what it takes. -/
theorem shownTokensAt_cons (ordinal : Nat) (token : Token) (tokens : List Token)
    (draws : Feed Draw) :
    shownTokensAt now ordinal (token :: tokens) draws =
      token.shownAt now ordinal draws.head ++
        shownTokensAt now ordinal tokens (draws.advance token.draws.toNat) := by
  have behind (place : Nat) :
      draws.advance (drawsOf ((token :: tokens).take (place + 1))) =
        (draws.advance token.draws.toNat).advance (drawsOf (tokens.take place)) := by
    rw [List.take_succ_cons, drawsOf_cons, Feed.advance_advance]
  rw [shownTokensAt, List.mapIdx_cons, String.join_cons]
  simp only [behind]
  rfl

theorem Token.shownAt_of_kind_ne {token : Token} (other : token.kind ≠ .sequence)
    (first second : Nat) (draw : Draw) :
    token.shownAt now first draw = token.shownAt now second draw := by
  rcases token with text | directive
  · rfl
  · cases directive with
    | sequence width => exact absurd rfl other
    | _ => rfl

theorem Format.hasSequence_iff_mem {format : Format} :
    format.hasSequence ↔ .sequence ∈ format.tokens.map Token.kind := by
  simp [hasSequence]

theorem shownTokensAt_of_not_mem {tokens : List Token}
    (silent : .sequence ∉ tokens.map Token.kind) (first second : Nat) (draws : Feed Draw) :
    shownTokensAt now first tokens draws = shownTokensAt now second tokens draws := by
  induction tokens generalizing draws with
  | nil => rfl
  | cons token tokens ih =>
    obtain ⟨head, tail⟩ := not_or.mp fun member => silent (List.mem_cons.mpr member)
    rw [shownTokensAt_cons, shownTokensAt_cons,
      Token.shownAt_of_kind_ne (Ne.symm head) first second, ih tail]

/-! ### Parts -/

/-- A token writes behind what has been written, whatever that is, and takes its draw. -/
theorem Token.render_eq_shownAt (draft : Draft) (token : Token) :
    token.render context draft =
      { text := draft.text ++ token.shownAt context.now context.ordinal draft.draws.head
        draws := draft.draws.advance token.draws.toNat } := by
  rcases token with text | directive
  · rfl
  · cases directive <;> rfl

theorem fragmentsOf_cons (token : Token) (tokens : List Token) (draws : Feed Draw) :
    fragmentsOf context (token :: tokens) draws =
      token.shownAt context.now context.ordinal draws.head ::
        fragmentsOf context tokens (draws.advance token.draws.toNat) := by
  rw [fragmentsOf, token.render_eq_shownAt, String.empty_append]

theorem fragmentsOf_append (left right : List Token) (draws : Feed Draw) :
    fragmentsOf context (left ++ right) draws =
      fragmentsOf context left draws ++
        fragmentsOf context right (draws.advance (drawsOf left)) := by
  induction left generalizing draws with
  | nil => rfl
  | cons token left ih =>
    rw [List.cons_append, fragmentsOf_cons, fragmentsOf_cons, ih, Feed.advance_advance,
      drawsOf_cons, List.cons_append]

theorem join_fragmentsOf (tokens : List Token) (draws : Feed Draw) :
    String.join (fragmentsOf context tokens draws) =
      shownTokensAt context.now context.ordinal tokens draws := by
  induction tokens generalizing draws with
  | nil => rfl
  | cons token tokens ih => rw [fragmentsOf_cons, String.join_cons, ih, shownTokensAt_cons]

theorem foldl_render_eq_join (tokens : List Token) (draft : Draft) :
    tokens.foldl (Token.render context) draft =
      { text := draft.text ++ String.join (fragmentsOf context tokens draft.draws)
        draws := draft.draws.advance (drawsOf tokens) } := by
  -- On the tokens, for every draft: a token leaves another text and other draws to those behind it.
  induction tokens generalizing draft with
  | nil =>
    have empty : draft.text ++ String.join [] = draft.text := String.append_empty
    rw [fragmentsOf, empty]
    rfl
  | cons token tokens ih =>
    rw [List.foldl_cons, ih, token.render_eq_shownAt, fragmentsOf_cons, String.join_cons,
      drawsOf_cons, Feed.advance_advance, String.append_assoc]

namespace Format

theorem render_eq_join_fragments (format : Format) (draws : Feed Draw) :
    format.render context draws =
      (String.join (format.fragments context draws), draws.advance (drawsOf format.tokens)) := by
  rw [render, renderInto, foldl_render_eq_join, String.empty_append]
  rfl

theorem render_fst (format : Format) (draws : Feed Draw) :
    (format.render context draws).1 =
      shownTokensAt context.now context.ordinal format.tokens draws := by
  rw [render_eq_join_fragments]
  exact join_fragmentsOf format.tokens draws

/-- Tokens behind others are rendered behind them, with the draws that these leave. An identifier
is what its tokens write, one after the other. What a token writes is made of the instant, of the
ordinal and of the next draw, and comes behind what has been written. A random code or a GUID takes
this draw, any other token takes none. -/
theorem render_part_by_part (context : Context) (left right : Format) (draws : Feed Draw) :
    render ⟨left.tokens ++ right.tokens⟩ context draws =
      ((left.render context draws).1 ++
          (right.render context (draws.advance (drawsOf left.tokens))).1,
        (right.render context (draws.advance (drawsOf left.tokens))).2) ∧
    left.render context draws =
      (String.join (left.fragments context draws),
        { draws with taken := draws.taken + drawsOf left.tokens }) ∧
    ∀ (token : Token) (draft : Draft),
      (token.render context { draws := draft.draws }).text =
        token.shownAt context.now context.ordinal draft.draws.head ∧
      token.render context draft =
        { text := draft.text ++ (token.render context { draws := draft.draws }).text
          draws := { draft.draws with taken := draft.draws.taken +
            if token.kind = .random ∨ token.kind = .guid then 1 else 0 } } := by
  refine ⟨?concatenated, render_eq_join_fragments left draws, fun token draft => ?appended⟩
  case concatenated =>
    rw [render_eq_join_fragments, render_eq_join_fragments, render_eq_join_fragments, fragments,
      fragmentsOf_append, String.join_append, drawsOf_append, Feed.advance_advance]
    rfl
  case appended =>
    have taken : token.draws.toNat =
        if token.kind = .random ∨ token.kind = .guid then 1 else 0 := by
      rw [token.draws_iff]
      split <;> rename_i drawn <;> simp [drawn]
    rw [token.render_eq_shownAt, token.render_eq_shownAt, String.empty_append, taken]
    exact ⟨rfl, rfl⟩

end Format
end InventoryIds
