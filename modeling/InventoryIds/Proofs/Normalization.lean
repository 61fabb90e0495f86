import InventoryIds.Proofs.Admission
import InventoryIds.Proofs.Rendering

/-!
# Normalization

The normal form of a format comes of one pass over its tokens (`tokens_normalized`). It is written
and shown as the format is, and of the formats that can be written two have the same text exactly
if they have the same normal form (`canonical_eq_iff`).
-/

namespace InventoryIds

def Token.directive? : Token → Option Directive
  | literal _ => none
  | directive d => some d

def Piece.directive? : Piece → Option Directive
  | char _ => none
  | directive d => some d

theorem Token.filterMap_directive?_pieces (token : Token) :
    token.pieces.filterMap Piece.directive? = token.directive?.toList := by
  cases token with
  | literal text =>
    refine List.filterMap_eq_nil_iff.mpr fun piece member => ?_
    obtain ⟨c, -, rfl⟩ := List.mem_map.mp member
    rfl
  | directive d => rfl

/-- Joins a text to a literal at the front, or puts it there. -/
def joinText (text : String) : List Token → List Token
  | .literal front :: others => .literal (front ++ text) :: others
  | kept => .literal text :: kept

/-- Takes in a token behind those that are kept, the last of which comes first. An empty literal is
dropped, and a literal behind a literal is joined to it. -/
def takeIn (kept : List Token) : Token → List Token
  | .literal text => if text = "" then kept else joinText text kept
  | .directive d => .directive d :: kept

namespace Format

def directives (format : Format) : List Directive := format.tokens.filterMap Token.directive?

theorem directives_eq_filterMap_pieces (format : Format) :
    format.directives = format.pieces.filterMap Piece.directive? := by
  obtain ⟨tokens⟩ := format
  unfold directives pieces
  induction tokens with
  | nil => rfl
  | cons token tokens ih =>
    rw [List.flatMap_cons, List.filterMap_append, token.filterMap_directive?_pieces, ← ih]
    cases token <;> rfl

theorem directives_normalized (format : Format) :
    format.normalized.directives = format.directives := by
  rw [directives_eq_filterMap_pieces, pieces_normalized, ← directives_eq_filterMap_pieces]

theorem normalized_normalized (format : Format) :
    format.normalized.normalized = format.normalized :=
  normalized_eq_self (isNormal_ofPieces format.pieces)

/-! ### One pass over the tokens -/

/-- What is kept does not end in a literal. -/
def Closed (kept : List Token) : Prop := ∀ text others, kept ≠ .literal text :: others

theorem closed_nil : Closed [] := fun _ _ same => List.cons_ne_nil _ _ same.symm

theorem closed_directive (directive : Directive) (kept : List Token) :
    Closed (.directive directive :: kept) := by
  intro text others same
  cases (List.cons.inj same).1

theorem takeIn_literal {kept : List Token} (closed : Closed kept) (run : List Char)
    (text : String) :
    takeIn (literalOfRun run ++ kept) (.literal text) =
      literalOfRun (text.toList.reverse ++ run) ++ kept := by
  by_cases empty : text = ""
  · subst empty
    rfl
  refine (if_neg empty).trans ?_
  cases run with
  | nil =>
    rw [List.append_nil, literalOfRun_reverse empty]
    cases kept with
    | nil => rfl
    | cons token others =>
      cases token with
      | literal front => exact absurd rfl (closed front others)
      | directive d => rfl
  | cons c run =>
    have joined : String.ofList (c :: run).reverse ++ text ≠ "" := by
      simp [← String.toList_inj]
    have together := literalOfRun_reverse joined
    rw [String.toList_append, String.toList_ofList, List.reverse_append, List.reverse_reverse]
      at together
    rw [together]
    rfl

theorem reverse_literalOfRun (run : List Char) :
    (literalOfRun run).reverse = literalOfRun run := by
  cases run <;> rfl

/-- A pass over tokens behind an open run of characters gathers their pieces behind it. -/
theorem foldl_takeIn {kept : List Token} (closed : Closed kept) (run : List Char)
    (tokens : List Token) :
    (tokens.foldl takeIn (literalOfRun run ++ kept)).reverse =
      kept.reverse ++ gather run (tokens.flatMap Token.pieces) := by
  induction tokens generalizing run kept with
  | nil => rw [List.foldl_nil, List.reverse_append, reverse_literalOfRun]; rfl
  | cons token tokens ih =>
    rw [List.foldl_cons, List.flatMap_cons]
    cases token with
    | literal text =>
      rw [takeIn_literal closed, ih closed, Token.pieces, gather_append]
    | directive d =>
      have others := ih (closed_directive d (literalOfRun run ++ kept)) []
      rw [Token.pieces, List.singleton_append, gather, ← List.append_assoc]
      refine others.trans ?_
      rw [List.reverse_cons, List.reverse_append, reverse_literalOfRun]
      simp

/-- Normalization is one pass over the tokens. -/
theorem tokens_normalized (format : Format) :
    format.normalized.tokens = (format.tokens.foldl takeIn []).reverse :=
  (foldl_takeIn closed_nil [] format.tokens).symm

/-! ### Texts -/

/-- Of the formats that can be written, two have the same text exactly if they have the same normal
form. -/
theorem canonical_eq_iff {format other : Format} (free : format.BraceFree)
    (otherFree : other.BraceFree) (range : format.InRange) (otherRange : other.InRange) :
    format.canonical = other.canonical ↔ format.normalized = other.normalized := by
  have read := parse_canonical_eq_ok_iff.mpr ⟨free, range⟩
  have readOther := parse_canonical_eq_ok_iff.mpr ⟨otherFree, otherRange⟩
  constructor
  · intro same
    rw [same, readOther] at read
    exact (Except.ok.inj read).symm
  · intro same
    rw [← canonical_normalized format, same, canonical_normalized]

/-- Normalization is one pass that drops empty literals and joins neighbours. It gives a normal
format with the same directives, the same text and the same limits kept, which is rendered alike
with the same draws. What can be written is told apart by its normal form as it is by its text. -/
theorem normalized_faithful (format : Format) :
    format.normalized.tokens = (format.tokens.foldl takeIn []).reverse ∧
    format.normalized.normalized = format.normalized ∧
    format.normalized.IsNormal ∧
    format.normalized.directives = format.directives ∧
    format.normalized.canonical = format.canonical ∧
    (∀ context draws, format.normalized.render context draws = format.render context draws) ∧
    (∀ policy, format.validate policy = .ok () → format.normalized.validate policy = .ok ()) ∧
    ∀ other : Format, format.BraceFree → other.BraceFree → format.InRange → other.InRange →
      (format.canonical = other.canonical ↔ format.normalized = other.normalized) := by
  refine ⟨tokens_normalized format, normalized_normalized format, isNormal_ofPieces _,
    directives_normalized format, canonical_normalized format, render_normalized format, ?_, ?_⟩
  · intro policy admitted
    exact validate_normalized admitted
  · intro other free otherFree range otherRange
    exact canonical_eq_iff free otherFree range otherRange

theorem normalized_faithful_split_literal :
    ∃ format other : Format, format.BraceFree ∧ other.BraceFree ∧ format.InRange ∧ other.InRange ∧
      format.validate { maxTokens := 5 } = .ok () ∧
      format.normalized.validate { maxTokens := 5 } = .ok () ∧
      format.canonical = "ITEM-{SEQ:20}" ∧ other.canonical = "ITEM-{SEQ:20}" ∧
      format.normalized = other.normalized ∧
      format.normalized.directives = [.sequence (.explicit 20)] ∧
      format.normalized.tokens = [.literal "ITEM-", .directive (.sequence (.explicit 20))] := by
  let format : Format :=
    ⟨[.literal "IT", .literal "", .literal "EM-", .directive (.sequence (.explicit 20)),
      .literal ""]⟩
  let other : Format :=
    ⟨[.literal "", .literal "ITEM-", .directive (.sequence (.explicit 20))]⟩
  obtain ⟨pass, -, -, directives, -, -, limits, texts⟩ := normalized_faithful format
  exact ⟨format, other, by decide, by decide, by decide, by decide, rfl, limits _ rfl, by decide,
    by decide, (texts other (by decide) (by decide) (by decide) (by decide)).mp (by decide),
    directives, pass⟩

end Format
end InventoryIds
