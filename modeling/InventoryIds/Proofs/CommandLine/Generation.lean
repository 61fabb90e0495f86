import InventoryIds.CommandLine.Run
import InventoryIds.Proofs.Admission
import InventoryIds.Proofs.CallEffects

/-!
# Generating identifiers

Identifiers that are made in a row show one ordinal after the other (`identifiers_fst`). An
invocation is accepted exactly if its numbers are in range, and what is put out then begins with
the ordinal that it starts with, whatever the inventory (`run_generate`).
-/

namespace InventoryIds

/-! ### Identifiers in a row -/

namespace Mint
variable {σ : Type} [CounterStore σ]

theorem identifiers_succ_fst (mint : Mint σ) (inventory : InventoryId) (format : Format) (n : Nat) :
    (mint.identifiers inventory format (n + 1)).1 =
      (mint.generateFormat inventory format).1 ::
        ((mint.generateFormat inventory format).2.identifiers inventory format n).1 := by
  rw [identifiers, collect_succ]
  rfl

variable [LawfulCounterStore σ]

theorem generateFormat_fst (mint : Mint σ) (inventory : InventoryId) (format : Format) :
    (mint.generateFormat inventory format).1 =
      shownTokensAt mint.clock.head ((mint.counter inventory).toNat + 1) format.tokens
        mint.draws := by
  rw [generateFormat_eq, nextIdentifier_eq]

theorem counter_generateFormat (mint : Mint σ) (inventory : InventoryId) {format : Format}
    (shows : format.hasSequence) :
    ((mint.generateFormat inventory format).2.counter inventory).toNat =
      ((mint.counter inventory).toNat + 1) % 2 ^ 64 := by
  have moved := Call.current?_reserveShown mint.store inventory inventory format
  rw [if_pos ⟨rfl, shows⟩] at moved
  rw [generateFormat_eq]
  exact (congrArg (fun c => (c.getD 0).toNat) moved).trans (UInt64.toNat_add _ _)

/-- Behind one identifier, the ordinals go on where it has left the counter. -/
theorem shownTokensAt_generateFormat (mint : Mint σ) (inventory : InventoryId) (format : Format)
    (now : Instant) (k : Nat) (draws : Feed Draw) :
    shownTokensAt now
        ((((mint.generateFormat inventory format).2.counter inventory).toNat + k) % 2 ^ 64 + 1)
        format.tokens draws =
      shownTokensAt now (((mint.counter inventory).toNat + (k + 1)) % 2 ^ 64 + 1)
        format.tokens draws := by
  by_cases shows : format.hasSequence
  · rw [counter_generateFormat mint inventory shows, Nat.mod_add_mod, Nat.add_assoc,
      Nat.add_comm 1 k]
  · -- The counter stays where it is, but no token shows it.
    exact shownTokensAt_of_not_mem (mt Format.hasSequence_iff_mem.mpr shows) _ _ _

/-- Identifiers in a row begin with the ordinal behind the counter, and go on from there; each has
its own reading of the clock and its own draws. -/
theorem identifiers_fst (mint : Mint σ) (inventory : InventoryId) (format : Format) (n : Nat) :
    (mint.identifiers inventory format n).1 = (List.range n).map fun k =>
      shownTokensAt (mint.clock.advance k).head (((mint.counter inventory).toNat + k) % 2 ^ 64 + 1)
        format.tokens (mint.draws.advance (k * format.draws)) := by
  induction n generalizing mint with
  | zero => rfl
  | succ n ih =>
    have small : ((mint.counter inventory).toNat + 0) % 2 ^ 64 = (mint.counter inventory).toNat :=
      Nat.mod_eq_of_lt (UInt64.toNat_lt _)
    have clock : (mint.generateFormat inventory format).2.clock = mint.clock.advance 1 := by
      rw [generateFormat_eq]
      rfl
    have draws : (mint.generateFormat inventory format).2.draws =
        mint.draws.advance format.draws := by
      rw [generateFormat_eq]
      rfl
    rw [identifiers_succ_fst, ih, generateFormat_fst, List.range_succ_eq_map, List.map_cons,
      List.map_map]
    refine congrArg₂ List.cons ?first (List.map_congr_left fun k _ => ?later)
    case first =>
      rw [small, Nat.zero_mul, Feed.advance_zero, Feed.advance_zero]
    case later =>
      rw [shownTokensAt_generateFormat, clock, draws, Feed.advance_advance, Feed.advance_advance,
        Function.comp_apply, Nat.succ_mul, Nat.add_comm 1, Nat.add_comm format.draws]

end Mint

/-! ### Ordinals in place -/

/-- A token as it is written, with the ordinal in place of a sequence. -/
def Token.numbered (ordinal : Nat) : Token → String
  | directive (.sequence width) => String.ofList (Numeral.padded width.minDigits ordinal)
  | token => token.canonical

def Format.numbered (format : Format) (ordinal : Nat) : String :=
  String.join (format.tokens.map (Token.numbered ordinal))

theorem Token.shownAt_eq_numbered {token : Token}
    (plain : token.kind = .text ∨ token.kind = .sequence) (now : Instant) (ordinal : Nat)
    (draw : Draw) : token.shownAt now ordinal draw = token.numbered ordinal := by
  rcases token with text | directive
  · rfl
  · cases directive with
    | sequence width => rfl
    | _ => simp [kind, Directive.kind] at plain

theorem shownTokensAt_eq_numbered {tokens : List Token}
    (plain : ∀ token ∈ tokens, token.kind = .text ∨ token.kind = .sequence) (now : Instant)
    (ordinal : Nat) (draws : Feed Draw) :
    shownTokensAt now ordinal tokens draws = Format.numbered ⟨tokens⟩ ordinal := by
  induction tokens generalizing draws with
  | nil => rfl
  | cons token tokens ih =>
    obtain ⟨head, tail⟩ := List.forall_mem_cons.mp plain
    rw [shownTokensAt_cons, ih tail, Token.shownAt_eq_numbered head, Format.numbered,
      Format.numbered, List.map_cons, String.join_cons]

theorem Format.numbered_eq_canonical {format : Format}
    (silent : .sequence ∉ format.tokens.map Token.kind) (ordinal : Nat) :
    format.numbered ordinal = format.canonical := by
  refine congrArg String.join (List.map_congr_left fun token member => ?_)
  rcases token with text | directive
  · rfl
  · cases directive with
    | sequence width => exact absurd (List.mem_map_of_mem member) silent
    | _ => rfl

/-! ### Invocations -/

namespace CommandLine

theorem checkLimits_eq_ok_iff {limits : Policy} :
    checkLimits limits = .ok () ↔ 1 ≤ limits.maxPerKind.toNat ∧
      limits.maxPerKind.toNat ≤ limits.maxTokens.toNat := by
  have zero (n : UInt64) : n = 0 ↔ n.toNat = 0 := UInt64.toNat_inj.symm
  unfold checkLimits
  simp only [zero, UInt64.lt_iff_toNat_lt]
  split_ifs <;> simp <;> omega

theorem seedOf_eq_ok_iff {start seed : Option UInt64} :
    seedOf start = .ok seed ↔
      (∀ number, start = some number → 1 ≤ number.toNat) ∧ seed = start.map (· - 1) := by
  cases start with
  | none => simp [seedOf, eq_comm]
  | some number =>
    by_cases zero : number = 0
    · simp [seedOf, zero]
    · have positive : 1 ≤ number.toNat := by
        have apart : number.toNat ≠ 0 := fun same => zero (UInt64.toNat_inj.mp same)
        omega
      simp [seedOf, zero, positive, eq_comm]

variable {limits : Policy} {text : String} {inventory : InventoryId} {count : Nat}
  {start : Option UInt64}

theorem ofCommand_generate_eq_ok_iff {action : Action} :
    Action.ofCommand (.generate text inventory count start) = .ok action ↔
      (1 ≤ count ∧ count ≤ 100000) ∧ (∀ number, start = some number → 1 ≤ number.toNat) ∧
        action = .generate text inventory count (start.map (· - 1)) := by
  unfold Action.ofCommand
  by_cases out : count = 0 ∨ maxCount < count
  · have outside : ¬(1 ≤ count ∧ count ≤ 100000) := by
      unfold maxCount at out
      omega
    simp only [if_pos out, reduceCtorEq, outside, false_and]
  · have inside : 1 ≤ count ∧ count ≤ 100000 := by
      unfold maxCount at out
      omega
    simp only [if_neg out, bind_eq_ok_iff, seedOf_eq_ok_iff, pure_eq_ok_iff]
    constructor
    · rintro ⟨seed, ⟨starts, rfl⟩, rfl⟩
      exact ⟨inside, starts, rfl⟩
    · rintro ⟨-, starts, rfl⟩
      exact ⟨_, ⟨starts, rfl⟩, rfl⟩

theorem ofInvocation_generate_eq_ok_iff {config : Config} :
    Config.ofInvocation ⟨limits, .generate text inventory count start⟩ = .ok config ↔
      ((1 ≤ limits.maxPerKind.toNat ∧ limits.maxPerKind.toNat ≤ limits.maxTokens.toNat) ∧
        (1 ≤ count ∧ count ≤ 100000) ∧ ∀ number, start = some number → 1 ≤ number.toNat) ∧
      config = ⟨limits, .generate text inventory count (start.map (· - 1))⟩ := by
  simp only [Config.ofInvocation, bind_eq_ok_iff, ofCommand_generate_eq_ok_iff, pure_eq_ok_iff]
  constructor
  · rintro ⟨⟨⟩, sensible, action, ⟨counted, starts, rfl⟩, rfl⟩
    exact ⟨⟨checkLimits_eq_ok_iff.mp sensible, counted, starts⟩, rfl⟩
  · rintro ⟨⟨sensible, counted, starts⟩, rfl⟩
    exact ⟨(), checkLimits_eq_ok_iff.mpr sensible, _, ⟨counted, starts, rfl⟩, rfl⟩

/-! ### What is put out -/

theorem toNat_seed (starts : ∀ number, start = some number → 1 ≤ number.toNat) :
    ((start.map (· - 1)).getD 0).toNat = (start.getD 1).toNat - 1 := by
  cases start with
  | none => rfl
  | some number => exact UInt64.toNat_sub_of_le _ _ (UInt64.le_iff_toNat_le.mpr (starts number rfl))

section
variable {σ : Type} [CounterStore σ]

/-- The mint with the counter of an inventory set, if there is a number to set it to. -/
def startingAt (mint : Mint σ) (inventory : InventoryId) (seed : Option UInt64) : Mint σ :=
  { mint with store := seed.elim mint.store (CounterStore.restore mint.store inventory) }

theorem counter_startingAt [LawfulCounterStore σ] (mint : Mint σ) (inventory : InventoryId)
    (seed : Option UInt64) :
    (startingAt mint inventory seed).counter inventory = seed.getD (mint.counter inventory) := by
  cases seed with
  | none => rfl
  | some number =>
    show (CounterStore.current? (CounterStore.restore mint.store inventory number)
      inventory).getD 0 = number
    rw [LawfulCounterStore.current?_restore, if_pos rfl, Option.getD_some]

theorem generate_eq (mint : Mint σ) (text : String) (inventory : InventoryId) (count : Nat)
    (seed : Option UInt64) :
    generate mint text inventory count seed = (mint.compile text >>= fun format => .ok
      { output := "\n".intercalate
          ((startingAt mint inventory seed).identifiers inventory format count).1
        success := true }) := by
  cases seed <;> rfl

end

/-- The mint that commands are carried out with, which has no counters. -/
def freshMint (limits : Policy) (clock : Feed Instant) (draws : Feed Draw) : Mint CounterTable :=
  { policy := limits, store := CounterTable.empty, clock, draws }

theorem counter_freshMint (limits : Policy) (inventory : InventoryId) (clock : Feed Instant)
    (draws : Feed Draw) : (freshMint limits clock draws).counter inventory = 0 :=
  congrArg (·.getD 0) (LawfulCounterStore.current?_empty (σ := CounterTable) inventory)

theorem run_generate_eq (limits : Policy) (text : String) (inventory : InventoryId) (count : Nat)
    (seed : Option UInt64) (clock : Feed Instant) (draws : Feed Draw) :
    run ⟨limits, .generate text inventory count seed⟩ clock draws =
      (Format.compile text limits >>= fun format => .ok
        { output := "\n".intercalate ((startingAt (freshMint limits clock draws) inventory
            seed).identifiers inventory format count).1
          success := true }) :=
  generate_eq (freshMint limits clock draws) text inventory count seed

theorem run_generate_of_plain {format : Format}
    (compiled : Format.compile text limits = .ok format)
    (plain : ∀ token ∈ format.tokens, token.kind = .text ∨ token.kind = .sequence)
    (inventory : InventoryId) (count : Nat)
    (starts : ∀ number, start = some number → 1 ≤ number.toNat) (clock : Feed Instant)
    (draws : Feed Draw) :
    run ⟨limits, .generate text inventory count (start.map (· - 1))⟩ clock draws = .ok
      { output := "\n".intercalate ((List.range count).map fun k =>
          format.numbered (((start.getD 1).toNat - 1 + k) % 2 ^ 64 + 1))
        success := true } := by
  have texts := Mint.identifiers_fst
    (startingAt (freshMint limits clock draws) inventory (start.map (· - 1))) inventory format count
  simp only [shownTokensAt_eq_numbered plain, counter_startingAt, counter_freshMint,
    toNat_seed starts] at texts
  rw [run_generate_eq, compiled, ok_bind, texts]

/-- An invocation is accepted exactly if its numbers are in range. If its format is refused, there
is no output; if it holds nothing but literals and ordinals, the output is one identifier to a
line, from the ordinal on that was asked for, or from the first one. Behind the last ordinal comes
the first, and a format without ordinals gives its text over and over. -/
theorem run_generate (limits : Policy) (text : String) (inventory : InventoryId) (count : Nat)
    (start : Option UInt64) :
    ((∃ config, Config.ofInvocation ⟨limits, .generate text inventory count start⟩ = .ok config) ↔
      (1 ≤ limits.maxPerKind.toNat ∧ limits.maxPerKind.toNat ≤ limits.maxTokens.toNat) ∧
      (1 ≤ count ∧ count ≤ 100000) ∧ ∀ number, start = some number → 1 ≤ number.toNat) ∧
    ∀ config, Config.ofInvocation ⟨limits, .generate text inventory count start⟩ = .ok config →
      ∀ (clock : Feed Instant) (draws : Feed Draw),
        (∀ error, Format.compile text limits = .error error →
          run config clock draws = .error error) ∧
        ∀ format, Format.compile text limits = .ok format →
          (∀ token ∈ format.tokens, token.kind = .text ∨ token.kind = .sequence) →
          run config clock draws = .ok
            { output := "\n".intercalate ((List.range count).map fun k =>
                format.numbered (((start.getD 1).toNat - 1 + k) % 2 ^ 64 + 1))
              success := true } ∧
          (∀ context others,
            (format.render context others).1 = format.numbered context.ordinal) ∧
          (.sequence ∉ format.tokens.map Token.kind → run config clock draws = .ok
            { output := "\n".intercalate (List.replicate count text), success := true }) := by
  constructor
  · simp only [ofInvocation_generate_eq_ok_iff, exists_and_left, exists_eq, and_true]
  · intro config accepted clock draws
    obtain ⟨⟨-, -, starts⟩, rfl⟩ := ofInvocation_generate_eq_ok_iff.mp accepted
    constructor
    · intro error refused
      rw [run_generate_eq, refused, error_bind]
    · intro format compiled plain
      have output := run_generate_of_plain compiled plain inventory count starts clock draws
      refine ⟨output, fun context others => ?_, fun silent => ?_⟩
      · rw [Format.render_fst, shownTokensAt_eq_numbered plain]
      · have written := (Format.parse_eq_ok_iff.mp (Format.compile_eq_ok_iff.mp compiled).1).1
        rw [output]
        simp only [Format.numbered_eq_canonical silent, written, List.map_const',
          List.length_range]

theorem run_generate_past_last_ordinal :
    ∃ config refused silent : Config,
      Config.ofInvocation
        ⟨{}, .generate "A\x7bSEQ:2\x7d" ⟨7⟩ 3 (some 18446744073709551615)⟩ = .ok config ∧
      run config (.const ⟨0, 0⟩) (.const 0) =
        .ok ⟨"A18446744073709551615\nA18446744073709551616\nA01", true⟩ ∧
      Config.ofInvocation ⟨{}, .generate "A\x7bSEQ" ⟨7⟩ 3 none⟩ = .ok refused ∧
      run refused (.const ⟨0, 0⟩) (.const 0) = .error (.malformedDirective 1) ∧
      Config.ofInvocation ⟨{}, .generate "a\x7d" ⟨7⟩ 2 none⟩ = .ok silent ∧
      run silent (.const ⟨0, 0⟩) (.const 0) = .ok ⟨"a\x7d\na\x7d", true⟩ := by
  obtain ⟨accepts, runs⟩ :=
    run_generate {} "A\x7bSEQ:2\x7d" ⟨7⟩ 3 (some 18446744073709551615)
  obtain ⟨acceptsRefused, runsRefused⟩ := run_generate {} "A\x7bSEQ" ⟨7⟩ 3 none
  obtain ⟨acceptsSilent, runsSilent⟩ := run_generate {} "a\x7d" ⟨7⟩ 2 none
  have starts : ∀ number, some (18446744073709551615 : UInt64) = some number →
      1 ≤ number.toNat := by
    rintro _ ⟨⟩
    decide
  obtain ⟨config, accepted⟩ := accepts.mpr ⟨by decide, by decide, starts⟩
  obtain ⟨refused, acceptedRefused⟩ := acceptsRefused.mpr ⟨by decide, by decide, nofun⟩
  obtain ⟨silent, acceptedSilent⟩ := acceptsSilent.mpr ⟨by decide, by decide, nofun⟩
  have numbered := ((runs config accepted (.const ⟨0, 0⟩) (.const 0)).2
    ⟨[.literal "A", .directive (.sequence (.explicit 2))]⟩ rfl (by decide)).1
  have literal := ((runsSilent silent acceptedSilent (.const ⟨0, 0⟩) (.const 0)).2
    ⟨[.literal "a\x7d"]⟩ rfl (by decide)).2.2 (by decide)
  exact ⟨config, refused, silent, accepted, numbered.trans (by decide), acceptedRefused,
    (runsRefused refused acceptedRefused _ _).1 _ rfl, acceptedSilent, literal⟩

end CommandLine
end InventoryIds
