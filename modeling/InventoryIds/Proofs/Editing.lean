import Mathlib.Data.List.InsertIdx
import Mathlib.Data.List.Perm.Subperm
import InventoryIds.Format.Editing
import InventoryIds.Proofs.Admission

/-!
# Edited formats

A step of an editor adds one token within the limits, moves or drops tokens, gathers them, or
starts over (`apply_cases`). So a format that is put together in such steps keeps the limits
whatever the steps come to, and is refused for no other reason than an opening brace in a literal
that was added (`validate_applyAll`).
-/

namespace InventoryIds

theorem swapNext_perm {α : Type} (position : Nat) (list : List α) :
    (swapNext position list).Perm list := by
  fun_induction swapNext position list with
  | case1 a b rest => exact .swap a b rest
  | case2 position a rest ih => exact ih.cons a
  | case3 => exact .refl _

namespace Format
variable {format next : Format} {policy : Policy}

/-! ### Moves -/

theorem remove_eq_some_iff {position : UInt64} {token : Token} :
    format.remove position = some (token, next) ↔
      format.tokens[position.toNat]? = some token ∧
        next = ⟨format.tokens.eraseIdx position.toNat⟩ := by
  unfold remove
  split
  · rename_i found
    rw [found, Option.some.injEq, Option.some.injEq, Prod.mk.injEq]
    exact and_congr_right' eq_comm
  · rename_i missing
    simp [missing]

theorem moveUp_eq_some_iff {position : UInt64} :
    format.moveUp position = some next ↔
      0 < position.toNat ∧ position.toNat < format.length ∧
        next = ⟨swapNext (position.toNat - 1) format.tokens⟩ := by
  have first : position = 0 ↔ position.toNat = 0 := UInt64.toNat_inj.symm
  unfold moveUp
  split
  · rename_i still
    rw [first] at still
    exact iff_of_false nofun fun all => by omega
  · rename_i moves
    rw [first] at moves
    have positive : 0 < position.toNat := by omega
    rw [toNat_sub_one positive, Option.some.injEq, eq_comm]
    exact ⟨fun same => ⟨positive, by omega, same⟩, fun all => all.2.2⟩

theorem moveDown_eq_some_iff {position : UInt64} :
    format.moveDown position = .ok (some next) ↔
      position.toNat + 1 < UInt64.size ∧ position.toNat + 1 < format.length ∧
        next = ⟨swapNext position.toNat format.tokens⟩ := by
  unfold moveDown Position.behind
  by_cases room : position.toNat + 1 < UInt64.size
  · rw [if_pos room, ok_bind, toNat_add_one room]
    split
    · rename_i last
      exact iff_of_false nofun fun all => Nat.not_le_of_lt all.2.1 last
    · rename_i inside
      rw [pure_eq_ok_iff, Option.some.injEq, eq_comm]
      exact ⟨fun same => ⟨room, Nat.lt_of_not_le inside, same⟩, fun all => all.2.2⟩
  · rw [if_neg room, error_bind]
    exact iff_of_false nofun fun all => room all.1

/-- Where a token ends up that is taken out and put in front of the one at `target`. -/
def placeFor (source target : Nat) : Nat := if source < target then target - 1 else target

theorem toNat_place (source target : UInt64) :
    (if source < target then target - 1 else target).toNat =
      placeFor source.toNat target.toNat := by
  unfold placeFor
  by_cases front : source < target
  · have less := UInt64.lt_iff_toNat_lt.mp front
    rw [if_pos front, if_pos less, toNat_sub_one (Nat.zero_lt_of_lt less)]
  · rw [if_neg front, if_neg (mt UInt64.lt_iff_toNat_lt.mpr front)]

theorem placeFor_eq_source_iff {source target : Nat} :
    placeFor source target = source ↔ target = source ∨ target = source + 1 := by
  unfold placeFor
  split <;> omega

theorem placeFor_le_length_eraseIdx {α : Type} {list : List α} {source target : Nat}
    (sourceInside : source < list.length) (inside : target < list.length) :
    placeFor source target ≤ (list.eraseIdx source).length := by
  have shorter := List.length_eraseIdx_add_one sourceInside
  unfold placeFor
  split <;> omega

theorem moveTo_eq_some_iff {source target : UInt64} :
    format.moveTo source target = some next ↔
      target.toNat ≠ source.toNat ∧ target.toNat ≠ source.toNat + 1 ∧
        target.toNat < format.length ∧ ∃ token, format.tokens[source.toNat]? = some token ∧
          next = ⟨(format.tokens.eraseIdx source.toNat).insertIdx
            (placeFor source.toNat target.toNat) token⟩ := by
  have same : source = target ↔ source.toNat = target.toNat := UInt64.toNat_inj.symm
  have number := toNat_place source target
  unfold moveTo
  dsimp only
  generalize (if source < target then target - 1 else target) = place at number
  have back : place = source ↔ target.toNat = source.toNat ∨ target.toNat = source.toNat + 1 := by
    rw [← UInt64.toNat_inj, number, placeFor_eq_source_iff]
  split
  · rename_i still
    rw [same] at still
    refine iff_of_false nofun fun ⟨elsewhere, _, inside, token, found, _⟩ => ?_
    have sourceInside : source.toNat < format.length := (List.getElem?_eq_some_iff.mp found).1
    omega
  rename_i apart
  rw [same] at apart
  split
  · rename_i stays
    rw [back] at stays
    exact iff_of_false nofun fun all => by omega
  rename_i moves
  rw [back] at moves
  cases removed : format.remove source with
  | none =>
    refine iff_of_false nofun fun ⟨_, _, _, token, found, _⟩ => ?_
    have taken := remove_eq_some_iff.mpr ⟨found, rfl⟩
    rw [removed] at taken
    cases taken
  | some result =>
    obtain ⟨token, rest⟩ := result
    obtain ⟨found, rfl⟩ := remove_eq_some_iff.mp removed
    rw [number, Option.some.injEq]
    constructor
    · rintro rfl
      exact ⟨by omega, by omega, by omega, token, found, rfl⟩
    · rintro ⟨-, -, -, other, foundOther, rfl⟩
      rw [Option.some.inj (found.symm.trans foundOther)]

theorem perm_of_moveUp {position : UInt64} (moved : format.moveUp position = some next) :
    next.tokens.Perm format.tokens := by
  obtain ⟨-, -, rfl⟩ := moveUp_eq_some_iff.mp moved
  exact swapNext_perm _ _

theorem perm_of_moveDown {position : UInt64} (moved : format.moveDown position = .ok (some next)) :
    next.tokens.Perm format.tokens := by
  obtain ⟨-, -, rfl⟩ := moveDown_eq_some_iff.mp moved
  exact swapNext_perm _ _

theorem perm_of_moveTo {source target : UInt64} (moved : format.moveTo source target = some next) :
    next.tokens.Perm format.tokens := by
  obtain ⟨-, -, inside, token, found, rfl⟩ := moveTo_eq_some_iff.mp moved
  obtain ⟨sourceInside, rfl⟩ := List.getElem?_eq_some_iff.mp found
  have behind := placeFor_le_length_eraseIdx sourceInside inside
  exact (List.perm_insertIdx _ _ behind).trans (List.getElem_cons_eraseIdx_perm sourceInside)

/-! ### Steps -/

end Format

def Edit.added? : Edit → Option Token
  | push token => some token
  | pushKind kind => some (Token.standard kind)
  | _ => none

namespace Format
variable {format next : Format} {policy : Policy}

theorem added_snd (format : Format) (outcome : Except FormatError Format) :
    (format.added outcome).2 = format ∨ outcome = .ok (format.added outcome).2 := by
  cases outcome with
  | ok next => exact .inr rfl
  | error error => exact .inl rfl

theorem moved_snd (format : Format) (outcome : Option Format) :
    (format.moved outcome).2 = format ∨ outcome = some (format.moved outcome).2 := by
  cases outcome with
  | some next => exact .inr rfl
  | none => exact .inl rfl

/-- A step drops or moves tokens, or leaves them; or it adds one within the limits, gathers the
tokens, or starts over. -/
theorem apply_cases (policy : Policy) (format : Format) (edit : Edit) :
    (format.apply policy edit).2.tokens.Subperm format.tokens ∨
    (∃ token, edit.added? = some token ∧
      format.push token policy = .ok (format.apply policy edit).2) ∨
    (format.apply policy edit).2 = format.normalized ∨
    edit = .reset ∧ (format.apply policy edit).2 = standard := by
  have unchanged : format.tokens.Subperm format.tokens := .refl _
  cases edit with
  | push token =>
    rcases added_snd format (format.push token policy) with same | pushed
    · exact .inl (same.symm ▸ unchanged)
    · exact .inr (.inl ⟨token, rfl, pushed⟩)
  | pushKind kind =>
    rcases added_snd format (format.pushKind kind policy) with same | pushed
    · exact .inl (same.symm ▸ unchanged)
    · exact .inr (.inl ⟨_, rfl, pushed⟩)
  | remove position =>
    left
    rw [apply]
    split
    · rename_i removed
      obtain ⟨-, rfl⟩ := remove_eq_some_iff.mp removed
      exact (List.eraseIdx_sublist _ _).subperm
    · exact unchanged
  | moveUp position =>
    left
    rcases moved_snd format (format.moveUp position) with same | moved
    · exact same.symm ▸ unchanged
    · exact (perm_of_moveUp moved).subperm
  | moveDown position =>
    left
    rw [apply]
    split
    · rename_i result moved
      rcases moved_snd format result with same | step
      · exact same.symm ▸ unchanged
      · exact (perm_of_moveDown (moved.trans (congrArg Except.ok step))).subperm
    · exact unchanged
  | moveTo source target =>
    left
    rcases moved_snd format (format.moveTo source target) with same | moved
    · exact same.symm ▸ unchanged
    · exact (perm_of_moveTo moved).subperm
  | normalize => exact .inr (.inr (.inl rfl))
  | reset => exact .inr (.inr (.inr ⟨rfl, rfl⟩))

/-! ### Limits along a run -/

theorem push_eq_ok_iff {token : Token} :
    format.push token policy = .ok next ↔
      (token.kind ≠ .text → format.count token.kind + 1 ≤ policy.maxPerKind.toNat) ∧
        format.length + 1 ≤ policy.maxTokens.toNat ∧ next = ⟨format.tokens ++ [token]⟩ := by
  unfold push
  dsimp only
  have directive : token.kind.isDirective ↔ token.kind ≠ .text := by
    simp [Kind.isDirective]
  simp only [directive]
  constructor
  · intro pushed
    split at pushed
    · cases pushed
    rename_i fits
    split at pushed
    · cases pushed
    rename_i short
    obtain rfl := Except.ok.inj pushed
    exact ⟨fun kind => Nat.le_of_not_lt fun tooMany => fits ⟨kind, tooMany⟩,
      Nat.le_of_not_lt short, rfl⟩
  · rintro ⟨fits, short, rfl⟩
    rw [if_neg fun tooMany => Nat.not_lt_of_le (fits tooMany.1) tooMany.2,
      if_neg (Nat.not_lt_of_le short)]

theorem count_concat (format : Format) (token : Token) (kind : Kind) :
    count ⟨format.tokens ++ [token]⟩ kind =
      format.count kind + if token.kind = kind then 1 else 0 := by
  simp [count, List.countP_append, List.countP_cons]

theorem Within.push {token : Token} (within : format.Within policy)
    (pushed : format.push token policy = .ok next) : next.Within policy := by
  obtain ⟨fits, short, rfl⟩ := push_eq_ok_iff.mp pushed
  constructor
  · intro kind directive
    rw [count_concat]
    split
    · rename_i same
      subst same
      exact fits directive
    · exact within.perKind kind directive
  · exact (List.length_append ..).trans_le short

theorem Within.of_subperm (within : format.Within policy)
    (fewer : next.tokens.Subperm format.tokens) : next.Within policy where
  perKind kind directive := (fewer.countP_le _).trans (within.perKind kind directive)
  total := fewer.length_le.trans within.total

theorem Within.normalized (within : format.Within policy) : format.normalized.Within policy where
  perKind kind directive := by
    rw [count_normalized _ directive]
    exact within.perKind kind directive
  total := (length_normalized_le format).trans within.total

theorem within_empty (policy : Policy) : empty.Within policy where
  perKind _ _ := Nat.zero_le _
  total := Nat.zero_le _

theorem within_standard (perKind : 1 ≤ policy.maxPerKind) (total : 2 ≤ policy.maxTokens) :
    standard.Within policy where
  perKind kind _ := by
    have most : standard.count kind ≤ 1 := by cases kind <;> decide
    exact most.trans (UInt64.le_iff_toNat_le.mp perKind)
  total := UInt64.le_iff_toNat_le.mp total

theorem within_apply {edit : Edit} (within : format.Within policy)
    (room : edit = .reset → 1 ≤ policy.maxPerKind ∧ 2 ≤ policy.maxTokens) :
    (format.apply policy edit).2.Within policy := by
  rcases apply_cases policy format edit with fewer | ⟨token, -, pushed⟩ | gathered | ⟨reset, anew⟩
  · exact within.of_subperm fewer
  · exact within.push pushed
  · exact gathered ▸ within.normalized
  · exact anew ▸ within_standard (room reset).1 (room reset).2

theorem within_applyAll {edits : List Edit} (within : format.Within policy)
    (room : .reset ∈ edits → 1 ≤ policy.maxPerKind ∧ 2 ≤ policy.maxTokens) :
    (format.applyAll policy edits).Within policy := by
  induction edits generalizing format with
  | nil => exact within
  | cons edit edits ih =>
    have next : (format.apply policy edit).2.Within policy :=
      within_apply within fun reset => room (reset ▸ List.mem_cons_self)
    exact ih next fun reset => room (List.mem_cons_of_mem _ reset)

/-! ### Opening braces along a run -/

theorem BraceFree.concat {token : Token} (free : format.BraceFree) (added : token.BraceFree) :
    BraceFree ⟨format.tokens ++ [token]⟩ := by
  intro other member
  rcases List.mem_append.mp member with old | fresh
  · exact free other old
  · obtain rfl := List.mem_singleton.mp fresh
    exact added

theorem BraceFree.apply {edit : Edit} (free : format.BraceFree)
    (added : ∀ token ∈ edit.added?, token.BraceFree) :
    (format.apply policy edit).2.BraceFree := by
  rcases apply_cases policy format edit with fewer | ⟨token, adds, pushed⟩ | gathered | ⟨-, anew⟩
  · exact fun token member => free token (fewer.subset member)
  · obtain ⟨-, -, next⟩ := push_eq_ok_iff.mp pushed
    exact next ▸ free.concat (added token adds)
  · exact gathered ▸ braceFree_normalized.mpr free
  · rw [anew]
    decide

theorem BraceFree.applyAll {edits : List Edit} (free : format.BraceFree)
    (added : ∀ edit ∈ edits, ∀ token ∈ edit.added?, token.BraceFree) :
    (format.applyAll policy edits).BraceFree := by
  induction edits generalizing format with
  | nil => exact free
  | cons edit edits ih =>
    obtain ⟨first, later⟩ := List.forall_mem_cons.mp added
    exact ih (free.apply first) later

theorem exists_brace_of_added {edit : Edit} {token : Token} (adds : token ∈ edit.added?)
    (taken : ¬token.BraceFree) : ∃ text, edit = .push (.literal text) ∧ '{' ∈ text.toList := by
  cases edit with
  | push pushed =>
    obtain rfl := Option.some.inj adds
    cases pushed with
    | literal text => exact ⟨text, rfl, not_not.mp taken⟩
    | directive d => exact absurd trivial taken
  | pushKind kind =>
    obtain rfl := Option.some.inj adds
    cases kind <;> exact absurd (by decide) taken
  | _ => cases adds

theorem exists_brace_of_applyAll {edits : List Edit} (free : format.BraceFree)
    (taken : ¬(format.applyAll policy edits).BraceFree) :
    ∃ text, .push (.literal text) ∈ edits ∧ '{' ∈ text.toList := by
  by_contra none
  refine taken (free.applyAll fun edit member token adds => ?_)
  by_contra brace
  obtain ⟨text, rfl, inside⟩ := exists_brace_of_added adds brace
  exact none ⟨text, member, inside⟩

/-- A format that is put together step by step is never refused for its size, whatever the steps
come to: it is admitted, unless a literal that was added holds an opening brace. -/
theorem validate_applyAll {policy : Policy} {edits : List Edit}
    (room : .reset ∈ edits → 1 ≤ policy.maxPerKind ∧ 2 ≤ policy.maxTokens) :
    (∀ error, (empty.applyAll policy edits).validate policy = .error error →
      error.isLimitError = false) ∧
    ((empty.applyAll policy edits).validate policy = .ok () ∨
      ∃ text offset, .push (.literal text) ∈ edits ∧ '{' ∈ text.toList ∧
        (empty.applyAll policy edits).validate policy =
          .error (.invalidArgument .text offset .reservedCharacter)) := by
  have within := within_applyAll (within_empty policy) room
  by_cases free : (empty.applyAll policy edits).BraceFree
  · have admitted := validate_eq_ok_iff.mpr ⟨free, within⟩
    rw [admitted]
    exact ⟨nofun, .inl rfl⟩
  · obtain ⟨text, added, brace⟩ := exists_brace_of_applyAll (by decide) free
    obtain ⟨before, first, found⟩ := exists_firstTaken free
    rw [validate_of_firstTaken found]
    refine ⟨?_, .inr ⟨text, _, added, brace, rfl⟩⟩
    rintro error same
    obtain rfl := Except.error.inj same
    rfl

theorem validate_applyAll_refused_steps :
    ∃ (policy : Policy) (edits : List Edit),
      (.reset ∈ edits → 1 ≤ policy.maxPerKind ∧ 2 ≤ policy.maxTokens) ∧
      empty.applyAll policy edits =
        ⟨[.directive .guid, .directive (.sequence .standard), .literal "ITEM-\x7b"]⟩ ∧
      (empty.applyAll policy edits).validate policy =
        .error (.invalidArgument .text 11 .reservedCharacter) ∧
      ∀ error, (empty.applyAll policy edits).validate policy = .error error →
        error.isLimitError = false := by
  let policy : Policy := { maxPerKind := 1, maxTokens := 3 }
  let edits : List Edit :=
    [.pushKind .guid, .reset, .push (.literal "\x7b"), .moveTo 1 0, .pushKind .sequence,
      .moveDown 7, .normalize, .pushKind .guid, .pushKind .date, .remove 3,
      .moveUp 0, .moveTo 2 0]
  have room : .reset ∈ edits → 1 ≤ policy.maxPerKind ∧ 2 ≤ policy.maxTokens := by decide
  exact ⟨policy, edits, room, by decide, by decide, (validate_applyAll room).1⟩

end Format
end InventoryIds
