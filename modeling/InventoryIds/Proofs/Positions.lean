import InventoryIds.Proofs.Editing

/-!
# Positions of edits

The steps that take positions, written out over words and lists that check what is done with them:
arithmetic stays among the words, and every access finds its place. Removing and moving to the front
or to a place pass all checks at all positions. Swapping with the next token does at all positions
but the last word, where it stops before it looks at the tokens (`edits_at_positions`).
-/

namespace InventoryIds

namespace Position
variable {α : Type} {list : List α} {position next : UInt64} {a b : α}

def before (position : UInt64) : Except PositionFault UInt64 :=
  if 0 < position.toNat then .ok (position - 1) else .error .underflow

def read (list : List α) (position : UInt64) : Except PositionFault α :=
  match list[position.toNat]? with
  | some a => .ok a
  | none => .error (.outOfBounds list.length position)

def take (list : List α) (position : UInt64) : Except PositionFault (α × List α) := do
  let a ← read list position
  return (a, list.eraseIdx position.toNat)

/-- Puts an element in front of the one at a position, or at the end. -/
def put (list : List α) (position : UInt64) (a : α) : Except PositionFault (List α) :=
  if position.toNat ≤ list.length then .ok (list.insertIdx position.toNat a)
  else .error (.outOfBounds list.length position)

/-- The position of an element that is taken out and put in front of the one at `target`. -/
def place (source target : UInt64) : Except PositionFault UInt64 :=
  if source < target then before target else .ok target

def exchange (list : List α) (first second : UInt64) : Except PositionFault (List α) := do
  let a ← read list first
  let b ← read list second
  return (list.set first.toNat b).set second.toNat a

theorem read_of_getElem? (here : list[position.toNat]? = some a) : read list position = .ok a := by
  rw [read, here]

theorem take_of_getElem? (here : list[position.toNat]? = some a) :
    take list position = .ok (a, list.eraseIdx position.toNat) := by
  rw [take, read_of_getElem? here]
  rfl

theorem swapNext_eq_set {position : Nat} (here : list[position]? = some a)
    (there : list[position + 1]? = some b) :
    swapNext position list = (list.set position b).set (position + 1) a := by
  fun_induction swapNext position list with
  | case1 first second rest =>
    obtain rfl := Option.some.inj here
    obtain rfl := Option.some.inj there
    rfl
  | case2 position first rest ih => exact congrArg (first :: ·) (ih here there)
  | case3 position rest one more =>
    -- There is an element behind the position, so one of the other cases would apply.
    obtain ⟨inside, -⟩ := List.getElem?_eq_some_iff.mp there
    cases rest with
    | nil => cases inside
    | cons first rest =>
      cases position with
      | succ position => exact absurd rfl (more position first rest rfl)
      | zero =>
        cases rest with
        | nil => cases there
        | cons second rest => exact absurd rfl (one first second rest rfl)

/-- Neighbours that are there are exchanged, whichever of them is named first. -/
theorem exchange_neighbours (adjacent : next.toNat = position.toNat + 1)
    (inside : next.toNat < list.length) :
    exchange list position next = .ok (swapNext position.toNat list) ∧
      exchange list next position = .ok (swapNext position.toNat list) := by
  obtain ⟨a, here⟩ : ∃ a, list[position.toNat]? = some a :=
    ⟨_, List.getElem?_eq_getElem (by omega)⟩
  obtain ⟨b, there⟩ : ∃ b, list[next.toNat]? = some b := ⟨_, List.getElem?_eq_getElem inside⟩
  rw [exchange, exchange, read_of_getElem? here, read_of_getElem? there]
  rw [adjacent] at there ⊢
  rw [swapNext_eq_set here there]
  exact ⟨rfl, congrArg Except.ok (List.set_comm _ _ (by omega))⟩

theorem place_eq (source target : UInt64) :
    place source target = .ok (if source < target then target - 1 else target) := by
  unfold place
  split
  · rename_i front
    have positive := Nat.zero_lt_of_lt (UInt64.lt_iff_toNat_lt.mp front)
    rw [before, if_pos positive]
  · rfl

end Position

namespace Format

def removeChecked (format : Format) (position : UInt64) :
    Except PositionFault (Option (Token × Format)) :=
  if position.toNat < format.length then do
    let (token, rest) ← Position.take format.tokens position
    return some (token, ⟨rest⟩)
  else return none

def moveUpChecked (format : Format) (position : UInt64) : Except PositionFault (Option Format) :=
  if position = 0 ∨ format.length ≤ position.toNat then return none
  else do
    let tokens ← Position.exchange format.tokens position (← Position.before position)
    return some ⟨tokens⟩

def moveDownChecked (format : Format) (position : UInt64) :
    Except PositionFault (Option Format) := do
  let next ← Position.behind position
  if format.length ≤ next.toNat then return none
  else
    let tokens ← Position.exchange format.tokens position next
    return some ⟨tokens⟩

def moveToChecked (format : Format) (source target : UInt64) :
    Except PositionFault (Option Format) :=
  if source = target ∨ format.length ≤ source.toNat ∨ format.length ≤ target.toNat then return none
  else do
    let place ← Position.place source target
    if place = source then return none
    else
      let (token, rest) ← Position.take format.tokens source
      let tokens ← Position.put rest place token
      return some ⟨tokens⟩

variable {format : Format} {position source target : UInt64}

/-! ### Removing -/

theorem removeChecked_eq (format : Format) (position : UInt64) :
    format.removeChecked position = .ok (format.remove position) := by
  unfold removeChecked remove
  by_cases inside : position.toNat < format.length
  · have here := List.getElem?_eq_getElem inside
    rw [if_pos inside, Position.take_of_getElem? here, here]
    rfl
  · rw [if_neg inside, List.getElem?_eq_none (Nat.le_of_not_lt inside)]
    rfl

theorem remove_eq_none_iff : format.remove position = none ↔ format.length ≤ position.toNat := by
  unfold remove length
  split
  · rename_i token here
    obtain ⟨inside, -⟩ := List.getElem?_eq_some_iff.mp here
    exact iff_of_false (Option.some_ne_none _) (Nat.not_le_of_lt inside)
  · rename_i missing
    exact iff_of_true rfl (List.getElem?_eq_none_iff.mp missing)

/-! ### Moving to a neighbour -/

theorem moveUpChecked_eq (format : Format) (position : UInt64) :
    format.moveUpChecked position = .ok (format.moveUp position) := by
  unfold moveUpChecked moveUp
  by_cases still : position = 0 ∨ format.length ≤ position.toNat
  · rw [if_pos still, if_pos still]
    rfl
  · rw [if_neg still, if_neg still]
    obtain ⟨first, inside⟩ := not_or.mp still
    have positive : 0 < position.toNat :=
      Nat.pos_of_ne_zero fun zero => first (UInt64.toNat_inj.mp zero)
    have front := toNat_sub_one positive
    have swapped : Position.exchange format.tokens position (position - 1) =
        .ok (swapNext (position - 1).toNat format.tokens) :=
      (Position.exchange_neighbours (by omega) (Nat.lt_of_not_le inside)).2
    rw [Position.before, if_pos positive, ok_bind, swapped]
    rfl

theorem moveUp_eq_none_iff :
    format.moveUp position = none ↔ position = 0 ∨ format.length ≤ position.toNat := by
  unfold moveUp
  split
  · rename_i still
    exact iff_of_true rfl still
  · rename_i moves
    exact iff_of_false (Option.some_ne_none _) moves

theorem moveDownChecked_eq (format : Format) (position : UInt64) :
    format.moveDownChecked position = format.moveDown position := by
  unfold moveDownChecked moveDown Position.behind
  by_cases room : position.toNat + 1 < UInt64.size
  · have next := toNat_add_one room
    rw [if_pos room, ok_bind, ok_bind]
    by_cases last : format.length ≤ (position + 1).toNat
    · rw [if_pos last, if_pos last]
    · rw [if_neg last, if_neg last,
        (Position.exchange_neighbours next (Nat.lt_of_not_le last)).1]
      rfl
  · rw [if_neg room]
    rfl

theorem exists_moveDown (format : Format) (room : position.toNat + 1 < UInt64.size) :
    ∃ moved, format.moveDown position = .ok moved ∧
      (moved = none ↔ format.length ≤ position.toNat + 1) := by
  unfold moveDown
  rw [Position.behind, if_pos room, ok_bind, toNat_add_one room]
  by_cases last : format.length ≤ position.toNat + 1
  · rw [if_pos last]
    exact ⟨none, rfl, iff_of_true rfl last⟩
  · rw [if_neg last]
    exact ⟨_, rfl, iff_of_false (Option.some_ne_none _) last⟩

theorem moveDown_of_last (format : Format) (last : position.toNat + 1 = UInt64.size) :
    format.moveDown position = .error .overflow := by
  rw [moveDown, Position.behind, if_neg (by omega), error_bind]

/-! ### Moving to a place -/

theorem moveToChecked_eq (format : Format) (source target : UInt64) :
    format.moveToChecked source target = .ok (format.moveTo source target) := by
  unfold moveToChecked moveTo
  by_cases still : source = target ∨ format.length ≤ source.toNat ∨ format.length ≤ target.toNat
  · rw [if_pos still, if_pos still]
    rfl
  · rw [if_neg still, if_neg still]
    obtain ⟨-, sourceInside, inside⟩ : source ≠ target ∧ source.toNat < format.length ∧
        target.toNat < format.length := by simpa using still
    have behind := placeFor_le_length_eraseIdx sourceInside inside
    rw [← toNat_place] at behind
    rw [Position.place_eq, ok_bind]
    generalize (if source < target then target - 1 else target) = place at behind
    dsimp only
    by_cases same : place = source
    · rw [if_pos same, if_pos same]
      rfl
    · have here := List.getElem?_eq_getElem sourceInside
      rw [if_neg same, if_neg same, Position.take_of_getElem? here, remove, here]
      show (Position.put _ place _ >>= _) = _
      rw [Position.put, if_pos behind]
      rfl

theorem moveTo_eq_none_iff :
    format.moveTo source target = none ↔
      format.length ≤ source.toNat ∨ format.length ≤ target.toNat ∨ target = source ∨
        target.toNat = source.toNat + 1 := by
  have same : target = source ↔ target.toNat = source.toNat := UInt64.toNat_inj.symm
  rw [same, Option.eq_none_iff_forall_ne_some]
  constructor
  · intro stays
    by_contra moves
    have sourceInside : source.toNat < format.tokens.length := Nat.lt_of_not_le (by tauto)
    have here := List.getElem?_eq_getElem sourceInside
    exact stays _ (moveTo_eq_some_iff.mpr ⟨by tauto, by tauto, by omega, _, here, rfl⟩)
  · intro still next moved
    obtain ⟨elsewhere, further, inside, token, found, -⟩ := moveTo_eq_some_iff.mp moved
    have sourceInside : source.toNat < format.length := (List.getElem?_eq_some_iff.mp found).1
    omega

end Format

/-! ### All positions -/

def EditOutcome.changes : EditOutcome → Bool
  | done | removed (some _) | moved true => true
  | refused _ | removed none | moved false | fault _ => false

namespace Format

theorem apply_of_not_changes {format : Format} {policy : Policy} {edit : Edit}
    (idle : (format.apply policy edit).1.changes = false) :
    (format.apply policy edit).2 = format := by
  have added (outcome : Except FormatError Format)
      (idle : (format.added outcome).1.changes = false) : (format.added outcome).2 = format := by
    cases outcome with
    | ok next => cases idle
    | error e => rfl
  have moved (outcome : Option Format) (idle : (format.moved outcome).1.changes = false) :
      (format.moved outcome).2 = format := by
    cases outcome with
    | some next => cases idle
    | none => rfl
  cases edit with
  | push token => exact added _ idle
  | pushKind kind => exact added _ idle
  | remove position =>
    rw [apply] at idle ⊢
    cases removed : format.remove position with
    | some result =>
      rw [removed] at idle
      cases idle
    | none => rfl
  | moveUp position => exact moved _ idle
  | moveDown position =>
    rw [apply] at idle ⊢
    cases step : format.moveDown position with
    | ok outcome =>
      rw [step] at idle
      exact moved outcome idle
    | error fault => rfl
  | moveTo source target => exact moved _ idle
  | normalize => cases idle
  | reset => cases idle

/-- Removing and moving to a place or to the front pass every check at every position, and swapping
with the next token does at every position but the last word, which is a fault on every format. What
they leave alone is known from the positions, and is left as it is. -/
theorem edits_at_positions (format : Format) :
    (∀ position, format.removeChecked position = .ok (format.remove position) ∧
      (format.remove position = none ↔ format.length ≤ position.toNat)) ∧
    (∀ position, format.moveUpChecked position = .ok (format.moveUp position) ∧
      (format.moveUp position = none ↔ position = 0 ∨ format.length ≤ position.toNat)) ∧
    (∀ source target, format.moveToChecked source target = .ok (format.moveTo source target) ∧
      (format.moveTo source target = none ↔
        format.length ≤ source.toNat ∨ format.length ≤ target.toNat ∨ target = source ∨
          target.toNat = source.toNat + 1)) ∧
    (∀ position, format.moveDownChecked position = format.moveDown position) ∧
    (∀ position : UInt64, position.toNat + 1 < UInt64.size →
      ∃ moved, format.moveDown position = .ok moved ∧
        (moved = none ↔ format.length ≤ position.toNat + 1)) ∧
    (∀ position : UInt64, position.toNat + 1 = UInt64.size →
      format.moveDown position = .error .overflow) ∧
    ∀ policy edit, (format.apply policy edit).1.changes = false →
      (format.apply policy edit).2 = format := by
  refine ⟨fun position => ⟨removeChecked_eq format position, remove_eq_none_iff⟩,
    fun position => ⟨moveUpChecked_eq format position, moveUp_eq_none_iff⟩,
    fun source target => ⟨moveToChecked_eq format source target, moveTo_eq_none_iff⟩,
    moveDownChecked_eq format, fun position room => exists_moveDown format room,
    fun position last => moveDown_of_last format last,
    fun policy edit idle => apply_of_not_changes idle⟩

theorem edits_at_positions_of_two_tokens :
    ∃ format : Format, format.length = 2 ∧
      format.remove 18446744073709551615 = none ∧
      format.moveUpChecked 18446744073709551615 = .ok none ∧
      format.moveToChecked 1 0 = .ok (some ⟨[.directive .guid, .literal "a"]⟩) ∧
      format.moveTo 0 18446744073709551615 = none ∧
      format.moveDownChecked 0 = .ok (some ⟨[.directive .guid, .literal "a"]⟩) ∧
      (2 + 1 < UInt64.size ∧ ∃ moved, format.moveDown 2 = .ok moved ∧ moved = none) ∧
      (18446744073709551615 + 1 = UInt64.size ∧
        format.moveDown 18446744073709551615 = .error .overflow ∧
        (format.apply {} (.moveDown 18446744073709551615)).1.changes = false ∧
        (format.apply {} (.moveDown 18446744073709551615)).2 = format) := by
  let format : Format := ⟨[.literal "a", .directive .guid]⟩
  obtain ⟨removes, up, place, checked, down, last, idle⟩ := edits_at_positions format
  obtain ⟨moved, step, still⟩ := down 2 (by decide)
  exact ⟨format, rfl, (removes _).2.mpr (by decide), (up _).1, (place _ _).1,
    (place _ _).2.mpr (.inr (.inl (by decide))), checked 0,
    ⟨by decide, moved, step, still.mpr (by decide)⟩,
    by decide, last _ (by decide), rfl, idle {} _ rfl⟩

/-- Swapping with the next token is not defined at every position. -/
theorem exists_moveDown_error :
    ¬∀ (format : Format) (position : UInt64), ∃ moved, format.moveDown position = .ok moved := by
  intro every
  obtain ⟨moved, step⟩ := every ⟨[.directive .guid]⟩ 18446744073709551615
  cases step

end Format
end InventoryIds
