import InventoryIds.Proofs.Editing

/-!
# Moves of tokens

A token that is moved to a place passes over a run of tokens, and so it does when it is swapped
with its neighbours one after the other (`moveTo_eq_swaps`). Moving it back over the same run
restores the format.
-/

namespace InventoryIds

theorem swapNext_append {α : Type} (front : List α) (a b : α) (back : List α) :
    swapNext front.length (front ++ a :: b :: back) = front ++ b :: a :: back := by
  induction front with
  | nil => rfl
  | cons first front ih => exact congrArg (first :: ·) ih

/-- Swaps with the next token, each one position further on. -/
def swapsDown : Nat → UInt64 → List Edit
  | 0, _ => []
  | count + 1, position => .moveDown position :: swapsDown count (position + 1)

/-- Swaps with the token in front, each one position further to the front. -/
def swapsUp : Nat → UInt64 → List Edit
  | 0, _ => []
  | count + 1, position => .moveUp position :: swapsUp count (position - 1)

namespace Format

/-- Each of the steps moves a token, and all of them come to `next`. -/
inductive Moves (policy : Policy) : Format → List Edit → Format → Prop
  | nil (format : Format) : Moves policy format [] format
  | cons {format between next : Format} {edit : Edit} {edits : List Edit}
      (first : format.apply policy edit = (.moved true, between))
      (others : Moves policy between edits next) : Moves policy format (edit :: edits) next

variable {policy : Policy} {position source target : UInt64} {front run back : List Token}
  {token other : Token}

theorem applyAll_of_moves {format next : Format} {edits : List Edit}
    (moves : format.Moves policy edits next) : format.applyAll policy edits = next := by
  induction moves with
  | nil format => rfl
  | cons first others ih => rwa [applyAll, List.foldl_cons, first]

/-! ### Swaps with a neighbour -/

theorem moveDown_append (here : position.toNat = front.length)
    (room : front.length + 1 < UInt64.size) :
    moveDown ⟨front ++ token :: other :: back⟩ position =
      .ok (some ⟨front ++ other :: token :: back⟩) := by
  have length : length ⟨front ++ token :: other :: back⟩ = front.length + (back.length + 2) :=
    List.length_append
  refine moveDown_eq_some_iff.mpr ⟨by omega, by omega, ?_⟩
  rw [here, swapNext_append]

theorem moveUp_append (here : position.toNat = front.length + 1) :
    moveUp ⟨front ++ other :: token :: back⟩ position =
      some ⟨front ++ token :: other :: back⟩ := by
  have length : length ⟨front ++ other :: token :: back⟩ = front.length + (back.length + 2) :=
    List.length_append
  refine moveUp_eq_some_iff.mpr ⟨by omega, by omega, ?_⟩
  rw [here, Nat.add_sub_cancel, swapNext_append]

/-- A token passes over the run behind it, swap by swap. -/
theorem moves_swapsDown (here : position.toNat = front.length)
    (room : front.length + run.length < UInt64.size) :
    Moves policy ⟨front ++ token :: (run ++ back)⟩ (swapsDown run.length position)
      ⟨front ++ (run ++ token :: back)⟩ := by
  -- On the run; the first token of it ends up in front.
  induction run generalizing front position with
  | nil => exact .nil _
  | cons next run ih =>
    rw [List.length_cons] at room
    have further : (position + 1).toNat = (front ++ [next]).length := by
      rw [toNat_add_one (by omega), here, List.length_append, List.length_singleton]
    have others := ih further (by rw [List.length_append, List.length_singleton]; omega)
    rw [List.append_assoc, List.append_assoc] at others
    refine .cons ?_ others
    rw [apply, List.cons_append, moveDown_append here (by omega)]
    rfl

/-- A token passes over the run in front of it, swap by swap. -/
theorem moves_swapsUp (here : position.toNat = front.length + run.length) :
    Moves policy ⟨front ++ (run ++ token :: back)⟩ (swapsUp run.length position)
      ⟨front ++ token :: (run ++ back)⟩ := by
  -- On the run from its end; the last token of it ends up behind.
  induction run using List.reverseRecOn generalizing back position with
  | nil => exact .nil _
  | append_singleton run last ih =>
    rw [List.length_append, List.length_singleton] at here
    have closer : (position - 1).toNat = front.length + run.length := by
      rw [toNat_sub_one (by omega), here]
      rfl
    have first : moveUp ⟨front ++ (run ++ last :: token :: back)⟩ position =
        some ⟨front ++ (run ++ token :: last :: back)⟩ := by
      rw [← List.append_assoc, ← List.append_assoc]
      exact moveUp_append (by rw [here, List.length_append, Nat.add_assoc])
    rw [List.length_append, List.length_singleton, List.append_assoc, List.append_assoc]
    refine .cons ?_ (ih closer)
    rw [apply, List.singleton_append, first]
    rfl

theorem moveUp_of_moveDown {format next : Format} {behind : UInt64}
    (adjacent : behind.toNat = position.toNat + 1)
    (moved : format.moveDown position = .ok (some next)) : next.moveUp behind = some format := by
  obtain ⟨-, inside, rfl⟩ := moveDown_eq_some_iff.mp moved
  refine moveUp_eq_some_iff.mpr ⟨by omega, ?_, ?_⟩
  · rw [length, length_swapNext, adjacent]
    exact inside
  · rw [adjacent, Nat.add_sub_cancel, swapNext_swapNext]

/-! ### Moves to a place -/

section
variable {α : Type} (front run back : List α) (a : α)

theorem insertIdx_length_append :
    (front ++ back).insertIdx front.length a = front ++ a :: back := by
  induction front with
  | nil => rfl
  | cons first front ih => exact congrArg (first :: ·) ih

theorem eraseIdx_length_append : (front ++ a :: back).eraseIdx front.length = front ++ back := by
  rw [List.eraseIdx_append_of_length_le (Nat.le_refl _), Nat.sub_self, List.eraseIdx_cons_zero]

theorem getElem?_behind_run :
    (front ++ (run ++ a :: back))[front.length + run.length]? = some a := by
  rw [← List.append_assoc, ← List.length_append]
  simp

theorem eraseIdx_behind_run :
    (front ++ (run ++ a :: back)).eraseIdx (front.length + run.length) =
      front ++ (run ++ back) := by
  rw [← List.append_assoc, ← List.length_append, eraseIdx_length_append, List.append_assoc]

end

/-- A token is put behind the run behind it. -/
theorem moveTo_behind_run (here : source.toNat = front.length)
    (there : target.toNat = front.length + run.length + 1) (moved : run ≠ []) (more : back ≠ []) :
    moveTo ⟨front ++ token :: (run ++ back)⟩ source target =
      some ⟨front ++ (run ++ token :: back)⟩ := by
  have runLength := List.length_pos_iff.mpr moved
  have backLength := List.length_pos_iff.mpr more
  have place : placeFor source.toNat target.toNat = (front ++ run).length := by
    rw [placeFor, if_pos (by omega), there, List.length_append]
    rfl
  refine moveTo_eq_some_iff.mpr ⟨by omega, by omega, ?_, token, ?_, ?_⟩
  · simp only [length, List.length_append, List.length_cons]
    omega
  · rw [here]
    simp
  · rw [place, here, eraseIdx_length_append, ← List.append_assoc front run back,
      insertIdx_length_append, List.append_assoc]

/-- A token is put in front of the run in front of it. -/
theorem moveTo_before_run (here : source.toNat = front.length + run.length)
    (there : target.toNat = front.length) (moved : run ≠ []) :
    moveTo ⟨front ++ (run ++ token :: back)⟩ source target =
      some ⟨front ++ token :: (run ++ back)⟩ := by
  have runLength := List.length_pos_iff.mpr moved
  have place : placeFor source.toNat target.toNat = front.length := by
    rw [placeFor, if_neg (by omega), there]
  refine moveTo_eq_some_iff.mpr ⟨by omega, by omega, ?_, token, ?_, ?_⟩
  · simp only [length, List.length_append, List.length_cons]
    omega
  · rw [here, getElem?_behind_run]
  · rw [place, here, eraseIdx_behind_run, insertIdx_length_append]

/-- The token at `source` stands in front of the one that was at `target`, and the others stand in
their order. -/
def MovedInFront (format next : Format) (source target : Nat) : Prop :=
  ∃ front token other back, format.tokens[source]? = some token ∧
    format.tokens[target]? = some other ∧
    format.tokens.eraseIdx source = front ++ other :: back ∧ front.length = placeFor source target ∧
    next.tokens = front ++ token :: other :: back

theorem exists_run {α : Type} {list : List α} {near far : Nat} (apart : near < far)
    (inside : far < list.length) :
    ∃ front a run b back, list = front ++ a :: (run ++ b :: back) ∧ near = front.length ∧
      far = front.length + run.length + 1 := by
  have split {list : List α} {n : Nat} (inside : n < list.length) :
      ∃ front a back, list = front ++ a :: back ∧ n = front.length := by
    refine ⟨list.take n, list[n], list.drop (n + 1), ?_, ?_⟩
    · rw [List.getElem_cons_drop, List.take_append_drop]
    · rw [List.length_take_of_le (Nat.le_of_lt inside)]
  obtain ⟨front, a, rest, rfl, here⟩ := split (apart.trans inside)
  rw [List.length_append, List.length_cons] at inside
  obtain ⟨run, b, back, rfl, there⟩ := split (show far - near - 1 < rest.length by omega)
  exact ⟨front, a, run, b, back, rfl, here, by omega⟩

/-- Behind its place, a token is put in front of another one by swaps to the back. -/
theorem moveTo_of_lt {format : Format} (policy : Policy)
    (apart : source.toNat + 1 < target.toNat) (inside : target.toNat < format.length) :
    ∃ next, format.moveTo source target = some next ∧
      format.MovedInFront next source.toNat target.toNat ∧
      format.Moves policy (swapsDown (target.toNat - 1 - source.toNat) source) next ∧
      next.moveTo (target - 1) source = some format := by
  obtain ⟨tokens⟩ := format
  obtain ⟨front, token, run, other, back, rfl, here, there⟩ :=
    exists_run (Nat.lt_of_succ_lt apart) inside
  have moved : run ≠ [] := by
    rintro rfl
    rw [List.length_nil] at there
    omega
  have word := target.toNat_lt_size
  have count : target.toNat - 1 - source.toNat = run.length := by omega
  have last : (target - 1).toNat = front.length + run.length := by
    rw [toNat_sub_one (by omega)]
    omega
  refine ⟨_, moveTo_behind_run here there moved (List.cons_ne_nil other back), ?_, ?_, ?_⟩
  · refine ⟨front ++ run, token, other, back, ?_, ?_, ?_, ?_, ?_⟩
    · rw [here]
      simp
    · rw [there]
      exact getElem?_behind_run front (token :: run) back other
    · rw [here, eraseIdx_length_append, List.append_assoc]
    · rw [placeFor, if_pos (by omega), List.length_append]
      omega
    · rw [List.append_assoc]
  · rw [count]
    exact moves_swapsDown here (by omega)
  · exact moveTo_before_run last here moved

/-- In front of its place, a token is put in front of another one by swaps to the front. -/
theorem moveTo_of_gt {format : Format} (policy : Policy) (apart : target.toNat < source.toNat)
    (inside : source.toNat < format.length) :
    ∃ next, format.moveTo source target = some next ∧
      format.MovedInFront next source.toNat target.toNat ∧
      format.Moves policy (swapsUp (source.toNat - target.toNat) source) next ∧
      ∀ behind : UInt64, behind.toNat = source.toNat + 1 → behind.toNat < format.length →
        next.moveTo target behind = some format := by
  obtain ⟨tokens⟩ := format
  obtain ⟨front, other, run, token, back, rfl, there, here⟩ := exists_run apart inside
  have count : source.toNat - target.toNat = (other :: run).length := by
    rw [List.length_cons]
    omega
  have passed : source.toNat = front.length + (other :: run).length := by
    rw [List.length_cons]
    omega
  have nonempty := List.cons_ne_nil other run
  refine ⟨_, moveTo_before_run passed there nonempty, ?_, ?_, ?_⟩
  · refine ⟨front, token, other, run ++ back, ?_, ?_, ?_, ?_, rfl⟩
    · rw [passed]
      exact getElem?_behind_run front (other :: run) back token
    · rw [there]
      simp
    · rw [passed]
      exact eraseIdx_behind_run front (other :: run) back token
    · rw [placeFor, if_neg (by omega), there]
  · rw [count]
    exact moves_swapsUp passed
  · intro behind next room
    have more : back ≠ [] := by
      rintro rfl
      simp only [length, List.length_append, List.length_cons, List.length_nil] at room
      omega
    exact moveTo_behind_run there (by omega) nonempty more

/-- A token that is moved in front of another one gets there by swaps with its neighbours, too, and
moving it back restores the format. A swap with the next token is undone by a swap with the one in
front. -/
theorem moveTo_eq_swaps (format : Format) (policy : Policy) :
    (∀ source target : UInt64, source.toNat < format.length → target.toNat < format.length →
      target ≠ source → target.toNat ≠ source.toNat + 1 →
      ∃ next, format.moveTo source target = some next ∧
        format.MovedInFront next source.toNat target.toNat ∧
        (source < target →
          format.Moves policy (swapsDown (target.toNat - 1 - source.toNat) source) next ∧
          next.moveTo (target - 1) source = some format) ∧
        (target < source →
          format.Moves policy (swapsUp (source.toNat - target.toNat) source) next ∧
          ∀ behind : UInt64, behind.toNat = source.toNat + 1 → behind.toNat < format.length →
            next.moveTo target behind = some format)) ∧
    (∀ edits next, format.Moves policy edits next → format.applyAll policy edits = next) ∧
    ∀ (position behind : UInt64) (next : Format), behind.toNat = position.toNat + 1 →
      format.moveDown position = .ok (some next) → next.moveUp behind = some format := by
  refine ⟨?moved, fun edits next => applyAll_of_moves,
    fun position behind next => moveUp_of_moveDown⟩
  intro source target sourceInside inside elsewhere further
  have different : target.toNat ≠ source.toNat := fun same => elsewhere (UInt64.toNat_inj.mp same)
  rw [UInt64.lt_iff_toNat_lt, UInt64.lt_iff_toNat_lt]
  rcases Nat.lt_or_gt_of_ne different with before | after
  · obtain ⟨next, moved, inFront, swaps, back⟩ := moveTo_of_gt policy before sourceInside
    exact ⟨next, moved, inFront, fun after => by omega, fun _ => ⟨swaps, back⟩⟩
  · have apart : source.toNat + 1 < target.toNat := by omega
    obtain ⟨next, moved, inFront, swaps, back⟩ := moveTo_of_lt policy apart inside
    exact ⟨next, moved, inFront, fun _ => ⟨swaps, back⟩, fun before => by omega⟩

theorem moveTo_eq_swaps_four_tokens :
    ∃ format back front : Format,
      format.moveTo 0 3 = some back ∧
      format.Moves {} [.moveDown 0, .moveDown 1] back ∧
      back.tokens =
        [.directive .guid, .literal "b", .literal "a", .directive (.sequence .standard)] ∧
      back.moveTo 2 0 = some format ∧
      format.moveTo 2 0 = some front ∧
      format.Moves {} [.moveUp 2, .moveUp 1] front ∧
      front.tokens =
        [.literal "b", .literal "a", .directive .guid, .directive (.sequence .standard)] ∧
      front.moveTo 0 3 = some format ∧
      ∃ next, format.moveDown 2 = .ok (some next) ∧ next.moveUp 3 = some format := by
  let format : Format :=
    ⟨[.literal "a", .directive .guid, .literal "b", .directive (.sequence .standard)]⟩
  obtain ⟨moves, -, undo⟩ := moveTo_eq_swaps format {}
  obtain ⟨back, behind, -, down, -⟩ := moves 0 3 (by decide) (by decide) (by decide) (by decide)
  obtain ⟨front, before, -, -, up⟩ := moves 2 0 (by decide) (by decide) (by decide) (by decide)
  obtain ⟨swapsDown, restoresBack⟩ := down (by decide)
  obtain ⟨swapsUp, restoresFront⟩ := up (by decide)
  obtain rfl := Option.some.inj behind
  obtain rfl := Option.some.inj before
  exact ⟨format, _, _, rfl, swapsDown, rfl, restoresBack, rfl, swapsUp, rfl,
    restoresFront 3 (by decide) (by decide), _, rfl, undo 2 3 _ (by decide) rfl⟩

end Format
end InventoryIds
