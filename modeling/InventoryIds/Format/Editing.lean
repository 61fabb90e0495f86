import InventoryIds.Format.Pieces
import InventoryIds.Policy

/-!
# Editing formats

The steps by which a format is put together. A step that would exceed a limit is refused, and a
step that moves nothing leaves the format as it is. Positions are 64-bit words, and looking behind
the last word is a fault. Swapping twice at one place changes nothing (`swapNext_swapNext`).
-/

namespace InventoryIds

inductive PositionFault where
  /-- There is no position behind the last word. -/
  | overflow
  /-- There is no position in front of the first one. -/
  | underflow
  | outOfBounds (length : Nat) (position : UInt64)
deriving DecidableEq, Repr

namespace PositionFault

def message : PositionFault → String
  | overflow => "attempt to add with overflow"
  | underflow => "attempt to subtract with overflow"
  | outOfBounds length position =>
    "index out of bounds: the len is " ++ length.repr ++ " but the index is " ++
      position.toNat.repr

end PositionFault

/-- The next position, which has to be a word. -/
def Position.behind (position : UInt64) : Except PositionFault UInt64 :=
  if position.toNat + 1 < UInt64.size then .ok (position + 1) else .error .overflow

/-- Swaps the element at a position with the one behind it. -/
def swapNext {α : Type} : Nat → List α → List α
  | 0, a :: b :: rest => b :: a :: rest
  | position + 1, a :: rest => a :: swapNext position rest
  | _, rest => rest

@[simp] theorem length_swapNext {α : Type} (position : Nat) (list : List α) :
    (swapNext position list).length = list.length := by
  fun_induction swapNext position list with
  | case1 => rfl
  | case2 position a rest ih => simp [ih]
  | case3 => rfl

theorem swapNext_swapNext {α : Type} (position : Nat) (list : List α) :
    swapNext position (swapNext position list) = list := by
  fun_induction swapNext position list with
  | case1 => rfl
  | case2 position a rest ih => rw [swapNext, ih]
  | case3 position rest one more =>
    cases position with
    | zero =>
      match rest, one with
      | [], _ => rfl
      | [_], _ => rfl
      | a :: b :: rest, one => exact absurd rfl (one a b rest rfl)
    | succ position =>
      match rest, more with
      | [], _ => rfl
      | a :: rest, more => exact absurd rfl (more position a rest rfl)

namespace Format

/-- Adds a token at the end, within the limits. Literals count in the total only. -/
def push (format : Format) (token : Token) (policy : Policy) : Except FormatError Format :=
  let kind := token.kind
  let count := format.count kind + 1
  if kind.isDirective ∧ policy.maxPerKind.toNat < count then
    .error (.tooManyOfKind kind count policy.maxPerKind.toNat)
  else if policy.maxTokens.toNat < format.length + 1 then
    .error (.tooManyTokens (format.length + 1) policy.maxTokens.toNat)
  else .ok ⟨format.tokens ++ [token]⟩

def pushKind (format : Format) (kind : Kind) (policy : Policy) : Except FormatError Format :=
  format.push (Token.standard kind) policy

def remove (format : Format) (position : UInt64) : Option (Token × Format) :=
  match format.tokens[position.toNat]? with
  | some token => some (token, ⟨format.tokens.eraseIdx position.toNat⟩)
  | none => none

/-- Swaps the token at a position with the one before it; nothing if there is none. -/
def moveUp (format : Format) (position : UInt64) : Option Format :=
  if position = 0 ∨ format.length ≤ position.toNat then none
  else some ⟨swapNext (position - 1).toNat format.tokens⟩

/-- Swaps the token at a position with the one behind it; nothing if there is none. The next
position is looked at first, so the last word is a fault whatever the format. -/
def moveDown (format : Format) (position : UInt64) :
    Except PositionFault (Option Format) := do
  let next ← Position.behind position
  if format.length ≤ next.toNat then return none
  else return some ⟨swapNext position.toNat format.tokens⟩

/-- Takes the token at `source` out and puts it in front of the token that was at `target`;
nothing if that leaves the order as it is. -/
def moveTo (format : Format) (source target : UInt64) : Option Format :=
  if source = target ∨ format.length ≤ source.toNat ∨ format.length ≤ target.toNat then none
  else
    let place := if source < target then target - 1 else target
    if place = source then none
    else
      match format.remove source with
      | some (token, rest) => some ⟨rest.tokens.insertIdx place.toNat token⟩
      | none => none

end Format

/-! ### Runs of edits -/

inductive Edit where
  | push (token : Token)
  | pushKind (kind : Kind)
  | remove (position : UInt64)
  | moveUp (position : UInt64)
  | moveDown (position : UInt64)
  | moveTo (source target : UInt64)
  | normalize
  | reset
deriving DecidableEq, Repr

inductive EditOutcome where
  | done
  | refused (error : FormatError)
  | removed (token : Option Token)
  | moved (changed : Bool)
  | fault (fault : PositionFault)
deriving DecidableEq, Repr

namespace Format

def added (format : Format) : Except FormatError Format → EditOutcome × Format
  | .ok next => (.done, next)
  | .error error => (.refused error, format)

def moved (format : Format) : Option Format → EditOutcome × Format
  | some next => (.moved true, next)
  | none => (.moved false, format)

/-- Takes one step; a step that is refused or at fault changes nothing. -/
def apply (policy : Policy) (format : Format) : Edit → EditOutcome × Format
  | .push token => format.added (format.push token policy)
  | .pushKind kind => format.added (format.pushKind kind policy)
  | .remove position =>
    match format.remove position with
    | some (token, next) => (.removed (some token), next)
    | none => (.removed none, format)
  | .moveUp position => format.moved (format.moveUp position)
  | .moveDown position =>
    match format.moveDown position with
    | .ok next => format.moved next
    | .error fault => (.fault fault, format)
  | .moveTo source target => format.moved (format.moveTo source target)
  | .normalize => (.done, format.normalized)
  | .reset => (.done, standard)

def applyAll (policy : Policy) (format : Format) (edits : List Edit) : Format :=
  edits.foldl (fun format edit => (format.apply policy edit).2) format

end Format
end InventoryIds
