/-!
# Feeds

A feed hands out the values of a sequence one after the other. Readings of a clock and draws of
randomness are taken from feeds, so how many have been taken can be seen. `collect` takes a step
over and over and gathers what the steps yield.
-/

namespace InventoryIds

/-- A sequence of values, of which some have been taken. -/
structure Feed (α : Type) where
  source : Nat → α
  taken : Nat := 0

namespace Feed
variable {α : Type}

def head (feed : Feed α) : α := feed.source feed.taken

def advance (feed : Feed α) (n : Nat) : Feed α := { feed with taken := feed.taken + n }

def next (feed : Feed α) : α × Feed α := (feed.head, feed.advance 1)

def const (value : α) : Feed α := { source := fun _ => value }

/-- The feed that hands out `first` and the values behind it, and starts over at the end. -/
def cycle (first : α) (more : List α) : Feed α :=
  let values := (first :: more).toArray
  { source := fun n => values.getD (n % values.size) first }

end Feed

/-! ### Repeated steps -/

variable {σ α : Type}

/-- Adds what `n` steps yield to what has been gathered, last value first. -/
def collectInto (step : σ → α × σ) (gathered : List α) : Nat → σ → List α × σ
  | 0, state => (gathered.reverse, state)
  | n + 1, state => collectInto step ((step state).1 :: gathered) n (step state).2

/-- What `n` steps yield, in order, and the state after them. -/
def collect (step : σ → α × σ) (n : Nat) (state : σ) : List α × σ :=
  collectInto step [] n state

theorem collectInto_eq (step : σ → α × σ) (gathered : List α) (n : Nat) (state : σ) :
    collectInto step gathered n state =
      (gathered.reverse ++ (collect step n state).1, (collect step n state).2) := by
  induction n generalizing gathered state with
  | zero => simp [collectInto, collect]
  | succ n ih =>
    show collectInto step ((step state).1 :: gathered) n (step state).2 =
      (gathered.reverse ++ (collectInto step [(step state).1] n (step state).2).1,
        (collectInto step [(step state).1] n (step state).2).2)
    rw [ih, ih [(step state).1]]
    simp

@[simp] theorem collect_zero (step : σ → α × σ) (state : σ) :
    collect step 0 state = ([], state) := rfl

theorem collect_succ (step : σ → α × σ) (n : Nat) (state : σ) :
    collect step (n + 1) state =
      ((step state).1 :: (collect step n (step state).2).1,
        (collect step n (step state).2).2) := by
  rw [collect, collectInto, collectInto_eq]
  rfl

end InventoryIds
