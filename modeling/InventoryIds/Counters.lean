import InventoryIds.Inventory

/-!
# Counters

Every inventory has a counter from which its ordinals are reserved. A store keeps the counters
of all inventories; a counter comes into being when it is first reserved from or restored, and
counts in 64-bit words, so that the last word is followed by zero. `LawfulCounterStore` states
what each operation does to what `current?` tells: every operation touches the counter of its own
inventory only.
-/

namespace InventoryIds

class CounterStore (σ : Type) where
  /-- The store without any counter. -/
  empty : σ
  /-- Takes the next number of an inventory. -/
  reserve : σ → InventoryId → UInt64 × σ
  /-- The number that is reserved next, if there is a counter. -/
  current? : σ → InventoryId → Option UInt64
  /-- Sets the number that is reserved next. -/
  restore : σ → InventoryId → UInt64 → σ
  /-- Drops a counter, and tells where it stood. -/
  forget : σ → InventoryId → Option UInt64 × σ

open CounterStore in
/-- The laws of stores of counters. A counter that is missing counts from zero. -/
class LawfulCounterStore (σ : Type) [CounterStore σ] : Prop where
  current?_empty (i : InventoryId) : current? (empty : σ) i = none
  reserve_fst (s : σ) (i : InventoryId) : (reserve s i).1 = (current? s i).getD 0
  current?_reserve (s : σ) (i j : InventoryId) :
    current? (reserve s i).2 j = if i = j then some ((current? s i).getD 0 + 1) else current? s j
  current?_restore (s : σ) (i j : InventoryId) (n : UInt64) :
    current? (restore s i n) j = if i = j then some n else current? s j
  forget_fst (s : σ) (i : InventoryId) : (forget s i).1 = current? s i
  current?_forget (s : σ) (i j : InventoryId) :
    current? (forget s i).2 j = if i = j then none else current? s j

/-- A store that others may hold as well: every operation is that of the store itself. -/
structure SharedStore (σ : Type) where
  store : σ

namespace SharedStore
variable {σ : Type} [CounterStore σ]

instance : CounterStore (SharedStore σ) where
  empty := ⟨CounterStore.empty⟩
  reserve shared inventory :=
    let (number, store) := CounterStore.reserve shared.store inventory
    (number, ⟨store⟩)
  current? shared inventory := CounterStore.current? shared.store inventory
  restore shared inventory number := ⟨CounterStore.restore shared.store inventory number⟩
  forget shared inventory :=
    let (number, store) := CounterStore.forget shared.store inventory
    (number, ⟨store⟩)

instance [LawfulCounterStore σ] : LawfulCounterStore (SharedStore σ) where
  current?_empty := LawfulCounterStore.current?_empty (σ := σ)
  reserve_fst shared := LawfulCounterStore.reserve_fst shared.store
  current?_reserve shared := LawfulCounterStore.current?_reserve shared.store
  current?_restore shared := LawfulCounterStore.current?_restore shared.store
  forget_fst shared := LawfulCounterStore.forget_fst shared.store
  current?_forget shared := LawfulCounterStore.current?_forget shared.store

end SharedStore
end InventoryIds
