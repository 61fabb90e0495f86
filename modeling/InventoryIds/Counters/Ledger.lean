import InventoryIds.Counters

/-!
# Counter ledgers

A ledger keeps its counters in a list with one entry for each inventory, in the order in which
the inventories came in, and knows how many there are. `lookup?_put` and `lookup?_drop` say what
the two changes of the list do to the counters.
-/

namespace InventoryIds

def inventories (entries : List (InventoryId × UInt64)) : List InventoryId :=
  entries.map Prod.fst

/-- A list of counters with one entry for each inventory. -/
structure CounterLedger where
  entries : List (InventoryId × UInt64)
  nodup : (inventories entries).Nodup

namespace CounterLedger

def lookup? (inventory : InventoryId) : List (InventoryId × UInt64) → Option UInt64
  | [] => none
  | (key, number) :: entries => if key = inventory then some number else lookup? inventory entries

/-- Sets the counter of an inventory, with a new entry at the end if it has none. -/
def put (inventory : InventoryId) (number : UInt64) :
    List (InventoryId × UInt64) → List (InventoryId × UInt64)
  | [] => [(inventory, number)]
  | (key, old) :: entries =>
    if key = inventory then (key, number) :: entries
    else (key, old) :: put inventory number entries

theorem inventories_put (inventory : InventoryId) (number : UInt64)
    (entries : List (InventoryId × UInt64)) :
    inventories (put inventory number entries) =
      if inventory ∈ inventories entries then inventories entries
      else inventories entries ++ [inventory] := by
  induction entries with
  | nil => simp [inventories, put]
  | cons entry entries ih =>
    obtain ⟨key, old⟩ := entry
    by_cases same : key = inventory
    · simp [put, inventories, same]
    · have other : inventory ≠ key := fun h => same h.symm
      have step : inventories (put inventory number ((key, old) :: entries)) =
          key :: inventories (put inventory number entries) := by
        simp [put, inventories, same]
      rw [step, ih]
      split <;> simp_all [inventories]

theorem lookup?_put (i j : InventoryId) (number : UInt64)
    (entries : List (InventoryId × UInt64)) :
    lookup? j (put i number entries) = if i = j then some number else lookup? j entries := by
  induction entries with
  | nil => simp [put, lookup?]
  | cons entry entries ih => grind [put, lookup?]

def drop (inventory : InventoryId) (entries : List (InventoryId × UInt64)) :
    List (InventoryId × UInt64) :=
  entries.filter (·.1 ≠ inventory)

theorem lookup?_drop (i j : InventoryId) (entries : List (InventoryId × UInt64)) :
    lookup? j (drop i entries) = if i = j then none else lookup? j entries := by
  induction entries with
  | nil => simp [drop, lookup?]
  | cons entry entries ih => grind [drop, lookup?]

def empty : CounterLedger := ⟨[], .nil⟩

def size (ledger : CounterLedger) : Nat := ledger.entries.length

def isEmpty (ledger : CounterLedger) : Bool := ledger.entries.isEmpty

def current? (ledger : CounterLedger) (inventory : InventoryId) : Option UInt64 :=
  lookup? inventory ledger.entries

def restore (ledger : CounterLedger) (inventory : InventoryId) (number : UInt64) :
    CounterLedger where
  entries := put inventory number ledger.entries
  nodup := by
    rw [inventories_put]
    split
    · exact ledger.nodup
    · rename_i absent
      exact List.nodup_append.mpr ⟨ledger.nodup, by simp, fun a ha b hb => by
        rw [List.mem_singleton.mp hb]
        intro same
        exact absent (same ▸ ha)⟩

/-- Takes the number of a counter and moves it on, or starts a counter at zero. -/
def reserve (ledger : CounterLedger) (inventory : InventoryId) : UInt64 × CounterLedger :=
  match ledger.current? inventory with
  | some number => (number, ledger.restore inventory (number + 1))
  | none => (0, ledger.restore inventory 1)

def forget (ledger : CounterLedger) (inventory : InventoryId) :
    Option UInt64 × CounterLedger where
  fst := ledger.current? inventory
  snd :=
    { entries := drop inventory ledger.entries
      nodup := ledger.nodup.sublist (List.filter_sublist.map Prod.fst) }

instance : CounterStore CounterLedger where
  empty := empty
  reserve := reserve
  current? := current?
  restore := restore
  forget := forget

instance : LawfulCounterStore CounterLedger where
  current?_empty _ := rfl
  reserve_fst ledger i := by
    show (ledger.reserve i).1 = (ledger.current? i).getD 0
    unfold reserve
    split <;> simp_all
  current?_reserve ledger i j := by
    show (ledger.reserve i).2.current? j =
      if i = j then some ((ledger.current? i).getD 0 + 1) else ledger.current? j
    unfold reserve
    split <;> rename_i found <;> rw [found] <;> exact lookup?_put i j _ ledger.entries
  current?_restore ledger i j number := lookup?_put i j number ledger.entries
  forget_fst _ _ := rfl
  current?_forget ledger i j := lookup?_drop i j ledger.entries

end CounterLedger
end InventoryIds
