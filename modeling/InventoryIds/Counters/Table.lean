import Std.Data.HashMap
import InventoryIds.Counters

/-!
# Counter tables

A table keeps its counters in a hash map. A counter that is missing counts from zero.
-/

namespace InventoryIds

structure CounterTable where
  counters : Std.HashMap InventoryId UInt64

namespace CounterTable

def empty : CounterTable := ⟨∅⟩

def current? (table : CounterTable) (inventory : InventoryId) : Option UInt64 :=
  table.counters[inventory]?

def restore (table : CounterTable) (inventory : InventoryId) (number : UInt64) : CounterTable :=
  ⟨table.counters.insert inventory number⟩

/-- Takes the number of a counter and moves it on. -/
def reserve (table : CounterTable) (inventory : InventoryId) : UInt64 × CounterTable :=
  let number := table.counters.getD inventory 0
  (number, table.restore inventory (number + 1))

def forget (table : CounterTable) (inventory : InventoryId) : Option UInt64 × CounterTable :=
  (table.current? inventory, ⟨table.counters.erase inventory⟩)

instance : CounterStore CounterTable where
  empty := empty
  reserve := reserve
  current? := current?
  restore := restore
  forget := forget

instance : LawfulCounterStore CounterTable where
  current?_empty _ := Std.HashMap.getElem?_empty
  reserve_fst table i := Std.HashMap.getD_eq_getD_getElem?
  current?_reserve table i j := by
    show (table.counters.insert i (table.counters.getD i 0 + 1))[j]? = _
    rw [Std.HashMap.getElem?_insert, Std.HashMap.getD_eq_getD_getElem?]
    simp only [beq_iff_eq]
    rfl
  current?_restore table i j number := by
    show (table.counters.insert i number)[j]? = _
    rw [Std.HashMap.getElem?_insert]
    simp only [beq_iff_eq]
    rfl
  forget_fst _ _ := rfl
  current?_forget table i j := by
    show (table.counters.erase i)[j]? = _
    rw [Std.HashMap.getElem?_erase]
    simp only [beq_iff_eq]
    rfl

end CounterTable
end InventoryIds
