/-!
# Inventories

An inventory is known by its number; identifiers are made for one inventory.
-/

namespace InventoryIds

structure InventoryId where
  number : UInt64
deriving DecidableEq, Repr, Hashable

end InventoryIds
