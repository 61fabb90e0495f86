/-!
# Draws

A draw is 128 bits of randomness. Random codes are made of its lowest 64 bits, GUIDs of all.
-/

namespace InventoryIds

abbrev Draw := BitVec 128

/-- The lowest 64 bits of a draw. -/
def Draw.word (draw : Draw) : UInt64 := ⟨draw.setWidth 64⟩

end InventoryIds
