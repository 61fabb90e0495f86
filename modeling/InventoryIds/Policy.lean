/-!
# Policies

The limits that a format has to keep, and the number of examples of a preview.
-/

namespace InventoryIds

/-- Limits on formats and on previews, as words of 64 bits. -/
structure Policy where
  /-- The most directives of one kind. -/
  maxPerKind : UInt64 := 3
  /-- The most tokens of a format. -/
  maxTokens : UInt64 := 20
  /-- The examples that a preview shows beside its first identifier. -/
  previewExamples : UInt64 := 3
deriving DecidableEq, Repr

end InventoryIds
