import InventoryIds.Json.Value
import InventoryIds.Policy

/-!
# Exchanged policies

The JSON shape of policies: an object whose fields may be left out, or a list of its values.
-/

namespace InventoryIds
open Reader (advance closing colon element? fields peek readOnce scalar skipValue word64)

namespace Policy

def toJson (policy : Policy) : Json :=
  .object [("max_per_kind", .word policy.maxPerKind), ("max_tokens", .word policy.maxTokens),
    ("preview_examples", .word policy.previewExamples)]

structure Parts where
  maxPerKind : Option UInt64 := none
  maxTokens : Option UInt64 := none
  previewExamples : Option UInt64 := none

/-- The policy, with standard values for what is left out. -/
def Parts.policy (parts : Parts) : Policy :=
  let standard : Policy := {}
  { maxPerKind := parts.maxPerKind.getD standard.maxPerKind
    maxTokens := parts.maxTokens.getD standard.maxTokens
    previewExamples := parts.previewExamples.getD standard.previewExamples }

def readField (parts : Parts) (name : String) : Reader Parts := do
  if name = "max_per_kind" then
    return { parts with maxPerKind := ← readOnce word64 parts.maxPerKind }
  else if name = "max_tokens" then
    return { parts with maxTokens := ← readOnce word64 parts.maxTokens }
  else if name = "preview_examples" then
    return { parts with previewExamples := ← readOnce word64 parts.previewExamples }
  else
    colon
    skipValue
    return parts

/-- Reads a policy: an object, or a list of its values in order. -/
def read : Reader Policy := do
  match ← peek with
  | some '{' =>
    advance
    return (← fields false readField {}).policy
  | some '[' =>
    advance
    let maxPerKind ← element? true word64
    let maxTokens ← element? false word64
    let previewExamples ← element? false word64
    closing ']'
    return { maxPerKind, maxTokens, previewExamples : Parts }.policy
  | _ =>
    let _ ← scalar
    throw .mismatched

end Policy
end InventoryIds
