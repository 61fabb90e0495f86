import InventoryIds.Json.Number

/-!
# Values of JSON texts

Readers for values of any shape. A value that matters may not hold more than a certain depth of
lists and objects; a value that is passed over may be of any depth.
-/

namespace InventoryIds.Reader

/-- Lists and objects are refused when this many are open. -/
def maxDepth : Nat := 127

/-- Reads a word or a number or a string; nothing in front of a list or an object. -/
def scalar? (lenient : Bool) : Reader (Option Json) := do
  match ← peek with
  | none => throw .truncated
  | some c =>
    if c = '[' ∨ c = '{' then return none
    else if c = 'n' then word "null".toList; return some .null
    else if c = 't' then word "true".toList; return some (.bool true)
    else if c = 'f' then word "false".toList; return some (.bool false)
    else if c = '"' then advance; return some (.string (← string lenient))
    else if c = '-' ∨ c.isDigit then
      return some (.number (← if lenient then skippedNumber else number))
    else throw .malformed

/-- Reads a value in which at most `depth` lists and objects are open at once. -/
def value (lenient : Bool) (depth : Nat) : Reader Json := do
  match ← scalar? lenient with
  | some json => return json
  | none =>
    match depth with
    | 0 => throw .malformed
    | depth + 1 =>
      if (← peek) = some '[' then
        advance
        return .array (← elements true (value lenient depth))
      else
        advance
        let pairs ← fields lenient (fun pairs name => do
          colon
          return (name, ← value lenient depth) :: pairs) []
        return .object pairs.reverse

def skipValue : Reader Unit := fun text => do
  let (_, rest) ← value true text.length text
  return ((), rest)

/-! ### Values of one shape -/

def scalar : Reader Json := do
  match ← scalar? false with
  | some json => return json
  | none => throw .mismatched

def quoted : Reader String := do
  match ← scalar with
  | .string s => return s
  | _ => throw .mismatched

def word64 : Reader UInt64 := do
  match ← scalar with
  | .number (.word n) => return n
  | _ => throw .mismatched

def null : Reader Unit := do
  match ← scalar with
  | .null => return ()
  | _ => throw .mismatched

/-- Reads a whole number of 64 bits, or null for none. -/
def word64? : Reader (Option UInt64) := do
  match ← scalar with
  | .null => return none
  | .number (.word n) => return some n
  | _ => throw .mismatched

/-- Reads the elements of a list; what is no list does not fit. -/
def readList {α : Type} (reader : Reader α) : Reader (List α) := do
  match ← peek with
  | some '[' => advance; elements true reader
  | _ =>
    let _ ← scalar
    throw .mismatched

def readOnce {α : Type} (reader : Reader α) (before : Option α) : Reader (Option α) := do
  if before.isSome then throw .mismatched
  colon
  return some (← reader)

def accept {ε α : Type} : Except ε α → Reader α
  | .ok a => return a
  | .error _ => throw .mismatched

end InventoryIds.Reader
