import InventoryIds.Exchange.Values
import InventoryIds.Format

/-!
# Exchanged tokens

The JSON shapes of tokens and formats. A token is an object with a tag and a payload, or a list
that starts with its tag; a format is a list of tokens.
-/

namespace InventoryIds
open Reader (advance colon element? elements fields maxDepth peek readList scalar value)

namespace Token

def toJson : Token → Json
  | literal text => .object [("type", Kind.text.toJson), ("literal", .string text)]
  | directive (.random code) => .object [("type", Kind.random.toJson), ("bits", code.toJson)]
  | directive .guid => .object [("type", Kind.guid.toJson)]
  | directive (.date pattern) =>
    .object [("type", Kind.date.toJson), ("pattern", pattern.toJson)]
  | directive (.sequence width) =>
    .object [("type", Kind.sequence.toJson), ("width", width.toJson)]

def payloadName? : Kind → Option String
  | .text => some "literal"
  | .random => some "bits"
  | .guid => none
  | .date => some "pattern"
  | .sequence => some "width"

/-- The token of a kind with a payload, which a GUID does not have. -/
def ofPayload? : Kind → Json → Option Token
  | .text, .string s => some (literal s)
  | .text, _ => none
  | .random, json => (RandomCode.ofJson? json).map (directive <| .random ·)
  | .guid, _ => none
  | .date, json => (DatePattern.ofJson? json).map (directive <| .date ·)
  | .sequence, json => (OrdinalWidth.ofJson? json).map (directive <| .sequence ·)

/-- The token of a kind with named fields; fields of other names do not matter, and a width may
be left out. -/
def ofFields? (kind : Kind) (fields : List (String × Json)) : Option Token :=
  match payloadName? kind with
  | none => some (directive .guid)
  | some name =>
    match fields.filter (·.1 = name) with
    | [(_, json)] => ofPayload? kind json
    | [] => if kind = .sequence then some (standard kind) else none
    | _ => none

def ofList? (kind : Kind) : List Json → Option Token
  | [] => if kind = .guid then some (directive .guid) else none
  | [json] => ofPayload? kind json
  | _ => none

/-- What has been read of a token: its kind, and the fields other than the tag, the last one
first. -/
structure Parts where
  kind : Option Kind := none
  fields : List (String × Json) := []

def readField (depth : Nat) (parts : Parts) (name : String) : Reader Parts := do
  if name = "type" then
    if parts.kind.isSome then throw .mismatched
    colon
    return { parts with kind := some (← Kind.readTag) }
  else
    colon
    return { parts with fields := (name, ← value false depth) :: parts.fields }

def found : Option Token → Reader Token
  | some token => return token
  | none => throw .mismatched

/-- Reads a token in which at most `depth` lists and objects are open at once. -/
def readWithin (depth : Nat) : Reader Token := do
  match ← peek with
  | some '{' =>
    advance
    let parts ← fields false (readField depth) {}
    match parts.kind with
    | some kind => found (ofFields? kind parts.fields.reverse)
    | none => throw .mismatched
  | some '[' =>
    advance
    match ← element? true Kind.readTag with
    | some kind => found (ofList? kind (← elements false (value false depth)))
    | none => throw .mismatched
  | _ =>
    let _ ← scalar
    throw .mismatched

def read : Reader Token := readWithin (maxDepth - 1)

end Token

namespace Format

def toJson (format : Format) : Json := .array (format.tokens.map Token.toJson)

def read : Reader Format := do
  return ⟨← readList (Token.readWithin (maxDepth - 2))⟩

end Format
end InventoryIds
