import InventoryIds.Format.Pieces

/-!
# Reading formats

A format text is read from left to right into pieces: an opening brace starts a directive, the
next closing brace ends it, and every other character stands for itself. The first fault met
is the one reported.
-/

namespace InventoryIds

/-- A directive whose closing brace has not been reached. -/
structure OpenDirective where
  /-- The byte at which its opening brace stands. -/
  offset : Nat
  /-- The characters read since, last character first. -/
  body : List Char
deriving Repr

namespace Format

/-- Reads the pieces of a text that starts at byte `position`, within a directive if one is
open. -/
def readPieces : Option OpenDirective → Nat → List Char → Except FormatError (List Piece)
  | none, _, [] => .ok []
  | some opened, _, [] => .error (.malformedDirective opened.offset)
  | none, position, c :: cs =>
    if c = '{' then readPieces (some ⟨position, []⟩) (position + c.utf8Size) cs
    else do
      let pieces ← readPieces none (position + c.utf8Size) cs
      return .char c :: pieces
  | some opened, position, c :: cs =>
    if c = '{' then .error (.malformedDirective opened.offset)
    else if c = '}' then do
      let directive ← Directive.ofBody opened.offset opened.body.reverse
      let pieces ← readPieces none (position + c.utf8Size) cs
      return .directive directive :: pieces
    else readPieces (some ⟨opened.offset, c :: opened.body⟩) (position + c.utf8Size) cs

def parse (text : String) : Except FormatError Format := do
  let pieces ← readPieces none 0 text.toList
  return ofPieces pieces

end Format
end InventoryIds
