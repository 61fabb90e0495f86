import InventoryIds.Format

/-!
# Pieces of formats

The pieces of a format are the single characters of its literals and its directives. `ofPieces`
gathers pieces into tokens, a run of characters into one literal, and `normalized` gathers the
pieces of a format anew, so that it has neither empty nor neighbouring literals.
`toList_canonical` says that the text of a format is that of its pieces, and `pieces_ofPieces`
that gathering loses nothing.
-/

namespace InventoryIds

/-- The smallest part of a format text: one character of a literal, or a directive. -/
inductive Piece where
  | char (c : Char)
  | directive (directive : Directive)
deriving DecidableEq, Repr

def Piece.chars : Piece → List Char
  | char c => [c]
  | directive d => d.canonical.toList

def Token.pieces : Token → List Piece
  | literal text => text.toList.map .char
  | directive d => [.directive d]

namespace Format

def pieces (format : Format) : List Piece := format.tokens.flatMap Token.pieces

/-- The literal for a run of characters, last character first; no literal for no characters. -/
def literalOfRun : List Char → List Token
  | [] => []
  | run => [.literal (String.ofList run.reverse)]

/-- Gathers pieces into tokens behind an open `run` of characters, last character first. -/
def gather (run : List Char) : List Piece → List Token
  | [] => literalOfRun run
  | .char c :: pieces => gather (c :: run) pieces
  | .directive d :: pieces => literalOfRun run ++ .directive d :: gather [] pieces

/-- The format of the pieces, with each longest run of characters as one literal. -/
def ofPieces (pieces : List Piece) : Format := ⟨gather [] pieces⟩

/-- The format with empty literals dropped and neighbouring literals joined. -/
def normalized (format : Format) : Format := ofPieces format.pieces

theorem toList_canonical (format : Format) :
    format.canonical.toList = format.pieces.flatMap Piece.chars := by
  have token (t : Token) : t.canonical.toList = t.pieces.flatMap Piece.chars := by
    cases t with
    | literal text => simp [Token.canonical, Token.pieces, Piece.chars, List.flatMap_map]
    | directive d => simp [Token.canonical, Token.pieces, Piece.chars]
  simp only [canonical, pieces, String.toList_join, List.flatMap_map, List.flatMap_assoc, token]

theorem flatMap_pieces_gather (run : List Char) (pieces : List Piece) :
    (gather run pieces).flatMap Token.pieces = run.reverse.map .char ++ pieces := by
  have literal (run : List Char) :
      (literalOfRun run).flatMap Token.pieces = run.reverse.map .char := by
    cases run <;> simp [literalOfRun, Token.pieces]
  induction pieces generalizing run with
  | nil => simp [gather, literal]
  | cons piece pieces ih =>
    cases piece with
    | char c => simp [gather, ih]
    | directive d => simp [gather, literal, ih, Token.pieces]

@[simp] theorem pieces_ofPieces (pieces : List Piece) : (ofPieces pieces).pieces = pieces := by
  simp [ofPieces, Format.pieces, flatMap_pieces_gather]

end Format
end InventoryIds
