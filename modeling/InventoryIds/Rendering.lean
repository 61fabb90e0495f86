import InventoryIds.Format
import InventoryIds.Inventory
import InventoryIds.Instant
import InventoryIds.Guid
import InventoryIds.Feed

/-!
# Rendering

How a format is filled in. A context holds what all tokens of one identifier share: the instant
and the reserved number. The draft is what has been written so far, with the draws that are left.
-/

namespace InventoryIds

/-- What the tokens of one identifier share. -/
structure Context where
  now : Instant
  /-- The inventory that the identifier is made for; none in a preview. -/
  inventory : Option InventoryId := none
  /-- The number reserved for the identifier, if one was. -/
  sequence : Option UInt64 := none
deriving DecidableEq, Repr

namespace Context

/-- The ordinal shown when nothing was reserved. -/
def placeholder : Nat := 1

def preview (now : Instant) : Context := { now }

def commit (inventory : InventoryId) (now : Instant) (sequence : Option UInt64) : Context :=
  { now, inventory := some inventory, sequence }

/-- The ordinal to show: ordinals count from one, and the last word has an ordinal, too. -/
def ordinal (context : Context) : Nat :=
  match context.sequence with
  | some reserved => reserved.toNat + 1
  | none => placeholder

end Context

/-- A year in four digits; with a sign if it lies outside the years 0 to 9999. -/
def yearText (year : Int) : List Char :=
  if 0 ≤ year ∧ year ≤ 9999 then Numeral.padded 4 year.toNat
  else (if year < 0 then '-' else '+') :: Numeral.padded 4 year.natAbs

def DateField.text (time : CivilTime) : DateField → List Char
  | year => yearText time.year
  | shortYear => Numeral.padded 2 (time.year % 100).toNat
  | month => Numeral.padded 2 time.month
  | day => Numeral.padded 2 time.day
  | hour => Numeral.padded 2 time.hour
  | minute => Numeral.padded 2 time.minute
  | second => Numeral.padded 2 time.second
  | mark c => [c]

def DatePattern.text (pattern : DatePattern) (now : Instant) : List Char :=
  pattern.fields.flatMap (DateField.text now.civil)

structure Draft where
  text : String := ""
  draws : Feed Draw

namespace Draft

def write (draft : Draft) (chars : List Char) : Draft :=
  { draft with text := draft.text ++ String.ofList chars }

/-- Takes one draw and writes what is made of it. -/
def writeDraw (draft : Draft) (make : Draw → List Char) : Draft :=
  let (draw, draws) := draft.draws.next
  { draft with draws }.write (make draw)

end Draft

def Directive.render (context : Context) (draft : Draft) : Directive → Draft
  | random code => draft.writeDraw fun draw => code.ofWord draw.word
  | guid => draft.writeDraw fun draw => Guid.text (Guid.ofDraw draw)
  | date pattern => draft.write (pattern.text context.now)
  | sequence width => draft.write (Numeral.padded width.minDigits context.ordinal)

def Token.render (context : Context) (draft : Draft) : Token → Draft
  | literal text => { draft with text := draft.text ++ text }
  | directive d => d.render context draft

def Format.renderInto (format : Format) (context : Context) (draft : Draft) : Draft :=
  format.tokens.foldl (Token.render context) draft

/-- The identifier that a format gives, and the draws that are left. -/
def Format.render (format : Format) (context : Context) (draws : Feed Draw) :
    String × Feed Draw :=
  let draft := format.renderInto context { draws }
  (draft.text, draft.draws)

/-- What each token writes, in order, with the draws taken one after the other. -/
def fragmentsOf (context : Context) : List Token → Feed Draw → List String
  | [], _ => []
  | token :: tokens, draws =>
    let draft := token.render context { draws }
    draft.text :: fragmentsOf context tokens draft.draws

def Format.fragments (format : Format) (context : Context) (draws : Feed Draw) : List String :=
  fragmentsOf context format.tokens draws

/-! ### Room for identifiers -/

def Token.estimatedLength : Token → Nat
  | literal text => text.utf8ByteSize
  | directive (.random code) => code.width
  | directive .guid => Guid.length
  | directive (.date pattern) => pattern.spelling.utf8ByteSize
  | directive (.sequence width) => width.minDigits

/-- The bytes that an identifier is expected to take; long ordinals take more. -/
def Format.estimatedLength (format : Format) : Nat :=
  (format.tokens.map Token.estimatedLength).foldr (· + ·) 0

end InventoryIds
