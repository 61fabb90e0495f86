import InventoryIds.Kind

/-!
# Faults of formats

Why an argument, a format text or a token list is refused, and the message for each reason.
Offsets count the bytes of the UTF-8 text.
-/

namespace InventoryIds

/-- What is wrong with the argument of a directive, or with the text of a literal. -/
inductive ArgumentIssue where
  | missing
  | unexpected (argument : String)
  | notNumeric (argument : String)
  | leadingZero (argument : String)
  | unsupportedBits (bits : Nat)
  | unknownDatePattern (argument : String)
  | widthOutOfRange (width : Nat)
  | reservedCharacter
deriving DecidableEq, Repr

def ArgumentIssue.message : ArgumentIssue → String
  | missing => "missing argument"
  | unexpected argument => "unexpected argument `" ++ argument ++ "`"
  | notNumeric argument => "`" ++ argument ++ "` is not a number"
  | leadingZero argument => "`" ++ argument ++ "` has a leading zero"
  | unsupportedBits bits =>
    bits.repr ++ " is not a supported bit width (expected 6, 9, 20 or 32)"
  | unknownDatePattern argument => "`" ++ argument ++ "` is not an allowed date pattern"
  | widthOutOfRange width =>
    "sequence width " ++ width.repr ++ " is out of range (expected 1..=20)"
  | reservedCharacter => "literal text may not contain `\x7b`"

/-- Why a format is refused: a fault of its text, or a limit exceeded. -/
inductive FormatError where
  | malformedDirective (offset : Nat)
  | unknownDirective (head : String) (offset : Nat)
  | invalidArgument (kind : Kind) (offset : Nat) (issue : ArgumentIssue)
  | tooManyOfKind (kind : Kind) (count limit : Nat)
  | tooManyTokens (count limit : Nat)
deriving DecidableEq, Repr

namespace FormatError

def message : FormatError → String
  | malformedDirective offset => "malformed directive at byte " ++ offset.repr
  | unknownDirective head offset =>
    "unknown directive `" ++ head ++ "` at byte " ++ offset.repr
  | invalidArgument kind offset issue =>
    "invalid argument for " ++ kind.head ++ " at byte " ++ offset.repr ++ ": " ++ issue.message
  | tooManyOfKind kind count limit =>
    "too many " ++ kind.head ++ " tokens: " ++ count.repr ++ " exceeds the limit of " ++ limit.repr
  | tooManyTokens count limit =>
    "too many tokens: " ++ count.repr ++ " exceeds the limit of " ++ limit.repr

def isSyntaxError : FormatError → Bool
  | malformedDirective _ | unknownDirective _ _ | invalidArgument _ _ _ => true
  | tooManyOfKind _ _ _ | tooManyTokens _ _ => false

def isLimitError : FormatError → Bool
  | tooManyOfKind _ _ _ | tooManyTokens _ _ => true
  | malformedDirective _ | unknownDirective _ _ | invalidArgument _ _ _ => false

end FormatError
end InventoryIds
