import InventoryIds.Json

/-!
# Readers

A reader takes what it reads off the front of a text. The first fault met from left to right is
the one reported: the text is malformed, it ends too early, or it holds a value that does not
fit. Here are the readers that all others are made of: blanks, words, strings, and the brackets,
commas and names of lists and objects.
-/

namespace InventoryIds

inductive ReadError where
  /-- The text is not JSON, or goes on behind its value. -/
  | malformed
  /-- The text ends too early. -/
  | truncated
  /-- The text is JSON, but not of the shape that is wanted. -/
  | mismatched
deriving DecidableEq, Repr

/-- Takes a value off the front of a text. -/
abbrev Reader := StateT (List Char) (Except ReadError)

namespace Reader

def isBlank (c : Char) : Bool := c = ' ' || c = '\n' || c = '\t' || c = '\r'

def skipBlanks (text : List Char) : List Char := text.dropWhile isBlank

/-- The first character behind the blanks, which is left in place. -/
def peek : Reader (Option Char) := fun text =>
  let text := skipBlanks text
  .ok (text.head?, text)

def advance : Reader Unit := fun text => .ok ((), text.drop 1)

def word : List Char → Reader Unit
  | [] => fun text => .ok ((), text)
  | c :: cs => fun text =>
    match text with
    | [] => .error .truncated
    | d :: rest => if d = c then word cs rest else .error .malformed

def finish : Reader Unit := do
  match ← peek with
  | none => return ()
  | some _ => throw .malformed

def readAll {α : Type} (reader : Reader α) (text : String) : Except ReadError α := do
  let (value, _) ← (do let value ← reader; finish; return value : Reader α) text.toList
  return value

/-! ### Strings -/

def hexValue? (c : Char) : Option Nat :=
  if '0' ≤ c ∧ c ≤ '9' then some (c.toNat - '0'.toNat)
  else if 'a' ≤ c ∧ c ≤ 'f' then some (c.toNat - 'a'.toNat + 10)
  else if 'A' ≤ c ∧ c ≤ 'F' then some (c.toNat - 'A'.toNat + 10)
  else none

def shortEscape? (c : Char) : Option Char :=
  match c with
  | '"' => some '"'
  | '\\' => some '\\'
  | '/' => some '/'
  | 'b' => some '\x08'
  | 'f' => some '\x0c'
  | 'n' => some '\n'
  | 'r' => some '\r'
  | 't' => some '\t'
  | _ => none

def isHighSurrogate (unit : Nat) : Bool := 0xd800 ≤ unit && unit ≤ 0xdbff

def isLowSurrogate (unit : Nat) : Bool := 0xdc00 ≤ unit && unit ≤ 0xdfff

def ofSurrogates (high low : Nat) : Char :=
  Char.ofNat (0x10000 + (high - 0xd800) * 0x400 + (low - 0xdc00))

/-- Four hexadecimal digits need this many bytes of text. -/
def bytesPerUnit : Nat := 4

def hasUnit (text : List Char) : Bool :=
  bytesPerUnit ≤ ((text.take bytesPerUnit).map Char.utf8Size).foldr (· + ·) 0

/-- The place of a reader within a string. -/
inductive StringPlace where
  /-- Between characters. -/
  | text
  /-- Behind a backslash. -/
  | escape
  /-- Within the digits of a code unit, with its value so far and the digits to come; behind the
  first half of a pair if there is one. -/
  | unit (high : Option Nat) (value left : Nat)
  /-- Behind the first half of a pair, in front of the backslash of the second. -/
  | pair (high : Nat)
  /-- Behind the first half of a pair, in front of the letter of the second. -/
  | pairLetter (high : Nat)

/-- What a code unit leads to: a character, or the second half of a pair. A half without its
partner is refused, unless the string is only passed over. -/
def unitStep (lenient : Bool) (high : Option Nat) (unit : Nat) :
    Except ReadError (Option Char × StringPlace) :=
  if lenient then .ok (some '\ufffd', .text)
  else
    match high with
    | some first =>
      if isLowSurrogate unit then .ok (some (ofSurrogates first unit), .text)
      else .error .malformed
    | none =>
      if isLowSurrogate unit then .error .malformed
      else if isHighSurrogate unit then .ok (none, .pair unit)
      else .ok (some (Char.ofNat unit), .text)

/-- Reads the characters of a string up to its closing quote. -/
def stringChars (lenient : Bool) : StringPlace → Reader (List Char)
  | _, [] => .error .truncated
  | .text, c :: rest =>
    if c = '"' then .ok ([], rest)
    else if c = '\\' then stringChars lenient .escape rest
    else if c.toNat < 0x20 then .error .malformed
    else do
      let (chars, rest) ← stringChars lenient .text rest
      return (c :: chars, rest)
  | .escape, c :: rest =>
    if c = 'u' then
      if hasUnit rest then stringChars lenient (.unit none 0 bytesPerUnit) rest
      else .error .truncated
    else
      match shortEscape? c with
      | none => .error .malformed
      | some escaped => do
        let (chars, rest) ← stringChars lenient .text rest
        return (escaped :: chars, rest)
  | .unit high value left, c :: rest =>
    match hexValue? c with
    | none => .error .malformed
    | some digit =>
      let value := 16 * value + digit
      if left = 1 then do
        let (char, place) ← unitStep lenient high value
        let (chars, rest) ← stringChars lenient place rest
        return (char.toList ++ chars, rest)
      else stringChars lenient (.unit high value (left - 1)) rest
  | .pair high, c :: rest =>
    if c = '\\' then stringChars lenient (.pairLetter high) rest else .error .malformed
  | .pairLetter high, c :: rest =>
    if c = 'u' then
      if hasUnit rest then stringChars lenient (.unit (some high) 0 bytesPerUnit) rest
      else .error .truncated
    else .error .malformed

def string (lenient : Bool) : Reader String := do
  return String.ofList (← stringChars lenient .text)

/-! ### Lists and objects -/

/-- Whether there is another element in a list. A comma has to stand in front of every element
but the first. -/
def moreElements (first : Bool) : Reader Bool := do
  match ← peek with
  | none => throw .truncated
  | some ']' => return false
  | some c =>
    if first then return true
    else if c = ',' then
      advance
      match ← peek with
      | none => throw .truncated
      | some ']' => throw .malformed
      | some _ => return true
    else throw .malformed

def element? {α : Type} (first : Bool) (reader : Reader α) : Reader (Option α) := do
  if ← moreElements first then return some (← reader) else return none

def closing (close : Char) : Reader Unit := do
  match ← peek with
  | none => throw .truncated
  | some c => if c = close then advance else throw .malformed

/-- Reads the elements of a list behind its opening bracket; at most `fuel` of them, which the
length of the text bounds. -/
def elementsUpTo {α : Type} (reader : Reader α) : Nat → Bool → Reader (List α)
  | 0, _ => throw .truncated
  | fuel + 1, first => do
    match ← element? first reader with
    | none => closing ']'; return []
    | some value => return value :: (← elementsUpTo reader fuel false)

/-- Reads the elements of a list, from the first one or from a later one on, and its closing
bracket. -/
def elements {α : Type} (first : Bool) (reader : Reader α) : Reader (List α) := fun text =>
  elementsUpTo reader (text.length + 1) first text

def fieldName? (lenient first : Bool) : Reader (Option String) := do
  match ← peek with
  | none => throw .truncated
  | some '}' => return none
  | some c =>
    if first then name c
    else if c = ',' then
      advance
      match ← peek with
      | none => throw .truncated
      | some c => name c
    else throw .malformed
where
  name (c : Char) : Reader (Option String) := do
    if c = '"' then
      advance
      return some (← string lenient)
    else throw .malformed

def colon : Reader Unit := closing ':'

/-- Reads the fields of an object behind its opening bracket, where `field` reads on behind a
name and takes the value in; at most `fuel` of them, which the length of the text bounds. -/
def fieldsUpTo {σ : Type} (lenient : Bool) (field : σ → String → Reader σ) :
    Nat → Bool → σ → Reader σ
  | 0, _, _ => throw .truncated
  | fuel + 1, first, state => do
    match ← fieldName? lenient first with
    | none => closing '}'; return state
    | some name => fieldsUpTo lenient field fuel false (← field state name)

def fields {σ : Type} (lenient : Bool) (field : σ → String → Reader σ) (state : σ) : Reader σ :=
  fun text => fieldsUpTo lenient field (text.length + 1) true state text

end Reader
end InventoryIds
