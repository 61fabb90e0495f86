import InventoryIds.Json.Reader

/-!
# Numbers of JSON texts

A number is a sign, whole digits without a leading zero, and perhaps a fraction and an exponent.
Whole numbers below 2^64 are read as they are. All others stand for binary floating-point
numbers of 53 significant bits; they keep their spelling, and those beyond the greatest such
number are refused.
-/

namespace InventoryIds

/-- The parts of a number as they are spelled. -/
structure NumberParts where
  negative : Bool
  whole : List Char
  fraction : Option (List Char)
  /-- The sign of the exponent, as it is spelled, and its digits. -/
  exponent : Option (List Char × List Char)
deriving DecidableEq, Repr

namespace NumberParts

/-! ### Size -/

def wordBound : Nat := UInt64.size

/-- Goes on with the significant digits `n` as long as they fit in a word, and counts the digits
that were taken and those that were left. -/
def significand (n : Nat) : List Char → Nat × Nat × Nat
  | [] => (n, 0, 0)
  | c :: cs =>
    let next := 10 * n + (c.toNat - '0'.toNat)
    if next < wordBound then
      let (n, taken, left) := significand next cs
      (n, taken + 1, left)
    else (n, 0, cs.length + 1)

/-- The nearest number of 53 significant bits; a tie goes to the even one. -/
def roundBinary (n : Nat) : Nat :=
  let shift := n.log2 - 52
  let unit := Nat.pow 2 shift
  let quotient := n / unit
  let rest := n % unit
  if unit < 2 * rest ∨ (2 * rest = unit ∧ quotient % 2 = 1) then (quotient + 1) * unit
  else quotient * unit

/-- Half a unit beyond the greatest floating-point number. -/
def floatBound : Nat := (Nat.pow 2 54 - 1) * Nat.pow 2 970

/-- The greatest power of ten that is a floating-point number. -/
def largestPower : Nat := 308

/-- The number is beyond the greatest floating-point number: its significant digits and its power
of ten are rounded, and so is their product. -/
def isOutOfRange (parts : NumberParts) : Bool :=
  let (n, _, dropped) := significand 0 parts.whole
  let (n, taken, _) := significand n (parts.fraction.getD [])
  let written : Int :=
    match parts.exponent with
    | none => 0
    | some (sign, digits) =>
      let size : Int := Nat.ofDigitChars 10 digits 0
      if sign = ['-'] then -size else size
  let exponent := (dropped : Int) - taken + written
  if exponent < 0 ∨ n = 0 then false
  else
    let exponent := exponent.toNat
    largestPower < exponent || floatBound ≤ roundBinary n * roundBinary (Nat.pow 10 exponent)

/-! ### Spelling -/

def spelling (parts : NumberParts) : List Char :=
  (if parts.negative then ['-'] else []) ++ parts.whole ++
    (parts.fraction.elim [] ('.' :: ·)) ++
    (parts.exponent.elim [] fun (sign, digits) => 'e' :: sign ++ digits)

def number (parts : NumberParts) : Number :=
  let n := Nat.ofDigitChars 10 parts.whole 0
  if !parts.negative && parts.fraction.isNone && parts.exponent.isNone && n < wordBound then
    .word (UInt64.ofNat n)
  else .spelled parts.spelling

end NumberParts

namespace Reader

def digits : Reader (List Char) := fun text =>
  match text.takeWhile Char.isDigit, text.dropWhile Char.isDigit with
  | [], [] => .error .truncated
  | [], _ :: _ => .error .malformed
  | chars, rest => .ok (chars, rest)

/-- Reads whole digits; a zero stands alone. -/
def wholeDigits : Reader (List Char) := do
  match ← digits with
  | '0' :: _ :: _ => throw .malformed
  | chars => return chars

def optional (c : Char) : Reader Bool := fun text =>
  match text with
  | d :: rest => if d = c then .ok (true, rest) else .ok (false, text)
  | [] => .ok (false, text)

def fraction? : Reader (Option (List Char)) := do
  if ← optional '.' then return some (← digits) else return none

def exponentSign : Reader (List Char) := do
  if ← optional '+' then return ['+']
  else if ← optional '-' then return ['-']
  else return []

def exponentLetter : Reader Bool := do
  if ← optional 'e' then return true else optional 'E'

def exponent? : Reader (Option (List Char × List Char)) := do
  if ← exponentLetter then
    let sign ← exponentSign
    return some (sign, ← digits)
  else return none

def numberParts : Reader NumberParts := do
  let negative ← optional '-'
  let whole ← wholeDigits
  let fraction ← fraction?
  let exponent ← exponent?
  return { negative, whole, fraction, exponent }

def number : Reader Number := do
  let parts ← numberParts
  match parts.number with
  | .word n => return .word n
  | .spelled chars => if parts.isOutOfRange then throw .malformed else return .spelled chars

/-- Reads a number that is only passed over: its size does not matter, and one that breaks off
is malformed. -/
def skippedNumber : Reader Number := fun text =>
  match numberParts text with
  | .ok (parts, rest) => .ok (parts.number, rest)
  | .error _ => .error .malformed

end Reader
end InventoryIds
