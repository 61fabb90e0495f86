import InventoryIds.Numeral

/-!
# JSON

JSON values and the two ways in which they are written: compact, and in lines that are indented
by two blanks for each level. The fields of an object keep their order; `sorted` puts them in
the order of their names.
-/

namespace InventoryIds

inductive Number where
  /-- A whole number of 64 bits, without a sign. -/
  | word (n : UInt64)
  /-- Any other number, as it is spelled. -/
  | spelled (chars : List Char)
deriving DecidableEq, Repr

inductive Json where
  | null
  | bool (b : Bool)
  | number (n : Number)
  | string (s : String)
  | array (items : List Json)
  | object (fields : List (String × Json))

namespace Json

def word (n : UInt64) : Json := number (.word n)

/-! ### Characters and numbers -/

def escape (c : Char) : List Char :=
  if c = '"' then ['\\', '"']
  else if c = '\\' then ['\\', '\\']
  else if c = '\x08' then ['\\', 'b']
  else if c = '\x0c' then ['\\', 'f']
  else if c = '\n' then ['\\', 'n']
  else if c = '\r' then ['\\', 'r']
  else if c = '\t' then ['\\', 't']
  else if c.toNat < 0x20 then
    ['\\', 'u'] ++ (Numeral.digits 16 4 c.toNat).map Nat.digitChar
  else [c]

def quote (s : String) : List Char := '"' :: s.toList.flatMap escape ++ ['"']

def numberChars : Number → List Char
  | .word n => Nat.toDigits 10 n.toNat
  | .spelled chars => chars

def boolChars (b : Bool) : List Char := if b then "true".toList else "false".toList

/-! ### Compact text -/

mutual

def compactChars : Json → List Char
  | null => "null".toList
  | bool b => boolChars b
  | number n => numberChars n
  | string s => quote s
  | array items => '[' :: compactItems items ++ [']']
  | object fields => '{' :: compactFields fields ++ ['}']

def compactItems : List Json → List Char
  | [] => []
  | [item] => compactChars item
  | item :: items => compactChars item ++ ',' :: compactItems items

def compactFields : List (String × Json) → List Char
  | [] => []
  | [(name, value)] => quote name ++ ':' :: compactChars value
  | (name, value) :: fields =>
    quote name ++ ':' :: compactChars value ++ ',' :: compactFields fields

end

def compact (json : Json) : String := String.ofList json.compactChars

/-! ### Indented text -/

def newLine (level : Nat) : List Char := '\n' :: List.replicate (2 * level) ' '

mutual

/-- A value whose first line is at a level of indentation already. -/
def prettyChars (level : Nat) : Json → List Char
  | null => "null".toList
  | bool b => boolChars b
  | number n => numberChars n
  | string s => quote s
  | array [] => ['[', ']']
  | array (item :: items) =>
    '[' :: prettyItems (level + 1) (item :: items) ++ newLine level ++ [']']
  | object [] => ['{', '}']
  | object (field :: fields) =>
    '{' :: prettyFields (level + 1) (field :: fields) ++ newLine level ++ ['}']

def prettyItems (level : Nat) : List Json → List Char
  | [] => []
  | [item] => newLine level ++ prettyChars level item
  | item :: items => newLine level ++ prettyChars level item ++ ',' :: prettyItems level items

def prettyFields (level : Nat) : List (String × Json) → List Char
  | [] => []
  | [(name, value)] => newLine level ++ quote name ++ ':' :: ' ' :: prettyChars level value
  | (name, value) :: fields =>
    newLine level ++ quote name ++ ':' :: ' ' :: prettyChars level value ++
      ',' :: prettyFields level fields

end

def pretty (json : Json) : String := String.ofList (json.prettyChars 0)

/-! ### Order of fields -/

/-- Puts a field in front of the first one whose name is not smaller. -/
def insertField (field : String × Json) : List (String × Json) → List (String × Json)
  | [] => [field]
  | other :: fields =>
    if other.1 < field.1 then other :: insertField field fields else field :: other :: fields

mutual

/-- The value with the fields of all objects in the order of their names. -/
def sorted : Json → Json
  | array items => array (sortedItems items)
  | object fields => object (sortedFields fields)
  | json => json

def sortedItems : List Json → List Json
  | [] => []
  | item :: items => sorted item :: sortedItems items

def sortedFields : List (String × Json) → List (String × Json)
  | [] => []
  | (name, value) :: fields => insertField (name, sorted value) (sortedFields fields)

end

end Json
end InventoryIds
