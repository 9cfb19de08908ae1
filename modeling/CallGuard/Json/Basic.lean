import CallGuard.Binary64.Decimal
import CallGuard.NameMap
import CallGuard.Text.Numeral

/-! JSON values and their texts. The members of an object rise in the order of their keys,
so a value has one text in each form: `compact` without blanks, and `pretty` with a line for
each item, indented by two blanks a level. -/

namespace CallGuard

inductive Json
  | null
  | bool (b : Bool)
  | integer (n : Int)
  | float (x : Binary64)
  | text (s : String)
  | array (items : List Json)
  | object (members : List (String × Json))

namespace Json

open Text

/-- Whole numbers with `.0`; above `10 ^ 16` and below `10 ^ -5` the form is scientific. -/
def numberNotation : Binary64.Notation := ⟨some (-4, 16), ".0", "null", "null"⟩

/-- The text of a number; what is not finite has none of its own. -/
def numberText (x : Binary64) : String := if x.isFinite then x.render numberNotation else "null"

/-- A character of a string: quote, backslash and control characters are escaped. -/
def writeChar (c : Char) : List Char :=
  if c = '"' then ['\\', '"']
  else if c = '\\' then ['\\', '\\']
  else if c = '\n' then ['\\', 'n']
  else if c = '\r' then ['\\', 'r']
  else if c = '\t' then ['\\', 't']
  else if c.toNat = 8 then ['\\', 'b']
  else if c.toNat = 12 then ['\\', 'f']
  else if c.toNat < 32 then '\\' :: 'u' :: Numeral.padded 4 16 c.toNat
  else [c]

def writeText (s : String) : String :=
  String.ofList ('"' :: (s.toList.flatMap writeChar) ++ ['"'])

def boolText (b : Bool) : String := if b then "true" else "false"

mutual

/-- The text without blanks. -/
def compact : Json → String
  | null => "null"
  | bool b => boolText b
  | integer n => Numeral.integer n
  | float x => numberText x
  | text s => writeText s
  | array items => "[" ++ ",".intercalate (compactItems items) ++ "]"
  | object members => "\x7b" ++ ",".intercalate (compactMembers members) ++ "\x7d"

def compactItems : List Json → List String
  | [] => []
  | v :: rest => compact v :: compactItems rest

def compactMembers : List (String × Json) → List String
  | [] => []
  | (k, v) :: rest => (writeText k ++ ":" ++ compact v) :: compactMembers rest

end

/-- A line break and the indentation of a level. -/
def newline (level : Nat) : String := "\n" ++ String.ofList (List.replicate (2 * level) ' ')

/-- Items between brackets, one a line; the brackets close up if there are none. -/
def block (opening closing : String) (level : Nat) (items : List String) : String :=
  if items.isEmpty then opening ++ closing
  else opening ++ newline (level + 1) ++ ("," ++ newline (level + 1)).intercalate items
    ++ newline level ++ closing

mutual

def prettyAt (level : Nat) : Json → String
  | array items => block "[" "]" level (prettyItems (level + 1) items)
  | object members => block "\x7b" "\x7d" level (prettyMembers (level + 1) members)
  | null => "null"
  | bool b => boolText b
  | integer n => Numeral.integer n
  | float x => numberText x
  | text s => writeText s

def prettyItems (level : Nat) : List Json → List String
  | [] => []
  | v :: rest => prettyAt level v :: prettyItems level rest

def prettyMembers (level : Nat) : List (String × Json) → List String
  | [] => []
  | (k, v) :: rest => (writeText k ++ ": " ++ prettyAt level v) :: prettyMembers level rest

end

/-- The text with a line for each item. -/
def pretty (v : Json) : String := prettyAt 0 v

end Json

end CallGuard
