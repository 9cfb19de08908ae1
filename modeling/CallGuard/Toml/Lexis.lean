import CallGuard.Text.Numeral

/-! What may stand between the parts of a document: blanks, line ends and comments; and
the classes of characters of bare keys and of strings. Line ends are a line feed, alone or
after a carriage return. -/

namespace CallGuard.Toml

/-- What is left to read. -/
abbrev Chars := List Char

/-- A reader takes a value from the front of the text, or fails. -/
abbrev Reader (α : Type) := Chars → Option (α × Chars)

/-- Space and tab. -/
def isBlankChar (c : Char) : Bool := c = ' ' || c = '\t'

/-- Characters that may stand unescaped anywhere: tab and all but the controls. -/
def isPlain (c : Char) : Bool := c = '\t' || (32 ≤ c.toNat && c.toNat ≠ 127)

/-- Characters of a bare key. -/
def isBare (c : Char) : Bool :=
  ('a' ≤ c && c ≤ 'z') || ('A' ≤ c && c ≤ 'Z') || ('0' ≤ c && c ≤ '9') || c = '-' || c = '_'

def skipBlanks (cs : Chars) : Chars := cs.dropWhile isBlankChar

/-- The rest after a line end, if one stands at the front. -/
def newline? : Chars → Option Chars
  | '\n' :: cs => some cs
  | '\r' :: '\n' :: cs => some cs
  | _ => none

/-- The rest after a comment, which reaches to the end of its line. -/
def skipComment : Chars → Chars
  | '#' :: cs => cs.dropWhile isPlain
  | cs => cs

/-- The rest of a line without a statement, its line end included; nothing may be left on it. -/
def lineEnd? (cs : Chars) : Option Chars :=
  match skipComment (skipBlanks cs) with
  | [] => some []
  | cs => newline? cs

/-- Skips blanks, line ends and comments, from inside a comment if so told. -/
def skipGap (inComment : Bool) : Chars → Chars
  | [] => []
  | c :: cs =>
    if inComment && isPlain c then skipGap true cs
    else if isBlankChar c || c = '\n' then skipGap false cs
    else if c = '\r' && cs.head? = some '\n' then skipGap false cs
    else if c = '#' then skipGap true cs
    else c :: cs

/-- The rest after a given character. -/
def after? (c : Char) : Chars → Option Chars
  | d :: cs => if d = c then some cs else none
  | [] => none

/-- The rest after a given word. -/
def afterWord? : List Char → Chars → Option Chars
  | [], cs => some cs
  | c :: word, cs => (after? c cs).bind (afterWord? word)

end CallGuard.Toml
