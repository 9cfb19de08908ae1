import CallGuard.Text.Numeral
import CallGuard.Text.Property

/-! Tables of characters written as text: rows between blanks, code points in base sixteen.
The row `41-5a=61` sends each character from 41 to 5a to the one as far from 61, a slash in
place of the hyphen takes every other character only, and points divide the code points that
one character is sent to. -/

namespace CallGuard.Text.Table

/-- The characters from the first to the last at one distance, and the code points that the
first is sent to. -/
structure Row where
  first : Nat
  last : Nat
  distance : Nat
  target : List Nat

namespace Row

def ofText (cs : List Char) : Row :=
  let key := cs.takeWhile (· ≠ '=')
  let first := Numeral.value 16 (key.takeWhile (Numeral.isDigit 16))
  let rest := key.dropWhile (Numeral.isDigit 16)
  { first
    last := if rest.isEmpty then first else Numeral.value 16 (rest.drop 1)
    distance := if rest.head? = some '/' then 2 else 1
    target := (((cs.dropWhile (· ≠ '=')).drop 1).splitOn '.').map (Numeral.value 16) }

/-- What a row sends a character to. -/
def image? (row : Row) (c : Char) : Option (List Nat) :=
  let n := c.toNat
  if row.first ≤ n ∧ n ≤ row.last ∧ (n - row.first) % row.distance = 0 then
    some (row.target.map (· + (n - row.first)))
  else none

end Row

def ofText (text : String) : List Row :=
  ((text.toList.map fun c => if c = '\n' then ' ' else c).splitOn ' ').filterMap fun cs =>
    if cs.isEmpty then none else some (Row.ofText cs)

/-- The ranges of a table that sends its characters nowhere. -/
def ranges (text : String) : Ranges := (ofText text).map fun row => (row.first, row.last)

/-- What a table sends a character to. -/
def find? (rows : List Row) (c : Char) : Option (List Nat) := rows.findSome? (·.image? c)

end CallGuard.Text.Table
