import CallGuard.Binary64.Decimal
import CallGuard.Toml.Lexis
import CallGuard.Toml.Value

/-! Numbers, dates and times, and booleans. A numeral may have single underscores between
its digits and no leading zero; an integer has to fit 64 bits, and a number too large for
a finite one is refused unless it is negative. -/

namespace CallGuard.Toml

open Text

/-! ### Digits -/

/-- Digits of a base at the front, single underscores between them, after one that was taken. -/
def moreDigits (base : Nat) : Chars → List Char × Chars
  | [] => ([], [])
  | c :: cs =>
    if Numeral.isDigit base c then
      let (ds, rest) := moreDigits base cs
      (c :: ds, rest)
    else if c = '_' && cs.head?.any (Numeral.isDigit base) then moreDigits base cs
    else ([], c :: cs)

/-- At least one digit. -/
def digits? (base : Nat) : Reader (List Char)
  | [] => none
  | c :: cs => if Numeral.isDigit base c then some (moreDigits base (c :: cs)) else none

/-- Decimal digits without a leading zero, unless zero is all. -/
def decimalDigits? : Reader (List Char)
  | [] => none
  | c :: cs => if c = '0' then some (['0'], cs) else digits? 10 (c :: cs)

/-! ### Numbers -/

/-- An integer that fits. -/
def fitting (n : Int) (rest : Chars) : Option (Value × Chars) :=
  if minInteger ≤ n ∧ n ≤ maxInteger then some (.integer n, rest) else none

/-- A numeral after `0x`, `0o` or `0b`. -/
def based? (base : Nat) : Reader Value := fun cs => do
  let (ds, rest) ← digits? base cs
  fitting (Numeral.value base ds) rest

def integer? : Reader Value
  | '0' :: 'x' :: cs => based? 16 cs
  | '0' :: 'o' :: cs => based? 8 cs
  | '0' :: 'b' :: cs => based? 2 cs
  | cs => do
    let (negative, cs) := Binary64.splitSign cs
    let (ds, rest) ← decimalDigits? cs
    let n : Int := Numeral.value 10 ds
    fitting (if negative then -n else n) rest

/-- The fraction after a whole part, with its point. -/
def fraction? : Reader (List Char)
  | '.' :: cs => do
    let (ds, rest) ← digits? 10 cs
    return ('.' :: ds, rest)
  | _ => none

/-- The letter of an exponent, its sign and its digits. -/
def exponent? : Reader (List Char)
  | [] => none
  | c :: cs =>
    if c = 'e' || c = 'E' then do
      let (mark, cs) := match cs with
        | '+' :: cs => ([], cs)
        | '-' :: cs => (['-'], cs)
        | cs => ([], cs)
      let (ds, rest) ← digits? 10 cs
      return ('e' :: mark ++ ds, rest)
    else none

/-- A number with a fraction, an exponent or both. -/
def float? : Reader Value := fun cs => do
  let (negative, cs) := Binary64.splitSign cs
  let (whole, rest) ← decimalDigits? cs
  let (tail, rest) ←
    match fraction? rest with
    | some (fraction, rest) =>
      match exponent? rest with
      | some (exponent, rest) => some (fraction ++ exponent, rest)
      | none => some (fraction, rest)
    | none => exponent? rest
  let x ← Binary64.readUnsigned? negative (whole ++ tail)
  if x = .infinite false then none else some (.float x, rest)

/-- Infinity and `nan`, with or without a sign. -/
def special? : Reader Value := fun cs =>
  let (negative, cs) := Binary64.splitSign cs
  match afterWord? ['i', 'n', 'f'] cs with
  | some rest => some (.float (.infinite negative), rest)
  | none => (afterWord? ['n', 'a', 'n'] cs).map fun rest => (.float .nan, rest)

def boolean? : Reader Value := fun cs =>
  match afterWord? ['t', 'r', 'u', 'e'] cs with
  | some rest => some (.boolean true, rest)
  | none => (afterWord? ['f', 'a', 'l', 's', 'e'] cs).map fun rest => (.boolean false, rest)

/-! ### Dates and times -/

/-- So many decimal digits. -/
def fixed? : Nat → Reader (List Char)
  | 0, cs => some ([], cs)
  | _ + 1, [] => none
  | k + 1, c :: cs =>
    if Numeral.isDigit 10 c then do
      let (ds, rest) ← fixed? k cs
      return (c :: ds, rest)
    else none

/-- A number of two digits within bounds. -/
def twoDigits? (lo hi : Nat) : Reader Nat := fun cs => do
  let (ds, rest) ← fixed? 2 cs
  let n := Numeral.value 10 ds
  if lo ≤ n ∧ n ≤ hi then some (n, rest) else none

/-- Days of a month. -/
def daysIn (year month : Nat) : Nat :=
  if month = 2 then if year % 4 = 0 && (year % 100 ≠ 0 || year % 400 = 0) then 29 else 28
  else if month = 4 || month = 6 || month = 9 || month = 11 then 30
  else 31

def twoPlaces (n : Nat) : List Char := Numeral.padded 2 10 n

/-- A day of the calendar. -/
def date? : Reader (List Char) := fun cs => do
  let (ds, cs) ← fixed? 4 cs
  let (month, cs) ← twoDigits? 1 12 (← after? '-' cs)
  let (day, cs) ← twoDigits? 1 (daysIn (Numeral.value 10 ds) month) (← after? '-' cs)
  return (ds ++ '-' :: twoPlaces month ++ '-' :: twoPlaces day, cs)

/-- The fraction of a second: nine places count, and trailing zeros are dropped. -/
def secondFraction (cs : Chars) : List Char × Chars :=
  match cs with
  | '.' :: rest =>
    match rest.takeWhile (Numeral.isDigit 10) with
    | [] => ([], cs)
    | ds =>
      let kept := ((ds.take 9).reverse.dropWhile (· = '0')).reverse
      (if kept.isEmpty then [] else '.' :: kept, rest.dropWhile (Numeral.isDigit 10))
  | _ => ([], cs)

/-- A time of day; a minute may have a leap second. -/
def time? : Reader (List Char) := fun cs => do
  let (hour, cs) ← twoDigits? 0 23 cs
  let (minute, cs) ← twoDigits? 0 59 (← after? ':' cs)
  let (second, cs) ← twoDigits? 0 60 (← after? ':' cs)
  let (fraction, cs) := secondFraction cs
  return (twoPlaces hour ++ ':' :: twoPlaces minute ++ ':' :: twoPlaces second ++ fraction, cs)

/-- The offset of a time from the universal one. -/
def offset? : Reader (List Char)
  | [] => none
  | c :: cs =>
    if c = 'Z' || c = 'z' then some (['Z'], cs)
    else if c = '+' || c = '-' then do
      let (hours, cs) ← twoDigits? 0 23 cs
      let (minutes, cs) ← twoDigits? 0 59 (← after? ':' cs)
      let mark := if hours = 0 && minutes = 0 then '+' else c
      return (mark :: twoPlaces hours ++ ':' :: twoPlaces minutes, cs)
    else none

/-- A time after a date, with its mark. -/
def timeAfterDate? : Reader (List Char)
  | [] => none
  | c :: cs =>
    if c = 'T' || c = 't' || c = ' ' then do
      let (time, cs) ← time? cs
      match offset? cs with
      | some (offset, cs) => return ('T' :: time ++ offset, cs)
      | none => return ('T' :: time, cs)
    else none

/-- A date, a time, or a date with a time and perhaps an offset. -/
def datetime? : Reader Value := fun cs =>
  match date? cs with
  | some (date, cs) =>
    match timeAfterDate? cs with
    | some (time, cs) => some (.datetime (String.ofList (date ++ time)), cs)
    | none => some (.datetime (String.ofList date), cs)
  | none => (time? cs).map fun (time, cs) => (.datetime (String.ofList time), cs)

/-! ### Any of them -/

/-- A value that is neither a string nor made of others. -/
def scalar? : Reader Value := fun cs =>
  match datetime? cs with
  | some r => some r
  | none =>
    match float? cs with
    | some r => some r
    | none =>
      match special? cs with
      | some r => some r
      | none =>
        match boolean? cs with
        | some r => some r
        | none => integer? cs

end CallGuard.Toml
