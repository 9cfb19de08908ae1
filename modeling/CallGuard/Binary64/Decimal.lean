import CallGuard.Binary64.Basic
import CallGuard.Text.Numeral

/-! Decimal texts of binary64 numbers. `shortest` finds the fewest digits that read
back as the number, and of those the nearest; a `Notation` says how the digits are laid
out. `read?` takes a decimal numeral, with fraction and exponent, to the nearest number. -/

namespace CallGuard.Binary64

open Text

/-! ### The fewest digits -/

/-- The decimal number `coefficient * 10 ^ exponent`. -/
structure Decimal where
  coefficient : Nat
  exponent : Int
deriving DecidableEq, Repr

/-- Trailing zeros of the coefficient go into the exponent. -/
def Decimal.trim (d : Decimal) : Decimal :=
  if h : d.coefficient ≠ 0 ∧ d.coefficient % 10 = 0 then
    Decimal.trim ⟨d.coefficient / 10, d.exponent + 1⟩
  else d
termination_by d.coefficient
decreasing_by exact Nat.div_lt_self (by omega) (by decide)

/-- Decimal places before the point of a positive count of units, negative for leading
zeros after it: the number lies in `[10 ^ (point - 1), 10 ^ point)`. -/
def point (units : Nat) : Int :=
  (Numeral.render 10 (units * Nat.pow 10 340 / one)).length - 340

/-- Four times the distances from a count to the middles of the gaps below and above it. -/
def gaps (units : Nat) : Nat × Nat :=
  let gap := ulp units
  if units = Nat.pow 2 (bitLength units - 1) ∧ 1 < gap then (gap, 2 * gap) else (2 * gap, 2 * gap)

/-- Whether a decimal number rounds to a count: it lies between the middles of the gaps
about it, ends included if the coefficient of the count is even. -/
def readsBack (units : Nat) (d : Decimal) : Bool :=
  let (below, above) := gaps units
  let up := Nat.pow 10 d.exponent.toNat
  let down := Nat.pow 10 (-d.exponent).toNat
  let x := 4 * d.coefficient * up * one
  let lo := (4 * units - below) * down
  let hi := (4 * units + above) * down
  if units / ulp units % 2 = 0 then decide (lo ≤ x ∧ x ≤ hi) else decide (lo < x ∧ x < hi)

/-- The neighbour of a count on the grid of so many digits that reads back, the nearer if both
do. -/
def onGrid (units digits : Nat) : Option Decimal :=
  let e := point units - digits
  let up := Nat.pow 10 e.toNat * one
  let scaled := units * Nat.pow 10 (-e).toNat
  let low : Decimal := ⟨scaled / up, e⟩
  let high : Decimal := ⟨scaled / up + 1, e⟩
  match readsBack units low, readsBack units high with
  | true, true => if 2 * (scaled % up) < up then some low else some high
  | true, false => some low
  | false, true => some high
  | false, false => none

/-- The fewest digits that read back as a positive count, and of those the nearest. -/
def shortest (units : Nat) : Decimal :=
  (((List.range 17).findSome? fun n => onGrid units (n + 1)).getD ⟨0, 0⟩).trim

/-! ### Layout -/

/-- How a number is written: powers of ten at which the scientific form begins on either
side, if it is used at all, whether a whole number shows a fraction, and the special names. -/
structure Notation where
  scientific : Option (Int × Int)
  wholeSuffix : String
  nan : String
  infinite : String

/-- A fraction or an exponent always shows; below `10 ^ -4` and from `10 ^ 16` on the form is
scientific. -/
def Notation.diagnostic : Notation := ⟨some (-3, 16), ".0", "NaN", "inf"⟩

/-- Digits and a point only, whole numbers with `.0`. -/
def Notation.positional : Notation := ⟨none, ".0", "NaN", "inf"⟩

/-- Digits before and after the point. -/
def Decimal.positional (wholeSuffix : String) (d : Decimal) : String :=
  let ds := Numeral.render 10 d.coefficient
  if 0 ≤ d.exponent then
    String.ofList (ds ++ List.replicate d.exponent.toNat '0') ++ wholeSuffix
  else
    let places := (-d.exponent).toNat
    let ds := List.replicate (places + 1 - ds.length) '0' ++ ds
    String.ofList (ds.take (ds.length - places) ++ '.' :: ds.drop (ds.length - places))

/-- One digit before the point and a power of ten. -/
def Decimal.scientific (d : Decimal) : String :=
  match Numeral.render 10 d.coefficient with
  | [] => ""
  | [c] => String.ofList [c] ++ "e" ++ Numeral.integer d.exponent
  | c :: cs =>
    String.ofList (c :: '.' :: cs) ++ "e" ++ Numeral.integer (d.exponent + cs.length)

/-- The text of a number in a notation. -/
def render (style : Notation) : Binary64 → String
  | .nan => style.nan
  | .infinite negative => (if negative then "-" else "") ++ style.infinite
  | .finite negative units _ =>
    let sign := if negative then "-" else ""
    if units = 0 then sign ++ "0" ++ style.wholeSuffix
    else
      let d := shortest units
      let p := point units
      match style.scientific with
      | some (lo, hi) =>
        if lo ≤ p ∧ p ≤ hi then sign ++ d.positional style.wholeSuffix else sign ++ d.scientific
      | none => sign ++ d.positional style.wholeSuffix

/-! ### Reading -/

/-- The longest row of decimal digits at the front, and what follows it. -/
def spanDigits (cs : List Char) : List Char × List Char :=
  (cs.takeWhile (Numeral.isDigit 10), cs.dropWhile (Numeral.isDigit 10))

/-- A sign at the front, if there is one. -/
def splitSign : List Char → Bool × List Char
  | '-' :: cs => (true, cs)
  | '+' :: cs => (false, cs)
  | cs => (false, cs)

/-- An exponent after its letter, which ends the numeral. -/
def readExponent? (cs : List Char) : Option Int :=
  let (negative, cs) := splitSign cs
  let (ds, rest) := spanDigits cs
  if ds.isEmpty || !rest.isEmpty then none
  else some (if negative then -(Numeral.value 10 ds : Int) else Numeral.value 10 ds)

/-- A numeral of digits, at most one point among or beside them, and an optional exponent. -/
def readUnsigned? (negative : Bool) (cs : List Char) : Option Binary64 := do
  let (whole, rest) := spanDigits cs
  let (fraction, rest) := match rest with
    | '.' :: rest => spanDigits rest
    | rest => ([], rest)
  if whole.isEmpty && fraction.isEmpty then none
  else
    let exponent ← match rest with
      | [] => some 0
      | 'e' :: rest => readExponent? rest
      | 'E' :: rest => readExponent? rest
      | _ => none
    return ofDecimal negative (Numeral.value 10 (whole ++ fraction)) (exponent - fraction.length)

/-- The number a text stands for: a decimal numeral, `inf`, `infinity` or `nan` in any case. -/
def read? (cs : List Char) : Option Binary64 :=
  let (negative, rest) := splitSign cs
  match String.ofList (rest.map Char.toLower) with
  | "inf" => some (.infinite negative)
  | "infinity" => some (.infinite negative)
  | "nan" => some .nan
  | _ => readUnsigned? negative rest

end CallGuard.Binary64
