import CallGuard.Binary64.Arith
import CallGuard.Json.Basic
import CallGuard.Json.Failure

/-! Numbers in JSON. A numeral without fraction and exponent whose digits fit 64 bits is an
integer; any other is a number of binary64. Digits beyond 64 bits only scale the rest, and
the power of ten is applied in steps of at most `10 ^ 308`, each rounded. -/

namespace CallGuard.Json

/-- Bytes of a text. -/
abbrev Bytes := List UInt8

/-- A cause, and how many bytes follow its place. -/
structure Failure where
  cause : Cause
  left : Nat

/-- A failure before the rest of the text. -/
def failAt {α : Type} (cause : Cause) (rest : Bytes) : Except Failure α :=
  .error ⟨cause, rest.length⟩

/-- A failure after the first byte of the rest, if there is one. -/
def failAfter {α : Type} (cause : Cause) (rest : Bytes) : Except Failure α :=
  .error ⟨cause, rest.length - 1⟩

def isDigit (b : UInt8) : Bool := 48 ≤ b && b ≤ 57

def digitValue (b : UInt8) : Nat := b.toNat - 48

/-- The digits at the front, and what follows them. -/
def spanDigits (bs : Bytes) : List Nat × Bytes :=
  ((bs.takeWhile isDigit).map digitValue, bs.dropWhile isDigit)

/-- A coefficient with further digits as long as it fits 64 bits, and how many were taken. -/
def absorb (coefficient : Nat) : List Nat → Nat × Nat
  | [] => (coefficient, 0)
  | d :: ds =>
    if coefficient * 10 + d < UInt64.size then
      let (c, n) := absorb (coefficient * 10 + d) ds
      (c, n + 1)
    else (coefficient, 0)

/-- The number scaled by a power of ten, if it is not too large. -/
def scale? (x : Binary64) (exponent : Int) : Option Binary64 :=
  if exponent.natAbs ≤ 308 then
    if 0 ≤ exponent then
      let y := x * Binary64.ofNat (Nat.pow 10 exponent.toNat)
      if y.isFinite then some y else none
    else some (x / Binary64.ofNat (Nat.pow 10 exponent.natAbs))
  else if x.isZero then some x
  else if 0 ≤ exponent then none
  else scale? (x / Binary64.ofNat (Nat.pow 10 308)) (exponent + 308)
termination_by exponent.natAbs
decreasing_by omega

/-- The largest exponent that is told apart from larger ones. -/
def exponentEnd : Nat := 0x7FFFFFFF

/-- A number of a coefficient and a power of ten, the rest of the text following it. -/
def ofParts (negative : Bool) (coefficient : Nat) (exponent : Int) (rest : Bytes) :
    Except Failure (Json × Bytes) :=
  match scale? (Binary64.ofNat coefficient) exponent with
  | none => failAt .tooLarge rest
  | some x => .ok (.float (if negative then -x else x), rest)

/-- The digits of an exponent up to the one that makes it too large, and whether one does. -/
def exponentDigits (e : Nat) : Bytes → (Nat × Bool) × Bytes
  | [] => ((e, false), [])
  | b :: rest =>
    if isDigit b then
      if e * 10 + digitValue b ≤ exponentEnd then exponentDigits (e * 10 + digitValue b) rest
      else ((e, true), rest)
    else ((e, false), b :: rest)

/-- An exponent after its letter. -/
def exponent (negative : Bool) (coefficient : Nat) (shift : Int) (bs : Bytes) :
    Except Failure (Json × Bytes) :=
  let (down, bs) := match bs with
    | 43 :: rest => (false, rest)
    | 45 :: rest => (true, rest)
    | rest => (false, rest)
  match bs with
  | [] => failAt .unfinishedValue []
  | b :: rest =>
    if isDigit b then
      match exponentDigits (digitValue b) rest with
      | ((e, false), rest) =>
        ofParts negative coefficient (if down then shift - e else shift + e) rest
      | ((_, true), rest) =>
        if coefficient ≠ 0 ∧ ¬ down then failAt .tooLarge rest
        else .ok (.float (if negative then -0 else 0), (spanDigits rest).2)
    else failAt .badNumber rest

/-- An exponent, if there is one. -/
def exponent? (negative : Bool) (coefficient : Nat) (shift : Int) (bs : Bytes) :
    Except Failure (Json × Bytes) :=
  match bs with
  | 101 :: rest => exponent negative coefficient shift rest
  | 69 :: rest => exponent negative coefficient shift rest
  | rest => ofParts negative coefficient shift rest

/-- What follows the whole digits of a number. -/
def afterWhole (negative : Bool) (coefficient shift : Nat) (bs : Bytes) :
    Except Failure (Json × Bytes) :=
  match bs with
  | 46 :: rest =>
    match spanDigits rest with
    | ([], []) => failAt .unfinishedValue []
    | ([], rest) => failAfter .badNumber rest
    | (ds, rest) =>
      let (c, taken) := absorb coefficient ds
      exponent? negative c (shift - taken) rest
  | 101 :: _ => exponent? negative coefficient shift bs
  | 69 :: _ => exponent? negative coefficient shift bs
  | rest =>
    if shift ≠ 0 then exponent? negative coefficient shift rest
    else if ¬ negative then .ok (.integer coefficient, rest)
    else if coefficient = 0 ∨ 0x8000000000000000 < coefficient then
      .ok (.float (-Binary64.ofNat coefficient), rest)
    else .ok (.integer (-coefficient), rest)

/-- A number after its sign: no zero before other digits. -/
def number (negative : Bool) (bs : Bytes) : Except Failure (Json × Bytes) :=
  match bs with
  | [] => failAt .unfinishedValue []
  | b :: rest =>
    if b = 48 then
      match rest with
      | [] => afterWhole negative 0 0 []
      | c :: _ => if isDigit c then failAfter .badNumber rest else afterWhole negative 0 0 rest
    else if isDigit b then
      let (ds, rest) := spanDigits bs
      let (c, taken) := absorb 0 ds
      afterWhole negative c (ds.length - taken) rest
    else failAt .badNumber rest

end CallGuard.Json
