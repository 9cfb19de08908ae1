import CallGuard.Binary64.Basic

/-! Sums, products and quotients of binary64 numbers. Each operation is the exact one
on counts of units followed by one rounding, with the usual answers on infinities:
opposite infinities have no sum, zero and infinity have no product. -/

namespace CallGuard.Binary64

/-- The number with a signed count of units as its nearest; zero takes the given sign. -/
def ofSigned (zeroNegative : Bool) (count : Int) : Binary64 :=
  if count = 0 then ofRatio zeroNegative 0 1 else ofRatio (count < 0) count.natAbs 1

def neg : Binary64 → Binary64
  | .nan => .nan
  | .infinite n => .infinite !n
  | .finite n u h => .finite (!n) u h

def add : Binary64 → Binary64 → Binary64
  | .nan, _ => .nan
  | _, .nan => .nan
  | .infinite n, .infinite m => if n = m then .infinite n else .nan
  | .infinite n, .finite .. => .infinite n
  | .finite .., .infinite m => .infinite m
  | .finite n u _, .finite m v _ => ofSigned (n && m) (signed n u + signed m v)

def sub (x y : Binary64) : Binary64 := add x (neg y)

/-- Whether a number is one of the two zeros. -/
def isZero : Binary64 → Bool
  | .finite _ u _ => u = 0
  | _ => false

def isNegative : Binary64 → Bool
  | .nan => false
  | .infinite n => n
  | .finite n _ _ => n

def mul (x y : Binary64) : Binary64 :=
  match x, y with
  | .nan, _ => .nan
  | _, .nan => .nan
  | .finite n u _, .finite m v _ => ofRatio (n ^^ m) (u * v) one
  | x, y => if x.isZero || y.isZero then .nan else .infinite (x.isNegative ^^ y.isNegative)

/-- The quotient of two naturals, the divisor positive. -/
def ofQuotient (n d : Nat) : Binary64 := ofRatio false (n * one) d

def div (x y : Binary64) : Binary64 :=
  match x, y with
  | .nan, _ => .nan
  | _, .nan => .nan
  | .infinite _, .infinite _ => .nan
  | .infinite n, .finite m _ _ => .infinite (n ^^ m)
  | .finite n _ _, .infinite m => ofRatio (n ^^ m) 0 1
  | .finite n u _, .finite m v _ =>
    if v = 0 then if u = 0 then .nan else .infinite (n ^^ m)
    else ofRatio (n ^^ m) (u * one) v

instance : Neg Binary64 := ⟨neg⟩
instance : Add Binary64 := ⟨add⟩
instance : Sub Binary64 := ⟨sub⟩
instance : Mul Binary64 := ⟨mul⟩
instance : Div Binary64 := ⟨div⟩

/-- Repeated squaring: the accumulator takes the current square at each one bit of the
exponent, lowest bit first, and no square is formed after the highest. -/
def powLoop (square acc : Binary64) (k : Nat) : Binary64 :=
  let acc := if k % 2 = 1 then acc * square else acc
  if h : k / 2 = 0 then acc else powLoop (square * square) acc (k / 2)
termination_by k
decreasing_by omega

/-- A power with a natural exponent. -/
def powNat (x : Binary64) (k : Nat) : Binary64 := powLoop x 1 k

end CallGuard.Binary64
