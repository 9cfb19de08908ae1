/-! Labels in ASCII for labels in any characters. The characters of ASCII come first and in
order. Then follow, for all others by rising code point, the numbers of steps from one insertion
to the next, a step being one place in the label or, past its end, one code point. Each number
is a row of digits in base thirty-six, least significant first, that ends with a digit below the
threshold of its place. -/

namespace CallGuard.Net.Domain.Punycode

def digitChar (d : Nat) : Char := if d < 26 then Char.ofNat (97 + d) else Char.ofNat (22 + d)

def digit? (c : Char) : Option Nat :=
  if 'a' ≤ c ∧ c ≤ 'z' then some (c.toNat - 97)
  else if 'A' ≤ c ∧ c ≤ 'Z' then some (c.toNat - 65)
  else if '0' ≤ c ∧ c ≤ '9' then some (c.toNat - 22)
  else none

/-- The least digit that does not end a number, at a place counted in multiples of thirty-six. -/
def threshold (place bias : Nat) : Nat := min 26 (max 1 (place - bias))

theorem threshold_pos (place bias : Nat) : 0 < threshold place bias := by
  unfold threshold; omega

/-- A number brought down to a few hundred, and the bias that stands for its size. -/
def scale (delta bias : Nat) : Nat × Nat :=
  if 455 < delta then scale (delta / 35) (bias + 36) else (delta, bias)
termination_by delta
decreasing_by exact Nat.div_lt_self (by omega) (by omega)

/-- The bias after a number of steps that brought the label to a length. -/
def adapt (delta length : Nat) (first : Bool) : Nat :=
  let damped := if first then delta / 700 else delta / 2
  let (d, bias) := scale (damped + damped / length) 0
  bias + 36 * d / (d + 38)

def firstBias : Nat := 72
def firstPoint : Nat := 128

/-! ### Writing -/

/-- The digits of a number, from a place on. -/
def digits (bias place n : Nat) : List Char :=
  let t := threshold place bias
  if n < t then [digitChar n]
  else digitChar (t + (n - t) % (36 - t)) :: digits bias (place + 36) ((n - t) / (36 - t))
termination_by n
decreasing_by
  have := threshold_pos place bias
  exact Nat.lt_of_le_of_lt (Nat.div_le_self _ _) (by omega)

structure Writing where
  written : List Char
  steps : Nat
  bias : Nat
  length : Nat
  first : Bool

/-- One character of the label passes while those of a code point are written. -/
def Writing.pass (point : Nat) (w : Writing) (c : Char) : Writing :=
  if c.toNat < point then { w with steps := w.steps + 1 }
  else if c.toNat = point then
    { written := w.written ++ digits w.bias 36 w.steps
      steps := 0
      bias := adapt w.steps (w.length + 1) w.first
      length := w.length + 1
      first := false }
  else w

/-- The code points that remain, in rising order, from the point reached. -/
def Writing.run (label : List Char) (reached : Nat) (w : Writing) : List Nat → Writing
  | [] => w
  | point :: points =>
    let start := { w with steps := w.steps + (point - reached) * (w.length + 1) }
    let done := label.foldl (Writing.pass point) start
    Writing.run label (point + 1) { done with steps := done.steps + 1 } points

def isAscii (c : Char) : Bool := c.toNat < firstPoint

def encode (label : List Char) : List Char :=
  let plain := label.filter isAscii
  let points := ((label.filter (!isAscii ·)).map Char.toNat).mergeSort.eraseDups
  let start : Writing :=
    { written := [], steps := 0, bias := firstBias, length := plain.length, first := true }
  let done := Writing.run label firstPoint start points
  plain ++ (if plain.isEmpty then [] else ['-']) ++ done.written

/-! ### Reading -/

structure Reading where
  label : List Char
  point : Nat
  bias : Nat
  /-- Where the number that is being read began. -/
  start : Nat
  position : Nat
  weight : Nat
  place : Nat

/-- The code point at the position goes in, and the next number begins behind it. -/
def Reading.insert? (r : Reading) : Option Reading :=
  let length := r.label.length + 1
  let point := r.point + r.position / length
  let position := r.position % length
  if Nat.isValidChar point then
    some { label := r.label.insertIdx position (Char.ofNat point)
           point
           bias := adapt (r.position - r.start) length (r.start = 0)
           start := position + 1
           position := position + 1
           weight := 1
           place := 36 }
  else none

/-- One digit is read. -/
def Reading.digit? (r : Reading) (c : Char) : Option Reading := do
  let d ← Punycode.digit? c
  let t := threshold r.place r.bias
  let r := { r with position := r.position + d * r.weight }
  if d < t then r.insert?
  else return { r with weight := r.weight * (36 - t), place := r.place + 36 }

/-- The label that a text encodes, if each of its numbers ends. -/
def decode? (cs : List Char) : Option (List Char) := do
  let behind := (cs.reverse.takeWhile (· ≠ '-')).reverse
  let plain := cs.take (cs.length - behind.length - 1)
  let rest := if plain.isEmpty then cs else behind
  let start : Reading :=
    { label := plain, point := firstPoint, bias := firstBias, start := 0, position := 0, weight := 1
      place := 36 }
  let r ← rest.foldlM Reading.digit? start
  if r.place = 36 then return r.label else none

end CallGuard.Net.Domain.Punycode
