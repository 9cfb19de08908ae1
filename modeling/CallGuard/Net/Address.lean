import CallGuard.Text.Numeral

/-! Internet addresses with a port: four octets, or eight groups in brackets with an
optional zone. An octet has no leading zero; the last two groups may be written as octets;
one run of zero groups may be left out. Writing leaves out the first longest run. -/

namespace CallGuard.Net

open Text

/-- Eight groups of sixteen bits. -/
structure Ipv6 where
  groups : List Nat
deriving DecidableEq, Repr

inductive SocketAddress where
  | v4 (octets : List Nat) (port : Nat)
  | v6 (address : Ipv6) (zone port : Nat)
deriving DecidableEq, Repr

/-! ### Reading -/

/-- The character at the front, which has to be the given one. -/
def expect? (c : Char) : List Char → Option (List Char)
  | d :: cs => if c = d then some cs else none
  | [] => none

/-- A numeral at the front. -/
def number? (base : Nat) (cs : List Char) : Option (List Char × List Char) :=
  match cs.takeWhile (Numeral.isDigit base) with
  | [] => none
  | ds => some (ds, cs.dropWhile (Numeral.isDigit base))

/-- A decimal numeral up to a bound, leading zeros allowed. -/
def bounded? (bound : Nat) (cs : List Char) : Option (Nat × List Char) := do
  let (ds, rest) ← number? 10 cs
  let n := Numeral.value 10 ds
  if n ≤ bound then some (n, rest) else none

/-- An octet: up to three digits, no leading zero. -/
def octet? (cs : List Char) : Option (Nat × List Char) := do
  let (ds, rest) ← number? 10 cs
  let n := Numeral.value 10 ds
  if 3 < ds.length || 255 < n || (ds.head? = some '0' && 1 < ds.length) then none
  else some (n, rest)

/-- More octets, each after a point. -/
def octetsAfter? : Nat → List Char → Option (List Nat × List Char)
  | 0, cs => some ([], cs)
  | k + 1, cs => do
    let (n, cs) ← octet? (← expect? '.' cs)
    let (ns, cs) ← octetsAfter? k cs
    return (n :: ns, cs)

/-- Four octets. -/
def ipv4? (cs : List Char) : Option (List Nat × List Char) := do
  let (n, cs) ← octet? cs
  let (ns, cs) ← octetsAfter? 3 cs
  return (n :: ns, cs)

/-- A group of up to four hexadecimal digits. -/
def group? (cs : List Char) : Option (Nat × List Char) := do
  let (ds, rest) ← number? 16 cs
  if 4 < ds.length then none else some (Numeral.value 16 ds, rest)

/-- As many groups as there are, up to a limit, and whether the last two came as octets.
Every group but the first follows a colon. -/
def groups (first : Bool) : Nat → List Char → List Nat × Bool × List Char
  | 0, cs => ([], false, cs)
  | limit + 1, cs =>
    match if first then some cs else expect? ':' cs with
    | none => ([], false, cs)
    | some rest =>
      match if limit = 0 then none else ipv4? rest with
      | some ([a, b, c, d], rest) => ([a * 256 + b, c * 256 + d], true, rest)
      | _ =>
        match group? rest with
        | none => ([], false, cs)
        | some (n, rest) =>
          let (ns, octets, rest) := groups false limit rest
          (n :: ns, octets, rest)

/-- Eight groups, a double colon standing for one or more groups of zeros. -/
def ipv6? (cs : List Char) : Option (Ipv6 × List Char) := do
  let (front, octets, rest) := groups true 8 cs
  if front.length = 8 then return (⟨front⟩, rest)
  if octets then none
  let rest ← expect? ':' (← expect? ':' rest)
  let (back, _, rest) := groups true (7 - front.length) rest
  return (⟨front ++ List.replicate (8 - front.length - back.length) 0 ++ back⟩, rest)

/-- A zone after a percent sign, zero if there is none. -/
def zone (cs : List Char) : Nat × List Char :=
  match (expect? '%' cs).bind (bounded? (UInt32.size - 1)) with
  | some r => r
  | none => (0, cs)

/-- A port after a colon. -/
def port? (cs : List Char) : Option (Nat × List Char) := do
  bounded? 65535 (← expect? ':' cs)

/-- An address of either kind with its port. -/
def SocketAddress.read? (s : String) : Option SocketAddress := do
  let cs := s.toList
  let (address, rest) ←
    match cs with
    | '[' :: cs => do
      let (address, cs) ← ipv6? cs
      let (zone, cs) := zone cs
      let (port, cs) ← port? (← expect? ']' cs)
      some (SocketAddress.v6 address zone port, cs)
    | cs => do
      let (octets, cs) ← ipv4? cs
      let (port, cs) ← port? cs
      some (SocketAddress.v4 octets port, cs)
  if rest.isEmpty then some address else none

/-! ### Writing -/

/-- Octets with points between them. -/
def ipv4Text (octets : List Nat) : String := ".".intercalate (octets.map Numeral.decimal)

/-- The zeros at the front of a list. -/
def zerosAhead (groups : List Nat) : Nat := (groups.takeWhile (· = 0)).length

/-- Place and length of the first longest run of zeros. -/
def longestZeros (groups : List Nat) : Nat × Nat :=
  (List.range groups.length).foldl
    (fun (best : Nat × Nat) i =>
      let n := zerosAhead (groups.drop i)
      if best.2 < n then (i, n) else best) (0, 0)

/-- Groups with colons between them. -/
def groupsText (groups : List Nat) : String :=
  ":".intercalate (groups.map fun n => String.ofList (Numeral.render 16 n))

/-- An address with its first longest run of two or more zeros left out. -/
def Ipv6.text (a : Ipv6) : String :=
  let (start, length) := longestZeros a.groups
  if length < 2 then groupsText a.groups
  else groupsText (a.groups.take start) ++ "::" ++ groupsText (a.groups.drop (start + length))

/-- As `Ipv6.text`, but an address that embeds four octets shows them. -/
def Ipv6.textWithOctets (a : Ipv6) : String :=
  match a.groups with
  | [0, 0, 0, 0, 0, 0xFFFF, m, n] => "::ffff:" ++ ipv4Text [m / 256, m % 256, n / 256, n % 256]
  | _ => a.text

def SocketAddress.text : SocketAddress → String
  | .v4 octets port => ipv4Text octets ++ ":" ++ Numeral.decimal port
  | .v6 a zone port =>
    "[" ++ a.textWithOctets ++ (if zone = 0 then "" else "%" ++ Numeral.decimal zone) ++ "]:"
      ++ Numeral.decimal port

end CallGuard.Net
