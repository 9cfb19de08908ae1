import CallGuard.Net.Address
import CallGuard.Net.Domain
import CallGuard.Net.Percent

/-! Hosts of addresses. Under a special scheme a host is a domain, or four octets if its
last label is a number: then up to four numbers in base ten, eight or sixteen, the last of
which fills the octets that are left. Under any other scheme it is an opaque text. Eight
groups in brackets are a host under both. -/

namespace CallGuard.Net

open Text

/-- Why a text is no address of a resource. -/
inductive UrlError
  | relative
  | emptyHost
  | badPort
  | badIpv4
  | badIpv6
  | badDomain
  | badHostCharacter
deriving DecidableEq

def UrlError.message : UrlError → String
  | relative => "relative URL without a base"
  | emptyHost => "empty host"
  | badPort => "invalid port number"
  | badIpv4 => "invalid IPv4 address"
  | badIpv6 => "invalid IPv6 address"
  | badDomain => "invalid international domain name"
  | badHostCharacter => "invalid domain character"

inductive Host
  | name (text : String)
  | ipv4 (address : Nat)
  | ipv6 (address : Ipv6)
deriving DecidableEq

namespace Host

/-- The four octets of an address. -/
def octets (address : Nat) : List Nat :=
  [address / 0x1000000, address / 0x10000 % 256, address / 256 % 256, address % 256]

def text : Host → String
  | name s => s
  | ipv4 a => ipv4Text (octets a)
  | ipv6 a => "[" ++ a.text ++ "]"

/-- The number of a part of a host: base sixteen after `0x`, base eight after another zero. -/
def number? (cs : List Char) : Option Nat :=
  let inBase (base : Nat) (ds : List Char) : Option Nat :=
    if ds.all (Numeral.isDigit base) then some (Numeral.value base ds) else none
  match cs with
  | [] => none
  | '0' :: 'x' :: ds => inBase 16 ds
  | '0' :: 'X' :: ds => inBase 16 ds
  | '0' :: d :: ds => inBase 8 (d :: ds)
  | ds => inBase 10 ds

/-- The parts between points, without an empty one at the end. -/
def parts (cs : List Char) : List (List Char) :=
  let ps := cs.splitOn '.'
  if ps.getLast? = some [] then ps.dropLast else ps

/-- Whether the last part of a domain is a number. -/
def endsInNumber (cs : List Char) : Bool :=
  match (parts cs).getLast? with
  | none => false
  | some p => (!p.isEmpty && p.all (Numeral.isDigit 10)) || (number? p).isSome

/-- The address of up to four numbers, all but the last an octet each. -/
def ipv4? (cs : List Char) : Option Nat := do
  let ps := parts cs
  if 4 < ps.length then none
  let ns ← ps.mapM number?
  let last ← ns.getLast?
  let front := ns.dropLast
  if front.any (255 < ·) || Nat.pow 256 (4 - front.length) ≤ last then none
  return front.zipIdx.foldl (fun sum (n, i) => sum + n * Nat.pow 256 (3 - i)) last

/-- The address between brackets. -/
def bracketed? (cs : List Char) : Option Host :=
  match cs.getLast? with
  | some ']' =>
    match Net.ipv6? cs.dropLast with
    | some (a, []) => some (ipv6 a)
    | _ => none
  | _ => none

/-- A host under a special scheme. -/
def read (cs : List Char) : Except UrlError Host :=
  match cs with
  | '[' :: rest => (bracketed? rest).elim (.error .badIpv6) .ok
  | cs =>
    match Domain.toAscii? (Percent.decode (String.ofList cs).toUTF8.data.toList) with
    | none => .error .badDomain
    | some domain =>
      if domain.isEmpty then .error .emptyHost
      else if endsInNumber domain.toList then
        (ipv4? domain.toList).elim (.error .badIpv4) fun a => .ok (ipv4 a)
      else .ok (name domain)

/-- Characters that no opaque host may have. -/
def forbiddenOpaque (c : Char) : Bool :=
  c.toNat = 0 || ['\t', '\n', '\r', ' ', '#', '/', ':', '<', '>', '?', '@', '[', '\\', ']', '^',
    '|'].contains c

/-- A host under any other scheme. -/
def readOpaque (cs : List Char) : Except UrlError Host :=
  match cs with
  | '[' :: rest => (bracketed? rest).elim (.error .badIpv6) .ok
  | cs =>
    if cs.any forbiddenOpaque then .error .badHostCharacter
    else .ok (name (String.ofList (Percent.encode Percent.inOpaqueHost cs)))

end Host

end CallGuard.Net
