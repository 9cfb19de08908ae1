import CallGuard.Net.Domain.Direction
import CallGuard.Net.Domain.Joining
import CallGuard.Net.Domain.Mapping
import CallGuard.Net.Domain.Punycode
import CallGuard.Text.Composition

/-! Domain names as they go over the wire: ASCII in lower case, and none of the characters that
delimit the parts of an address. A label with other characters is encoded behind `xn--`. -/

namespace CallGuard.Net.Domain

open Text

/-- Characters that no domain may have: controls, the blank, and delimiters. -/
def forbidden (c : Char) : Bool :=
  c.toNat ≤ 32 || c.toNat = 127
    || ['%', '#', '/', ':', '<', '>', '?', '@', '[', '\\', ']', '^', '|'].contains c

/-- What encoded labels begin with. -/
def lead : List Char := "xn--".toList

def isAscii (label : List Char) : Bool := label.all Punycode.isAscii

/-- The characters of a label that may be encoded. An encoded one is composed, has only characters
that stand for themselves, and does not do without encoding. -/
def plainLabel? (label : List Char) : Option (List Char) :=
  if !lead.isPrefixOf label then some label
  else if !isAscii label then none
  else do
    let decoded ← Punycode.decode? (label.drop lead.length)
    if isAscii decoded || !decoded.all isKept || Composition.composed decoded != decoded then none
    else return decoded

/-- Whether a label may stand in a domain: it does not begin with a mark, and its joiners have
something to join. -/
def isAllowed (label : List Char) : Bool :=
  !label.head?.any marks.has && Joining.areAllowed [] label

def labelToAscii (label : List Char) : List Char :=
  if isAscii label then label else lead ++ Punycode.encode label

/-- A domain name in ASCII, if it is one. -/
def toAscii? (bytes : List UInt8) : Option String := do
  let s ← String.fromUTF8? ⟨bytes.toArray⟩
  let cs := Composition.composed (← replace? s.toList)
  if cs.any forbidden then none
  let labels ← (cs.splitOn '.').mapM plainLabel?
  if !labels.all isAllowed || !Direction.agree labels then none
  return String.ofList (['.'].intercalate (labels.map labelToAscii))

end CallGuard.Net.Domain
