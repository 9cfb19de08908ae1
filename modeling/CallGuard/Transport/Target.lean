import CallGuard.Net.Url
import CallGuard.Transport.Error

/-! Where a message goes: an address with a host and a port. Addresses with the same host
and port in force are one dependency, whose name is the two with a colon between them. -/

namespace CallGuard

structure Target where
  url : Net.Url
  port : Nat
deriving DecidableEq

namespace Target

/-- The name of the dependency. -/
def dependency (t : Target) : String :=
  t.url.authority.host.text ++ ":" ++ Text.Numeral.decimal t.port

/-- The target of an address. -/
def read (raw : String) : Except TransportError Target :=
  match Net.Url.read raw with
  | .error e => .error (.invalidUrl raw e.message)
  | .ok .hostless => .error (.invalidUrl raw "missing host")
  | .ok (.hosted url) =>
    match url.effectivePort? with
    | none => .error (.invalidUrl raw "missing port")
    | some port => .ok ⟨url, port⟩

end Target

end CallGuard
