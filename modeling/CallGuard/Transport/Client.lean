import CallGuard.Breaker.Registry
import CallGuard.Fault
import CallGuard.Guard
import CallGuard.Json.Read
import CallGuard.Transport.Status
import CallGuard.Transport.Target

/-! Sending messages to agents: a breaker for each dependency, around repeated attempts,
around one exchange each. The network is a parameter: what the exchange of a number with a
target comes to, and how long it takes. An exchange is given up when its scope ends. -/

namespace CallGuard

/-- What comes back from an exchange, after redirects: a status and a body, a body that
breaks off, or nothing. -/
inductive Answer
  | full (status : Nat) (body : Json.Bytes)
  | broken (status : Nat) (failure : RequestFailure)
  | none (failure : RequestFailure)

/-- What the exchange of a number, with a target and a message, comes to and how long it takes. -/
abbrev Network := Nat → Target → Json → Answer × Duration

/-- The error of a message that was sent. -/
abbrev SendError := GuardError (RetryError TransportError)

namespace Transport

/-- What an answer is worth: the value of its body, of an empty one none, if it tells of
success. -/
def outcome (url : String) : Answer → Except TransportError Json
  | .none failure => .error (.request url failure)
  | .broken status failure =>
    if Status.isSuccess status then .error (.request url failure) else .error (.status url status)
  | .full status body =>
    if !Status.isSuccess status then .error (.status url status)
    else if body.isEmpty then .ok .null
    else (Json.read body).mapError (.decode url)

/-- The signal of a status that tells of no success. -/
def signals (url : String) (status : Nat) : List Signal :=
  if Status.isSuccess status then [] else [.errorStatus url (Status.text status)]

/-- What an answer leaves in the journal. -/
def journal (url : String) (now : Instant) : Answer → Journal
  | .none _ => []
  | .broken status _ => .stamp now (signals url status)
  | .full status _ => .stamp now (signals url status)

/-- One exchange, the first of them having a given number. -/
def exchange (network : Network) (first : Nat) (target : Target) (message : Json) :
    Retry.Operation TransportError Json := fun k scope now =>
  let (answer, duration) := network (first + k) target message
  let arrival := now + duration.nanos
  let url := target.url.text
  let completed : Retry.Attempt TransportError Json :=
    ⟨outcome url answer, scope, arrival, journal url arrival answer⟩
  match scope.ending? now with
  | some (t, e) => if t < arrival then ⟨.error (.cancelled e), scope, t, []⟩ else completed
  | none => completed

/-- Errors of exchanges: each tells itself whether another is worth while. -/
def classifier : Retry.Classifier TransportError :=
  ⟨TransportError.isRetryable, TransportError.message⟩

end Transport

/-- What a client keeps between messages: its breakers and the number of exchanges so far. -/
structure Client where
  plan : Retry.Plan
  registry : Registry
  exchanges : Nat := 0

/-- What a message came to: the client after it, the result, the time after it, and what
happened. -/
structure Sent where
  client : Client
  result : Except SendError Json
  now : Instant
  journal : Journal

namespace Client

def ofConfig (c : Config) : Client := ⟨.ofSettings c.retry, .ofConfig c, 0⟩

/-- Sends a message to an address. -/
def send (c : Client) (network : Network) (pick : Nat → Backoff.Sampler) (scope : Scope)
    (now : Instant) (address : String) (message : Json) : Sent :=
  match Target.read address with
  | .error e => ⟨c, .error (.failed (.terminal e)), now, []⟩
  | .ok target =>
    let (registry, session, registration) := c.registry.obtain now target.dependency
    let g := session.guard (c.plan.run pick Transport.classifier
      (Transport.exchange network c.exchanges target message)) scope now
    ⟨{ c with
        registry := registry.put target.dependency g.session
        exchanges := c.exchanges + (g.run.elim 0 Retry.Run.count) },
      g.result, g.run.elim now (·.now), registration ++ g.journal⟩

end Client

namespace Network

/-- The failure to reach a target at all. -/
def unreachableFailure (t : Target) : RequestFailure :=
  let url := t.url.anonymous.text
  if t.url.scheme = "http" || t.url.scheme = "https" then
    { stage := .sending
      url := some url
      isConnect := true
      cause := "hyper_util::client::legacy::Error(Connect, ConnectError(\"tcp connect error\", "
        ++ t.dependency ++ ", Os \x7b code: 101, kind: NetworkUnreachable, "
        ++ "message: \"Network is unreachable\" \x7d))" }
  else { stage := .building, url := some url, cause := "BadScheme" }

/-- A network that reaches nobody and tells so after a given time. -/
def unreachable (delay : Duration) : Network := fun _ t _ => (.none (unreachableFailure t), delay)

end Network

end CallGuard
