import CallGuard.Context.Scope
import CallGuard.Json.Failure
import CallGuard.Text.Quoted

/-! Why an exchange with an agent has no answer. A failed request and a server's own error
may be over the next time; a bad address, a refusal and a bad answer will not. -/

namespace CallGuard

/-- The part of an exchange that failed. -/
inductive Stage
  | building
  | sending
  | redirecting
  | reading
deriving DecidableEq

/-- A failed request: where, with which address, whether in connecting or for want of time,
and its cause in diagnostic text. -/
structure RequestFailure where
  stage : Stage
  url : Option String
  isConnect : Bool := false
  isTimeout : Bool := false
  cause : String
deriving DecidableEq

namespace RequestFailure

def message (f : RequestFailure) : String :=
  (match f.stage with
    | .building => "builder error"
    | .sending => "error sending request"
    | .redirecting => "error following redirect"
    | .reading => "error decoding response body")
  ++ match f.url with
    | some url => " for url (" ++ url ++ ")"
    | none => ""

/-- Whether the request failed on its way, not for what it was or what came back. -/
def isRetryable (f : RequestFailure) : Bool := f.isConnect || f.isTimeout || f.stage = .sending

open Text in
/-- Diagnostic text. -/
def text (f : RequestFailure) : String :=
  let stage := match f.stage with
    | .building => "Builder"
    | .sending => "Request"
    | .redirecting => "Redirect"
    | .reading => "Decode"
  record "reqwest::Error" ([("kind", stage)] ++ (f.url.map fun u => ("url", quoted u)).toList
    ++ [("source", f.cause)])

end RequestFailure

inductive TransportError
  | invalidUrl (url reason : String)
  | request (url : String) (failure : RequestFailure)
  | status (url : String) (code : Nat)
  | decode (url : String) (error : Json.ReadError)
  | cancelled (e : ContextError)
deriving DecidableEq

namespace TransportError

open Text

def message : TransportError → String
  | invalidUrl url reason => "invalid agent URL '" ++ url ++ "': " ++ reason
  | request url failure => "request to " ++ url ++ " failed: " ++ failure.message
  | status url code => "agent at " ++ url ++ " returned status " ++ Numeral.decimal code
  | decode url error => "agent at " ++ url ++ " returned invalid JSON: " ++ error.message
  | cancelled _ => "request abandoned"

/-- Whether another exchange may succeed. -/
def isRetryable : TransportError → Bool
  | request _ failure => failure.isRetryable
  | status _ code => 500 ≤ code
  | invalidUrl _ _ | decode _ _ | cancelled _ => false

/-- Diagnostic text. -/
def text : TransportError → String
  | invalidUrl url reason => record "InvalidUrl" [("url", quoted url), ("reason", quoted reason)]
  | request url failure => record "Request" [("url", quoted url), ("source", failure.text)]
  | status url code => record "Status" [("url", quoted url), ("status", Numeral.decimal code)]
  | decode url error => record "Decode" [("url", quoted url), ("source", error.text)]
  | cancelled e => "Cancelled(" ++ e.label ++ ")"

end TransportError

end CallGuard
