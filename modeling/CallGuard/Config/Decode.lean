import CallGuard.Config.Validation
import CallGuard.Toml.Document

/-! Settings from the table of a document. A table's entries are taken in order over the
defaults, unknown keys being passed over; a list gives the settings in their declared
order. The first value of a wrong kind is reported. -/

namespace CallGuard

open Text Toml

/-- A value that a setting cannot have. -/
inductive DecodeError where
  | wrongType (found expected : String)
  | outOfRange (n : Int) (expected : String)
deriving DecidableEq, Repr

namespace DecodeError

def message : DecodeError → String
  | .wrongType found expected => "invalid type: " ++ found ++ ", expected " ++ expected
  | .outOfRange n expected =>
    "invalid value: integer `" ++ Numeral.integer n ++ "`, expected " ++ expected

end DecodeError

/-- What a value is called when another kind was expected. -/
def Toml.Value.describe : Value → String
  | .string s => "string " ++ quoted s
  | .integer n => "integer `" ++ Numeral.integer n ++ "`"
  | .float x => "floating point `" ++ x.render .positional ++ "`"
  | .boolean b => "boolean `" ++ boolText b ++ "`"
  | .datetime _ => "map"
  | .array _ => "sequence"
  | .table _ => "map"

namespace Decode

abbrev Result := Except DecodeError

/-! ### Single values -/

def wrong (v : Value) (expected : String) : Result α := .error (.wrongType v.describe expected)

/-- An integer from zero to below a bound. -/
def natural (bound : Nat) (expected : String) : Value → Result Nat
  | .integer n => if 0 ≤ n ∧ n < bound then .ok n.toNat else .error (.outOfRange n expected)
  | v => wrong v expected

def word32 (v : Value) : Result UInt32 := (natural UInt32.size "u32" v).map .ofNat

def word64 (v : Value) : Result UInt64 := (natural UInt64.size "u64" v).map .ofNat

/-- A number, which may be written as an integer. -/
def number : Value → Result Binary64
  | .float x => .ok x
  | .integer n => .ok (.ofInt n)
  | v => wrong v "f64"

def text : Value → Result String
  | .string s => .ok s
  | v => wrong v "a string"

def boolean : Value → Result Bool
  | .boolean b => .ok b
  | v => wrong v "a boolean"

/-! ### Settings -/

/-- How to put a value into one field of a structure. -/
structure Field (α : Type) where
  key : String
  set : α → Value → Result α

/-- A field read by a reader of single values. -/
def Field.of (key : String) (read : Value → Result β) (set : α → β → α) : Field α :=
  ⟨key, fun a v => (read v).map (set a)⟩

/-- Puts an entry of a table into the field of its key, if there is one. -/
def setEntry (fields : List (Field α)) (a : α) (entry : String × Value) : Result α :=
  match fields.find? fun f => f.key = entry.1 with
  | some f => f.set a entry.2
  | none => .ok a

/-- Puts the entries of a table into their fields, in order. -/
def setEntries (fields : List (Field α)) (a : α) (entries : Entries) : Result α :=
  entries.foldlM (setEntry fields) a

/-- Puts the items of a list into the fields by place. -/
def setItems : List (Field α) → α → List Value → Result α
  | f :: fields, a, v :: vs => do setItems fields (← f.set a v) vs
  | _, a, _ => .ok a

/-- A structure over its defaults; a date stands for a table without a known key. -/
def structureOf (name : String) (fields : List (Field α)) (a : α) : Value → Result α
  | .table entries => setEntries fields a entries
  | .array items => setItems fields a items
  | .datetime _ => .ok a
  | v => wrong v ("struct " ++ name)

def observabilityFields : List (Field ObservabilitySettings) := [
  .of "log_level" text fun s x => { s with logLevel := x },
  .of "metrics_enabled" boolean fun s x => { s with metricsEnabled := x },
  .of "metrics_address" text fun s x => { s with metricsAddress := x }]

def observability : Value → Result ObservabilitySettings :=
  structureOf "ObservabilityConfig" observabilityFields {}

def retryFields : List (Field RetrySettings) := [
  .of "max_attempts" word32 fun s x => { s with maxAttempts := x },
  .of "initial_delay_ms" word64 fun s x => { s with initialDelayMs := x },
  .of "max_delay_ms" word64 fun s x => { s with maxDelayMs := x },
  .of "multiplier" number fun s x => { s with multiplier := x },
  .of "randomize_factor" number fun s x => { s with randomizeFactor := x }]

def retry : Value → Result RetrySettings := structureOf "RetrySettings" retryFields {}

def clientFields : List (Field ClientSettings) := [
  .of "request_timeout_ms" word64 fun s x => { s with requestTimeoutMs := x },
  .of "connect_timeout_ms" word64 fun s x => { s with connectTimeoutMs := x }]

def client : Value → Result ClientSettings := structureOf "ClientSettings" clientFields {}

def breakerFields : List (Field BreakerSettings) := [
  .of "max_failures" word32 fun s x => { s with maxFailures := x },
  .of "reset_timeout_ms" word64 fun s x => { s with resetTimeoutMs := x },
  .of "half_open_requests" word32 fun s x => { s with halfOpenRequests := x }]

def breaker : Value → Result BreakerSettings := structureOf "BreakerSettings" breakerFields {}

/-- The breakers of a table of breakers; a date stands for a table whose only entry is its text. -/
def breakers : Value → Result (NameMap BreakerSettings)
  | .table entries =>
    entries.foldlM (fun m (name, v) => (breaker v).map (m.insert name)) .empty
  | .datetime text => wrong (.string text) "struct BreakerSettings"
  | v => wrong v "a map"

def configFields : List (Field Config) := [
  .of "observability" observability fun c x => { c with observability := x },
  .of "retry" retry fun c x => { c with retry := x },
  .of "client" client fun c x => { c with client := x },
  .of "breaker_defaults" breaker fun c x => { c with breakerDefaults := x },
  .of "breakers" breakers fun c x => { c with breakers := x }]

end Decode

/-- The settings of a document's table. -/
def Config.ofEntries (entries : Entries) : Except DecodeError Config :=
  Decode.setEntries Decode.configFields {} entries

/-! ### Texts and files -/

/-- Why a file could not be read. -/
inductive FileFailure where
  | missing
  | directory
  | notText
deriving DecidableEq, Repr

def FileFailure.message : FileFailure → String
  | .missing => "No such file or directory (os error 2)"
  | .directory => "Is a directory (os error 21)"
  | .notText => "stream did not contain valid UTF-8"

def FileFailure.text : FileFailure → String
  | .missing =>
    record "Os"
      [("code", "2"), ("kind", "NotFound"), ("message", quoted "No such file or directory")]
  | .directory =>
    record "Os" [("code", "21"), ("kind", "IsADirectory"), ("message", quoted "Is a directory")]
  | .notText =>
    record "Error" [("kind", "InvalidData"),
      ("message", quoted "stream did not contain valid UTF-8")]

/-- Why no settings could be had. -/
inductive ConfigError where
  | io (failure : FileFailure)
  | syntaxError
  | data (cause : DecodeError)
  | invalid (violations : List Violation)
deriving DecidableEq, Repr

/-- The settings of a text, which have to keep every rule. -/
def Config.parse (content : String) : Except ConfigError Config :=
  match Toml.read? content.toList with
  | none => .error .syntaxError
  | some entries =>
    match Config.ofEntries entries with
    | .error cause => .error (.data cause)
    | .ok c =>
      match c.violations with
      | [] => .ok c
      | vs => .error (.invalid vs)

/-- What a path leads to. -/
inductive FileContent where
  | missing
  | directory
  | bytes (content : ByteArray)

/-- The settings of a file. -/
def Config.load : FileContent → Except ConfigError Config
  | .missing => .error (.io .missing)
  | .directory => .error (.io .directory)
  | .bytes content =>
    match String.fromUTF8? content with
    | none => .error (.io .notText)
    | some s => Config.parse s

end CallGuard
