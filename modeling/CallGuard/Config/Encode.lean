import CallGuard.Binary64.Decimal
import CallGuard.Config.Basic
import CallGuard.Toml.Quote
import CallGuard.Toml.Value

/-! Settings as the text of a document: a section for each group, with an empty line
between sections, and one for each named breaker in the order of the names. An integer
beyond the range of a document cannot be written. -/

namespace CallGuard

open Text Toml

namespace Encode

/-- A line of a section: its key and the written value. -/
abbrev Line := String × List Char

/-- Lines under a header. -/
structure Section where
  path : List String
  lines : List Line

def string (s : String) : List Char := writeString s.toList

def boolean (b : Bool) : List Char := (boolText b).toList

def word32 (n : UInt32) : List Char := Numeral.render 10 n.toNat

/-- An integer of the document's range. -/
def word64? (n : UInt64) : Option (List Char) :=
  if (n.toNat : Int) ≤ maxInteger then some (Numeral.render 10 n.toNat) else none

/-- Whole numbers show `.0`, and `nan` has no sign. -/
def numberNotation : Binary64.Notation := ⟨none, ".0", "nan", "inf"⟩

def number (x : Binary64) : List Char := (x.render numberNotation).toList

def observability (s : ObservabilitySettings) : Section :=
  ⟨["observability"], [("log_level", string s.logLevel),
    ("metrics_enabled", boolean s.metricsEnabled),
    ("metrics_address", string s.metricsAddress)]⟩

def retry? (s : RetrySettings) : Option Section := do
  return ⟨["retry"], [("max_attempts", word32 s.maxAttempts),
    ("initial_delay_ms", ← word64? s.initialDelayMs), ("max_delay_ms", ← word64? s.maxDelayMs),
    ("multiplier", number s.multiplier), ("randomize_factor", number s.randomizeFactor)]⟩

def client? (s : ClientSettings) : Option Section := do
  return ⟨["client"], [("request_timeout_ms", ← word64? s.requestTimeoutMs),
    ("connect_timeout_ms", ← word64? s.connectTimeoutMs)]⟩

def breaker? (path : List String) (s : BreakerSettings) : Option Section := do
  return ⟨path, [("max_failures", word32 s.maxFailures),
    ("reset_timeout_ms", ← word64? s.resetTimeoutMs),
    ("half_open_requests", word32 s.halfOpenRequests)]⟩

/-- The sections of the named breakers, or a bare header if there are none. -/
def breakers? (m : NameMap BreakerSettings) : Option (List Section) :=
  match m.entries with
  | [] => some [⟨["breakers"], []⟩]
  | entries => entries.mapM fun (name, s) => breaker? ["breakers", name] s

def sections? (c : Config) : Option (List Section) := do
  return observability c.observability :: (← retry? c.retry) :: (← client? c.client)
    :: (← breaker? ["breaker_defaults"] c.breakerDefaults) :: (← breakers? c.breakers)

/-! ### Layout -/

def Line.render (l : Line) : List Char := writeKey l.1.toList ++ [' ', '=', ' '] ++ l.2 ++ ['\n']

def header (path : List String) : List Char :=
  '[' :: ['.'].intercalate (path.map fun key => writeKey key.toList) ++ [']', '\n']

def Section.render (s : Section) : List Char := header s.path ++ s.lines.flatMap Line.render

/-- Sections with an empty line between them. -/
def layout (ss : List Section) : List Char := ['\n'].intercalate (ss.map Section.render)

end Encode

/-- The text of a document with the settings, if every integer can be written. -/
def Config.write? (c : Config) : Option String :=
  (Encode.sections? c).map fun ss => String.ofList (Encode.layout ss)

end CallGuard
