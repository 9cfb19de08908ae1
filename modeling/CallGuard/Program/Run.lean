import CallGuard.Config.Decode
import CallGuard.Journal.Filter
import CallGuard.Program.Help
import CallGuard.Program.Simulation
import CallGuard.Transport.Client

/-! The program as a function: from its words, the files and the network to what it prints
and its exit code. Changes of the simulated breaker are printed beside the log. An
interrupt cancels what is under way. -/

namespace CallGuard.Program

open Text

/-- A line of standard output. -/
inductive Line
  | event (e : LogEvent)
  | transition (dependency : String) (c : Breaker.Change)
  | plain (text : String)

def Line.text : Line → String
  | event e => e.line
  | transition dependency c =>
    "[" ++ dependency ++ "] " ++ c.source.text ++ " -> " ++ c.target.text
  | plain s => s

/-- The exit code, the lines of standard output with their times, those of standard error,
and when the program ended. -/
structure Transcript where
  code : Nat
  output : List (Instant × Line) := []
  errors : List String := []
  ended : Instant := 0

/-- What the program finds around it: the files, the network, the choice of jittered
delays, the time that passes before each simulated call and in each invocation of the
simulated dependency, and maybe when it is interrupted. -/
structure World where
  file : String → FileContent
  network : Network
  pick : Nat → Backoff.Sampler
  pace : Nat → Nat
  took : Nat → Nat := fun _ => 0
  interrupt : Option Instant := none

def version : String := "0.1.0"

/-! ### Errors -/

/-- The last line of standard error, and the exit code of a failure. -/
def failure (text : String) : Nat × List String := (1, ["Error: " ++ text])

def configErrorText : ConfigError → String
  | .io f => "Io(" ++ f.text ++ ")"
  | .syntaxError => "Parse(" ++ quoted "TOML parse error" ++ ")"
  | .data cause => "Parse(" ++ quoted cause.message ++ ")"
  | .invalid vs => "Validation([" ++ ", ".intercalate (vs.map Violation.text) ++ "])"

def retryErrorText : RetryError TransportError → String
  | .cancelled e => "Cancelled(" ++ e.label ++ ")"
  | .terminal e => "Operation(" ++ e.text ++ ")"
  | .exhausted n e =>
    record "MaxRetriesExceeded" [("attempts", Numeral.decimal n), ("source", e.text)]

def sendErrorText : SendError → String
  | .refused .opened => "Open"
  | .refused .probesUsed => "TooManyRequests"
  | .failed e => "Operation(" ++ retryErrorText e ++ ")"

/-! ### Commands -/

/-- What a command comes to: its journal, the plain lines it prints at its end, how it fails
if it does, and when it ends. -/
structure Performance where
  journal : Journal
  lines : List String := []
  error : Option String := none
  ended : Instant

/-- Performs a command from an instant on. -/
def Command.perform (w : World) (c : Config) (now : Instant) : Command → Performance
  | .simulate dependency failures calls intervalMs =>
    let e := ({ dependency, failures := failures.toNat, calls := calls.toNat
                interval := .ofMillis intervalMs } : Simulation).run
      c w.pick ⟨w.interrupt, none⟩ w.pace w.took now
    { journal := e.journal, ended := e.state.now }
  | .send url message timeoutMs =>
    match Json.readText message with
    | .error e => { journal := [], error := some e.text, ended := now }
    | .ok message =>
      let deadline := timeoutMs.bind fun ms => Instant.after? now (.ofMillis ms)
      let sent := (Client.ofConfig c).send w.network w.pick ⟨w.interrupt, deadline⟩ now url message
      match sent.result with
      | .ok v => { journal := sent.journal, lines := v.pretty.splitOn "\n", ended := sent.now }
      | .error e => { journal := sent.journal, error := some (sendErrorText e), ended := sent.now }

/-- The interrupt's own entry, before what it causes, if the program still runs then. -/
def withInterrupt (interrupt : Option Instant) (p : Performance) : Journal :=
  match interrupt with
  | none => p.journal
  | some t =>
    if t ≤ p.ended then
      p.journal.takeWhile (·.time < t) ++ .stamp t [.interrupted]
        ++ p.journal.dropWhile (·.time < t)
    else p.journal

/-! ### The program -/

/-- The dependency whose changes a command prints. -/
def Command.watched? : Command → Option String
  | .simulate dependency _ _ _ => some dependency
  | .send _ _ _ => none

/-- The lines of an entry: its log event if it is shown, and the change it tells of if
changes are printed. -/
def entryLines (filter : List LogFilter.Directive) (watched : Option String) (e : Entry) :
    List (Instant × Line) :=
  let event := (e.signal.event?.filter (LogFilter.shows filter)).map .event
  let change := watched.bind fun d => e.signal.change?.map (.transition d)
  (event.toList ++ change.toList).map (e.time, ·)

/-- The program with settings at hand. -/
def runCommand (w : World) (c : Config) (command : Command) : Transcript :=
  let (filter, reports) := LogFilter.ofLevel c.observability.logLevel
  let p := command.perform w c 0
  let served : List Signal :=
    if c.observability.metricsEnabled then
      ((Net.SocketAddress.read? c.observability.metricsAddress).map fun a =>
        .metricsServed a.text).toList
    else []
  let journal := .stamp 0 (.started version :: served) ++ withInterrupt w.interrupt p
  let (code, errors) := p.error.elim (0, []) failure
  { code
    output := journal.flatMap (entryLines filter command.watched?)
      ++ p.lines.map (p.ended, .plain ·)
    errors := reports ++ errors
    ended := p.ended }

/-- The program with given words. -/
def run (w : World) (words : List String) : Transcript :=
  match Request.read? words with
  | none => { code := 2 }
  | some (.help topic) => { code := 0, output := topic.lines.map (0, .plain ·) }
  | some (.run path command) =>
    match path.elim (.ok {}) fun p => Config.load (w.file p) with
    | .error e =>
      let (code, errors) := failure (configErrorText e)
      { code, errors }
    | .ok c => runCommand w c command

/-- When a line with a text in it first appears, if one does. -/
def Transcript.timeOf? (t : Transcript) (text : String) : Option Instant :=
  (t.output.find? fun (_, line) => (line.text.splitOn text).length ≠ 1).map (·.1)

/-- The program interrupted a given time after a line with a text in it has appeared. -/
def runInterrupted (w : World) (words : List String) (text : String) (delay : Duration) :
    Transcript :=
  let whole := run w words
  match whole.timeOf? text with
  | none => whole
  | some t => run { w with interrupt := some (t + delay.nanos) } words

end CallGuard.Program
