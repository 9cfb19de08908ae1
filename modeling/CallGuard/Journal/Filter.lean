import CallGuard.Journal.Event

/-! Which log events are shown. A filter is a list of directives with commas between them,
each a target, a level after an equals sign, or a level alone. An event is shown if its
level reaches that of the directive with the longest target at the front of its own; of two
with one target the later counts. A directive that cannot be read is reported and left out. -/

namespace CallGuard.LogFilter

/-- The least severe level shown, if any is. -/
abbrev Threshold := Option Level

structure Directive where
  target : String
  threshold : Threshold
deriving DecidableEq

/-- Why a directive cannot be read. -/
inductive Fault
  | level
  | directive
deriving DecidableEq

def Fault.message : Fault → String
  | level => "error parsing level filter: expected one of \"off\", \"error\", \"warn\", \"info\", "
      ++ "\"debug\", \"trace\", or a number 0-5"
  | directive => "invalid filter directive"

/-- A level by its name in any case, or by its number. -/
def threshold? (s : String) : Option Threshold :=
  match String.ofList (s.toList.map Char.toLower) with
  | "off" => some none
  | "error" => some (some .error)
  | "warn" => some (some .warn)
  | "info" => some (some .info)
  | "debug" => some (some .debug)
  | "trace" => some (some .trace)
  | s =>
    let ds := match s.toList with
      | '+' :: ds => ds
      | ds => ds
    if ds.isEmpty || !ds.all (Text.Numeral.isDigit 10) then none
    else
      match Text.Numeral.value 10 ds with
      | 0 => some none
      | 1 => some (some .error)
      | 2 => some (some .warn)
      | 3 => some (some .info)
      | 4 => some (some .debug)
      | 5 => some (some .trace)
      | _ => none

/-- A character that may begin a target. -/
def beginsTarget (c : Char) : Bool :=
  c.isAlphanum || 128 ≤ c.toNat || c = '-' || c = ':' || c = '_'

/-- A directive; a target without a level shows all its events. -/
def readDirective (s : String) : Except Fault Directive :=
  let cs := s.toList
  if !(cs.head?.any beginsTarget) then .error .directive
  else
    match cs.takeWhile (· ≠ '='), cs.dropWhile (· ≠ '=') with
    | name, [] =>
      match threshold? (String.ofList name) with
      | some t => .ok ⟨"", t⟩
      | none => .ok ⟨String.ofList name, some .trace⟩
    | name, [_] => .ok ⟨String.ofList name, some .trace⟩
    | name, _ :: level =>
      match threshold? (String.ofList level) with
      | some t => .ok ⟨String.ofList name, t⟩
      | none => .error .level

/-- The directives of a text and the reports on those that cannot be read. -/
def read (s : String) : List Directive × List String :=
  let parts := (s.splitOn ",").filter (· ≠ "")
  (parts.filterMap fun p => (readDirective p).toOption,
    parts.filterMap fun p =>
      match readDirective p with
      | .ok _ => none
      | .error e => some ("ignoring \x60" ++ p ++ "\x60: " ++ e.message))

/-- The directive that decides on a target. -/
def deciding? (ds : List Directive) (target : String) : Option Directive :=
  ds.foldl (fun best d =>
    if !target.startsWith d.target then best
    else
      match best with
      | none => some d
      | some b => if b.target.length ≤ d.target.length then some d else best) none

/-- Whether an event is shown. -/
def shows (ds : List Directive) (e : LogEvent) : Bool :=
  match deciding? ds e.target with
  | some ⟨_, some level⟩ => level.severity ≤ e.level.severity
  | _ => false

/-- The filter for a level of the program's own events. -/
def ofLevel (level : String) : List Directive × List String :=
  read ("agent_resilience=" ++ level ++ ",reqwest=warn")

end CallGuard.LogFilter
