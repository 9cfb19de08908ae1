import CallGuard.Text.Numeral

/-! The command line: options with a value each, which stand before the command or after
it, and the command. Words are read from left to right, and the first that does not fit or
asks for help decides. An option is given at most once. -/

namespace CallGuard.Program

open Text

inductive Command
  | simulate (dependency : String) (failures calls : UInt32) (intervalMs : UInt64)
  | send (url message : String) (timeoutMs : Option UInt64)
deriving DecidableEq

/-- What help is about. -/
inductive Topic
  | program
  | simulate
  | send
  | help
deriving DecidableEq

inductive Request
  | run (config : Option String) (command : Command)
  | help (topic : Topic)
deriving DecidableEq

/-! ### Values -/

/-- The digits of a numeral that is nothing else. -/
def digits? (cs : List Char) : Option Nat :=
  if cs.isEmpty || !cs.all (Numeral.isDigit 10) then none else some (Numeral.value 10 cs)

/-- A number of 32 bits; it may have a sign, as zero may have either. -/
def word32? (s : String) : Option UInt32 := do
  let n ← match s.toList with
    | '+' :: cs => digits? cs
    | '-' :: cs => (digits? cs).bind fun n => if n = 0 then some 0 else none
    | cs => digits? cs
  if n < UInt32.size then some (.ofNat n) else none

/-- A number of 64 bits; it may have a plus sign. -/
def word64? (s : String) : Option UInt64 := do
  let n ← match s.toList with
    | '+' :: cs => digits? cs
    | cs => digits? cs
  if n < UInt64.size then some (.ofNat n) else none

/-! ### Options -/

/-- An option: its name, the letter for it if there is one, and which values it takes. -/
structure Flag where
  name : String
  letter : Option Char := none
  takes : String → Bool

/-- Where the options at the front of a list of words end. -/
inductive Stop
  | wrong
  | help
  | finished (found : List (String × String))
  | word (name : String) (rest : List String) (found : List (String × String))

/-- A word that begins an option. -/
inductive Lead
  | word
  | help
  | escape
  | unknown
  | option (flag : Flag) (value : Option String)

/-- What a word is among the options of a command. -/
def lead (flags : List Flag) (word : String) : Lead :=
  match word.toList with
  | ['-'] => .word
  | ['-', '-'] => .escape
  | '-' :: '-' :: cs =>
    let name := String.ofList (cs.takeWhile (· ≠ '='))
    match flags.find? (·.name = name), cs.dropWhile (· ≠ '=') with
    | some flag, [] => .option flag none
    | some flag, _ :: value => .option flag (some (String.ofList value))
    | none, [] => if name = "help" then .help else .unknown
    | none, _ => .unknown
  | '-' :: c :: cs =>
    match flags.find? (·.letter = some c), cs with
    | some flag, [] => .option flag none
    | some flag, '=' :: value => .option flag (some (String.ofList value))
    | some flag, value => .option flag (some (String.ofList value))
    | none, _ => if c = 'h' then .help else .unknown
  | _ => .word

/-- Whether a word can only be an option. -/
def looksLikeOption (word : String) : Bool := word.startsWith "-" && word ≠ "-"

/-- The options at the front of a list of words, after those found so far. -/
def options (flags : List Flag) (found : List (String × String)) : List String → Stop
  | [] => .finished found
  | word :: rest =>
    let keep (flag : Flag) (value : String) (rest : Unit → Stop) : Stop :=
      if flag.takes value && !found.any (·.1 = flag.name) then rest () else .wrong
    match lead flags word with
    | .word => .word word rest found
    | .help => .help
    | .escape => if rest.isEmpty then .finished found else .wrong
    | .unknown => .wrong
    | .option flag (some value) =>
      keep flag value fun _ => options flags ((flag.name, value) :: found) rest
    | .option flag none =>
      match rest with
      | [] => .wrong
      | value :: rest =>
        if looksLikeOption value then .wrong
        else keep flag value fun _ => options flags ((flag.name, value) :: found) rest

/-! ### Commands -/

def programFlags : List Flag := [⟨"config", some 'c', (· ≠ "")⟩]

def simulateFlags : List Flag := [
  ⟨"dependency", none, fun _ => true⟩,
  ⟨"failures", none, fun s => (word32? s).isSome⟩,
  ⟨"calls", none, fun s => (word32? s).isSome⟩,
  ⟨"interval-ms", none, fun s => (word64? s).isSome⟩]

def sendFlags : List Flag := [
  ⟨"url", none, fun _ => true⟩,
  ⟨"message", none, fun _ => true⟩,
  ⟨"timeout-ms", none, fun s => (word64? s).isSome⟩]

/-- The value of an option. -/
def value? (found : List (String × String)) (name : String) : Option String :=
  (found.find? (·.1 = name)).map (·.2)

/-- A simulation with the options found. -/
def simulation (found : List (String × String)) : Command :=
  .simulate ((value? found "dependency").getD "simulated-agent")
    (((value? found "failures").bind word32?).getD 10)
    (((value? found "calls").bind word32?).getD 20)
    (((value? found "interval-ms").bind word64?).getD 250)

/-- A message with the options found, one of which names the address. -/
def message? (found : List (String × String)) : Option Command :=
  (value? found "url").map fun url =>
    .send url ((value? found "message").getD "\x7b\x7d") ((value? found "timeout-ms").bind word64?)

/-- What the words after a command ask for. -/
def commandRequest (config : Option String) (topic : Topic) (flags : List Flag)
    (command? : List (String × String) → Option Command) (words : List String) : Option Request :=
  match options flags [] words with
  | .wrong => none
  | .help => some (.help topic)
  | .word _ _ _ => none
  | .finished found => (command? found).map (.run config)

/-- What a command line asks for; nothing if it is not used as it should be. -/
def Request.read? (words : List String) : Option Request :=
  match options programFlags [] words with
  | .wrong => none
  | .help => some (.help .program)
  | .finished _ => none
  | .word name rest found =>
    let config := value? found "config"
    match name, rest with
    | "simulate", rest => commandRequest config .simulate simulateFlags (some ∘ simulation) rest
    | "send", rest => commandRequest config .send sendFlags message? rest
    | "help", [] => some (.help .program)
    | "help", ["simulate"] => some (.help .simulate)
    | "help", ["send"] => some (.help .send)
    | "help", ["help"] => some (.help .help)
    | _, _ => none

end CallGuard.Program
