import CallGuard.Program.Run

/-! The program itself: it reads the file of settings, plays the transcript of the run at
its own pace, and leaves with its exit code. -/

namespace CallGuard.Program

/-- What a path leads to. -/
def contentAt (path : String) : IO FileContent := do
  try
    return .bytes (← IO.FS.readBinFile path)
  catch e =>
    match e with
    | .noFileOrDirectory .. => return .missing
    | _ => return .directory

/-- The path of the settings that words ask for. -/
def settingsPath? (words : List String) : Option String :=
  match Request.read? words with
  | some (.run path _) => path
  | _ => none

/-- Prints lines, each at its time. -/
def play (start : Instant) : List (Instant × Line) → IO Unit
  | [] => return
  | (t, line) :: rest => do
    IO.sleep (.ofNat ((t - start) / 1000000))
    IO.println line.text
    (← IO.getStdout).flush
    play t rest

end CallGuard.Program

open CallGuard Program in
def main (words : List String) : IO UInt32 := do
  let content ← match settingsPath? words with
    | none => pure .missing
    | some path => contentAt path
  let t := run {
    file := fun _ => content
    network := .unreachable (.ofNanos 100000)
    pick := fun _ => Backoff.Band.middle
    pace := fun _ => 1000 } words
  play 0 t.output
  for line in t.errors do
    IO.eprintln line
  if t.code = 2 then
    for line in Topic.program.lines do
      IO.eprintln line
  return .ofNat t.code
