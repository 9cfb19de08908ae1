import CallGuard.Toml.Quote
import CallGuard.Toml.Scalar
import CallGuard.Toml.Tree

/-! Documents: lines with an assignment, a header, or nothing but a comment. A leading byte
order mark is skipped. The readers of nested values take a bound on their steps, for which
the length of the text is enough. -/

namespace CallGuard.Toml

/-! ### Paths -/

/-- More keys of a path, each after a dot. -/
def pathRest : Nat → Reader (List String)
  | 0, _ => none
  | fuel + 1, cs =>
    match after? '.' (skipBlanks cs) with
    | none => some ([], skipBlanks cs)
    | some cs => do
      let (key, cs) ← key? (skipBlanks cs)
      let (keys, cs) ← pathRest fuel cs
      return (key :: keys, cs)

/-- Splits off the last key. -/
def toPath (first : String) : List String → Path
  | [] => ⟨[], first⟩
  | key :: keys =>
    let p := toPath key keys
    ⟨first :: p.parents, p.key⟩

/-- Keys with dots between them, blanks about each. -/
def path? : Reader Path := fun cs => do
  let (first, cs) ← key? (skipBlanks cs)
  let (keys, cs) ← pathRest (cs.length + 1) cs
  if maxDepth ≤ keys.length then none else some (toPath first keys, cs)

/-! ### Values -/

mutual

/-- A value within so many further levels. -/
def value? (fuel depth : Nat) (cs : Chars) : Option (Value × Chars) :=
  match fuel with
  | 0 => none
  | fuel + 1 =>
    match cs with
    | '[' :: cs =>
      if depth = 0 then none
      else (items? fuel (depth - 1) (skipGap false cs)).map fun (vs, cs) => (.array vs, cs)
    | '{' :: cs =>
      if depth = 0 then none
      else
        match after? '}' (skipBlanks cs) with
        | some cs => some (.table [], cs)
        | none => do
          let (body, cs) ← assignments? fuel (depth - 1) cs
          return (← inlineTable? body, cs)
    | '"' :: _ => (string? cs).map fun (s, cs) => (.string s, cs)
    | '\'' :: _ => (string? cs).map fun (s, cs) => (.string s, cs)
    | cs => scalar? cs

/-- Items of an array up to its closing bracket, from the first of them or the bracket on. -/
def items? (fuel depth : Nat) (cs : Chars) : Option (List Value × Chars) :=
  match fuel with
  | 0 => none
  | fuel + 1 =>
    match after? ']' cs with
    | some cs => some ([], cs)
    | none => do
      let (v, cs) ← value? fuel depth cs
      let cs := skipGap false cs
      match after? ',' cs with
      | some cs => do
        let (vs, cs) ← items? fuel depth (skipGap false cs)
        return (v :: vs, cs)
      | none => do return ([v], ← after? ']' cs)

/-- Assignments of an inline table up to its closing brace. -/
def assignments? (fuel depth : Nat) (cs : Chars) : Option (List (Path × Value) × Chars) :=
  match fuel with
  | 0 => none
  | fuel + 1 => do
    let (path, cs) ← path? cs
    let (v, cs) ← value? fuel depth (skipBlanks (← after? '=' cs))
    let cs := skipBlanks cs
    match after? ',' cs with
    | some cs => do
      let (rest, cs) ← assignments? fuel depth cs
      return ((path, v) :: rest, cs)
    | none => do return ([(path, v)], ← after? '}' cs)

end

/-- Steps that are enough for any value in a text. -/
def steps (cs : Chars) : Nat := 2 * cs.length + 2

/-! ### Lines -/

/-- A header between single or double brackets, after its first bracket. -/
def header? : Reader Statement
  | '[' :: cs => do
    let (path, cs) ← path? cs
    return (.openElement path, ← afterWord? [']', ']'] cs)
  | cs => do
    let (path, cs) ← path? cs
    return (.openTable path, ← after? ']' cs)

def assignment? : Reader Statement := fun cs => do
  let (path, cs) ← path? cs
  let cs := skipBlanks (← after? '=' cs)
  let (v, cs) ← value? (steps cs) maxDepth cs
  return (.assign path v, cs)

/-- The statement at the start of a line. -/
def statement? : Reader Statement
  | '[' :: cs => header? cs
  | cs => assignment? cs

/-- Whether nothing is assigned or opened at the start of a line. -/
def isIdle : Chars → Bool
  | [] => true
  | c :: _ => c = '#' || c = '\n' || c = '\r'

/-- The statements of the lines of a text. -/
def statements? : Nat → Chars → Option (List Statement)
  | 0, _ => none
  | fuel + 1, cs =>
    let cs := skipBlanks cs
    if cs.isEmpty then some []
    else if isIdle cs then (lineEnd? cs).bind (statements? fuel)
    else do
      let (s, cs) ← statement? cs
      let ss ← statements? fuel (← lineEnd? cs)
      return s :: ss

/-- The text after a byte order mark. -/
def afterMark : Chars → Chars
  | c :: cs => if c.toNat = 0xFEFF then cs else c :: cs
  | [] => []

/-- The top table of a document, if it is one. -/
def read? (cs : Chars) : Option Entries :=
  (statements? (cs.length + 1) (afterMark cs)).bind tree?

end CallGuard.Toml
