import CallGuard.Toml.Value

/-! The tree of tables that the statements of a document build. A key is assigned once; a
table is opened by one header, before or after the tables inside it; keys with dots extend
only tables made by such keys; a header may pass through anything but a plain value, and
passes through the last element of an array of tables. -/

namespace CallGuard.Toml

/-- How a table came to be: by its own header, as a step of another header's path, or by a
path of an assignment. -/
inductive Origin where
  | header
  | implied
  | dotted
deriving DecidableEq

/-- A part of the tree that may still grow; the elements of an array of tables stand newest
first. -/
inductive Node where
  | leaf (value : Value)
  | table (origin : Origin) (entries : List (String × Node))
  | elements (tables : List (List (String × Node)))

/-- The entries of a growing table. -/
abbrev Nodes := List (String × Node)

namespace Nodes

/-- Changes the entry of a key, or adds one at the end. -/
def alter (key : String) (f : Option Node → Option Node) : Nodes → Option Nodes
  | [] => (f none).map fun n => [(key, n)]
  | (k, n) :: rest =>
    if k = key then (f (some n)).map fun n => (k, n) :: rest
    else (alter key f rest).map fun rest => (k, n) :: rest

def find? (key : String) (ns : Nodes) : Option Node :=
  (ns.lookup key)

def erase (key : String) (ns : Nodes) : Nodes := ns.filter fun (k, _) => k ≠ key

/-- Works on the table at the end of a path, making the tables that are missing on the way. -/
def within (made : Origin) (f : Origin → Nodes → Option Nodes) :
    List String → Origin → Nodes → Option Nodes
  | [], origin, ns => f origin ns
  | key :: path, _, ns =>
    alter key (fun
      | none => (within made f path made []).map (.table made)
      | some (.leaf _) => none
      | some (.elements []) => none
      | some (.elements (newest :: older)) =>
        (within made f path .header newest).map fun newest => .elements (newest :: older)
      | some (.table origin ns) =>
        if made = .dotted ∧ origin = .header then none
        else (within made f path origin ns).map (.table origin)) ns

/-- Assigns a value to a path within a table opened by a header. -/
def assign (path : Path) (value : Value) (ns : Nodes) : Option Nodes :=
  within .dotted (fun origin ns =>
    if decide (origin = .dotted) = path.parents.isEmpty then none
    else if (find? path.key ns).isSome then none
    else some (ns ++ [(path.key, .leaf value)])) path.parents .header ns

/-- Makes the assignments that follow a header, in order. -/
def assignAll (body : List (Path × Value)) (ns : Nodes) : Option Nodes :=
  body.foldlM (fun ns (path, value) => assign path value ns) ns

/-- Opens a table by its header; one that was only implied keeps what it holds. -/
def openTable (path : Path) (body : List (Path × Value)) (ns : Nodes) : Option Nodes :=
  within .implied (fun _ ns => do
    let inside ← match find? path.key ns with
      | none => some []
      | some (.table .implied inside) => some inside
      | some _ => none
    let inside ← assignAll body inside
    return erase path.key ns ++ [(path.key, .table .header inside)]) path.parents .header ns

/-- Opens a new element of an array of tables. -/
def openElement (path : Path) (body : List (Path × Value)) (ns : Nodes) : Option Nodes :=
  within .implied (fun _ ns => do
    let element ← assignAll body []
    alter path.key (fun
      | none => some (.elements [element])
      | some (.elements tables) => some (.elements (element :: tables))
      | some _ => none) ns) path.parents .header ns

end Nodes

/-! ### Finished trees -/

mutual

def Node.finish : Node → Value
  | .leaf v => v
  | .table _ ns => .table (finishEntries ns)
  | .elements tables => .array (finishElements tables []) 

def finishEntries : List (String × Node) → Entries
  | [] => []
  | (k, n) :: ns => (k, n.finish) :: finishEntries ns

/-- The elements oldest first, in front of those already finished. -/
def finishElements : List (List (String × Node)) → List Value → List Value
  | [], done => done
  | ns :: older, done => finishElements older (.table (finishEntries ns) :: done)

end

/-! ### Documents -/

/-- The assignments up to the next header, and the rest. -/
def splitBody : List Statement → List (Path × Value) × List Statement
  | .assign path value :: rest =>
    let (body, rest) := splitBody rest
    ((path, value) :: body, rest)
  | rest => ([], rest)

theorem length_splitBody_le (ss : List Statement) : (splitBody ss).2.length ≤ ss.length := by
  fun_induction splitBody ss with
  | case1 path value rest body rest' h ih =>
    rw [h] at ih
    exact Nat.le_succ_of_le ih
  | case2 rest => exact Nat.le_refl _

/-- Adds the tables of the statements that begin with a header. -/
def addTables (ss : List Statement) (ns : Nodes) : Option Nodes :=
  match ss with
  | [] => some ns
  | .openTable path :: rest =>
    (ns.openTable path (splitBody rest).1).bind (addTables (splitBody rest).2)
  | .openElement path :: rest =>
    (ns.openElement path (splitBody rest).1).bind (addTables (splitBody rest).2)
  | .assign .. :: _ => none
termination_by ss.length
decreasing_by
  all_goals
    simp only [List.length_cons]
    exact Nat.lt_succ_of_le (length_splitBody_le rest)

/-- The table of a document's statements, unless they contradict each other. -/
def tree? (ss : List Statement) : Option Entries := do
  let ns ← Nodes.assignAll (splitBody ss).1 []
  let ns ← addTables (splitBody ss).2 ns
  return finishEntries ns

/-- The table of an inline table's assignments. -/
def inlineTable? (body : List (Path × Value)) : Option Value :=
  (Nodes.assignAll body []).map fun ns => .table (finishEntries ns)

end CallGuard.Toml
