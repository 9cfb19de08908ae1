import CallGuard.Binary64.Basic

/-! Values of a configuration document, and the statements it is made of: assignments of
a value to a path of keys, and headers that open a table or a new element of an array of
tables. -/

namespace CallGuard.Toml

/-- A value; a table keeps its entries in the order of the document. -/
inductive Value where
  | string (s : String)
  | integer (n : Int)
  | float (x : Binary64)
  | boolean (b : Bool)
  /-- a date, a time or both, in normal form -/
  | datetime (text : String)
  | array (items : List Value)
  | table (entries : List (String × Value))

/-- The entries of a table. -/
abbrev Entries := List (String × Value)

/-- A path of keys, split into the ones on the way and the last one. -/
structure Path where
  parents : List String
  key : String
deriving DecidableEq, Repr

inductive Statement where
  | assign (path : Path) (value : Value)
  | openTable (path : Path)
  | openElement (path : Path)

/-- The first and last integer of a document. -/
def minInteger : Int := -0x8000000000000000

def maxInteger : Int := 0x7FFFFFFFFFFFFFFF

/-- How deep arrays and inline tables may nest, and how long a path may be. -/
def maxDepth : Nat := 79

end CallGuard.Toml
