import CallGuard.Toml.Tree
import Mathlib.Data.List.Nodup

/-! Trees of documents in which every key is new. A table that is opened, by a header of its own
or under a table that is only implied, comes after what is there (`openTable_new`,
`openTable_under_new`, `openTable_under_last`), so that a row of tables is finished as it was
written (`tree?_tables`, `tree?_nested`). -/

namespace CallGuard.Toml

open Nodes

variable {key parent : String} {ns : Nodes} {entries : Entries} {ss : List Statement}

/-- The keys of a growing table. -/
def keys (ns : Nodes) : List String := ns.map Prod.fst

/-- A table of plain values. -/
def leaves (entries : Entries) : Nodes := entries.map fun e => (e.1, .leaf e.2)

/-- Entries that are each assigned to a key. -/
def assigned (entries : Entries) : List (Path × Value) := entries.map fun e => (⟨[], e.1⟩, e.2)

/-! ### New keys -/

theorem find?_new (h : key ∉ keys ns) : find? key ns = none := by
  refine List.lookup_eq_none_iff.2 fun e he => ?_
  have hne : key ≠ e.1 := fun heq => h (heq ▸ List.mem_map_of_mem he)
  simpa using hne

theorem erase_new (h : key ∉ keys ns) : erase key ns = ns := by
  refine List.filter_eq_self.2 fun e he => ?_
  have hne : e.1 ≠ key := fun heq => h (heq ▸ List.mem_map_of_mem he)
  simpa using hne

theorem alter_new (h : key ∉ keys ns) (f : Option Node → Option Node) :
    alter key f ns = (f none).map fun n => ns ++ [(key, n)] := by
  induction ns with
  | nil => rfl
  | cons e ns ih =>
    simp only [keys, List.map_cons, List.mem_cons, not_or] at h ih
    have hne : e.1 ≠ key := Ne.symm h.1
    simp only [alter, hne, if_false, ih h.2, Option.map_map]
    rfl

theorem alter_last (h : key ∉ keys ns) (n : Node) (f : Option Node → Option Node) :
    alter key f (ns ++ [(key, n)]) = (f (some n)).map fun n => ns ++ [(key, n)] := by
  induction ns with
  | nil => simp [alter]
  | cons e ns ih =>
    simp only [keys, List.map_cons, List.mem_cons, not_or] at h ih
    have hne : e.1 ≠ key := Ne.symm h.1
    simp only [List.cons_append, alter, hne, if_false, ih h.2, Option.map_map]
    rfl

theorem within_new (h : parent ∉ keys ns) (made origin : Origin)
    (f : Origin → Nodes → Option Nodes) :
    within made f [parent] origin ns =
      (f made []).map fun inside => ns ++ [(parent, .table made inside)] := by
  rw [within, alter_new h]
  simp only [within, Option.map_map]
  rfl

theorem within_last (h : parent ∉ keys ns) (origin : Origin) (f : Origin → Nodes → Option Nodes)
    (inside : Nodes) :
    within .implied f [parent] origin (ns ++ [(parent, .table .implied inside)]) =
      (f .implied inside).map fun inside => ns ++ [(parent, .table .implied inside)] := by
  rw [within, alter_last h]
  simp only [reduceCtorEq, false_and, if_false, within, Option.map_map]
  rfl

/-! ### Statements -/

theorem assign_new (h : key ∉ keys ns) (v : Value) :
    assign ⟨[], key⟩ v ns = some (ns ++ [(key, .leaf v)]) := by
  simp [assign, within, find?_new h]

/-- Of keys that are all different, the next one is new, and so are the others after it. -/
theorem next_new {α : Type} {e : String × α} {es : List (String × α)} (n : Node)
    (h : (keys ns ++ (e :: es).map Prod.fst).Nodup) :
    e.1 ∉ keys ns ∧ (keys (ns ++ [(e.1, n)]) ++ es.map Prod.fst).Nodup := by
  refine ⟨fun hm => ?_, by simpa [keys] using h⟩
  exact List.disjoint_of_nodup_append h hm (List.mem_map_of_mem List.mem_cons_self)

theorem assignAll_new (h : (keys ns ++ entries.map Prod.fst).Nodup) :
    assignAll (assigned entries) ns = some (ns ++ leaves entries) := by
  induction entries generalizing ns with
  | nil => simp [assignAll, assigned, leaves]
  | cons e entries ih =>
    obtain ⟨hnew, hrest⟩ := next_new (.leaf e.2) h
    have ih := ih hrest
    simp only [assignAll, assigned, List.map_cons, List.foldlM_cons] at ih ⊢
    rw [assign_new hnew e.2, Option.bind_eq_bind, Option.bind_some, ih]
    simp [leaves]

/-- A table that no header opened before. -/
theorem openTable_new (h : key ∉ keys ns) (hn : (entries.map Prod.fst).Nodup) :
    openTable ⟨[], key⟩ (assigned entries) ns =
      some (ns ++ [(key, .table .header (leaves entries))]) := by
  have hbody : assignAll (assigned entries) [] = some (leaves entries) := assignAll_new hn
  simp [openTable, within, find?_new h, hbody, erase_new h]

/-- The first table under a name implies the table of that name. -/
theorem openTable_under_new (h : parent ∉ keys ns) (key : String) (body : List (Path × Value)) :
    openTable ⟨[parent], key⟩ body ns =
      (openTable ⟨[], key⟩ body []).map fun inside => ns ++ [(parent, .table .implied inside)] :=
  within_new h ..

/-- More tables under the name go into the same table. -/
theorem openTable_under_last (h : parent ∉ keys ns) (inside : Nodes) (key : String)
    (body : List (Path × Value)) :
    openTable ⟨[parent], key⟩ body (ns ++ [(parent, .table .implied inside)]) =
      (openTable ⟨[], key⟩ body inside).map fun inside =>
        ns ++ [(parent, .table .implied inside)] :=
  within_last h ..

/-! ### Rows of tables -/

/-- A header and the assignments under it. -/
def opened (path : Path) (entries : Entries) : List Statement :=
  .openTable path :: entries.map fun e => .assign ⟨[], e.1⟩ e.2

/-- Whether no assignments come before the first header. -/
def Headed (ss : List Statement) : Prop := splitBody ss = ([], ss)

theorem splitBody_assigned (entries : Entries) (hs : Headed ss) :
    splitBody ((entries.map fun e => Statement.assign ⟨[], e.1⟩ e.2) ++ ss) =
      (assigned entries, ss) := by
  induction entries with
  | nil => exact hs
  | cons e entries ih => simp [splitBody, ih, assigned]

theorem addTables_opened (path : Path) (entries : Entries) (hs : Headed ss) (ns : Nodes) :
    addTables (opened path entries ++ ss) ns =
      (openTable path (assigned entries) ns).bind (addTables ss) := by
  rw [opened, List.cons_append, addTables, splitBody_assigned entries hs]

/-- Tables by name, each with its entries. -/
abbrev Tables := List (String × Entries)

/-- Whether no name is given twice, nor a key within one table. -/
structure Distinct (tables : Tables) : Prop where
  names : (tables.map Prod.fst).Nodup
  entries : ∀ t ∈ tables, (t.2.map Prod.fst).Nodup

variable {t : String × Entries} {tables : Tables}

/-- Tables under a path. -/
def placed (parents : List String) (tables : Tables) : List (Path × Entries) :=
  tables.map fun t => (⟨parents, t.1⟩, t.2)

/-- The tables of a table of tables, or that table itself if it is empty. -/
def nested (parent : String) : Tables → List (Path × Entries)
  | [] => placed [] [(parent, [])]
  | t :: tables => placed [parent] (t :: tables)

/-- The headers of tables, each with its assignments. -/
def statements (tables : List (Path × Entries)) : List Statement :=
  tables.flatMap fun t => opened t.1 t.2

theorem statements_append (xs ys : List (Path × Entries)) :
    statements (xs ++ ys) = statements xs ++ statements ys := List.flatMap_append

theorem statements_placed_cons (parents : List String) (t : String × Entries) (tables : Tables) :
    statements (placed parents (t :: tables)) =
      opened ⟨parents, t.1⟩ t.2 ++ statements (placed parents tables) := List.flatMap_cons

theorem headed_statements (tables : List (Path × Entries)) : Headed (statements tables) := by
  cases tables with
  | nil => rfl
  | cons t tables => rfl

/-- Tables that were opened. -/
def nodes (tables : Tables) : Nodes := tables.map fun t => (t.1, .table .header (leaves t.2))

/-- Tables on the top level go there in order. -/
theorem addTables_top (ns : Nodes) (rest : List (Path × Entries))
    (he : ∀ t ∈ tables, (t.2.map Prod.fst).Nodup) (hn : (keys ns ++ tables.map Prod.fst).Nodup) :
    addTables (statements (placed [] tables ++ rest)) ns =
      addTables (statements rest) (ns ++ nodes tables) := by
  induction tables generalizing ns with
  | nil => simp [placed, nodes]
  | cons t tables ih =>
    obtain ⟨ht, he⟩ := List.forall_mem_cons.1 he
    obtain ⟨hnew, hrest⟩ := next_new (.table .header (leaves t.2)) hn
    have ih := ih _ he hrest
    rw [statements_append] at ih ⊢
    rw [statements_placed_cons, List.append_assoc, ← statements_append,
      addTables_opened _ _ (headed_statements _), openTable_new hnew ht, Option.bind_some,
      statements_append, ih]
    simp [nodes]

/-- Tables under a name that is implied go into its table in order. -/
theorem addTables_under (h : parent ∉ keys ns) {inside : Nodes}
    (he : ∀ t ∈ tables, (t.2.map Prod.fst).Nodup) (hn : (keys inside ++ tables.map Prod.fst).Nodup) :
    addTables (statements (placed [parent] tables)) (ns ++ [(parent, .table .implied inside)]) =
      some (ns ++ [(parent, .table .implied (inside ++ nodes tables))]) := by
  induction tables generalizing inside with
  | nil => simp [placed, statements, nodes, addTables]
  | cons t tables ih =>
    obtain ⟨ht, he⟩ := List.forall_mem_cons.1 he
    obtain ⟨hnew, hrest⟩ := next_new (.table .header (leaves t.2)) hn
    rw [statements_placed_cons, addTables_opened _ _ (headed_statements _), openTable_under_last h,
      openTable_new hnew ht, Option.map_some, Option.bind_some, ih he hrest]
    simp [nodes]

/-! ### Finished trees -/

/-- The entries of a table of tables. -/
def ofTables (tables : Tables) : Entries := tables.map fun t => (t.1, .table t.2)

theorem finishEntries_append (ns ms : Nodes) :
    finishEntries (ns ++ ms) = finishEntries ns ++ finishEntries ms := by
  induction ns with
  | nil => rfl
  | cons e ns ih => simp [finishEntries, ih]

theorem finishEntries_leaves (entries : Entries) : finishEntries (leaves entries) = entries := by
  induction entries with
  | nil => rfl
  | cons e entries ih =>
    simp only [leaves, List.map_cons, finishEntries, Node.finish] at ih ⊢
    rw [ih]

theorem finishEntries_nodes (tables : Tables) : finishEntries (nodes tables) = ofTables tables := by
  induction tables with
  | nil => rfl
  | cons t tables ih =>
    simp only [nodes, ofTables, List.map_cons, finishEntries, Node.finish] at ih ⊢
    rw [ih, finishEntries_leaves]

theorem tree?_of_addTables {placed : List (Path × Entries)}
    (h : addTables (statements placed) [] = some ns) :
    tree? (statements placed) = some (finishEntries ns) := by
  rw [tree?, headed_statements]
  simp [assignAll, h]

/-- Tables, and at last one that has only tables, are the document of their headers. -/
theorem tree?_nested (under : Tables) (h : Distinct (tables ++ [(parent, [])]))
    (hu : Distinct under) :
    tree? (statements (placed [] tables ++ nested parent under)) =
      some (ofTables tables ++ [(parent, .table (ofTables under))]) := by
  cases under with
  | nil =>
    -- the last table has a header of its own
    have hplaced : placed [] tables ++ nested parent [] =
        placed [] (tables ++ [(parent, [])]) ++ [] := by simp [placed, nested]
    have hadd : addTables (statements (placed [] tables ++ nested parent [])) [] =
        some (nodes (tables ++ [(parent, [])])) := by
      rw [hplaced, addTables_top [] [] h.entries h.names]
      simp [statements, addTables]
    rw [tree?_of_addTables hadd, finishEntries_nodes]
    simp [ofTables]
  | cons t under =>
    -- the first table under the name implies its table, and the others find it at the end
    have hnames := h.names
    rw [List.map_append, List.map_singleton, List.nodup_append_comm, List.singleton_append,
      List.nodup_cons] at hnames
    have hentries : ∀ t ∈ tables, (t.2.map Prod.fst).Nodup :=
      fun t ht => h.entries t (List.mem_append_left _ ht)
    have hkeys : keys (nodes tables) = tables.map Prod.fst := by simp [keys, nodes]
    have hparent : parent ∉ keys (nodes tables) := hkeys ▸ hnames.1
    obtain ⟨ht, hunder⟩ := List.forall_mem_cons.1 hu.entries
    have hadd : addTables (statements (placed [] tables ++ nested parent (t :: under))) [] =
        some (nodes tables ++ [(parent, .table .implied (nodes (t :: under)))]) := by
      rw [addTables_top [] _ hentries hnames.2, List.nil_append, nested, statements_placed_cons,
        addTables_opened _ _ (headed_statements _), openTable_under_new hparent,
        openTable_new List.not_mem_nil ht]
      exact addTables_under hparent hunder hu.names
    rw [tree?_of_addTables hadd, finishEntries_append, finishEntries_nodes]
    simp [finishEntries, Node.finish, finishEntries_nodes]

end CallGuard.Toml
