import CallGuard.Proofs.Toml.Tree
import CallGuard.Toml.Document

/-! A document gives a table each of its keys once, however deep the table is, and whether it is
written with headers, with dotted keys or inline (`keyed_of_read?`). A tree that grows stays so
under each statement: a key is either looked up and changed in its place, or new. -/

namespace CallGuard.Toml

open Nodes

/-! ### Looking up keys -/

variable {α : Type} {key : String} {e : String × α} {entries : List (String × α)}

theorem lookup_cons_of_ne (h : key ≠ e.1) :
    (e :: entries).lookup key = entries.lookup key := by
  have hb : (key == e.1) = false := by simpa using h
  rw [List.lookup_cons, hb]

theorem lookup_cons_of_eq (h : key = e.1) :
    (e :: entries).lookup key = some e.2 := by
  have hb : (key == e.1) = true := by simpa using h
  rw [List.lookup_cons, hb]

theorem lookup_eq_none_iff : entries.lookup key = none ↔ key ∉ entries.map Prod.fst := by
  rw [List.lookup_eq_none_iff]
  constructor
  · intro h hm
    obtain ⟨e, he, rfl⟩ := List.mem_map.1 hm
    simpa using h e he
  · intro h e he
    have hne : key ≠ e.1 := fun heq => h (heq ▸ List.mem_map_of_mem he)
    simpa using hne

theorem lookup_isSome_iff : (entries.lookup key).isSome ↔ key ∈ entries.map Prod.fst := by
  rw [Option.isSome_iff_ne_none, ne_eq, lookup_eq_none_iff, not_not]

/-! ### Trees -/

/-- No table in a value has a key twice. -/
inductive Value.Keyed : Value → Prop
  | string (s : String) : Keyed (.string s)
  | integer (n : Int) : Keyed (.integer n)
  | float (x : Binary64) : Keyed (.float x)
  | boolean (b : Bool) : Keyed (.boolean b)
  | datetime (text : String) : Keyed (.datetime text)
  | array {items : List Value} (inside : ∀ v ∈ items, Keyed v) : Keyed (.array items)
  | table {entries : Entries} (nodup : (entries.map Prod.fst).Nodup)
      (inside : ∀ e ∈ entries, Keyed e.2) : Keyed (.table entries)

theorem Value.keyed_table_cons {e : String × Value} {entries : Entries} :
    (Value.table (e :: entries)).Keyed ↔
      e.1 ∉ entries.map Prod.fst ∧ e.2.Keyed ∧ (Value.table entries).Keyed := by
  constructor
  · rintro (_ | _ | _ | _ | _ | _ | ⟨nodup, inside⟩)
    obtain ⟨hnew, nodup⟩ := List.nodup_cons.1 nodup
    obtain ⟨he, inside⟩ := List.forall_mem_cons.1 inside
    exact ⟨hnew, he, .table nodup inside⟩
  · rintro ⟨hnew, he, _ | _ | _ | _ | _ | _ | ⟨nodup, inside⟩⟩
    exact .table (List.nodup_cons.2 ⟨hnew, nodup⟩) (List.forall_mem_cons.2 ⟨he, inside⟩)

/-- No table in a part of a growing tree has a key twice. -/
inductive Node.Keyed : Node → Prop
  | leaf {v : Value} (keyed : v.Keyed) : Keyed (.leaf v)
  | table {origin : Origin} {ns : Nodes} (nodup : (keys ns).Nodup)
      (inside : ∀ e ∈ ns, Keyed e.2) : Keyed (.table origin ns)
  | elements {tables : List Nodes} (nodup : ∀ ns ∈ tables, (keys ns).Nodup)
      (inside : ∀ ns ∈ tables, ∀ e ∈ ns, Keyed e.2) : Keyed (.elements tables)

/-- Nor has a growing table itself. -/
structure KeyedNodes (ns : Nodes) : Prop where
  nodup : (keys ns).Nodup
  inside : ∀ e ∈ ns, e.2.Keyed

variable {n : Node} {ns ns' : Nodes} {v : Value} {body : List (Path × Value)}

theorem keyedNodes_nil : KeyedNodes [] := ⟨.nil, by simp⟩

theorem KeyedNodes.cons {k : String} (hn : n.Keyed) (hk : k ∉ keys ns) (hns : KeyedNodes ns) :
    KeyedNodes ((k, n) :: ns) :=
  ⟨List.nodup_cons.2 ⟨hk, hns.nodup⟩, List.forall_mem_cons.2 ⟨hn, hns.inside⟩⟩

theorem KeyedNodes.head {e : String × Node} (h : KeyedNodes (e :: ns)) : e.2.Keyed :=
  h.inside e List.mem_cons_self

theorem KeyedNodes.tail {e : String × Node} (h : KeyedNodes (e :: ns)) : KeyedNodes ns :=
  ⟨(List.nodup_cons.1 h.nodup).2, fun e' he' => h.inside e' (List.mem_cons_of_mem _ he')⟩

theorem KeyedNodes.concat (hns : KeyedNodes ns) (hk : key ∉ keys ns) (hn : n.Keyed) :
    KeyedNodes (ns ++ [(key, n)]) where
  nodup := by
    rw [keys, List.map_append, List.map_singleton, ← List.concat_eq_append]
    exact hns.nodup.concat hk
  inside := by
    intro e he
    rcases List.mem_append.1 he with he | he
    · exact hns.inside e he
    · obtain rfl := List.mem_singleton.1 he
      exact hn

theorem KeyedNodes.table (h : KeyedNodes ns) (origin : Origin) : (Node.table origin ns).Keyed :=
  .table h.nodup h.inside

theorem Node.Keyed.nodes {origin : Origin} (h : (Node.table origin ns).Keyed) : KeyedNodes ns := by
  cases h with
  | table nodup inside => exact ⟨nodup, inside⟩

/-! ### Statements -/

theorem mem_keys_of_alter {f : Option Node → Option Node} (h : alter key f ns = some ns') :
    ∀ k ∈ keys ns', k = key ∨ k ∈ keys ns := by
  induction ns generalizing ns' with
  | nil =>
    obtain ⟨n, -, rfl⟩ := Option.map_eq_some_iff.1 h
    simp [keys]
  | cons e ns ih =>
    obtain ⟨k, n⟩ := e
    unfold alter at h
    split at h
    next =>
      obtain ⟨n', -, rfl⟩ := Option.map_eq_some_iff.1 h
      exact fun k' hk' => .inr hk'
    next =>
      obtain ⟨rest, hrest, rfl⟩ := Option.map_eq_some_iff.1 h
      intro k' hk'
      rcases List.mem_cons.1 hk' with rfl | hk'
      · exact .inr List.mem_cons_self
      · exact (ih hrest k' hk').imp_right (List.mem_cons_of_mem _)

/-- An entry is changed, or there is a new one. -/
theorem KeyedNodes.alter {f : Option Node → Option Node} (hns : KeyedNodes ns)
    (hf : ∀ old n, (∀ m ∈ old, Node.Keyed m) → f old = some n → n.Keyed)
    (h : alter key f ns = some ns') : KeyedNodes ns' := by
  induction ns generalizing ns' with
  | nil =>
    obtain ⟨n, hn, rfl⟩ := Option.map_eq_some_iff.1 h
    exact .cons (hf none n (by simp) hn) (by simp [keys]) keyedNodes_nil
  | cons e ns ih =>
    obtain ⟨k, n⟩ := e
    have hk : k ∉ keys ns := (List.nodup_cons.1 hns.nodup).1
    unfold Nodes.alter at h
    split at h
    next =>
      obtain ⟨n', hn', rfl⟩ := Option.map_eq_some_iff.1 h
      refine .cons (hf (some n) n' ?_ hn') hk hns.tail
      rintro _ ⟨⟩
      exact hns.head
    next hne =>
      obtain ⟨rest, hrest, rfl⟩ := Option.map_eq_some_iff.1 h
      refine .cons hns.head (fun hm => ?_) (ih hns.tail hrest)
      rcases mem_keys_of_alter hrest k hm with he | hm
      · exact hne he
      · exact hk hm

/-- What is done to the table at the end of a path is done within the tree. -/
theorem KeyedNodes.within {made : Origin} {f : Origin → Nodes → Option Nodes}
    (hf : ∀ origin ns ns', KeyedNodes ns → f origin ns = some ns' → KeyedNodes ns')
    {path : List String} {origin : Origin} (hns : KeyedNodes ns)
    (h : within made f path origin ns = some ns') : KeyedNodes ns' := by
  induction path generalizing origin ns ns' with
  | nil => exact hf origin ns ns' hns h
  | cons key path ih =>
    rw [Nodes.within] at h
    refine hns.alter (fun old n hold hn => ?_) h
    split at hn
    · obtain ⟨inside, hi, rfl⟩ := Option.map_eq_some_iff.1 hn
      exact (ih keyedNodes_nil hi).table made
    · cases hn
    · cases hn
    · next newest older =>
      obtain ⟨inside, hi, rfl⟩ := Option.map_eq_some_iff.1 hn
      cases hold _ rfl with
      | elements nodup inside =>
        obtain ⟨hnodup, hnodups⟩ := List.forall_mem_cons.1 nodup
        obtain ⟨hinside, hinsides⟩ := List.forall_mem_cons.1 inside
        have hnew := ih ⟨hnodup, hinside⟩ hi
        exact .elements (List.forall_mem_cons.2 ⟨hnew.nodup, hnodups⟩)
          (List.forall_mem_cons.2 ⟨hnew.inside, hinsides⟩)
    · split at hn
      · cases hn
      · obtain ⟨inside, hi, rfl⟩ := Option.map_eq_some_iff.1 hn
        exact (ih (hold _ rfl).nodes hi).table _

theorem not_mem_keys (h : find? key ns = none) : key ∉ keys ns := lookup_eq_none_iff.1 h

theorem KeyedNodes.assign {path : Path} (hv : v.Keyed) (hns : KeyedNodes ns)
    (h : assign path v ns = some ns') : KeyedNodes ns' := by
  refine hns.within (fun origin ns ns' hns h => ?_) h
  split at h
  · cases h
  · split at h
    · cases h
    · next hfind =>
      cases h
      exact hns.concat (not_mem_keys (by simpa using hfind)) (.leaf hv)

theorem KeyedNodes.assignAll (hb : ∀ b ∈ body, b.2.Keyed) (hns : KeyedNodes ns)
    (h : assignAll body ns = some ns') : KeyedNodes ns' := by
  induction body generalizing ns with
  | nil =>
    cases h
    exact hns
  | cons b body ih =>
    obtain ⟨hb, hbody⟩ := List.forall_mem_cons.1 hb
    rw [Nodes.assignAll, List.foldlM_cons, Option.bind_eq_bind, Option.bind_eq_some_iff] at h
    obtain ⟨ms, hms, h⟩ := h
    exact ih hbody (hns.assign hb hms) h

theorem KeyedNodes.erase (hns : KeyedNodes ns) (key : String) :
    KeyedNodes (erase key ns) ∧ key ∉ keys (Nodes.erase key ns) := by
  refine ⟨⟨hns.nodup.sublist (List.filter_sublist.map _), fun e he => ?_⟩, fun hm => ?_⟩
  · exact hns.inside e (List.mem_filter.1 he).1
  · obtain ⟨e, he, rfl⟩ := List.mem_map.1 hm
    simpa using (List.mem_filter.1 he).2

theorem mem_of_find? (h : find? key ns = some n) : (key, n) ∈ ns := by
  obtain ⟨l, r, rfl, -⟩ := List.lookup_eq_some_iff.1 h
  simp

theorem KeyedNodes.openTable {path : Path} (hb : ∀ b ∈ body, b.2.Keyed) (hns : KeyedNodes ns)
    (h : openTable path body ns = some ns') : KeyedNodes ns' := by
  refine hns.within (fun origin ns ns' hns h => ?_) h
  have opened {before : Nodes} (hbefore : KeyedNodes before)
      (h : ((Nodes.assignAll body before).bind fun inside =>
        some (Nodes.erase path.key ns ++ [(path.key, .table .header inside)])) = some ns') :
      KeyedNodes ns' := by
    obtain ⟨inside, hinside, h⟩ := Option.bind_eq_some_iff.1 h
    cases h
    obtain ⟨herased, hnew⟩ := hns.erase path.key
    exact herased.concat hnew ((hbefore.assignAll hb hinside).table .header)
  dsimp only at h
  split at h
  · exact opened keyedNodes_nil h
  · next hfind => exact opened (hns.inside _ (mem_of_find? hfind)).nodes h
  · cases h

theorem KeyedNodes.openElement {path : Path} (hb : ∀ b ∈ body, b.2.Keyed) (hns : KeyedNodes ns)
    (h : openElement path body ns = some ns') : KeyedNodes ns' := by
  refine hns.within (fun origin ns ns' hns h => ?_) h
  simp only [Option.bind_eq_bind, Option.bind_eq_some_iff] at h
  obtain ⟨element, helement, h⟩ := h
  have hkeyed := keyedNodes_nil.assignAll hb helement
  refine hns.alter (fun old n hold hn => ?_) h
  split at hn
  · cases hn
    exact .elements (by simpa using hkeyed.nodup) (by simpa using hkeyed.inside)
  · cases hn
    cases hold _ rfl with
    | elements nodup inside =>
      exact .elements (List.forall_mem_cons.2 ⟨hkeyed.nodup, nodup⟩)
        (List.forall_mem_cons.2 ⟨hkeyed.inside, inside⟩)
  · cases hn

/-! ### Finished trees -/

theorem finishEntries_eq_map (ns : Nodes) :
    finishEntries ns = ns.map fun e => (e.1, e.2.finish) := by
  induction ns with
  | nil => rfl
  | cons e ns ih => rw [finishEntries, ih, List.map_cons]

theorem map_fst_finishEntries (ns : Nodes) : (finishEntries ns).map Prod.fst = keys ns := by
  rw [finishEntries_eq_map, List.map_map]
  rfl

theorem finishElements_eq (tables : List Nodes) (done : List Value) :
    finishElements tables done =
      (tables.map fun ns => Value.table (finishEntries ns)).reverse ++ done := by
  induction tables generalizing done with
  | nil => rfl
  | cons ns tables ih => rw [finishElements, ih]; simp

theorem keyed_finishEntries (hk : (keys ns).Nodup) (h : ∀ e ∈ ns, e.2.finish.Keyed) :
    (Value.table (finishEntries ns)).Keyed := by
  refine .table (by rwa [map_fst_finishEntries]) fun e he => ?_
  rw [finishEntries_eq_map] at he
  obtain ⟨e', he', rfl⟩ := List.mem_map.1 he
  exact h e' he'

theorem Node.Keyed.finish (h : n.Keyed) : n.finish.Keyed := by
  induction h with
  | leaf keyed => exact keyed
  | table nodup _ ih => exact keyed_finishEntries nodup ih
  | elements nodup _ ih =>
    refine .array fun v hv => ?_
    rw [finishElements_eq, List.append_nil, List.mem_reverse] at hv
    obtain ⟨ns, hns, rfl⟩ := List.mem_map.1 hv
    exact keyed_finishEntries (nodup ns hns) (ih ns hns)

theorem KeyedNodes.finish (h : KeyedNodes ns) : (Value.table (finishEntries ns)).Keyed :=
  keyed_finishEntries h.nodup fun e he => (h.inside e he).finish

/-! ### Values -/

theorem keyed_fitting {k : Int} {cs : Chars} {r : Value × Chars} (h : fitting k cs = some r) :
    r.1.Keyed := by
  unfold fitting at h
  split at h
  · cases h
    exact .integer k
  · cases h

theorem keyed_integer? {cs : Chars} {r : Value × Chars} (h : integer? cs = some r) :
    r.1.Keyed := by
  have based {base : Nat} {cs : Chars} (h : based? base cs = some r) : r.1.Keyed := by
    obtain ⟨⟨ds, rest⟩, -, h⟩ := Option.bind_eq_some_iff.1 h
    exact keyed_fitting h
  unfold integer? at h
  split at h
  · exact based h
  · exact based h
  · exact based h
  · obtain ⟨⟨ds, rest⟩, -, h⟩ := Option.bind_eq_some_iff.1 h
    exact keyed_fitting h

theorem keyed_float? {cs : Chars} {r : Value × Chars} (h : float? cs = some r) : r.1.Keyed := by
  have number {negative : Bool} {ds : List Char} {rest : Chars}
      (h : ((Binary64.readUnsigned? negative ds).bind fun x =>
        if x = .infinite false then none else some (Value.float x, rest)) = some r) :
      r.1.Keyed := by
    obtain ⟨x, -, h⟩ := Option.bind_eq_some_iff.1 h
    split at h
    · cases h
    · cases h
      exact .float x
  obtain ⟨⟨whole, rest⟩, -, h⟩ := Option.bind_eq_some_iff.1 h
  dsimp only at h
  split at h
  · split at h
    · exact number h
    · exact number h
  · obtain ⟨⟨tail, rest⟩, -, h⟩ := Option.bind_eq_some_iff.1 h
    exact number h

theorem keyed_special? {cs : Chars} {r : Value × Chars} (h : special? cs = some r) :
    r.1.Keyed := by
  unfold special? at h
  generalize Binary64.splitSign cs = signed at h
  dsimp only at h
  split at h
  · cases h
    exact .float _
  · obtain ⟨rest, -, rfl⟩ := Option.map_eq_some_iff.1 h
    exact .float _

theorem keyed_boolean? {cs : Chars} {r : Value × Chars} (h : boolean? cs = some r) :
    r.1.Keyed := by
  unfold boolean? at h
  split at h
  · cases h
    exact .boolean _
  · obtain ⟨rest, -, rfl⟩ := Option.map_eq_some_iff.1 h
    exact .boolean _

theorem keyed_datetime? {cs : Chars} {r : Value × Chars} (h : datetime? cs = some r) :
    r.1.Keyed := by
  unfold datetime? at h
  split at h
  · split at h <;>
    · cases h
      exact .datetime _
  · obtain ⟨⟨time, rest⟩, -, rfl⟩ := Option.map_eq_some_iff.1 h
    exact .datetime _

theorem keyed_scalar? {cs : Chars} {r : Value × Chars} (h : scalar? cs = some r) :
    r.1.Keyed := by
  unfold scalar? at h
  split at h
  · next hd => cases h; exact keyed_datetime? hd
  · split at h
    · next hf => cases h; exact keyed_float? hf
    · split at h
      · next hs => cases h; exact keyed_special? hs
      · split at h
        · next hb => cases h; exact keyed_boolean? hb
        · exact keyed_integer? h

theorem keyed_string? {cs : Chars} {r : Value × Chars}
    (h : ((string? cs).map fun s => (Value.string s.1, s.2)) = some r) : r.1.Keyed := by
  obtain ⟨s, -, rfl⟩ := Option.map_eq_some_iff.1 h
  exact .string s.1

theorem keyed_inlineTable? (hb : ∀ b ∈ body, b.2.Keyed) (h : inlineTable? body = some v) :
    v.Keyed := by
  obtain ⟨ns, hns, rfl⟩ := Option.map_eq_some_iff.1 h
  exact (keyedNodes_nil.assignAll hb hns).finish

/-- What the readers of nested values give with so many steps. -/
structure ReadsKeyed (fuel : Nat) : Prop where
  value : ∀ depth cs r, value? fuel depth cs = some r → r.1.Keyed
  items : ∀ depth cs r, items? fuel depth cs = some r → ∀ v ∈ r.1, v.Keyed
  assignments : ∀ depth cs r, assignments? fuel depth cs = some r → ∀ b ∈ r.1, b.2.Keyed

theorem readsKeyed (fuel : Nat) : ReadsKeyed fuel := by
  induction fuel with
  | zero => constructor <;> intro depth cs r h <;> simp [value?, items?, assignments?] at h
  | succ fuel ih =>
    constructor
    case value =>
      intro depth cs r h
      unfold value? at h
      -- by the first character: an array, an inline table, one of the quotes, or neither
      split at h
      · split at h
        · cases h
        · obtain ⟨⟨vs, cs⟩, hvs, rfl⟩ := Option.map_eq_some_iff.1 h
          exact .array (ih.items _ _ _ hvs)
      · split at h
        · cases h
        · split at h
          · cases h
            exact .table .nil (by simp)
          · obtain ⟨⟨body, cs⟩, hbody, h⟩ := Option.bind_eq_some_iff.1 h
            obtain ⟨v, hv, h⟩ := Option.bind_eq_some_iff.1 h
            cases h
            exact keyed_inlineTable? (ih.assignments _ _ _ hbody) hv
      · exact keyed_string? h
      · exact keyed_string? h
      · exact keyed_scalar? h
    case items =>
      intro depth cs r h
      unfold items? at h
      split at h
      · cases h
        simp
      · obtain ⟨⟨v, cs⟩, hv, h⟩ := Option.bind_eq_some_iff.1 h
        have hv := ih.value _ _ _ hv
        dsimp only at h
        split at h
        · obtain ⟨⟨vs, cs⟩, hvs, h⟩ := Option.bind_eq_some_iff.1 h
          cases h
          exact List.forall_mem_cons.2 ⟨hv, ih.items _ _ _ hvs⟩
        · obtain ⟨rest, -, h⟩ := Option.bind_eq_some_iff.1 h
          cases h
          exact List.forall_mem_singleton.2 hv
    case assignments =>
      intro depth cs r h
      unfold assignments? at h
      obtain ⟨⟨path, cs⟩, -, h⟩ := Option.bind_eq_some_iff.1 h
      obtain ⟨rest, -, h⟩ := Option.bind_eq_some_iff.1 h
      obtain ⟨⟨v, cs⟩, hv, h⟩ := Option.bind_eq_some_iff.1 h
      have hv := ih.value _ _ _ hv
      dsimp only at h
      split at h
      · obtain ⟨⟨body, cs⟩, hbody, h⟩ := Option.bind_eq_some_iff.1 h
        cases h
        exact List.forall_mem_cons.2 ⟨hv, ih.assignments _ _ _ hbody⟩
      · obtain ⟨rest, -, h⟩ := Option.bind_eq_some_iff.1 h
        cases h
        exact List.forall_mem_singleton.2 hv

/-! ### Documents -/

/-- The value that a statement assigns has no key twice. -/
def Statement.Keyed : Statement → Prop
  | .assign _ v => v.Keyed
  | _ => True

theorem keyed_statement? {cs : Chars} {r : Statement × Chars} (h : statement? cs = some r) :
    r.1.Keyed := by
  unfold statement? at h
  split at h
  · unfold header? at h
    split at h <;>
    · obtain ⟨⟨path, cs⟩, -, h⟩ := Option.bind_eq_some_iff.1 h
      obtain ⟨rest, -, h⟩ := Option.bind_eq_some_iff.1 h
      cases h
      trivial
  · unfold assignment? at h
    obtain ⟨⟨path, cs⟩, -, h⟩ := Option.bind_eq_some_iff.1 h
    obtain ⟨rest, -, h⟩ := Option.bind_eq_some_iff.1 h
    obtain ⟨⟨v, cs⟩, hv, h⟩ := Option.bind_eq_some_iff.1 h
    cases h
    exact (readsKeyed _).value _ _ _ hv

theorem keyed_statements? {fuel : Nat} {cs : Chars} {ss : List Statement}
    (h : statements? fuel cs = some ss) : ∀ s ∈ ss, s.Keyed := by
  induction fuel generalizing cs ss with
  | zero => cases h
  | succ fuel ih =>
    unfold statements? at h
    dsimp only at h
    split at h
    · cases h
      simp
    · split at h
      · obtain ⟨rest, -, h⟩ := Option.bind_eq_some_iff.1 h
        exact ih h
      · obtain ⟨⟨s, cs⟩, hs, h⟩ := Option.bind_eq_some_iff.1 h
        obtain ⟨rest, -, h⟩ := Option.bind_eq_some_iff.1 h
        obtain ⟨ss, hss, h⟩ := Option.bind_eq_some_iff.1 h
        cases h
        exact List.forall_mem_cons.2 ⟨keyed_statement? hs, ih hss⟩

theorem keyed_splitBody {ss : List Statement} (h : ∀ s ∈ ss, s.Keyed) :
    (∀ b ∈ (splitBody ss).1, b.2.Keyed) ∧ ∀ s ∈ (splitBody ss).2, s.Keyed := by
  fun_induction splitBody ss with
  | case1 path value rest body rest' hsplit ih =>
    obtain ⟨hv, hrest⟩ := List.forall_mem_cons.1 h
    rw [hsplit] at ih
    obtain ⟨hbody, hrest'⟩ := ih hrest
    exact ⟨List.forall_mem_cons.2 ⟨hv, hbody⟩, hrest'⟩
  | case2 rest => exact ⟨by simp, h⟩

theorem KeyedNodes.addTables {ss : List Statement} (hs : ∀ s ∈ ss, s.Keyed) (hns : KeyedNodes ns)
    (h : addTables ss ns = some ns') : KeyedNodes ns' := by
  fun_induction Toml.addTables ss ns with
  | case1 ns =>
    cases h
    exact hns
  | case2 ns path rest ih =>
    obtain ⟨hbody, hrest⟩ := keyed_splitBody (List.forall_mem_cons.1 hs).2
    obtain ⟨ms, hms, h⟩ := Option.bind_eq_some_iff.1 h
    exact ih ms hrest (hns.openTable hbody hms) h
  | case3 ns path rest ih =>
    obtain ⟨hbody, hrest⟩ := keyed_splitBody (List.forall_mem_cons.1 hs).2
    obtain ⟨ms, hms, h⟩ := Option.bind_eq_some_iff.1 h
    exact ih ms hrest (hns.openElement hbody hms) h
  | case4 => cases h

/-- A text gives each table of its document a key once. -/
theorem keyed_of_read? {cs : Chars} {entries : Entries} (h : read? cs = some entries) :
    (Value.table entries).Keyed := by
  obtain ⟨ss, hss, h⟩ := Option.bind_eq_some_iff.1 h
  obtain ⟨hbody, hrest⟩ := keyed_splitBody (keyed_statements? hss)
  obtain ⟨ns, hns, h⟩ := Option.bind_eq_some_iff.1 h
  obtain ⟨ns', hns', h⟩ := Option.bind_eq_some_iff.1 h
  cases h
  exact ((keyedNodes_nil.assignAll hbody hns).addTables hrest hns').finish

end CallGuard.Toml
