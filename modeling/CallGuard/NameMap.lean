/-! Finite maps from names, kept as a list in strictly rising order of the names. Names
compare by code point, which is the order of their UTF-8 bytes. The order is part of the
type, so two maps with the same entries are equal. -/

namespace CallGuard

/-- Entries in strictly rising order of their names. -/
def Rising {α : Type} (entries : List (String × α)) : Prop :=
  entries.Pairwise fun a b => a.1 < b.1

structure NameMap (α : Type) where
  entries : List (String × α)
  rising : Rising entries

namespace NameMap

variable {α β : Type}

instance [DecidableEq α] : DecidableEq (NameMap α)
  | ⟨xs, _⟩, ⟨ys, _⟩ => if h : xs = ys then .isTrue (by subst h; rfl)
    else .isFalse fun h' => h (congrArg NameMap.entries h')

theorem ext_entries {m n : NameMap α} (h : m.entries = n.entries) : m = n := by
  cases m; cases n; simp_all

def empty : NameMap α := ⟨[], .nil⟩

instance : Inhabited (NameMap α) := ⟨empty⟩

/-- The list with an entry put in, in place of an entry of the same name. -/
def put (name : String) (a : α) : List (String × α) → List (String × α)
  | [] => [(name, a)]
  | (n, b) :: rest =>
    if name < n then (name, a) :: (n, b) :: rest
    else if name = n then (name, a) :: rest
    else (n, b) :: put name a rest

theorem mem_put {name : String} {a : α} {e : String × α} {entries : List (String × α)}
    (h : e ∈ put name a entries) : e = (name, a) ∨ e ∈ entries := by
  induction entries with
  | nil => simpa [put] using h
  | cons e' rest ih =>
    obtain ⟨n, b⟩ := e'
    unfold put at h
    split at h
    · simpa using h
    · split at h <;> simp only [List.mem_cons] at h ⊢
      · rcases h with h | h
        · exact .inl h
        · exact .inr (.inr h)
      · rcases h with h | h
        · exact .inr (.inl h)
        · rcases ih h with h | h
          · exact .inl h
          · exact .inr (.inr h)

theorem rising_put {name : String} {a : α} {entries : List (String × α)} (h : Rising entries) :
    Rising (put name a entries) := by
  induction entries with
  | nil => exact List.pairwise_singleton _ _
  | cons e rest ih =>
    obtain ⟨n, b⟩ := e
    have hr := List.pairwise_cons.1 h
    unfold put
    split
    · next hlt =>
      refine List.pairwise_cons.2 ⟨?_, h⟩
      intro e he
      rcases List.mem_cons.1 he with rfl | he
      · exact hlt
      · exact String.lt_trans hlt (hr.1 e he)
    · split
      · next hlt heq =>
        subst heq
        exact List.pairwise_cons.2 ⟨hr.1, hr.2⟩
      · next hlt heq =>
        refine List.pairwise_cons.2 ⟨?_, ih hr.2⟩
        intro e he
        rcases mem_put he with rfl | he
        · show n < name
          rcases Std.lt_trichotomy n name with h' | h' | h'
          · exact h'
          · exact absurd h'.symm heq
          · exact absurd h' hlt
        · exact hr.1 e he

/-- The map with a name bound anew. -/
def insert (m : NameMap α) (name : String) (a : α) : NameMap α :=
  ⟨put name a m.entries, rising_put m.rising⟩

/-- The map without a name. -/
def erase (m : NameMap α) (name : String) : NameMap α :=
  ⟨m.entries.filter fun e => e.1 ≠ name, m.rising.filter _⟩

/-- What a name is bound to. -/
def get? (m : NameMap α) (name : String) : Option α :=
  (m.entries.find? fun e => e.1 = name).map (·.2)

def size (m : NameMap α) : Nat := m.entries.length

def names (m : NameMap α) : List String := m.entries.map (·.1)

/-- The map with every bound thing changed. -/
def map (f : String → α → β) (m : NameMap α) : NameMap β :=
  ⟨m.entries.map fun e => (e.1, f e.1 e.2), by
    unfold Rising
    rw [List.pairwise_map]
    exact m.rising⟩

/-- The map of a list of entries, the last one of a name staying. -/
def ofList (entries : List (String × α)) : NameMap α :=
  entries.foldl (fun m e => m.insert e.1 e.2) empty

theorem find?_put_self (name : String) (a : α) (entries : List (String × α)) :
    (put name a entries).find? (fun e => e.1 = name) = some (name, a) := by
  induction entries with
  | nil => simp [put]
  | cons e rest ih =>
    obtain ⟨n, b⟩ := e
    unfold put
    split
    · simp
    · split
      · simp
      · next hne =>
        rw [List.find?_cons_of_neg (by simpa using fun h => hne h.symm)]
        exact ih

theorem find?_put_of_ne {name other : String} (h : other ≠ name) (a : α)
    (entries : List (String × α)) :
    (put name a entries).find? (fun e => e.1 = other) = entries.find? (fun e => e.1 = other) := by
  induction entries with
  | nil => simp [put, h.symm]
  | cons e rest ih =>
    obtain ⟨n, b⟩ := e
    unfold put
    split
    · rw [List.find?_cons_of_neg (by simpa using h.symm)]
    · split
      · next heq =>
        subst heq
        rw [List.find?_cons_of_neg (by simpa using h.symm),
          List.find?_cons_of_neg (by simpa using h.symm)]
      · by_cases hn : n = other
        · rw [List.find?_cons_of_pos (by simpa using hn),
        List.find?_cons_of_pos (by simpa using hn)]
        · rw [List.find?_cons_of_neg (by simpa using hn),
        List.find?_cons_of_neg (by simpa using hn), ih]

@[simp] theorem get?_empty (name : String) : (empty : NameMap α).get? name = none := rfl

@[simp] theorem get?_insert_self (m : NameMap α) (name : String) (a : α) :
    (m.insert name a).get? name = some a := by
  simp [get?, insert, find?_put_self]

theorem get?_insert_of_ne {name other : String} (h : other ≠ name) (m : NameMap α) (a : α) :
    (m.insert name a).get? other = m.get? other := by
  simp [get?, insert, find?_put_of_ne h]

@[simp] theorem get?_erase_self (m : NameMap α) (name : String) :
    (m.erase name).get? name = none := by
  simp [get?, erase, List.find?_filter]

theorem get?_erase_of_ne {name other : String} (h : other ≠ name) (m : NameMap α) :
    (m.erase name).get? other = m.get? other := by
  simp only [get?, erase, List.find?_filter]
  congr 2
  funext e
  by_cases he : e.1 = other <;> simp [he, h]

end NameMap

end CallGuard
