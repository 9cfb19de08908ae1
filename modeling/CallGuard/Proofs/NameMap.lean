import CallGuard.NameMap
import CallGuard.Proofs.Text.ByteOrder
import Mathlib.Data.List.Sort

/-! What is in a map from names: an entry is there just if its name is bound to it, and the names
rise in the order of their bytes. `filter_flatMap` singles out what one entry contributes. -/

namespace CallGuard.NameMap

variable {α β : Type}

theorem find?_of_mem {entries : List (String × α)} (hr : Rising entries) {e : String × α}
    (he : e ∈ entries) : entries.find? (fun e' => e'.1 = e.1) = some e := by
  induction entries with
  | nil => cases he
  | cons first rest ih =>
    obtain ⟨hfirst, hrest⟩ := List.pairwise_cons.1 hr
    rcases List.mem_cons.1 he with rfl | he
    · simp
    · have hne : first.1 ≠ e.1 := String.ne_of_lt (hfirst e he)
      rw [List.find?_cons_of_neg (by simpa using hne)]
      exact ih hrest he

theorem mem_entries_iff {m : NameMap α} {name : String} {a : α} :
    (name, a) ∈ m.entries ↔ m.get? name = some a := by
  constructor
  · intro h
    simp [get?, find?_of_mem m.rising h]
  · intro h
    obtain ⟨e, he, rfl⟩ := Option.map_eq_some_iff.1 h
    have hname : e.1 = name := by simpa using List.find?_some he
    exact hname ▸ List.mem_of_find?_eq_some he

theorem mem_names_iff {m : NameMap α} {name : String} :
    name ∈ m.names ↔ (m.get? name).isSome := by
  simp only [names, List.mem_map, Option.isSome_iff_exists, ← mem_entries_iff]
  constructor
  · rintro ⟨e, he, rfl⟩
    exact ⟨e.2, he⟩
  · rintro ⟨a, ha⟩
    exact ⟨_, ha, rfl⟩

/-- Maps that bind each name to the same are the same. -/
theorem ext_get? {m n : NameMap α} (h : ∀ name, m.get? name = n.get? name) : m = n := by
  have irrefl : Std.Irrefl fun a b : String × α => a.1 < b.1 := ⟨fun a => String.lt_irrefl a.1⟩
  have antisymm : Std.Antisymm fun a b : String × α => a.1 < b.1 :=
    ⟨fun a b hab hba => absurd (String.lt_trans hab hba) (String.lt_irrefl a.1)⟩
  refine ext_entries (m.rising.eq_of_mem_iff n.rising fun e => ?_)
  rw [mem_entries_iff, mem_entries_iff, h]

/-- The names come in the order of their bytes. -/
theorem pairwise_bytes_names (m : NameMap α) :
    m.names.Pairwise fun a b => Text.bytes a < Text.bytes b := by
  rw [names, List.pairwise_map]
  exact m.rising.imp fun h => (Text.lt_iff_bytes_lt _ _).1 h

/-- A name that comes after all others is put at the end. -/
theorem put_last {name : String} {entries : List (String × α)} (h : ∀ e ∈ entries, e.1 < name)
    (a : α) : put name a entries = entries ++ [(name, a)] := by
  induction entries with
  | nil => rfl
  | cons e entries ih =>
    obtain ⟨he, hentries⟩ := List.forall_mem_cons.1 h
    have hlt : ¬name < e.1 := fun h => String.lt_irrefl _ (String.lt_trans h he)
    have hne : name ≠ e.1 := (String.ne_of_lt he).symm
    simp [put, hlt, hne, ih hentries]

theorem get?_map (f : String → α → β) (m : NameMap α) (name : String) :
    (m.map f).get? name = (m.get? name).map (f name) := by
  obtain ⟨entries, hr⟩ := m
  simp only [get?, map]
  induction entries with
  | nil => rfl
  | cons e rest ih =>
    by_cases he : e.1 = name
    · subst he; simp
    · simpa [he] using ih (List.pairwise_cons.1 hr).2

/-- Of what the entries contribute, what passes a test that only one entry's can pass. -/
theorem filter_flatMap (m : NameMap α) (f : String × α → List β) (p : β → Bool) (name : String)
    (hp : ∀ e ∈ m.entries, ∀ b ∈ f e, (p b = true ↔ e.1 = name)) :
    (m.entries.flatMap f).filter p = (m.get? name).toList.flatMap fun a => f (name, a) := by
  obtain ⟨entries, hr⟩ := m
  have others {entries : List (String × α)} (hn : ∀ e ∈ entries, e.1 ≠ name)
      (hp : ∀ e ∈ entries, ∀ b ∈ f e, (p b = true ↔ e.1 = name)) :
      (entries.flatMap f).filter p = [] := by
    rw [List.filter_eq_nil_iff]
    intro b hb
    obtain ⟨e, he, hb⟩ := List.mem_flatMap.1 hb
    rw [hp e he b hb]
    exact hn e he
  simp only [get?] at hp ⊢
  induction entries with
  | nil => rfl
  | cons e rest ih =>
    obtain ⟨hfirst, hrest⟩ := List.pairwise_cons.1 hr
    have hpr : ∀ e ∈ rest, ∀ b ∈ f e, (p b = true ↔ e.1 = name) :=
      fun e' he' => hp e' (List.mem_cons_of_mem _ he')
    rw [List.flatMap_cons, List.filter_append]
    by_cases he : e.1 = name
    · subst he
      have hall : (f e).filter p = f e :=
        List.filter_eq_self.2 fun b hb => (hp e List.mem_cons_self b hb).2 rfl
      rw [hall, others (fun e' he' => (String.ne_of_lt (hfirst e' he')).symm) hpr]
      simp
    · have hnone : (f e).filter p = [] :=
        List.filter_eq_nil_iff.2 fun b hb => by rw [hp e List.mem_cons_self b hb]; exact he
      rw [hnone, List.nil_append, ih hrest hpr]
      simp [he]

end CallGuard.NameMap
