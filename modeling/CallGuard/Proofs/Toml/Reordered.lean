import CallGuard.Proofs.Toml.Keys
import Mathlib.Data.List.Forall2
import Mathlib.Logic.Relation

/-! Documents in another order. The entries of a table can be put in another order, however deep
the table is, and so can the tables of a list. Every key is still there once, and under each key
there is what was there, perhaps itself in another order (`Value.Reordered.rel_lookup`); only
a list can have a table in place of another (`Value.Alike`). -/

namespace CallGuard.Toml

/-- One change of the order of a value. -/
inductive Value.Reordered : Value → Value → Prop
  | entries {es es' : Entries} (perm : es.Perm es') : Reordered (.table es) (.table es')
  | tables {before between after : List Value} {es es' : Entries} :
      Reordered (.array (before ++ .table es :: (between ++ .table es' :: after)))
        (.array (before ++ .table es' :: (between ++ .table es :: after)))
  | entry {before after : Entries} {key : String} {v v' : Value} (inside : Reordered v v') :
      Reordered (.table (before ++ (key, v) :: after)) (.table (before ++ (key, v') :: after))
  | item {before after : List Value} {v v' : Value} (inside : Reordered v v') :
      Reordered (.array (before ++ v :: after)) (.array (before ++ v' :: after))

/-- Whether a value is made of others. -/
def Value.nests : Value → Bool
  | .array _ | .table _ => true
  | _ => false

/-- Values that are the same, or both are made of others. -/
def Value.Alike (v v' : Value) : Prop := v = v' ∨ (v.nests = true ∧ v'.nests = true)

/-- The entries that a value gives to a structure with certain keys. A list has the values of the
first keys, and a date has none. -/
def Value.entries? (keys : List String) : Value → Option Entries
  | .table entries => some entries
  | .array items => some (keys.zip items)
  | .datetime _ => some []
  | _ => none

variable {key : String} {v v' : Value} {entries entries' : Entries} {items items' : List Value}
  {α : Type} {R : α → α → Prop}

/-! ### Lists that differ at some places -/

theorem forall₂_refl (hr : ∀ a, R a a) (l : List α) : List.Forall₂ R l l :=
  List.forall₂_same.2 fun a _ => hr a

theorem forall₂_middle (hr : ∀ a, R a a) {a a' : α} (h : R a a') (before : List α)
    {after after' : List α} (hafter : List.Forall₂ R after after') :
    List.Forall₂ R (before ++ a :: after) (before ++ a' :: after') :=
  List.rel_append (forall₂_refl hr before) (.cons h hafter)

/-- What is put in the place of another may be anything that the others are. -/
theorem forall_mem_middle {p : α → Prop} {before after : List α} {a a' : α}
    (h : ∀ b ∈ before ++ a :: after, p b) (ha' : p a') : ∀ b ∈ before ++ a' :: after, p b := by
  rw [List.forall_mem_append, List.forall_mem_cons] at h ⊢
  exact ⟨h.1, ha', h.2.2⟩

theorem rel_mono {β : Type} {R S : α → β → Prop} (h : ∀ a b, R a b → S a b) {o : Option α}
    {o' : Option β} (ho : Option.Rel R o o') : Option.Rel S o o' := by
  cases ho with
  | none => exact .none
  | some hr => exact .some (h _ _ hr)

/-- What is found under a key is related if all entries are. -/
theorem rel_lookup {R : Value → Value → Prop}
    (h : List.Forall₂ (fun e e' : String × Value => e.1 = e'.1 ∧ R e.2 e'.2) entries entries')
    (key : String) : Option.Rel R (entries.lookup key) (entries'.lookup key) := by
  induction h with
  | nil => exact .none
  | @cons e e' _ _ he _ ih =>
    by_cases hk : key = e.1
    · rw [lookup_cons_of_eq hk, lookup_cons_of_eq (hk.trans he.1)]
      exact .some he.2
    · rwa [lookup_cons_of_ne hk, lookup_cons_of_ne (he.1 ▸ hk)]

theorem rel_lookup_zip {R : Value → Value → Prop} (h : List.Forall₂ R items items')
    (keys : List String) (key : String) :
    Option.Rel R ((keys.zip items).lookup key) ((keys.zip items').lookup key) := by
  refine rel_lookup ?_ key
  induction h generalizing keys with
  | nil =>
    rw [List.zip_nil_right]
    exact .nil
  | cons hv _ ih =>
    cases keys with
    | nil => exact .nil
    | cons k keys => exact .cons ⟨rfl, hv⟩ (ih keys)

/-! ### Keys -/

/-- Of entries with a key each, one is found just if it is there. -/
theorem lookup_eq_some_iff (hn : (entries.map Prod.fst).Nodup) :
    entries.lookup key = some v ↔ (key, v) ∈ entries := by
  induction entries with
  | nil => simp
  | cons e entries ih =>
    obtain ⟨hnew, hn⟩ := List.nodup_cons.1 hn
    by_cases hk : key = e.1
    · subst hk
      have hnot : (e.1, v) ∉ entries := fun hm => hnew (List.mem_map.2 ⟨(e.1, v), hm, rfl⟩)
      rw [lookup_cons_of_eq rfl, List.mem_cons, or_iff_left hnot]
      constructor
      · rintro ⟨⟩
        rfl
      · exact fun h => congrArg (fun e => some e.2) h.symm
    · rw [lookup_cons_of_ne hk, ih hn, List.mem_cons, or_iff_right fun h => hk (congrArg (·.1) h)]

theorem lookup_eq_of_perm (hn : (entries.map Prod.fst).Nodup) (hp : entries.Perm entries')
    (key : String) : entries.lookup key = entries'.lookup key := by
  apply Option.ext
  intro v
  rw [lookup_eq_some_iff hn, lookup_eq_some_iff ((hp.map Prod.fst).nodup_iff.1 hn), hp.mem_iff]

namespace Value

theorem alike_refl (v : Value) : v.Alike v := .inl rfl

namespace Reordered

theorem symm (h : Reordered v v') : Reordered v' v := by
  induction h with
  | entries perm => exact .entries perm.symm
  | tables => exact .tables
  | entry _ ih => exact .entry ih
  | item _ ih => exact .item ih

theorem alike (h : Reordered v v') : v.Alike v' := by
  cases h <;> exact .inr ⟨rfl, rfl⟩

/-- The keys of a table are still there once. -/
theorem keyed (h : Reordered v v') (hv : v.Keyed) : v'.Keyed := by
  induction h with
  | entries perm =>
    cases hv with
    | table nodup inside =>
      exact .table ((perm.map Prod.fst).nodup_iff.1 nodup)
        fun e he => inside e (perm.mem_iff.2 he)
  | @tables before between after es es' =>
    cases hv with
    | array inside =>
      refine .array fun v hv => inside v ?_
      simp only [List.mem_append, List.mem_cons] at hv ⊢
      tauto
  | @entry before after key v v' _ ih =>
    cases hv with
    | table nodup inside =>
      have hv := ih (inside (key, v) (by simp))
      exact .table (by simpa using nodup) (forall_mem_middle inside hv)
  | @item before after v v' _ ih =>
    cases hv with
    | array inside =>
      have hv := ih (inside v (by simp))
      exact .array (forall_mem_middle inside hv)

theorem keyed_iff (h : Reordered v v') : v.Keyed ↔ v'.Keyed := ⟨h.keyed, h.symm.keyed⟩

/-- Under each key of a table there is what was there, or that in another order. -/
theorem rel_lookup (h : Reordered (.table entries) (.table entries'))
    (hn : (entries.map Prod.fst).Nodup) (key : String) :
    Option.Rel (Relation.ReflGen Reordered) (entries.lookup key) (entries'.lookup key) := by
  let SameKey (e e' : String × Value) : Prop := e.1 = e'.1 ∧ Relation.ReflGen Reordered e.2 e'.2
  have refl (e : String × Value) : SameKey e e := ⟨rfl, .refl⟩
  cases h with
  | entries perm =>
    rw [lookup_eq_of_perm hn perm]
    cases entries'.lookup key with
    | none => exact .none
    | some v => exact .some .refl
  | @entry before after k v v' inside =>
    have changed : SameKey (k, v) (k, v') := ⟨rfl, .single inside⟩
    exact Toml.rel_lookup (forall₂_middle refl changed before (forall₂_refl refl after)) key

/-- At each place of a list there is what was there, or both are made of others. -/
theorem forall₂_alike (h : Reordered (.array items) (.array items')) :
    List.Forall₂ Alike items items' := by
  cases h with
  | tables =>
    have table (es es' : Entries) : (Value.table es).Alike (.table es') := .inr ⟨rfl, rfl⟩
    exact forall₂_middle alike_refl (table _ _) _
      (forall₂_middle alike_refl (table _ _) _ (forall₂_refl alike_refl _))
  | item inside => exact forall₂_middle alike_refl inside.alike _ (forall₂_refl alike_refl _)

/-- A structure is given the same entries but for values that are made of others. -/
theorem entries?_alike (h : Reordered v v') (hv : v.Keyed) (keys : List String) :
    ∃ es es', v.entries? keys = some es ∧ v'.entries? keys = some es' ∧
      ∀ key, Option.Rel Alike (es.lookup key) (es'.lookup key) := by
  have tables {es es' : Entries} (h : Reordered (.table es) (.table es'))
      (hn : (es.map Prod.fst).Nodup) (key : String) :
      Option.Rel Alike (es.lookup key) (es'.lookup key) := by
    refine rel_mono (fun v v' h => ?_) (h.rel_lookup hn key)
    cases h with
    | refl => exact alike_refl v
    | single h => exact h.alike
  cases hv with
  | table nodup inside =>
    cases v' with
    | table => exact ⟨_, _, rfl, rfl, tables h nodup⟩
    | _ => cases h
  | array inside =>
    cases v' with
    | array => exact ⟨_, _, rfl, rfl, fun key => rel_lookup_zip h.forall₂_alike keys key⟩
    | _ => cases h
  | _ => cases h

end Reordered

end Value

end CallGuard.Toml
