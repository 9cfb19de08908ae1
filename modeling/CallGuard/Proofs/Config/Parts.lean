import CallGuard.Proofs.Config.RoundTrip
import CallGuard.Proofs.Toml.Reordered

/-! What a table makes of a structure with defaults. A structure has parts, each with a key; a part
is what the value of its key means, and the default if the table has none. The fields of a
structure are filled in one after the other as the table has them (`setEntries`); it comes to the
same, a table with each key once (`setEntries_eq_ok_iff`), and there is no other way to fill them
in. -/

namespace CallGuard

open Toml

/-- A part of a structure: its key in a table, what values stand for it, and how it is looked up and
changed in the structure. -/
structure Part (α : Type) where
  {β : Type}
  key : String
  means : Value → β → Prop
  get : α → β
  set : α → β → α

variable {α : Type} {parts : List (Part α)} {p : Part α} {d a b : α} {entries entries' : Entries}

/-- The part is what a table says, or else the default. -/
def Part.Holds (p : Part α) (d : α) (found : Option Value) (a : α) : Prop :=
  match found with
  | some v => p.means v (p.get a)
  | none => p.get a = p.get d

/-- A structure is what a table says, over defaults. -/
def Overlaid (parts : List (Part α)) (d : α) (entries : Entries) (a : α) : Prop :=
  ∀ p ∈ parts, p.Holds d (entries.lookup p.key) a

/-- A structure is what a value says, over defaults. -/
def Overlays (parts : List (Part α)) (d : α) (v : Value) (a : α) : Prop :=
  ∃ entries, v.entries? (parts.map Part.key) = some entries ∧ Overlaid parts d entries a

/-- Parts with keys of their own, none of which changes with another, and which make up the
whole. -/
structure Whole (parts : List (Part α)) : Prop where
  keys : (parts.map Part.key).Nodup
  get_set : ∀ p ∈ parts, ∀ a x, p.get (p.set a x) = x
  apart : ∀ p ∈ parts, ∀ q ∈ parts, p.key ≠ q.key → ∀ a x, q.get (p.set a x) = q.get a
  ext : ∀ a b, (∀ p ∈ parts, p.get a = p.get b) → a = b

/-- A field fills in a part with what its value means. -/
def Part.ReadBy (p : Part α) (f : Decode.Field α) : Prop :=
  ∃ read : Value → Decode.Result p.β, f = .of p.key read p.set ∧
    ∀ v, v.Keyed → ∀ x, read v = .ok x ↔ p.means v x

/-! ### One entry -/

theorem Part.holds_congr {d' : α} (h : p.get d = p.get d') (found : Option Value) (a : α) :
    p.Holds d found a ↔ p.Holds d' found a := by
  cases found with
  | none => simp only [Holds, h]
  | some v => exact Iff.rfl

/-- An entry of no part goes by. -/
theorem overlaid_cons_of_unknown {e : String × Value} (h : e.1 ∉ parts.map Part.key) :
    Overlaid parts d (e :: entries) a ↔ Overlaid parts d entries a := by
  refine forall₂_congr fun p hp => ?_
  rw [lookup_cons_of_ne fun he => h (he ▸ List.mem_map_of_mem hp)]

theorem Whole.eq_of_key (hw : Whole parts) {q : Part α} (hp : p ∈ parts) (hq : q ∈ parts)
    (h : p.key = q.key) : p = q := List.inj_on_of_nodup_map hw.keys hp hq h

/-- An entry of a part settles it, and the others are as the other entries say. -/
theorem Whole.overlaid_cons (hw : Whole parts) (hp : p ∈ parts) {e : String × Value}
    (hkey : p.key = e.1) (hnew : e.1 ∉ entries.map Prod.fst) :
    Overlaid parts a (e :: entries) b ↔
      ∃ x, p.means e.2 x ∧ Overlaid parts (p.set a x) entries b := by
  have found : (e :: entries).lookup p.key = some e.2 := lookup_cons_of_eq hkey
  have missing : entries.lookup p.key = none := lookup_eq_none_iff.2 (hkey ▸ hnew)
  have others {q : Part α} (hq : q ∈ parts) (hne : q.key ≠ p.key) (x : p.β) :
      q.Holds a ((e :: entries).lookup q.key) b ↔
        q.Holds (p.set a x) (entries.lookup q.key) b := by
    rw [lookup_cons_of_ne (hkey ▸ hne)]
    exact Part.holds_congr (hw.apart p hp q hq hne.symm a x).symm _ b
  constructor
  · intro h
    have hmeans := h p hp
    rw [found] at hmeans
    refine ⟨p.get b, hmeans, fun q hq => ?_⟩
    by_cases hk : q.key = p.key
    · obtain rfl := hw.eq_of_key hq hp hk
      rw [missing]
      exact (hw.get_set q hq a _).symm
    · exact (others hq hk _).1 (h q hq)
  · rintro ⟨x, hx, h⟩ q hq
    by_cases hk : q.key = p.key
    · obtain rfl := hw.eq_of_key hq hp hk
      have hget := h q hq
      rw [missing] at hget
      rw [found]
      show q.means e.2 (q.get b)
      rwa [show q.get b = x from hget.trans (hw.get_set q hq a x)]
    · exact (others hq hk x).2 (h q hq)

/-- Only what is found under the keys of the parts matters, and of that only what it means. -/
theorem overlaid_congr (h : ∀ p ∈ parts, Option.Rel (fun v v' => ∀ x, p.means v x ↔ p.means v' x)
      (entries.lookup p.key) (entries'.lookup p.key)) (d a : α) :
    Overlaid parts d entries a ↔ Overlaid parts d entries' a := by
  refine forall₂_congr fun p hp => ?_
  have hp := h p hp
  generalize entries.lookup p.key = found, entries'.lookup p.key = found' at hp ⊢
  cases hp with
  | none => exact Iff.rfl
  | some hv => exact hv (p.get a)

/-! ### All entries -/

namespace Decode

variable {fields : List (Field α)}

theorem bind_eq_ok_iff {β : Type} {r : Result α} {f : α → Result β} {b : β} :
    r.bind f = .ok b ↔ ∃ a, r = .ok a ∧ f a = .ok b := by
  cases r <;> simp [Except.bind]

theorem map_eq_ok_iff {β : Type} {r : Result α} {f : α → β} {b : β} :
    r.map f = .ok b ↔ ∃ a, r = .ok a ∧ f a = b := by
  cases r <;> simp [Except.map]

theorem keys_of_readBy (hf : List.Forall₂ Part.ReadBy parts fields) :
    fields.map Field.key = parts.map Part.key := by
  induction hf with
  | nil => rfl
  | cons h _ ih =>
    obtain ⟨read, rfl, -⟩ := h
    rw [List.map_cons, List.map_cons, ih]
    rfl

theorem exists_readBy (hf : List.Forall₂ Part.ReadBy parts fields) (hp : p ∈ parts) :
    ∃ f ∈ fields, p.ReadBy f := by
  induction hf with
  | nil => cases hp
  | cons h _ ih =>
    rcases List.mem_cons.1 hp with rfl | hp
    · exact ⟨_, List.mem_cons_self, h⟩
    · obtain ⟨f, hf, hread⟩ := ih hp
      exact ⟨f, List.mem_cons_of_mem _ hf, hread⟩

/-- To fill in the fields as a table has them is to lay the table over the defaults. -/
theorem setEntries_eq_ok_iff (hw : Whole parts) (hf : List.Forall₂ Part.ReadBy parts fields)
    (hn : (entries.map Prod.fst).Nodup) (hk : ∀ e ∈ entries, e.2.Keyed) (a b : α) :
    setEntries fields a entries = .ok b ↔ Overlaid parts a entries b := by
  have hkeys : (fields.map Field.key).Nodup := keys_of_readBy hf ▸ hw.keys
  -- the first entry is set, and the others overlay what comes of it
  induction entries generalizing a with
  | nil =>
    constructor
    · rintro ⟨⟩ p _
      rfl
    · intro h
      exact congrArg Except.ok (hw.ext a b fun p hp => (h p hp).symm)
  | cons e entries ih =>
    obtain ⟨hnew, hn⟩ := List.nodup_cons.1 hn
    obtain ⟨he, hk⟩ := List.forall_mem_cons.1 hk
    rw [setEntries_cons, bind_eq_ok_iff]
    by_cases hp : e.1 ∈ parts.map Part.key
    · obtain ⟨p, hp, hkey⟩ := List.mem_map.1 hp
      obtain ⟨f, hmem, read, rfl, hread⟩ := exists_readBy hf hp
      have hset (a : α) : setEntry fields a e = (read e.2).map (p.set a) := by
        have hfind := find?_field hkeys hmem
        rw [show (Field.of p.key read p.set).key = e.1 from hkey] at hfind
        rw [setEntry, hfind]
        rfl
      rw [hw.overlaid_cons hp hkey hnew, hset]
      constructor
      · rintro ⟨a', ha', h⟩
        obtain ⟨x, hx, rfl⟩ := map_eq_ok_iff.1 ha'
        exact ⟨x, (hread e.2 he x).1 hx, (ih hn hk _).1 h⟩
      · rintro ⟨x, hx, h⟩
        exact ⟨p.set a x, map_eq_ok_iff.2 ⟨x, (hread e.2 he x).2 hx, rfl⟩, (ih hn hk _).2 h⟩
    · have hset : setEntry fields a e = .ok a := by
        have hfind : fields.find? (fun f => f.key = e.1) = none := by
          rw [List.find?_eq_none]
          intro f hmem
          have hmem : f.key ∈ parts.map Part.key := keys_of_readBy hf ▸ List.mem_map_of_mem hmem
          have hne : f.key ≠ e.1 := fun h => hp (h ▸ hmem)
          simpa using hne
        rw [setEntry, hfind]
      rw [overlaid_cons_of_unknown hp, hset]
      refine Iff.trans ?_ (ih hn hk a)
      constructor
      · rintro ⟨_, ⟨⟩, h⟩
        exact h
      · exact fun h => ⟨a, rfl, h⟩

theorem map_fst_zip_sublist (keys : List String) (items : List Value) :
    ((keys.zip items).map Prod.fst).Sublist keys := by
  induction keys generalizing items with
  | nil => exact List.nil_sublist _
  | cons key keys ih =>
    cases items with
    | nil => exact List.nil_sublist _
    | cons v items => exact (ih items).cons_cons key

/-- A value is read as settings just if it says so. -/
theorem structureOf_eq_ok_iff (hw : Whole parts) (hf : List.Forall₂ Part.ReadBy parts fields)
    (name : String) {v : Value} (hv : v.Keyed) (d a : α) :
    structureOf name fields d v = .ok a ↔ Overlays parts d v a := by
  have one {entries : Entries} (he : v.entries? (parts.map Part.key) = some entries) :
      Overlaid parts d entries a ↔ Overlays parts d v a := by
    constructor
    · exact fun h => ⟨entries, he, h⟩
    · rintro ⟨entries', he', h⟩
      cases he.symm.trans he'
      exact h
  have hkeys := keys_of_readBy hf
  cases hv with
  | table nodup inside => exact (setEntries_eq_ok_iff hw hf nodup inside d a).trans (one rfl)
  | array inside =>
    have hnodup : (fields.map Field.key).Nodup := hkeys ▸ hw.keys
    rw [structureOf, setItems_eq_setEntries fun f hmem => find?_field hnodup hmem, ← one rfl, hkeys]
    refine setEntries_eq_ok_iff hw hf (hw.keys.sublist (map_fst_zip_sublist _ _)) ?_ d a
    exact fun e he => inside e.2 (List.of_mem_zip he).2
  | datetime text =>
    have hn : (([] : Entries).map Prod.fst).Nodup := List.nodup_nil
    exact (setEntries_eq_ok_iff hw hf hn (by simp) d a).trans (one rfl)
  | _ =>
    constructor
    · rintro ⟨⟩
    · rintro ⟨_, ⟨⟩, _⟩

end Decode

end CallGuard
