import CallGuard.Context.Tree
import CallGuard.Proofs.Context.Scope
import Mathlib.Logic.Function.Basic

/-! Where contexts come from. A history is a list of what their holders did, the latest first, and
the pedigree of a context is the births of itself and of all it is derived from, each with the
deadline asked for. So one context is derived from another just if its pedigree ends in that of
the other (`Forest.suffix_iff`). The tokens and the deadline that a context holds are read off its
pedigree, and the cancellations are the calls of the history (`shows_after`). -/

namespace CallGuard.Contexts

/-- The contexts after a history. -/
def after : List Op → Contexts
  | [] => {}
  | op :: earlier => ((after earlier).step op).1

/-! ### Pedigrees -/

/-- How a context came about: how many were made before, and the deadline asked for, if any. -/
structure Birth where
  place : Nat
  asked : Option Instant
deriving DecidableEq

/-- The birth of a context, and those of all it is derived from, the root's last. -/
abbrev Pedigree := List Birth

/-- The earliest of the deadlines asked for. -/
def due (p : Pedigree) : Option Instant := (p.filterMap Birth.asked).min?

/-- The contexts made so far, the latest first, and those that have a name. -/
structure Family where
  made : List Pedigree
  named : String → Option Pedigree

namespace Family

/-- A context gets a name, in place of any that had it. -/
def call (f : Family) (name : String) (p : Pedigree) : Family :=
  { f with named := Function.update f.named name (some p) }

/-- A context is derived from those of a pedigree and gets a name. -/
def bear (f : Family) (name : String) (asked : Option Instant) (parents : Pedigree) : Family :=
  let p := ⟨f.made.length, asked⟩ :: parents
  { f with made := p :: f.made }.call name p

/-- What comes of an operation at an instant. -/
def next (f : Family) (now : Instant) : Op → Family
  | .background name => f.bear name none []
  | .copy source name => (f.named source).elim f (f.call name)
  | .child source name => (f.named source).elim f (f.bear name none)
  | .timeout source name d =>
    (f.named source).elim f fun p =>
      (Instant.after? now d).elim f fun t => f.bear name (some t) p
  | .deadline source name t => (f.named source).elim f (f.bear name (some t))
  | .cancel _ | .advance _ | .done _ _ | .doneWhile _ _ _ _ => f

end Family

/-- The family after a history. -/
def family : List Op → Family
  | [] => ⟨[], fun _ => none⟩
  | op :: earlier => (family earlier).next (after earlier).now op

/-! ### Calls -/

/-- The context to be cancelled in an operation, and when. A call that is to come during a wait
is not made if the wait is over before. -/
def call? (s : Contexts) : Op → Option (String × Instant)
  | .cancel name => some (name, s.now)
  | .doneWhile source within other wait =>
    let t := Instant.sleepEnd s.now wait
    if (s.named.get? source).isSome ∧ t ≤ (s.step (.doneWhile source within other wait)).1.now then
      some (other, t)
    else none
  | _ => none

/-- The contexts that were cancelled in an operation. -/
def callsOf (s : Contexts) (f : Family) (op : Op) : List (Pedigree × Instant) :=
  ((s.call? op).bind fun c => (f.named c.1).map (·, c.2)).toList

/-- The contexts that cancel was called on in a history, and when. -/
def calls : List Op → List (Pedigree × Instant)
  | [] => []
  | op :: earlier => callsOf (after earlier) (family earlier) op ++ calls earlier

/-! ### Forests -/

/-- The pedigrees of contexts made one after the other, each a root or derived from one made
before it. -/
inductive Forest : List Pedigree → Prop
  | nil : Forest []
  | bear {made : List Pedigree} {parents : Pedigree} (asked : Option Instant)
      (earlier : Forest made) (known : parents = [] ∨ parents ∈ made) :
      Forest ((⟨made.length, asked⟩ :: parents) :: made)

namespace Forest

variable {made : List Pedigree} {p q : Pedigree} {b : Birth}

theorem place_lt (h : Forest made) (hp : p ∈ made) (hb : b ∈ p) : b.place < made.length := by
  induction h generalizing p with
  | nil => cases hp
  | @bear made parents asked _ known ih =>
    rw [List.length_cons]
    rcases List.mem_cons.1 hp with rfl | hp
    · rcases List.mem_cons.1 hb with rfl | hb
      · exact Nat.lt_succ_self _
      · rcases known with rfl | known
        · cases hb
        · exact Nat.lt_succ_of_lt (ih known hb)
    · exact Nat.lt_succ_of_lt (ih hp hb)

/-- What a context is derived from has been made too. -/
theorem mem_of_suffix (h : Forest made) (hp : p ∈ made) (hq : b :: q <:+ p) : b :: q ∈ made := by
  induction h generalizing p with
  | nil => cases hp
  | bear asked _ known ih =>
    rcases List.mem_cons.1 hp with rfl | hp
    · rcases List.suffix_cons_iff.1 hq with heq | hq
      · exact heq ▸ List.mem_cons_self
      · rcases known with rfl | known
        · cases List.suffix_nil.1 hq
        · exact List.mem_cons_of_mem _ (ih known hq)
    · exact List.mem_cons_of_mem _ (ih hp hq)

/-- No two contexts are made at the same place. -/
theorem eq_of_place (h : Forest made) {b' : Birth} (hp : b :: p ∈ made) (hq : b' :: q ∈ made)
    (hplace : b.place = b'.place) : b :: p = b' :: q := by
  induction h with
  | nil => cases hp
  | bear asked earlier known ih =>
    rcases List.mem_cons.1 hp with newP | oldP <;> rcases List.mem_cons.1 hq with newQ | oldQ
    · exact newP.trans newQ.symm
    · have hlt := earlier.place_lt oldQ List.mem_cons_self
      rw [← hplace, (List.cons.inj newP).1] at hlt
      exact absurd hlt (Nat.lt_irrefl _)
    · have hlt := earlier.place_lt oldP List.mem_cons_self
      rw [hplace, (List.cons.inj newQ).1] at hlt
      exact absurd hlt (Nat.lt_irrefl _)
    · exact ih oldP oldQ

/-- A context is derived from another, or is it, just if the other's birth is one of its own
pedigree. -/
theorem suffix_iff (h : Forest made) (hp : b :: p ∈ made) (hq : q ∈ made) :
    b :: p <:+ q ↔ b.place ∈ q.map Birth.place := by
  constructor
  · intro hs
    exact List.mem_map_of_mem (hs.subset List.mem_cons_self)
  · intro hb
    obtain ⟨b', hb', hplace⟩ := List.mem_map.1 hb
    obtain ⟨younger, older, rfl⟩ := List.append_of_mem hb'
    have hs : b' :: older <:+ younger ++ b' :: older := List.suffix_append _ _
    rw [h.eq_of_place hp (h.mem_of_suffix hq hs) hplace.symm]
    exact hs

theorem exists_cons (h : Forest made) (hp : p ∈ made) : ∃ b older, p = b :: older := by
  induction h with
  | nil => cases hp
  | bear asked _ known ih =>
    rcases List.mem_cons.1 hp with rfl | hp
    · exact ⟨_, _, rfl⟩
    · exact ih hp

end Forest

/-! ### Families -/

/-- The contexts of a family are made one after the other, and those with a name are among them. -/
structure Family.Grown (f : Family) : Prop where
  forest : Forest f.made
  mem_of_named : ∀ name p, f.named name = some p → p ∈ f.made

namespace Family

variable {f : Family} {p : Pedigree}

theorem Grown.call (h : f.Grown) (name : String) (hp : p ∈ f.made) : (f.call name p).Grown where
  forest := h.forest
  mem_of_named other q hq := by
    change Function.update f.named name (some p) other = some q at hq
    by_cases ho : other = name
    · subst ho
      rw [Function.update_self] at hq
      cases hq
      exact hp
    · rw [Function.update_of_ne ho] at hq
      exact h.mem_of_named other q hq

theorem Grown.bear (h : f.Grown) (name : String) (asked : Option Instant)
    (hp : p = [] ∨ p ∈ f.made) : (f.bear name asked p).Grown := by
  have born : ({ f with made := (⟨f.made.length, asked⟩ :: p) :: f.made } : Family).Grown :=
    { forest := .bear asked h.forest hp
      mem_of_named := fun other q hq => List.mem_cons_of_mem _ (h.mem_of_named other q hq) }
  exact born.call name List.mem_cons_self

/-- An operation leaves a family as it is, or a context of it gets one more name, or one is
derived from a context that has a name, or from none. -/
theorem next_cases {motive : Family → Prop} (now : Instant) (op : Op) (same : motive f)
    (call : ∀ source name p, f.named source = some p → motive (f.call name p))
    (bear : ∀ name asked p, (p = [] ∨ ∃ source, f.named source = some p) →
      motive (f.bear name asked p)) : motive (f.next now op) := by
  have elim (source : String) (g : Pedigree → Family)
      (hg : ∀ p, f.named source = some p → motive (g p)) :
      motive ((f.named source).elim f g) := by
    cases hs : f.named source with
    | none => exact same
    | some p => exact hg p hs
  have derived (name source : String) (asked : Option Instant) :
      motive ((f.named source).elim f (f.bear name asked)) :=
    elim source _ fun p hp => bear name asked p (.inr ⟨source, hp⟩)
  cases op with
  | background name => exact bear name none [] (.inl rfl)
  | copy source name => exact elim source _ (call source name)
  | child source name => exact derived name source none
  | timeout source name d =>
    refine elim source _ fun p hp => ?_
    cases Instant.after? now d with
    | none => exact same
    | some t => exact bear name (some t) p (.inr ⟨source, hp⟩)
  | deadline source name t => exact derived name source (some t)
  | cancel | advance | done | doneWhile => exact same

theorem Grown.next (h : f.Grown) (now : Instant) (op : Op) : (f.next now op).Grown := by
  refine next_cases now op h (fun source name p hp => h.call name (h.mem_of_named source p hp)) ?_
  rintro name asked p (root | ⟨source, hp⟩)
  · exact h.bear name asked (.inl root)
  · exact h.bear name asked (.inr (h.mem_of_named source p hp))

/-- A family never loses a context. -/
theorem made_suffix_next (f : Family) (now : Instant) (op : Op) :
    f.made <:+ (f.next now op).made :=
  next_cases (motive := (f.made <:+ Family.made ·)) now op (List.suffix_refl _)
    (fun _ _ _ _ => List.suffix_refl _) fun _ _ _ _ => List.suffix_cons _ _

end Family

theorem grown_family (h : List Op) : (family h).Grown := by
  induction h with
  | nil => exact ⟨.nil, fun _ _ h => by cases h⟩
  | cons op earlier ih => exact ih.next (after earlier).now op

/-! ### Waits -/

/-- When one who waits for the end of a scope, for a time at most, goes on, and what he gets. -/
def awaited (c : Scope) (now : Instant) (within : Duration) : Instant × Reply :=
  let limit := Instant.sleepEnd now within
  match c.ending? now with
  | some (t, e) => if t ≤ limit then (t, .ended e) else (limit, .pending)
  | none => (limit, .pending)

/-- A wait passes the time and does nothing else. -/
theorem await_eq (s : Contexts) (c : Context) (within : Duration) :
    s.await c within =
      ({ s with now := (awaited (c.scope s.cancellations) s.now within).1 },
        (awaited (c.scope s.cancellations) s.now within).2) := by
  unfold await awaited
  cases (c.scope s.cancellations).ending? s.now with
  | none => rfl
  | some r =>
    dsimp only
    split <;> rfl

section
variable {s : Contexts} {source other : String} {c o : Context}

theorem step_done (hsource : s.named.get? source = some c) (within : Duration) :
    s.step (.done source within) = s.await c within := by
  rw [step, withContext, hsource]

/-- What comes of a wait in the course of which a context is to be cancelled. The call is made
unless the wait is over before. -/
theorem step_doneWhile (hsource : s.named.get? source = some c)
    (hother : s.named.get? other = some o) (within wait : Duration)
    {t : Instant} (ht : t = Instant.sleepEnd s.now wait) {r : Instant × Reply}
    (hr : r = awaited (c.scope (o.cancel s.cancellations t)) s.now within) :
    s.step (.doneWhile source within other wait) =
      ({ s with
          now := r.1
          cancellations := if t ≤ r.1 then o.cancel s.cancellations t else s.cancellations },
        r.2) := by
  subst ht hr
  simp only [step, withContext, hsource, hother, await_eq]
  split <;> rfl

end

/-! ### What the contexts show of the family -/

/-- The context of a pedigree. -/
def contextOf (p : Pedigree) : Context := ⟨p.map Birth.place, due p⟩

/-- What calling cancel at an instant on the context of a pedigree leaves. -/
def marks (c : Pedigree × Instant) : List (Nat × Instant) :=
  ((contextOf c.1).lineage.take 1).map (·, c.2)

/-- Contexts show a family and the calls of cancel: each name has the context of its pedigree, as
many tokens are given out as contexts made, and the cancellations are those of the calls. -/
structure Shows (f : Family) (cs : List (Pedigree × Instant)) (s : Contexts) : Prop where
  named : ∀ name, s.named.get? name = (f.named name).map contextOf
  issued : s.cancellations.issued = f.made.length
  instants : s.cancellations.instants = cs.flatMap marks

/-- A context keeps the deadline of its parent if the one asked for is later. -/
theorem due_cons (b : Birth) (p : Pedigree) : due (b :: p) = Scope.earlier (due p) b.asked := by
  obtain ⟨place, asked⟩ := b
  cases asked with
  | none =>
    change due p = Scope.earlier (due p) none
    cases due p <;> rfl
  | some t =>
    simp only [due, List.filterMap_cons, List.min?_cons]
    cases (p.filterMap Birth.asked).min? with
    | none => rfl
    | some u => exact congrArg some (Nat.min_comm t u)

namespace Shows

variable {f : Family} {cs : List (Pedigree × Instant)} {s : Contexts}

/-- Contexts show the same family at another time. -/
theorem at_now (h : Shows f cs s) (t : Instant) : Shows f cs { s with now := t } :=
  ⟨h.named, h.issued, h.instants⟩

theorem put (h : Shows f cs s) (name : String) (p : Pedigree) :
    Shows (f.call name p) cs (s.put name (contextOf p, s.cancellations)).1 where
  named other := by
    change (s.named.insert name (contextOf p)).get? other =
      (Function.update f.named name (some p) other).map contextOf
    by_cases ho : other = name
    · subst ho
      rw [NameMap.get?_insert_self, Function.update_self]
      rfl
    · rw [NameMap.get?_insert_of_ne ho, Function.update_of_ne ho]
      exact h.named other
  issued := h.issued
  instants := h.instants

theorem derive (h : Shows f cs s) (name : String) (asked : Option Instant) (p : Pedigree) :
    Shows (f.bear name asked p) cs (s.put name
      (Context.derive s.cancellations (p.map Birth.place) (Scope.earlier (due p) asked))).1 := by
  have born : Shows { f with made := (⟨f.made.length, asked⟩ :: p) :: f.made } cs
      { s with cancellations := { s.cancellations with issued := s.cancellations.issued + 1 } } :=
    { named := h.named
      issued := congrArg (· + 1) h.issued
      instants := h.instants }
  have hput := born.put name (⟨f.made.length, asked⟩ :: p)
  rw [contextOf, due_cons, List.map_cons, ← h.issued] at hput
  rw [Family.bear, ← h.issued]
  exact hput

/-- The holder of a context finds it by its pedigree. -/
theorem withContext (h : Shows f cs s) (source : String) {a : Context → Contexts × Reply}
    {g : Pedigree → Family} (ha : ∀ p, Shows (g p) cs (a (contextOf p)).1) :
    Shows ((f.named source).elim f g) cs (s.withContext source a).1 := by
  rw [Contexts.withContext, h.named source]
  cases f.named source with
  | none => exact h
  | some p => exact ha p

/-- A call of cancel on the context of a pedigree. -/
theorem cancel (h : Shows f cs s) (p : Pedigree) (t : Instant) :
    Shows f ((p, t) :: cs)
      { s with cancellations := (contextOf p).cancel s.cancellations t } where
  named := h.named
  issued := h.issued
  instants := congrArg (marks (p, t) ++ ·) h.instants

theorem await (h : Shows f cs s) (c : Context) (within : Duration) :
    Shows f cs (s.await c within).1 := by
  rw [await_eq]
  exact h.at_now _

theorem doneWhile (h : Shows f cs s) (source : String) (within : Duration) (other : String)
    (wait : Duration) : Shows f (callsOf s f (.doneWhile source within other wait) ++ cs)
      (s.step (.doneWhile source within other wait)).1 := by
  have hsource := h.named source
  have hother := h.named other
  cases ho : f.named other with
  | none =>
    rw [ho] at hother
    have hcalls : callsOf s f (.doneWhile source within other wait) = [] := by
      rw [callsOf, call?]
      split <;> simp [ho]
    rw [hcalls, step, Contexts.withContext, hsource]
    cases f.named source with
    | none => exact h
    | some p => simpa [Contexts.withContext, hother] using h
  | some q =>
    rw [ho] at hother
    cases hs : f.named source with
    | none =>
      rw [hs] at hsource
      simpa [callsOf, call?, step, Contexts.withContext, hsource] using h
    | some p =>
      rw [hs] at hsource
      rw [callsOf, call?, step_doneWhile hsource hother within wait rfl rfl]
      generalize awaited _ s.now within = r
      by_cases hcall : Instant.sleepEnd s.now wait ≤ r.1
      · simpa [hsource, ho, hcall] using (h.cancel q (Instant.sleepEnd s.now wait)).at_now r.1
      · simpa [hsource, ho, hcall] using h.at_now r.1

/-- An operation does to contexts what it does to their family. -/
theorem next (h : Shows f cs s) (op : Op) :
    Shows (f.next s.now op) (callsOf s f op ++ cs) (s.step op).1 := by
  cases op with
  | background name => exact h.derive name none []
  | copy source name => exact h.withContext source fun p => h.put name p
  | child source name =>
    refine h.withContext source fun p => ?_
    have hp := h.derive name none p
    rw [Scope.earlier_none] at hp
    exact hp
  | timeout source name d =>
    refine h.withContext source fun p => ?_
    rw [Context.withTimeout?]
    cases Instant.after? s.now d with
    | none => exact h
    | some t => exact h.derive name (some t) p
  | deadline source name t => exact h.withContext source fun p => h.derive name (some t) p
  | advance d => exact h.at_now _
  | done source within =>
    rw [step, Contexts.withContext, h.named source]
    cases f.named source with
    | none => exact h
    | some p => exact h.await (contextOf p) within
  | cancel source =>
    rw [step, Contexts.withContext, h.named source]
    cases hs : f.named source with
    | none => simpa [Family.next, callsOf, call?, hs] using h
    | some p => simpa [Family.next, callsOf, call?, hs] using h.cancel p s.now
  | doneWhile source within other wait => exact h.doneWhile source within other wait

end Shows

theorem shows_after (h : List Op) : Shows (family h) (calls h) (after h) := by
  induction h with
  | nil => exact ⟨fun _ => rfl, rfl, rfl⟩
  | cons op earlier ih => exact ih.next op

end CallGuard.Contexts
