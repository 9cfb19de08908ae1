import CallGuard.Breaker.Registry
import CallGuard.Proofs.Breaker.Changes
import CallGuard.Proofs.NameMap
import Mathlib.Data.List.TakeWhile

/-! The breakers of a registry have nothing to do with each other. To the users of a name the
registry is one breaker, built with the settings of the name when it is first asked for, and
alone in the world: `share` picks out of everything that is done what is done to it, and one
reset for each time all are reset. `independent` says so of what is kept, answered and written
down. The step lemmas are `perform_present` and `perform_absent`. -/

namespace CallGuard

/-- A breaker with given settings that nobody has used yet. -/
def Breaker.Session.ofSettings (name : String) (s : BreakerSettings) : Breaker.Session where
  breaker := .ofSettings name s

namespace Registry

open Breaker

variable {ε α : Type}

/-- What the users of a registry do. An operation is one on the breaker of a name, which is made
if there is none. -/
inductive Use (ε α : Type)
  | obtain (name : String)
  | find (name : String)
  | operate (name : String) (op : Op ε α)
  | resetAll
  | states
  | size

/-- What they get. -/
inductive Given (ε α : Type)
  | session (s : Session)
  | found (s : Option Session)
  | reply (r : Reply ε α)
  | done
  | states (states : List (String × State))
  | size (n : Nat)

/-- What comes of a use: the registry after it, what its user gets, and what happened. -/
structure Outcome (ε α : Type) where
  registry : Registry
  given : Given ε α
  journal : Journal

def perform (r : Registry) (now : Instant) : Use ε α → Outcome ε α
  | .obtain name =>
    let (r, s, journal) := r.obtain now name
    ⟨r, .session s, journal⟩
  | .find name => ⟨r, .found (r.get? name), []⟩
  | .operate name op =>
    let (r, reply, journal) := r.step now name op
    ⟨r, .reply reply, journal⟩
  | .resetAll =>
    let (r, journal) := r.resetAll now
    ⟨r, .done, journal⟩
  | .states => ⟨r, .states r.states, []⟩
  | .size => ⟨r, .size r.size, []⟩

/-- The registry after uses at their instants, with everything that happened. -/
def run (r : Registry) : List (Instant × Use ε α) → Registry × Journal
  | [] => (r, [])
  | (now, use) :: uses =>
    let o := r.perform now use
    let (r, journal) := o.registry.run uses
    (r, o.journal ++ journal)

/-- Whether a use makes the breaker of a name, if there is none. -/
def Use.creates (name : String) : Use ε α → Bool
  | .obtain n | .operate n _ => n = name
  | _ => false

/-- What a use does to the breaker of a name. -/
def Use.own? (name : String) : Use ε α → Option (Op ε α)
  | .operate n op => if n = name then some op else none
  | .resetAll => some .reset
  | _ => none

/-- What uses do to the breaker of a name that is there. -/
def ownOps (name : String) (uses : List (Instant × Use ε α)) : List (Instant × Op ε α) :=
  uses.filterMap fun u => (u.2.own? name).map (u.1, ·)

/-- Whether the breaker of a name is made. -/
def created (name : String) (uses : List (Instant × Use ε α)) : Bool :=
  uses.any fun u => u.2.creates name

/-- What is done to the breaker of a name, from the use on that makes it. -/
def share (name : String) (uses : List (Instant × Use ε α)) : List (Instant × Op ε α) :=
  ownOps name (uses.dropWhile fun u => !u.2.creates name)

/-- The entries of a journal about the breaker of a name. -/
def about (name : String) (j : Journal) : Journal := j.filter fun e => e.signal.breaker? = some name

/-! ### One use -/

/-- The breaker that one who asks for it gets. -/
def current (r : Registry) (name : String) : Session := (r.get? name).getD (r.fresh name)

/-- The entry made with the breaker of a name. -/
def registration (r : Registry) (now : Instant) (name : String) : Journal :=
  if (r.get? name).isSome then [] else .stamp now [.registered name (r.settings name)]

variable {r : Registry} {name other : String} {now : Instant} {s : Session}

@[simp] theorem get?_put_self (r : Registry) (name : String) (s : Session) :
    (r.put name s).get? name = some s := NameMap.get?_insert_self ..

theorem get?_put_of_ne (h : other ≠ name) (r : Registry) (s : Session) :
    (r.put name s).get? other = r.get? other := NameMap.get?_insert_of_ne h ..

theorem obtain_snd (r : Registry) (now : Instant) (name : String) :
    (r.obtain now name).2 = (r.current name, r.registration now name) := by
  cases h : r.get? name <;> simp [obtain, current, registration, h]

theorem get?_obtain_self (r : Registry) (now : Instant) (name : String) :
    (r.obtain now name).1.get? name = some (r.current name) := by
  cases h : r.get? name <;> simp [obtain, current, h]

theorem get?_obtain_of_ne (h : other ≠ name) (r : Registry) (now : Instant) :
    (r.obtain now name).1.get? other = r.get? other := by
  cases hn : r.get? name <;> simp [obtain, hn, get?_put_of_ne h]

theorem get?_step_self (r : Registry) (now : Instant) (name : String) (op : Op ε α) :
    (r.step now name op).1.get? name = some ((r.current name).step now op).session := by
  simp [step, obtain_snd]

theorem get?_step_of_ne (h : other ≠ name) (r : Registry) (now : Instant) (op : Op ε α) :
    (r.step now name op).1.get? other = r.get? other := by
  simp [step, get?_put_of_ne h, get?_obtain_of_ne h]

theorem step_snd (r : Registry) (now : Instant) (name : String) (op : Op ε α) :
    (r.step now name op).2 = (((r.current name).step now op).reply,
      r.registration now name ++ ((r.current name).step now op).journal) := by
  simp [step, obtain_snd]

theorem get?_resetAll (r : Registry) (now : Instant) (name : String) :
    (r.resetAll now).1.get? name =
      (r.get? name).map fun s => (s.step now (.reset : Op ε α)).session := by
  simp only [resetAll, get?, NameMap.get?_map]
  rfl

/-- Whether every breaker has the name it is kept under. -/
def Named (r : Registry) : Prop := ∀ name s, r.get? name = some s → s.breaker.name = name

theorem Named.current (h : r.Named) (name : String) : (r.current name).breaker.name = name := by
  cases hs : r.get? name with
  | none => simp [Registry.current, hs, fresh, ofSettings, new, setProbeBudget]
  | some s => simpa [Registry.current, hs] using h name s hs

/-- The breakers of other names have nothing in it. -/
theorem about_of_ne {j : Journal} (hj : j.Of other) (h : other ≠ name) : about name j = [] := by
  rw [about, List.filter_eq_nil_iff]
  intro e he
  simpa [hj e he] using h

theorem about_of {j : Journal} (hj : j.Of name) : about name j = j := by
  rw [about, List.filter_eq_self]
  intro e he
  simpa using hj e he

theorem about_append (name : String) (j j' : Journal) :
    about name (j ++ j') = about name j ++ about name j' := List.filter_append ..

theorem registration_of (r : Registry) (now : Instant) (name : String) :
    (r.registration now name).Of name := by
  unfold registration
  split
  · exact .nil name
  · exact .stamp now rfl

theorem journal_step_of (hr : r.Named) (now : Instant) (name : String) (op : Op ε α) :
    (r.step now name op).2.2.Of name := by
  have hs := Session.of_step (r.current name) now op
  rw [hr.current name] at hs
  rw [step_snd]
  exact (registration_of r now name).append hs

theorem about_resetAll (hr : r.Named) (now : Instant) (name : String) :
    about name (r.resetAll now).2 =
      (r.get? name).toList.flatMap fun s => (s.step now (.reset : Op ε α)).journal := by
  refine NameMap.filter_flatMap _ _ _ name fun e he b hb => ?_
  have hs := Session.of_step (ε := Empty) (α := Empty) e.2 now .reset b hb
  rw [hr e.1 e.2 (NameMap.mem_entries_iff.1 he)] at hs
  simp [hs]

/-- What a use does to a breaker that is there, or that it makes. -/
theorem get?_perform_present {use : Use ε α}
    (hp : use.creates name = true ∨ (r.get? name).isSome) (now : Instant) :
    (r.perform now use).registry.get? name =
      some ((r.current name).run (ownOps name [(now, use)])).1 := by
  have kept (h : (r.get? name).isSome) : r.get? name = some (r.current name) := by
    obtain ⟨s, hs⟩ := Option.isSome_iff_exists.1 h
    simp [current, hs]
  cases use with
  | obtain n =>
    by_cases hn : name = n
    · subst hn
      exact get?_obtain_self r now name
    · have hs : (r.get? name).isSome := by simpa [Use.creates, Ne.symm hn] using hp
      exact (get?_obtain_of_ne hn r now).trans (kept hs)
  | operate n op =>
    by_cases hn : name = n
    · subst hn
      simpa [perform, ownOps, Use.own?, Session.run] using get?_step_self r now name op
    · have hs : (r.get? name).isSome := by simpa [Use.creates, Ne.symm hn] using hp
      simpa [perform, ownOps, Use.own?, Ne.symm hn, Session.run] using
        (get?_step_of_ne hn r now op).trans (kept hs)
  | resetAll =>
    have hs := kept (by simpa [Use.creates] using hp)
    rw [perform, get?_resetAll (ε := ε) (α := α), hs]
    rfl
  | find n => exact kept (by simpa [Use.creates] using hp)
  | states => exact kept (by simpa [Use.creates] using hp)
  | size => exact kept (by simpa [Use.creates] using hp)

/-- What is written down of it. -/
theorem about_perform_present {use : Use ε α} (hr : r.Named)
    (hp : use.creates name = true ∨ (r.get? name).isSome) (now : Instant) :
    about name (r.perform now use).journal =
      r.registration now name ++ ((r.current name).run (ownOps name [(now, use)])).2 := by
  have silent (h : (r.get? name).isSome) : r.registration now name = [] := by
    simp [registration, h]
  cases use with
  | obtain n =>
    by_cases hn : name = n
    · subst hn
      have hj : (r.perform now (.obtain name : Use ε α)).journal = r.registration now name := by
        simp [perform, obtain_snd]
      rw [hj, about_of (registration_of r now name)]
      exact (List.append_nil _).symm
    · have hs : (r.get? name).isSome := by simpa [Use.creates, Ne.symm hn] using hp
      have hj : (r.perform now (.obtain n : Use ε α)).journal = r.registration now n := by
        simp [perform, obtain_snd]
      rw [hj, about_of_ne (registration_of r now n) (Ne.symm hn), silent hs]
      rfl
  | operate n op =>
    have hj := journal_step_of hr now n op
    by_cases hn : name = n
    · subst hn
      rw [perform, about_of hj, step_snd]
      simp [ownOps, Use.own?, Session.run]
    · have hs : (r.get? name).isSome := by simpa [Use.creates, Ne.symm hn] using hp
      rw [perform, about_of_ne hj (Ne.symm hn), silent hs]
      simp [ownOps, Use.own?, Ne.symm hn, Session.run]
  | resetAll =>
    have hs : (r.get? name).isSome := by simpa [Use.creates] using hp
    obtain ⟨s, he⟩ := Option.isSome_iff_exists.1 hs
    rw [perform, about_resetAll (ε := ε) (α := α) hr, silent hs]
    simp [he, current, ownOps, Use.own?, Session.run]
  | find n => rw [silent (by simpa [Use.creates] using hp)]; rfl
  | states => rw [silent (by simpa [Use.creates] using hp)]; rfl
  | size => rw [silent (by simpa [Use.creates] using hp)]; rfl

/-- Nothing happens to a breaker that is not there and is not made. -/
theorem perform_absent {use : Use ε α} (hr : r.Named) (hc : use.creates name = false)
    (hs : r.get? name = none) (now : Instant) :
    (r.perform now use).registry.get? name = none ∧
      about name (r.perform now use).journal = [] := by
  cases use with
  | obtain n =>
    have hn : name ≠ n := by simpa [Use.creates, eq_comm] using hc
    have hj : (r.perform now (.obtain n : Use ε α)).journal = r.registration now n := by
      simp [perform, obtain_snd]
    rw [hj]
    exact ⟨(get?_obtain_of_ne hn r now).trans hs, about_of_ne (registration_of r now n) hn.symm⟩
  | operate n op =>
    have hn : name ≠ n := by simpa [Use.creates, eq_comm] using hc
    exact ⟨(get?_step_of_ne hn r now op).trans hs,
      about_of_ne (journal_step_of hr now n op) hn.symm⟩
  | resetAll =>
    constructor
    · rw [perform, get?_resetAll (ε := ε) (α := α), hs, Option.map_none]
    · rw [perform, about_resetAll (ε := ε) (α := α) hr, hs]
      rfl
  | find n => exact ⟨hs, rfl⟩
  | states => exact ⟨hs, rfl⟩
  | size => exact ⟨hs, rfl⟩

/-- No use changes the settings. -/
theorem settings_perform (r : Registry) (now : Instant) (use : Use ε α) :
    (r.perform now use).registry.settings = r.settings := by
  have obtained (name : String) : (r.obtain now name).1.settings = r.settings := by
    cases h : r.get? name with
    | none => simp only [obtain, h]; rfl
    | some s => simp only [obtain, h]
  cases use with
  | obtain name => exact obtained name
  | operate name op => exact obtained name
  | _ => rfl

theorem Named.perform (hr : r.Named) (now : Instant) (use : Use ε α) :
    (r.perform now use).registry.Named := by
  intro name s hs
  by_cases hp : use.creates name = true ∨ (r.get? name).isSome
  · rw [get?_perform_present hp now, Option.some_inj] at hs
    rw [← hs, Session.name_run, hr.current name]
  · obtain ⟨hc, hn⟩ := not_or.1 hp
    have hnone := (perform_absent hr (by simpa using hc) (by simpa using hn) now).1
    cases hnone.symm.trans hs

/-! ### Runs -/

theorem ownOps_cons (name : String) (u : Instant × Use ε α) (uses : List (Instant × Use ε α)) :
    ownOps name (u :: uses) = ownOps name [u] ++ ownOps name uses := by
  cases hu : u.2.own? name <;> simp [ownOps, hu]

/-- A breaker that is there goes on as if it were alone. -/
theorem run_present (hr : r.Named) (hs : r.get? name = some s) (uses : List (Instant × Use ε α)) :
    (r.run uses).1.get? name = some (s.run (ownOps name uses)).1 ∧
      about name (r.run uses).2 = (s.run (ownOps name uses)).2 := by
  induction uses generalizing r s with
  | nil => exact ⟨hs, rfl⟩
  | cons u uses ih =>
    obtain ⟨now, use⟩ := u
    have hp : use.creates name = true ∨ (r.get? name).isSome := .inr (by rw [hs]; rfl)
    have hc : r.current name = s := by simp [current, hs]
    have hg := get?_perform_present hp now
    have hj := about_perform_present hr hp now
    rw [hc] at hg hj
    rw [registration, hs] at hj
    obtain ⟨ihg, ihj⟩ := ih (hr.perform now use) hg
    rw [ownOps_cons, Session.run_append, run, about_append, ihg, ihj, hj]
    exact ⟨rfl, rfl⟩

/-- The entry made with the breaker of a name, if it is made. -/
def registrations (r : Registry) (name : String) (uses : List (Instant × Use ε α)) : Journal :=
  (uses.find? fun u => u.2.creates name).toList.flatMap fun u =>
    Journal.stamp u.1 [.registered name (r.settings name)]

/-- A breaker that is not there yet begins with its share. -/
theorem run_absent (hr : r.Named) (hs : r.get? name = none) (uses : List (Instant × Use ε α)) :
    (r.run uses).1.get? name =
      (if created name uses then some ((r.fresh name).run (share name uses)).1 else none) ∧
    about name (r.run uses).2 =
      r.registrations name uses ++ ((r.fresh name).run (share name uses)).2 := by
  induction uses generalizing r with
  | nil => exact ⟨hs, rfl⟩
  | cons u uses ih =>
    obtain ⟨now, use⟩ := u
    cases hc : use.creates name with
    | true =>
      have hg := get?_perform_present (r := r) (.inl hc) now
      have hj := about_perform_present hr (.inl hc) now
      have hcur : r.current name = r.fresh name := by simp [current, hs]
      rw [hcur] at hg hj
      rw [registration, hs] at hj
      obtain ⟨hrg, hrj⟩ := run_present (hr.perform now use) hg uses
      have hshare : share name ((now, use) :: uses) = ownOps name ((now, use) :: uses) := by
        simp [share, hc]
      rw [hshare, ownOps_cons, Session.run_append, run, about_append, hrg, hrj, hj]
      simp [created, registrations, hc]
    | false =>
      obtain ⟨hg, hj⟩ := perform_absent hr hc hs now
      have hfresh : (r.perform now use).registry.fresh name = r.fresh name := by
        simp [fresh, settings_perform]
      have hshare : share name ((now, use) :: uses) = share name uses := by simp [share, hc]
      have hcreated : created name ((now, use) :: uses) = created name uses := by
        simp [created, hc]
      have hreg : (r.perform now use).registry.registrations name uses =
          r.registrations name ((now, use) :: uses) := by
        simp [registrations, hc, settings_perform]
      obtain ⟨ihg, ihj⟩ := ih (hr.perform now use) hg
      rw [run, about_append, ihg, ihj, hj, hfresh, hshare, hcreated, hreg]
      exact ⟨rfl, rfl⟩

theorem count_about (j : Journal) {name : String} {c : Counter}
    (hl : ("breaker", name) ∈ c.labels) : (about name j).count c = j.count c := by
  simp only [Journal.count, about, List.count, List.countP_filterMap, List.countP_filter]
  refine List.countP_congr fun e _ => ?_
  cases hc : e.signal.counter? with
  | none => simp
  | some c' =>
    by_cases he : c' = c
    · subst he
      simp [Signal.breaker?_of_counter? hc hl]
    · simp [he]

theorem count_registrations (r : Registry) (name : String) (uses : List (Instant × Use ε α))
    (c : Counter) : (r.registrations name uses).count c = 0 := by
  unfold registrations
  cases uses.find? fun u => u.2.creates name <;>
    simp [Journal.count, Journal.stamp, Signal.counter?]

theorem settings_run (r : Registry) (uses : List (Instant × Use ε α)) :
    (r.run uses).1.settings = r.settings := by
  induction uses generalizing r with
  | nil => rfl
  | cons u uses ih => exact (ih _).trans (settings_perform r u.1 u.2)

theorem share_eq_nil {uses : List (Instant × Use ε α)} (hc : created name uses = false) :
    share name uses = [] := by
  have hd : (uses.dropWhile fun u => !u.2.creates name) = [] := by
    simpa [List.dropWhile_eq_nil_iff, created] using hc
  rw [share, hd]
  rfl

theorem names_states (r : Registry) : r.states.map (·.1) = r.sessions.names := by
  simp [states, NameMap.names]

theorem mem_states_iff (r : Registry) (name : String) (state : State) :
    (name, state) ∈ r.states ↔ ∃ s, r.get? name = some s ∧ state = s.breaker.state := by
  simp only [states, List.mem_map, Prod.mk.injEq, get?, ← NameMap.mem_entries_iff]
  constructor
  · rintro ⟨e, he, rfl, rfl⟩
    exact ⟨e.2, he, rfl⟩
  · rintro ⟨s, hs, rfl⟩
    exact ⟨(name, s), hs, rfl, rfl⟩

/-! ### Every run keeps its breakers apart -/

/-- A registry nobody has asked for a breaker yet. -/
def new (defaults : BreakerSettings) (overrides : NameMap BreakerSettings) : Registry :=
  ⟨defaults, overrides, .empty⟩

/-- The breaker of a name as it would be alone, built with the settings of the name or else the
default settings, after its share of what is done, and what is written down of it. -/
def alone (defaults : BreakerSettings) (overrides : NameMap BreakerSettings) (name : String)
    (uses : List (Instant × Use ε α)) : Session × Journal :=
  (Session.ofSettings name ((overrides.get? name).getD defaults)).run (share name uses)

/-- How a run keeps the breakers of a registry apart. -/
structure Independent (defaults : BreakerSettings) (overrides : NameMap BreakerSettings)
    (uses : List (Instant × Use ε α)) : Prop where
  /-- There is a breaker just for the names that were asked for, each as if it were alone. -/
  kept : ∀ name, ((new defaults overrides).run uses).1.get? name =
    if created name uses then some (alone defaults overrides name uses).1 else none
  /-- What is written down about a name is that it was registered, and what it did alone. -/
  written : ∀ name, about name ((new defaults overrides).run uses).2 =
    (new defaults overrides).registrations name uses ++ (alone defaults overrides name uses).2
  /-- So the counters labelled with a name count what it did alone. -/
  counted : ∀ name c, ("breaker", name) ∈ c.labels →
    ((new defaults overrides).run uses).2.count c = (alone defaults overrides name uses).2.count c
  /-- Who asks for a breaker gets it as it is. -/
  obtained : ∀ past now name rest, uses = past ++ (now, .obtain name) :: rest →
    (((new defaults overrides).run past).1.perform now (.obtain name : Use ε α)).given =
      .session (alone defaults overrides name past).1
  /-- Who looks for one finds it just if someone has asked for it before. -/
  found : ∀ past now name rest, uses = past ++ (now, .find name) :: rest →
    (((new defaults overrides).run past).1.perform now (.find name : Use ε α)).given =
      .found (if created name past then some (alone defaults overrides name past).1 else none)
  /-- Every operation is answered as the breaker alone would answer. -/
  replied : ∀ past now name op rest, uses = past ++ (now, .operate name op) :: rest →
    (((new defaults overrides).run past).1.perform now (.operate name op)).given =
      .reply ((alone defaults overrides name past).1.step now op).reply
  /-- The list of states has each name that was asked for once, in the order of their bytes. -/
  listed : ∀ past now rest, uses = past ++ (now, .states) :: rest → ∃ states,
    (((new defaults overrides).run past).1.perform now (.states : Use ε α)).given =
      .states states ∧
    (states.map (·.1)).Pairwise (fun a b => Text.bytes a < Text.bytes b) ∧
    ∀ name state, (name, state) ∈ states ↔
      created name past ∧ state = (alone defaults overrides name past).1.breaker.state
  /-- The size is the number of those names. -/
  sized : ∀ past now rest, uses = past ++ (now, .size) :: rest → ∃ names : List String,
    names.Nodup ∧ (∀ name, name ∈ names ↔ created name past) ∧
    (((new defaults overrides).run past).1.perform now (.size : Use ε α)).given = .size names.length

/-- The breakers of a registry are independent of each other, whatever its users do. -/
theorem independent (defaults : BreakerSettings) (overrides : NameMap BreakerSettings)
    (uses : List (Instant × Use ε α)) : Independent defaults overrides uses := by
  have hr : (new defaults overrides).Named := by
    intro name s hs
    cases hs
  have kept (uses : List (Instant × Use ε α)) (name : String) :
      ((new defaults overrides).run uses).1.get? name =
        if created name uses then some (alone defaults overrides name uses).1 else none :=
    (run_absent hr rfl uses).1
  have written (name : String) : about name ((new defaults overrides).run uses).2 =
      (new defaults overrides).registrations name uses ++
        (alone defaults overrides name uses).2 :=
    (run_absent hr rfl uses).2
  have current (past : List (Instant × Use ε α)) (name : String) :
      ((new defaults overrides).run past).1.current name =
        (alone defaults overrides name past).1 := by
    rw [Registry.current, kept]
    cases hc : created name past with
    | true => simp
    | false => simp [alone, share_eq_nil hc, fresh, settings_run]; rfl
  constructor
  case kept => exact kept uses
  case written => exact written
  case counted =>
    intro name c hl
    rw [← count_about _ hl, written, Journal.count_append, count_registrations, Nat.zero_add]
  case obtained =>
    intro past now name rest _
    simp [perform, obtain_snd, current]
  case found =>
    intro past now name rest _
    rw [perform, kept]
  case replied =>
    intro past now name op rest _
    simp [perform, step_snd, current]
  case listed =>
    intro past now rest _
    refine ⟨_, rfl, ?_, fun name state => ?_⟩
    · rw [names_states]
      exact NameMap.pairwise_bytes_names _
    · rw [mem_states_iff, kept]
      cases created name past <;> simp
  case sized =>
    intro past now rest _
    have hn := NameMap.pairwise_bytes_names ((new defaults overrides).run past).1.sessions
    refine ⟨_, hn.imp fun hlt heq => ?_, fun name => ?_, ?_⟩
    · exact absurd (heq ▸ hlt) (List.lt_irrefl _)
    · rw [NameMap.mem_names_iff]
      change (((new defaults overrides).run past).1.get? name).isSome ↔ _
      rw [kept]
      cases created name past <;> simp
    · simp [perform, size, NameMap.size, NameMap.names]

end Registry

end CallGuard
