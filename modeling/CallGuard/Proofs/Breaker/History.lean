import CallGuard.Breaker.Session
import CallGuard.Proofs.Breaker.Operations
import Mathlib.Logic.Function.Basic

/-! The history of a breaker in use, act by act: calls that ask to be let in, calls that
end with an outcome or without one, and what is done by hand. A call that is made at once
is two acts, its admission and its end. `Course` says which histories there are, whatever
the order of the acts; `course_history` that every run of a session has one of them, at whose
end stands the session's own breaker, so that what each act preserves holds at every point of
every run. What a user is told of an operation is what its moments show (`reply_refused_iff`,
`invoked_iff`). -/

namespace CallGuard.Breaker

/-- A call by its name; one that is made and ends within a single operation has none. -/
abbrev Call := Option String

/-- What can befall a breaker. A call is lost if it is dropped or crashes. -/
inductive Act
  | admission (call : Call) (permit : Permit)
  | refusal (why : Refusal)
  | outcome (call : Call) (succeeded : Bool)
  | loss (call : Call) (permit : Permit)
  | reset
  | trip
  | budget (probes : UInt32)
deriving DecidableEq

/-- An act at its instant, between the breaker before it and the breaker after it. -/
structure Moment where
  time : Instant
  act : Act
  before : Breaker
  after : Breaker
deriving DecidableEq

namespace Moment

/-- A call asks to be let in and, if it is, goes on with `rest`. -/
def ofEntry (b : Breaker) (now : Instant) (call : Call) (rest : Breaker → Permit → List Moment) :
    List Moment :=
  match b.enter now with
  | .refused why => [⟨now, .refusal why, b, b⟩]
  | .admitted b' permit _ => ⟨now, .admission call permit, b, b'⟩ :: rest b' permit

def ofOutcome (b : Breaker) (now : Instant) (call : Call) (succeeded : Bool) : Moment :=
  ⟨now, .outcome call succeeded, b, (b.settle now succeeded).1⟩

def ofLoss (b : Breaker) (now : Instant) (call : Call) (permit : Permit) : Moment :=
  ⟨now, .loss call permit, b, b.release permit⟩

/-- Whether a call asks to be let in. -/
def asks (m : Moment) : Bool :=
  match m.act with
  | .admission _ _ | .refusal _ => true
  | _ => false

/-- Whether a call is let in. -/
def admits (m : Moment) : Bool :=
  match m.act with
  | .admission _ _ => true
  | _ => false

end Moment

namespace Session

variable {ε α : Type}

/-- A breaker that nobody has used yet. -/
def new (name : String) (maxFailures : UInt32) (resetTimeout : Duration) : Session :=
  { breaker := .new name maxFailures resetTimeout }

/-- The loss of the call of a name, if one is in flight. -/
def losses (now : Instant) (s : Session) (id : String) : List Moment :=
  match s.live.get? id with
  | none => []
  | some permit => [.ofLoss s.breaker now (some id) permit]

open Moment in
/-- What an operation does to the breaker, act by act. A call that is started under the name
of another takes its place, and the other is lost. -/
def moments (now : Instant) (s : Session) : Op ε α → List Moment
  | .call outcome => ofEntry s.breaker now none fun b _ => [ofOutcome b now none outcome.toBool]
  | .crash => ofEntry s.breaker now none fun b permit => [ofLoss b now none permit]
  | .start id => s.losses now id ++ ofEntry (s.abandon id).breaker now (some id) fun _ _ => []
  | .finish id outcome =>
    match s.live.get? id with
    | none => []
    | some _ => [ofOutcome s.breaker now (some id) outcome.toBool]
  | .abandon id => s.losses now id
  | .reset => [⟨now, .reset, s.breaker, s.breaker.reset.1⟩]
  | .trip => [⟨now, .trip, s.breaker, (s.breaker.trip now).1⟩]
  | .setProbeBudget n => [⟨now, .budget n, s.breaker, s.breaker.setProbeBudget n⟩]
  | .subscribe _ | .read _ | .observe _ | .collect => []

/-- The history of a run, the earliest moment first. -/
def history (s : Session) : List (Instant × Op ε α) → List Moment
  | [] => []
  | (now, op) :: ops => s.moments now op ++ (s.step now op).session.history ops

end Session

/-- The permits of calls in flight; calls without a name are not there between operations. -/
def permits (live : NameMap Permit) (c : Call) : Option Permit := c.bind live.get?

/-- The breaker at the end of a history that began with `b₀`. -/
def breakerAfter (b₀ : Breaker) (h : List Moment) : Breaker := (h.getLast?.map (·.after)).getD b₀

/-! ### Courses -/

/-- The moments that can come next while certain calls are in flight, and the calls that are
in flight after it. -/
inductive Next (live : Call → Option Permit) : Moment → (Call → Option Permit) → Prop
  | admission {b b' : Breaker} {now : Instant} {c : Call} {permit : Permit} {change : Option Change}
      (free : live c = none) (entered : b.enter now = .admitted b' permit change) :
      Next live ⟨now, .admission c permit, b, b'⟩ (Function.update live c (some permit))
  | refusal {b : Breaker} {now : Instant} {why : Refusal} (entered : b.enter now = .refused why) :
      Next live ⟨now, .refusal why, b, b⟩ live
  | outcome {c : Call} {permit : Permit} (b : Breaker) (now : Instant) (succeeded : Bool)
      (inFlight : live c = some permit) :
      Next live (.ofOutcome b now c succeeded) (Function.update live c none)
  | loss {c : Call} {permit : Permit} (b : Breaker) (now : Instant)
      (inFlight : live c = some permit) :
      Next live (.ofLoss b now c permit) (Function.update live c none)
  | reset (b : Breaker) (now : Instant) : Next live ⟨now, .reset, b, b.reset.1⟩ live
  | trip (b : Breaker) (now : Instant) : Next live ⟨now, .trip, b, (b.trip now).1⟩ live
  | budget (b : Breaker) (now : Instant) (n : UInt32) :
      Next live ⟨now, .budget n, b, b.setProbeBudget n⟩ live

/-- The histories of a breaker that begins as `b₀`, with the breaker and the calls in flight
at their end. -/
inductive Course (b₀ : Breaker) : List Moment → Breaker → (Call → Option Permit) → Prop
  | start : Course b₀ [] b₀ fun _ => none
  | next {h : List Moment} {m : Moment} {live live' : Call → Option Permit}
      (course : Course b₀ h m.before live) (next : Next live m live') :
      Course b₀ (h ++ [m]) m.after live'

variable {b₀ b b' : Breaker} {h h' : List Moment} {m : Moment} {live live' : Call → Option Permit}

@[simp] theorem breakerAfter_concat (b₀ : Breaker) (h : List Moment) (m : Moment) :
    breakerAfter b₀ (h ++ [m]) = m.after := by
  simp [breakerAfter]

/-- Name, threshold and cool-down of a breaker never change. -/
theorem Next.settings (hn : Next live m live') :
    m.after.name = m.before.name ∧ m.after.maxFailures = m.before.maxFailures ∧
      m.after.resetTimeout = m.before.resetTimeout := by
  cases hn with
  | admission free entered =>
    rcases admitted_cases entered with ⟨-, rfl, -⟩ | ⟨-, -, rfl, -⟩ | ⟨-, -, rfl, -⟩ <;>
      exact ⟨rfl, rfl, rfl⟩
  | refusal entered => exact ⟨rfl, rfl, rfl⟩
  | outcome b now succeeded inFlight =>
    rcases settle_cases b now succeeded with ⟨-, he⟩ | ⟨-, -, he⟩ | ⟨-, -, -, he⟩ |
      ⟨-, -, -, he⟩ | ⟨-, -, he⟩ | ⟨-, -, he⟩ <;> simp [Moment.ofOutcome, he]
  | @loss c permit b now inFlight =>
    obtain ⟨n, he⟩ := release_frame b permit
    simp [Moment.ofLoss, he]
  | reset b now => simp [reset_fst]
  | trip b now => simp [trip_fst]
  | budget b now n => exact ⟨rfl, rfl, rfl⟩

namespace Course

theorem settings (hc : Course b₀ h b live) :
    b.name = b₀.name ∧ b.maxFailures = b₀.maxFailures ∧ b.resetTimeout = b₀.resetTimeout := by
  induction hc with
  | start => exact ⟨rfl, rfl, rfl⟩
  | next course hn ih =>
    obtain ⟨hname, hmax, htimeout⟩ := hn.settings
    exact ⟨hname.trans ih.1, hmax.trans ih.2.1, htimeout.trans ih.2.2⟩

/-- The last moment of a course, and the course up to it. -/
theorem of_concat (hc : Course b₀ (h ++ [m]) b live') :
    ∃ live, Course b₀ h m.before live ∧ Next live m live' := by
  generalize hk : h ++ [m] = k at hc
  cases hc with
  | start => simp at hk
  | next course next =>
    obtain ⟨rfl, hm⟩ := List.append_inj' hk rfl
    cases hm
    exact ⟨_, course, next⟩

/-- A course can be left off at any point. -/
theorem upTo (hc : Course b₀ h b live) (hp : h' <+: h) :
    ∃ live', Course b₀ h' (breakerAfter b₀ h') live' := by
  induction hc with
  | start =>
    obtain rfl := List.prefix_nil.1 hp
    exact ⟨_, .start⟩
  | next course next ih =>
    rcases List.prefix_concat_iff.1 hp with rfl | hp
    · rw [breakerAfter_concat]
      exact ⟨_, .next course next⟩
    · exact ih hp

theorem admission {now : Instant} {c : Call} {permit : Permit} {change : Option Change}
    (hc : Course b₀ h b live) (free : live c = none)
    (entered : b.enter now = .admitted b' permit change) :
    Course b₀ (h ++ [⟨now, .admission c permit, b, b'⟩]) b'
      (Function.update live c (some permit)) :=
  .next hc (.admission free entered)

theorem refusal {now : Instant} {why : Refusal} (hc : Course b₀ h b live)
    (entered : b.enter now = .refused why) : Course b₀ (h ++ [⟨now, .refusal why, b, b⟩]) b live :=
  .next hc (.refusal entered)

theorem outcome {c : Call} {permit : Permit} (hc : Course b₀ h b live) (now : Instant)
    (succeeded : Bool) (inFlight : live c = some permit) :
    Course b₀ (h ++ [.ofOutcome b now c succeeded]) (b.settle now succeeded).1
      (Function.update live c none) :=
  .next hc (.outcome b now succeeded inFlight)

theorem loss {c : Call} {permit : Permit} (hc : Course b₀ h b live) (now : Instant)
    (inFlight : live c = some permit) :
    Course b₀ (h ++ [.ofLoss b now c permit]) (b.release permit) (Function.update live c none) :=
  .next hc (.loss b now inFlight)

end Course

/-! ### Every run has a course -/

@[simp] theorem permits_none (live : NameMap Permit) : permits live none = none := rfl

@[simp] theorem permits_some (live : NameMap Permit) (id : String) :
    permits live (some id) = live.get? id := rfl

@[simp] theorem permits_empty : permits .empty = fun _ => none := by
  funext c
  cases c <;> rfl

theorem permits_insert (live : NameMap Permit) (id : String) (permit : Permit) :
    permits (live.insert id permit) = Function.update (permits live) (some id) (some permit) := by
  funext c
  cases c with
  | none => simp
  | some other =>
    by_cases ho : other = id
    · subst ho; simp
    · simp [ho, NameMap.get?_insert_of_ne ho]

theorem permits_erase (live : NameMap Permit) (id : String) :
    permits (live.erase id) = Function.update (permits live) (some id) none := by
  funext c
  cases c with
  | none => simp
  | some other =>
    by_cases ho : other = id
    · subst ho; simp
    · simp [ho, NameMap.get?_erase_of_ne ho]

namespace Session

variable {ε α : Type}

@[simp] theorem follow_breaker (s : Session) (step : Breaker × Option Change) :
    (s.follow step).breaker = step.1 := by
  unfold follow
  split <;> rfl

@[simp] theorem follow_live (s : Session) (step : Breaker × Option Change) :
    (s.follow step).live = s.live := by
  unfold follow
  split <;> rfl

theorem get?_abandon (s : Session) (id : String) : (s.abandon id).live.get? id = none := by
  unfold abandon
  split
  next hl => exact hl
  next => simp

theorem course_losses {s : Session} (hc : Course b₀ h s.breaker (permits s.live)) (now : Instant)
    (id : String) :
    Course b₀ (h ++ s.losses now id) (s.abandon id).breaker (permits (s.abandon id).live) := by
  cases hl : s.live.get? id with
  | none => simpa [losses, abandon, hl] using hc
  | some permit =>
    simpa [losses, abandon, release, hl, permits_erase] using
      hc.loss (c := some id) now hl

theorem course_moments {s : Session} (hc : Course b₀ h s.breaker (permits s.live)) (now : Instant)
    (op : Op ε α) :
    Course b₀ (h ++ s.moments now op) (s.step now op).session.breaker
      (permits (s.step now op).session.live) := by
  -- a call without a name comes and goes within its operation
  have gone (permit : Permit) :
      Function.update (Function.update (permits s.live) none (some permit)) none none =
        permits s.live := by
    rw [Function.update_idem, Function.update_eq_self_iff, permits_none]
  cases op with
  | call outcome =>
    cases he : s.breaker.enter now with
    | refused why => simpa [moments, step, enter, Moment.ofEntry, refuse, he] using hc.refusal he
    | admitted b permit change =>
      have hd := (hc.admission (c := none) rfl he).outcome now outcome.toBool
        (Function.update_self ..)
      rw [gone, List.append_assoc] at hd
      simpa [moments, step, enter, Moment.ofEntry, settle, he] using hd
  | crash =>
    cases he : s.breaker.enter now with
    | refused why => simpa [moments, step, enter, Moment.ofEntry, refuse, he] using hc.refusal he
    | admitted b permit change =>
      have hd := (hc.admission (c := none) rfl he).loss now (Function.update_self ..)
      rw [gone, List.append_assoc] at hd
      simpa [moments, step, enter, Moment.ofEntry, release, he] using hd
  | start id =>
    have hd := course_losses hc now id
    rw [moments, ← List.append_assoc]
    cases he : (s.abandon id).breaker.enter now with
    | refused why => simpa [step, enter, Moment.ofEntry, refuse, he] using hd.refusal he
    | admitted b permit change =>
      simpa [step, enter, Moment.ofEntry, he, permits_insert] using
        hd.admission (c := some id) (get?_abandon s id) he
  | finish id outcome =>
    cases hl : s.live.get? id with
    | none => simpa [moments, step, hl] using hc
    | some permit =>
      simpa [moments, step, settle, hl, permits_erase] using
        hc.outcome (c := some id) now outcome.toBool hl
  | abandon id =>
    have hd := course_losses hc now id
    cases hl : s.live.get? id with
    | none => simpa [moments, losses, step, hl] using hc
    | some permit => simpa [moments, step, hl] using hd
  | reset => simpa [moments, step] using Course.next hc (.reset _ now)
  | trip => simpa [moments, step] using Course.next hc (.trip _ now)
  | setProbeBudget n => simpa [moments, step] using Course.next hc (.budget _ now n)
  | subscribe id => simpa [moments, step] using hc
  | read id =>
    cases hr : s.channel.read? id <;> simpa [moments, step, hr] using hc
  | observe tag => simpa [moments, step] using hc
  | collect => simpa [moments, step] using hc

theorem course_run {s : Session} (hc : Course b₀ h s.breaker (permits s.live))
    (ops : List (Instant × Op ε α)) :
    Course b₀ (h ++ s.history ops) (s.run ops).1.breaker (permits (s.run ops).1.live) := by
  induction ops generalizing s h with
  | nil => simpa [history, run] using hc
  | cons o ops ih =>
    have ho := ih (course_moments hc o.1 o.2)
    rwa [List.append_assoc] at ho

theorem history_append (s : Session) (past rest : List (Instant × Op ε α)) :
    s.history (past ++ rest) = s.history past ++ (s.run past).1.history rest := by
  induction past generalizing s with
  | nil => rfl
  | cons o past ih => simp [history, run, ih]

section

variable {s₀ : Session} (hl : s₀.live = .empty) {ops : List (Instant × Op ε α)}

include hl

/-- What happens to a breaker without calls in flight is a course, whatever its users do. -/
theorem course_of_empty (ops : List (Instant × Op ε α)) :
    Course s₀.breaker (s₀.history ops) (s₀.run ops).1.breaker (permits (s₀.run ops).1.live) := by
  have hs : Course s₀.breaker [] s₀.breaker (permits s₀.live) := by
    rw [hl, permits_empty]
    exact .start
  exact course_run hs ops

/-- Every point of a run is the end of a course. -/
theorem course_upTo_of_empty (hp : h <+: s₀.history ops) :
    ∃ live, Course s₀.breaker h (breakerAfter s₀.breaker h) live :=
  (course_of_empty hl ops).upTo hp

/-- Every moment of a run comes next in the course before it. -/
theorem next_upTo_of_empty (hp : h ++ [m] <+: s₀.history ops) :
    ∃ live live', Course s₀.breaker h m.before live ∧ Next live m live' := by
  obtain ⟨live', hc⟩ := course_upTo_of_empty hl hp
  obtain ⟨live, hc, hn⟩ := hc.of_concat
  exact ⟨live, live', hc, hn⟩

end

variable (name : String) (k : UInt32) (d : Duration) (ops : List (Instant × Op ε α))

/-- What happens to a new breaker is a course, whatever its users do. -/
theorem course_history :
    Course (.new name k d) ((new name k d).history ops) ((new name k d).run ops).1.breaker
      (permits ((new name k d).run ops).1.live) :=
  course_of_empty (show (new name k d).live = .empty from rfl) ops

theorem course_upTo {ops : List (Instant × Op ε α)} (hp : h <+: (new name k d).history ops) :
    ∃ live, Course (.new name k d) h (breakerAfter (.new name k d) h) live :=
  course_upTo_of_empty (show (new name k d).live = .empty from rfl) hp

theorem next_upTo {ops : List (Instant × Op ε α)}
    (hp : h ++ [m] <+: (new name k d).history ops) :
    ∃ live live', Course (.new name k d) h m.before live ∧ Next live m live' :=
  next_upTo_of_empty (show (new name k d).live = .empty from rfl) hp

end Session

/-! ### What users are told -/

/-- Whether some moment is of a certain kind. -/
theorem Moment.exists_ofEntry {p : Moment → Prop} {now : Instant} {c : Call}
    {rest : Breaker → Permit → List Moment} (hr : ∀ b permit, ∀ m ∈ rest b permit, ¬p m) :
    (∃ m ∈ ofEntry b now c rest, p m) ↔
      (∃ why, b.enter now = .refused why ∧ p ⟨now, .refusal why, b, b⟩) ∨
      ∃ b' permit change, b.enter now = .admitted b' permit change ∧
        p ⟨now, .admission c permit, b, b'⟩ := by
  unfold ofEntry
  cases he : b.enter now with
  | refused why => simp
  | admitted b' permit change =>
    have hn : ¬∃ m ∈ rest b' permit, p m := fun ⟨m, hm, hp⟩ => hr b' permit m hm hp
    simp [hn, and_assoc]

namespace Session

variable {ε α : Type} (s : Session) (now : Instant) (op : Op ε α)

/-- What a call itself comes to is no refusal. -/
theorem outcome_ne_refused (outcome : Except ε α) (why : Refusal) :
    outcome.mapError GuardError.failed ≠ .error (.refused why) := by
  intro hr
  cases outcome with
  | ok a => cases hr
  | error e => cases hr

theorem mem_losses {id : String} (hm : m ∈ s.losses now id) :
    ∃ permit, m = .ofLoss s.breaker now (some id) permit := by
  unfold losses at hm
  split at hm
  next => simp at hm
  next permit _ => exact ⟨permit, by simpa using hm⟩

/-- A user is told that a call is refused, and why, just if it is. -/
theorem reply_refused_iff (why : Refusal) :
    (s.step now op).reply = .result (.error (.refused why)) ↔
      ∃ m ∈ s.moments now op, m.act = .refusal why := by
  cases op with
  | call outcome =>
    rw [moments, Moment.exists_ofEntry (by simp [Moment.ofOutcome])]
    cases he : s.breaker.enter now <;> simp [step, enter, refuse, he, outcome_ne_refused]
  | crash =>
    rw [moments, Moment.exists_ofEntry (by simp [Moment.ofLoss])]
    cases he : s.breaker.enter now <;> simp [step, enter, refuse, he]
  | start id =>
    have hl : ¬∃ m ∈ s.losses now id, m.act = .refusal why := by
      rintro ⟨m, hm, hw⟩
      obtain ⟨permit, rfl⟩ := mem_losses s now hm
      cases hw
    simp only [moments, List.mem_append, or_and_right, exists_or]
    rw [or_iff_right hl, Moment.exists_ofEntry (by simp)]
    cases he : (s.abandon id).breaker.enter now <;> simp [step, enter, refuse, he]
  | finish id outcome =>
    cases hl : s.live.get? id <;>
      simp [moments, step, hl, Moment.ofOutcome, outcome_ne_refused]
  | abandon id => cases hl : s.live.get? id <;> simp [moments, losses, step, hl, Moment.ofLoss]
  | read id => cases hr : s.channel.read? id <;> simp [moments, step, hr]
  | _ => simp [moments, step]

/-- A call is begun just if it is let in. -/
theorem invoked_iff :
    (s.step now op).invoked = true ↔ ∃ m ∈ s.moments now op, m.admits = true := by
  cases op with
  | call outcome =>
    rw [moments, Moment.exists_ofEntry (by simp [Moment.ofOutcome, Moment.admits])]
    cases he : s.breaker.enter now <;> simp [step, enter, refuse, he, Moment.admits]
  | crash =>
    rw [moments, Moment.exists_ofEntry (by simp [Moment.ofLoss, Moment.admits])]
    cases he : s.breaker.enter now <;> simp [step, enter, refuse, he, Moment.admits]
  | start id =>
    have hl : ¬∃ m ∈ s.losses now id, m.admits = true := by
      rintro ⟨m, hm, hw⟩
      obtain ⟨permit, rfl⟩ := mem_losses s now hm
      cases hw
    simp only [moments, List.mem_append, or_and_right, exists_or]
    rw [or_iff_right hl, Moment.exists_ofEntry (by simp)]
    cases he : (s.abandon id).breaker.enter now <;> simp [step, enter, refuse, he, Moment.admits]
  | finish id outcome =>
    cases hl : s.live.get? id <;> simp [moments, step, hl, Moment.ofOutcome, Moment.admits]
  | abandon id =>
    cases hl : s.live.get? id <;> simp [moments, losses, step, hl, Moment.ofLoss, Moment.admits]
  | read id => cases hr : s.channel.read? id <;> simp [moments, step, hr]
  | _ => simp [moments, step, Moment.admits]

/-- A call that is refused is not begun. -/
theorem not_invoked_of_refused {why : Refusal}
    (hr : (s.step now op).reply = .result (.error (.refused why))) :
    (s.step now op).invoked = false := by
  cases op with
  | call outcome =>
    cases he : s.breaker.enter now <;> simp_all [step, enter, refuse, outcome_ne_refused]
  | crash => cases he : s.breaker.enter now <;> simp_all [step, enter, refuse]
  | start id => cases he : (s.abandon id).breaker.enter now <;> simp_all [step, enter, refuse]
  | finish id outcome => cases hl : s.live.get? id <;> simp [step, hl]
  | abandon id => cases hl : s.live.get? id <;> simp [step, hl]
  | read id => cases hd : s.channel.read? id <;> simp [step, hd]
  | _ => rfl

end Session

end CallGuard.Breaker
