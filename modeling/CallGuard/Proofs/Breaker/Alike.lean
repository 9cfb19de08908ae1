import CallGuard.Proofs.Breaker.Slots
import CallGuard.Proofs.Breaker.Changes

/-! Breakers that no user can tell apart. They may differ in what a breaker keeps but does not
look at for the time being: when it failed last unless it is open, how many probes it counts
unless it is half open, and the numbers of its windows (`Resembles`), as long as a call in flight
is a probe of the present window of both or of neither (`Paired`). Every operation gets the same
answer from both and leaves them alike (`Session.Alike.step`), and so does every run
(`Session.Alike.run`), provided that the numbers of the windows do not start over: then no permit
of an earlier window can name a later one. -/

namespace CallGuard.Breaker

/-- Two breakers that differ at most in what they do not look at in their state. -/
structure Resembles (b b' : Breaker) : Prop where
  name : b'.name = b.name
  maxFailures : b'.maxFailures = b.maxFailures
  resetTimeout : b'.resetTimeout = b.resetTimeout
  probeBudget : b'.probeBudget = b.probeBudget
  state : b'.state = b.state
  failures : b'.failures = b.failures
  lastFailure : b.state = .opened → b'.lastFailure = b.lastFailure
  probes : b.state = .halfOpen → b'.probes = b.probes

/-- The same calls in flight on two breakers in a state, whose windows have certain numbers. The
numbers of the second are behind, so that they do not start over before those of the first. -/
structure Paired (state : State) (w w' : UInt64) (live live' : Call → Option Permit) : Prop where
  inFlight : ∀ c, (live' c).isSome = (live c).isSome
  window_iff : state = .halfOpen → ∀ c permit permit', live c = some permit →
    live' c = some permit' → (permit'.window = some w' ↔ permit.window = some w)
  known : PermitsKnown w.toNat live
  known' : PermitsKnown w'.toNat live'
  window_le : w'.toNat ≤ w.toNat

variable {b b' : Breaker} {state state' : State} {w w' : UInt64}
  {live live' : Call → Option Permit} {c : Call} {permit permit' : Permit} {now : Instant}

theorem isSome_update {inFlight inFlight' : Option Permit} (c : Call)
    (hl : ∀ c, (live' c).isSome = (live c).isSome) (hi : inFlight'.isSome = inFlight.isSome)
    (c' : Call) :
    (Function.update live' c inFlight' c').isSome = (Function.update live c inFlight c').isSome := by
  by_cases hc : c' = c
  · subst hc
    rw [Function.update_self, Function.update_self, hi]
  · rw [Function.update_of_ne hc, Function.update_of_ne hc, hl]

namespace Paired

/-- Outside the half-open state permits do not matter. -/
theorem outside (hp : Paired state w w' live live') (hs : state' ≠ .halfOpen) :
    Paired state' w w' live live' where
  inFlight := hp.inFlight
  window_iff hs' := absurd hs' hs
  known := hp.known
  known' := hp.known'
  window_le := hp.window_le

theorem insert (hp : Paired state w w' live live') (c : Call)
    (hw : ∀ n, permit.window = some n → n = w) (hw' : ∀ n, permit'.window = some n → n = w')
    (hiff : permit'.window = some w' ↔ permit.window = some w) :
    Paired state w w' (Function.update live c (some permit))
      (Function.update live' c (some permit')) where
  inFlight := isSome_update c hp.inFlight rfl
  window_iff := by
    intro hs c' p p' hl hl'
    by_cases hc : c' = c
    · subst hc
      rw [Function.update_self] at hl hl'
      cases hl
      cases hl'
      exact hiff
    · rw [Function.update_of_ne hc] at hl hl'
      exact hp.window_iff hs c' p p' hl hl'
  known := hp.known.insert le_rfl fun n hn => (congrArg UInt64.toNat (hw n hn)).le
  known' := hp.known'.insert le_rfl fun n hn => (congrArg UInt64.toNat (hw' n hn)).le
  window_le := hp.window_le

theorem erase (hp : Paired state w w' live live') (c : Call) :
    Paired state w w' (Function.update live c none) (Function.update live' c none) where
  inFlight := isSome_update c hp.inFlight rfl
  window_iff := by
    intro hs c' p p' hl hl'
    by_cases hc : c' = c
    · subst hc
      simp at hl
    · rw [Function.update_of_ne hc] at hl hl'
      exact hp.window_iff hs c' p p' hl hl'
  known := hp.known.erase c
  known' := hp.known'.erase c
  window_le := hp.window_le

/-- The first probe of the next window is the only one of either breaker. -/
theorem first (hp : Paired state w w' live live') (room : w.toNat + 1 < UInt64.size) (c : Call) :
    Paired .halfOpen (w + 1) (w' + 1) (Function.update live c (some ⟨some (w + 1)⟩))
      (Function.update live' c (some ⟨some (w' + 1)⟩)) := by
  have room' : w'.toNat + 1 < UInt64.size := by
    have hle := hp.window_le
    omega
  have hn := toNat_next room
  have hn' := toNat_next room'
  constructor
  case inFlight => exact isSome_update c hp.inFlight rfl
  case window_iff =>
    intro _ c' p p' hl hl'
    by_cases hc : c' = c
    · subst hc
      rw [Function.update_self] at hl hl'
      cases hl
      cases hl'
      exact iff_of_true rfl rfl
    · rw [Function.update_of_ne hc] at hl hl'
      -- whatever windows the other permits are of, they are earlier ones
      exact iff_of_false (hp.known'.ne_next room' hl') (hp.known.ne_next room hl)
  case known =>
    refine hp.known.insert (by omega) ?_
    rintro n ⟨⟩
    exact le_rfl
  case known' =>
    refine hp.known'.insert (by omega) ?_
    rintro n ⟨⟩
    exact le_rfl
  case window_le =>
    have hle := hp.window_le
    omega

end Paired

/-! ### Operations on breakers that resemble each other -/

namespace Resembles

theorem cooled (h : b.Resembles b') (hs : b.state = .opened) (now : Instant) :
    b'.cooled now = b.cooled now := by
  rw [Breaker.cooled, Breaker.cooled, h.lastFailure hs, h.resetTimeout]

/-- Both refuse a call, or both let it in with the same change. -/
theorem enter (h : b.Resembles b') (hp : Paired b.state b.window b'.window live live')
    (room : b.state = .opened → b.cooled now = true → b.window.toNat + 1 < UInt64.size)
    (c : Call) :
    (∃ why, b.enter now = .refused why ∧ b'.enter now = .refused why) ∨
    ∃ b₁ b₁' permit permit' change, b.enter now = .admitted b₁ permit change ∧
      b'.enter now = .admitted b₁' permit' change ∧ b₁.Resembles b₁' ∧
      Paired b₁.state b₁.window b₁'.window (Function.update live c (some permit))
        (Function.update live' c (some permit')) := by
  cases hs : b.state with
  | closed =>
    have hs' := h.state.trans hs
    refine .inr ⟨_, _, _, _, _, enter_of_closed hs now, enter_of_closed hs' now, h, ?_⟩
    apply hp.insert c <;> simp
  | opened =>
    have hs' := h.state.trans hs
    cases hc : b.cooled now with
    | false =>
      have hc' := (h.cooled hs now).trans hc
      exact .inl ⟨_, enter_of_cooling hs hc, enter_of_cooling hs' hc'⟩
    | true =>
      have hc' := (h.cooled hs now).trans hc
      refine .inr ⟨_, _, _, _, _, enter_of_cooled hs hc, enter_of_cooled hs' hc', ?_,
        hp.first (room hs hc) c⟩
      exact { h with
        state := rfl
        lastFailure := fun _ => h.lastFailure hs
        probes := fun _ => rfl }
  | halfOpen =>
    have hs' := h.state.trans hs
    rcases Nat.lt_or_ge b.probes b.probeBudget.toNat with hlt | hle
    · have hlt' : b'.probes < b'.probeBudget.toNat := by rwa [h.probes hs, h.probeBudget]
      refine .inr ⟨_, _, _, _, _, enter_of_probes_lt hs hlt now, enter_of_probes_lt hs' hlt' now,
        ?_, ?_⟩
      · exact { h with probes := fun _ => congrArg (· + 1) (h.probes hs) }
      · apply hp.insert c <;> simp [eq_comm]
    · have hle' : b'.probeBudget.toNat ≤ b'.probes := by rwa [h.probes hs, h.probeBudget]
      exact .inl ⟨_, enter_of_le_probes hs hle now, enter_of_le_probes hs' hle' now⟩

/-- An outcome makes the same change of both. -/
theorem settle (h : b.Resembles b') (now : Instant) (succeeded : Bool) :
    (b'.settle now succeeded).2 = (b.settle now succeeded).2 ∧
      (b.settle now succeeded).1.Resembles (b'.settle now succeeded).1 := by
  cases hs : b.state with
  | opened =>
    have hs' := h.state.trans hs
    rw [settle_of_opened hs, settle_of_opened hs']
    exact ⟨rfl, h⟩
  | halfOpen =>
    have hs' := h.state.trans hs
    cases succeeded with
    | true =>
      rw [settle_true_of_halfOpen hs, settle_true_of_halfOpen hs']
      exact ⟨rfl, { h with
        state := rfl
        failures := rfl
        lastFailure := fun hs => by cases hs
        probes := fun hs => by cases hs }⟩
    | false =>
      rw [settle_false_of_halfOpen hs, settle_false_of_halfOpen hs']
      exact ⟨rfl, { h with
        state := rfl
        failures := rfl
        lastFailure := fun _ => rfl
        probes := fun hs => by cases hs }⟩
  | closed =>
    have hs' := h.state.trans hs
    cases succeeded with
    | true =>
      rw [settle_true_of_closed hs, settle_true_of_closed hs']
      exact ⟨rfl, { h with failures := rfl }⟩
    | false =>
      rcases Nat.lt_or_ge (b.failures + 1) b.maxFailures.toNat with hlt | hle
      · have hlt' : b'.failures + 1 < b'.maxFailures.toNat := by
          rwa [h.failures, h.maxFailures]
        rw [settle_false_of_lt hs hlt, settle_false_of_lt hs' hlt']
        exact ⟨rfl, { h with
          failures := congrArg (· + 1) h.failures
          lastFailure := fun _ => rfl }⟩
      · have hle' : b'.maxFailures.toNat ≤ b'.failures + 1 := by
          rwa [h.failures, h.maxFailures]
        rw [settle_false_of_le hs hle, settle_false_of_le hs' hle']
        exact ⟨rfl, { h with
          state := rfl
          failures := rfl
          lastFailure := fun _ => rfl
          probes := fun hs => by cases hs }⟩

/-- A call that is lost frees a slot of both or of neither. -/
theorem release (h : b.Resembles b') (hp : Paired b.state b.window b'.window live live')
    (hl : live c = some permit) (hl' : live' c = some permit') :
    (b.release permit).Resembles (b'.release permit') := by
  rcases release_cases b permit with ⟨hs, hw, he⟩ | ⟨hn, he⟩
  · have hw' := (hp.window_iff hs c permit permit' hl hl').2 hw
    rcases release_cases b' permit' with ⟨hs', -, he'⟩ | ⟨hn', -⟩
    · rw [he, he']
      exact { h with probes := fun _ => congrArg (· - 1) (h.probes hs) }
    · exact absurd ⟨h.state.trans hs, hw'⟩ hn'
  · rcases release_cases b' permit' with ⟨hs', hw', -⟩ | ⟨-, he'⟩
    · have hs := h.state.symm.trans hs'
      exact absurd ⟨hs, (hp.window_iff hs c permit permit' hl hl').1 hw'⟩ hn
    · rw [he, he']
      exact h

theorem reset (h : b.Resembles b') : b.reset.1.Resembles b'.reset.1 := by
  rw [reset_fst, reset_fst]
  exact { h with
    state := rfl
    failures := rfl
    lastFailure := fun _ => rfl
    probes := fun _ => rfl }

theorem trip (h : b.Resembles b') (now : Instant) : (b.trip now).1.Resembles (b'.trip now).1 := by
  rw [trip_fst, trip_fst]
  exact { h with
    state := rfl
    failures := by simp only [h.state, h.failures]
    lastFailure := fun _ => rfl
    probes := fun hs => by cases hs }

theorem setProbeBudget (h : b.Resembles b') (n : UInt32) :
    (b.setProbeBudget n).Resembles (b'.setProbeBudget n) :=
  { h with probeBudget := rfl }

end Resembles

namespace Paired

theorem release (hp : Paired b.state b.window b'.window live live') (c : Call)
    (permit permit' : Permit) :
    Paired (b.release permit).state (b.release permit).window (b'.release permit').window
      (Function.update live c none) (Function.update live' c none) := by
  obtain ⟨n, hn⟩ := release_frame b permit
  obtain ⟨n', hn'⟩ := release_frame b' permit'
  rw [hn, hn']
  exact hp.erase c

theorem settle (hp : Paired b.state b.window b'.window live live') (c : Call) (now : Instant)
    (succeeded : Bool) :
    Paired (b.settle now succeeded).1.state (b.settle now succeeded).1.window
      (b'.settle now succeeded).1.window (Function.update live c none)
      (Function.update live' c none) := by
  obtain ⟨hs, hw, -⟩ := settle_frame b now succeeded
  obtain ⟨-, hw', -⟩ := settle_frame b' now succeeded
  rw [hw, hw']
  exact (hp.erase c).outside hs

end Paired

/-! ### Operations on sessions -/

/-- Whether every window that begins in a history has the number after that of the last. -/
def Numbered (h : List Moment) : Prop :=
  ∀ m ∈ h, m.opensWindow = true → m.before.window.toNat + 1 < UInt64.size

namespace Numbered

variable {h h' : List Moment}

theorem left (hn : Numbered (h ++ h')) : Numbered h :=
  fun m hm => hn m (List.mem_append_left _ hm)

theorem right (hn : Numbered (h ++ h')) : Numbered h' :=
  fun m hm => hn m (List.mem_append_right _ hm)

theorem room {rest : Breaker → Permit → List Moment}
    (hn : Numbered (Moment.ofEntry b now c rest)) (hs : b.state = .opened)
    (hc : b.cooled now = true) : b.window.toNat + 1 < UInt64.size := by
  rw [Moment.ofEntry, enter_of_cooled hs hc] at hn
  apply hn _ List.mem_cons_self
  simp [Moment.opensWindow, hs]

end Numbered

variable {ε α : Type}

/-- Two sessions from which everyone gets the same from now on. -/
structure Session.Alike (s s' : Session) : Prop where
  breakers : s.breaker.Resembles s'.breaker
  calls : Paired s.breaker.state s.breaker.window s'.breaker.window (permits s.live)
    (permits s'.live)

/-- Two answers that are the same to whoever asked, and go on alike. -/
structure Answer.Alike (a a' : Answer ε α) : Prop where
  reply : a'.reply = a.reply
  invoked : a'.invoked = a.invoked
  journal : a'.journal = a.journal
  sessions : a.session.Alike a'.session

namespace Session

variable {s s' : Session}

namespace Alike

theorem refuse (h : s.Alike s') (now : Instant) (why : Refusal) :
    (s.refuse now why : Answer ε α).Alike (s'.refuse now why) where
  reply := rfl
  invoked := rfl
  journal := by simp only [Session.refuse, h.breakers.name]
  sessions := h

/-- The same calls are in flight. -/
theorem get? (h : s.Alike s') (id : String) :
    (s.live.get? id = none ∧ s'.live.get? id = none) ∨
      ∃ permit permit', s.live.get? id = some permit ∧ s'.live.get? id = some permit' := by
  have hi : (s'.live.get? id).isSome = (s.live.get? id).isSome := h.calls.inFlight (some id)
  cases hl : s.live.get? id with
  | none =>
    rw [hl] at hi
    exact .inl ⟨rfl, Option.not_isSome_iff_eq_none.1 (by simp [hi])⟩
  | some permit =>
    rw [hl] at hi
    obtain ⟨permit', hl'⟩ := Option.isSome_iff_exists.1 hi
    exact .inr ⟨permit, permit', rfl, hl'⟩

theorem abandon (h : s.Alike s') (id : String) : (s.abandon id).Alike (s'.abandon id) := by
  rcases h.get? id with ⟨hl, hl'⟩ | ⟨permit, permit', hl, hl'⟩
  · simpa [Session.abandon, hl, hl'] using h
  · have hr := h.breakers.release (c := some id) h.calls hl hl'
    have hp := h.calls.release (some id) permit permit'
    constructor
    · simpa [Session.abandon, Session.release, hl, hl'] using hr
    · simpa [Session.abandon, Session.release, hl, hl', permits_erase] using hp

/-- A call without a name comes and goes within its operation. -/
theorem update_permits (live : NameMap Permit) (permit : Permit) :
    Function.update (Function.update (permits live) none (some permit)) none none =
      permits live := by
  rw [Function.update_idem, Function.update_eq_self_iff, permits_none]

theorem call (h : s.Alike s') (now : Instant) (outcome : Except ε α)
    (hn : Numbered (s.moments now (.call outcome))) :
    (s.step now (.call outcome)).Alike (s'.step now (.call outcome)) := by
  rcases h.breakers.enter h.calls hn.room none with ⟨why, he, he'⟩ |
    ⟨b, b', permit, permit', change, he, he', hb, hp⟩
  · simpa [Session.step, Session.enter, he, he'] using h.refuse now why
  · obtain ⟨hc, hb₁⟩ := hb.settle now outcome.toBool
    have hp₁ := hp.settle none now outcome.toBool
    rw [update_permits, update_permits] at hp₁
    constructor
    case reply => simp [Session.step, Session.enter, he, he']
    case invoked => simp [Session.step, Session.enter, he, he']
    case journal => simp [Session.step, Session.enter, Session.settle, he, he', hb.name, hc]
    case sessions =>
      constructor
      · simpa [Session.step, Session.enter, Session.settle, he, he'] using hb₁
      · simpa [Session.step, Session.enter, Session.settle, he, he'] using hp₁

theorem crash (h : s.Alike s') (now : Instant)
    (hn : Numbered (s.moments now (.crash : Op ε α))) :
    (s.step now (.crash : Op ε α)).Alike (s'.step now .crash) := by
  rcases h.breakers.enter h.calls hn.room none with ⟨why, he, he'⟩ |
    ⟨b, b', permit, permit', change, he, he', hb, hp⟩
  · simpa [Session.step, Session.enter, he, he'] using h.refuse now why
  · have hb₁ := hb.release hp (Function.update_self ..) (Function.update_self ..)
    have hp₁ := hp.release none permit permit'
    rw [update_permits, update_permits] at hp₁
    constructor
    case reply => simp [Session.step, Session.enter, he, he']
    case invoked => simp [Session.step, Session.enter, he, he']
    case journal => simp [Session.step, Session.enter, he, he', hb.name]
    case sessions =>
      constructor
      · simpa [Session.step, Session.enter, Session.release, he, he'] using hb₁
      · simpa [Session.step, Session.enter, Session.release, he, he'] using hp₁

theorem start (h : s.Alike s') (now : Instant) (id : String)
    (hn : Numbered (s.moments now (.start id : Op ε α))) :
    (s.step now (.start id : Op ε α)).Alike (s'.step now (.start id)) := by
  have ha := h.abandon id
  rcases ha.breakers.enter ha.calls hn.right.room (some id) with ⟨why, he, he'⟩ |
    ⟨b, b', permit, permit', change, he, he', hb, hp⟩
  · simpa [Session.step, Session.enter, he, he'] using ha.refuse now why
  · constructor
    case reply => simp [Session.step, Session.enter, he, he']
    case invoked => simp [Session.step, Session.enter, he, he']
    case journal => simp [Session.step, Session.enter, he, he', hb.name]
    case sessions =>
      constructor
      · simpa [Session.step, Session.enter, he, he'] using hb
      · simpa [Session.step, Session.enter, he, he', permits_insert] using hp

/-- Nothing comes of a call that is not there. -/
theorem unknown (h : s.Alike s') : (⟨s, .unknown, false, []⟩ : Answer ε α).Alike
    ⟨s', .unknown, false, []⟩ where
  reply := rfl
  invoked := rfl
  journal := rfl
  sessions := h

theorem finish (h : s.Alike s') (now : Instant) (id : String) (outcome : Except ε α) :
    (s.step now (.finish id outcome)).Alike (s'.step now (.finish id outcome)) := by
  rcases h.get? id with ⟨hl, hl'⟩ | ⟨permit, permit', hl, hl'⟩
  · simpa [Session.step, hl, hl'] using h.unknown
  · obtain ⟨hc, hb⟩ := h.breakers.settle now outcome.toBool
    have hp := h.calls.settle (some id) now outcome.toBool
    constructor
    case reply => simp [Session.step, hl, hl']
    case invoked => simp [Session.step, hl, hl']
    case journal => simp [Session.step, Session.settle, hl, hl', h.breakers.name, hc]
    case sessions =>
      constructor
      · simpa [Session.step, Session.settle, hl, hl'] using hb
      · simpa [Session.step, Session.settle, hl, hl', permits_erase] using hp

theorem reset (h : s.Alike s') (now : Instant) :
    (s.step now (.reset : Op ε α)).Alike (s'.step now .reset) := by
  have hc : s'.breaker.reset.2 = s.breaker.reset.2 := by
    rw [change_of_reset, change_of_reset, h.breakers.state, h.breakers.reset.state]
  constructor
  case reply => rfl
  case invoked => rfl
  case journal => simp [Session.step, h.breakers.name, hc]
  case sessions =>
    constructor
    · simpa [Session.step] using h.breakers.reset
    · simpa [Session.step, reset_fst] using h.calls.outside (by simp)

theorem trip (h : s.Alike s') (now : Instant) :
    (s.step now (.trip : Op ε α)).Alike (s'.step now .trip) := by
  have hc : (s'.breaker.trip now).2 = (s.breaker.trip now).2 := by
    rw [change_of_trip, change_of_trip, h.breakers.state, (h.breakers.trip now).state]
  constructor
  case reply => rfl
  case invoked => rfl
  case journal => simp [Session.step, h.breakers.name, hc]
  case sessions =>
    constructor
    · simpa [Session.step] using h.breakers.trip now
    · simpa [Session.step, trip_fst] using h.calls.outside (by simp)

/-- Whoever acts on them gets the same answer. -/
theorem step (h : s.Alike s') (now : Instant) {op : Op ε α} (hop : op.acts = true)
    (hn : Numbered (s.moments now op)) : (s.step now op).Alike (s'.step now op) := by
  cases op with
  | call outcome => exact h.call now outcome hn
  | crash => exact h.crash now hn
  | start id => exact h.start now id hn
  | finish id outcome => exact h.finish now id outcome
  | abandon id =>
    rcases h.get? id with ⟨hl, hl'⟩ | ⟨permit, permit', hl, hl'⟩
    · simpa [Session.step, hl, hl'] using h.unknown
    · simp only [Session.step, hl, hl']
      exact ⟨rfl, rfl, rfl, h.abandon id⟩
  | reset => exact h.reset now
  | trip => exact h.trip now
  | setProbeBudget n => exact ⟨rfl, rfl, rfl, h.breakers.setProbeBudget n, h.calls⟩
  | subscribe _ => cases hop
  | read _ => cases hop
  | observe _ => cases hop
  | collect => cases hop

/-- Those who follow them leave them as they are. -/
theorem step_session (h : s.Alike s') (now : Instant) (op : Op ε α)
    (hn : Numbered (s.moments now op)) :
    (s.step now op).session.Alike (s'.step now op).session ∧
      (s'.step now op).journal = (s.step now op).journal := by
  cases hop : op.acts with
  | true =>
    have ha := h.step now hop hn
    exact ⟨ha.sessions, ha.journal⟩
  | false =>
    obtain ⟨-, hj, hb, -⟩ := step_of_not_acts s now hop
    obtain ⟨-, hj', hb', -⟩ := step_of_not_acts s' now hop
    have hl := live_of_not_acts s now hop
    have hl' := live_of_not_acts s' now hop
    refine ⟨⟨?_, ?_⟩, hj'.trans hj.symm⟩
    · rw [hb, hb']
      exact h.breakers
    · rw [hb, hb', hl, hl']
      exact h.calls

/-- So it is with every run. -/
theorem run (h : s.Alike s') {ops : List (Instant × Op ε α)} (hn : Numbered (s.history ops)) :
    (s.run ops).1.Alike (s'.run ops).1 ∧ (s'.run ops).2 = (s.run ops).2 := by
  induction ops generalizing s s' with
  | nil => exact ⟨h, rfl⟩
  | cons o ops ih =>
    obtain ⟨hs, hj⟩ := h.step_session o.1 o.2 hn.left
    obtain ⟨hr, hjs⟩ := ih hs hn.right
    refine ⟨hr, ?_⟩
    simp only [Session.run, hj, hjs]

end Alike

end Session

end CallGuard.Breaker
