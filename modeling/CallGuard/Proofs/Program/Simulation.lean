import CallGuard.Program.Simulation
import CallGuard.Proofs.Breaker.Availability
import CallGuard.Proofs.Guard
import CallGuard.Proofs.Retry.Attempts

/-! How a simulation goes in a scope that lasts, whatever its settings and however much time
passes. A call is refused, or uses up its attempts on failures, or succeeds with the first
invocation after them and leaves the breaker closed (`round_called`). A closed breaker refuses
nobody, and past the last failure the first attempt succeeds: so after one success there are
only successes (`Calls.of_recovered`), and before it only failures were used up
(`Calls.outcomes_of_le`). Calls go on where the calls before them end (`callsFrom_add`), so that
all of this holds of the beginnings of a simulation too (`recovers`). What is reported are the
successes in their order (`reported_callsFrom`). -/

namespace CallGuard.Simulation

open Breaker

variable {s : Simulation} {plan : Retry.Plan} {pick : Nat → Backoff.Sampler} {scope : Scope}
  {pace took : Nat → Nat} {made number failures attempts : Nat}

/-! ### The attempts of a call -/

section

variable {before : Nat} {now : Instant}

/-- What is tried again is one of the failures. -/
theorem le_of_retried {k : Nat}
    (h : (plan.series pick classifier (operation failures took before) scope now).Retried
      classifier k) : before + k + 1 ≤ failures := by
  obtain ⟨e, error, -⟩ := h
  refine Decidable.byContradiction fun hk => ?_
  cases (if_neg hk).symm.trans error

/-- In a scope that lasts, a call uses up its attempts on failures, or it succeeds with the
first invocation after them. -/
theorem run_cases
    (live : scope.error? (plan.run pick classifier (operation failures took before) scope
      now).now = none) :
    let r := plan.run pick classifier (operation failures took before) scope now
    (r.count = plan.attempts ∧ before + r.count ≤ failures ∧
        r.result = .error (.exhausted plan.attempts ⟨before + r.count⟩)) ∨
      (before + r.count = max failures before + 1 ∧ r.count ≤ plan.attempts ∧
        r.result = .ok (before + r.count)) := by
  intro r
  let s := plan.series pick classifier (operation failures took before) scope now
  have hs : s.rule = plan.rule pick classifier := rfl
  have hloop : Retry.Loop s.rule s.op 0 s.scope s.now r :=
    plan.run_loop pick classifier (operation failures took before) scope now
  have hscope : r.scope = scope := Retry.Series.scope_run (fun _ _ _ => rfl) hloop
  obtain ⟨n, hn⟩ := Retry.Plan.settles_of_live hs hloop (by rw [hscope]; exact live)
  have hleft := hn.left
  have hcount : r.count = n + 1 := hn.makes.count
  obtain ⟨signals, hv⟩ := hn.verdict
  have houtcome : (s.attempt n).outcome =
      if before + n + 1 ≤ failures then .error ⟨before + n + 1⟩ else .ok (before + n + 1) := rfl
  rcases Retry.Plan.settled_cases hs hv with ⟨v, value, hr, -⟩ | ⟨e, -, -, declined, -⟩ |
    ⟨e, -, error, -, last, hr, -⟩
  · have past : ¬ before + n + 1 ≤ failures := by
      intro hle
      cases ((if_pos hle).symm.trans (houtcome.symm.trans value))
    -- the attempt before it, if there is one, was tried again
    have first : n = 0 ∨ before + n ≤ failures := by
      cases n with
      | zero => exact .inl rfl
      | succ n => exact .inr (le_of_retried (hn.retried n (Nat.lt_succ_self n)))
    obtain rfl : before + n + 1 = v :=
      Except.ok.inj ((if_neg past).symm.trans (houtcome.symm.trans value))
    refine .inr ⟨by omega, by omega, ?_⟩
    rw [hr, hcount]
    rfl
  · cases declined
  · have within : before + n + 1 ≤ failures := le_of_retried ⟨e, error, rfl⟩
    obtain rfl : (⟨before + n + 1⟩ : Failure) = e :=
      Except.error.inj ((if_pos within).symm.trans (houtcome.symm.trans error))
    have all : n + 1 = plan.attempts := by omega
    refine .inl ⟨by omega, by omega, ?_⟩
    rw [hr, hcount, ← all]
    rfl

theorem le_run (plan : Retry.Plan) (pick : Nat → Backoff.Sampler) (failures : Nat)
    (took : Nat → Nat) (before : Nat) (scope : Scope) (now : Instant) :
    now ≤ (plan.run pick classifier (operation failures took before) scope now).now :=
  Retry.Series.le_run
    (s := plan.series pick classifier (operation failures took before) scope now)
    (fun _ _ now => Nat.le_add_right now _) (plan.run_loop ..)

end

/-! ### One call -/

/-- An outcome without a success: the call was refused, or its attempts were used up. -/
inductive Lost (failures attempts : Nat) : Outcome → Prop
  | refused (why : Refusal) : Lost failures attempts (.error (.refused why))
  | failed {n : Nat} (le : n ≤ failures) :
      Lost failures attempts (.error (.failed (.exhausted attempts ⟨n⟩)))

/-- After a success: the breaker is closed, it has no failures to count, and the dependency has
none left. -/
structure Recovered (failures : Nat) (state : State) : Prop where
  closed : state.session.breaker.state = .closed
  cleared : state.session.breaker.failures = 0
  past : failures < state.invocations

/-- What a call comes to and does, from a state to another. -/
inductive Called (failures attempts : Nat) (before : State) : Outcome → State → Prop
  | refused {session : Session} {now : Instant} (why : Refusal)
      (notClosed : before.session.breaker.state ≠ .closed) :
      Called failures attempts before (.error (.refused why))
        ⟨session, before.invocations, now⟩
  | failed {session : Session} {n : Nat} {now : Instant} (count : n = before.invocations + attempts)
      (le : n ≤ failures) :
      Called failures attempts before (.error (.failed (.exhausted attempts ⟨n⟩)))
        ⟨session, n, now⟩
  | succeeded {session : Session} {n : Nat} {now : Instant}
      (recovered : Recovered failures ⟨session, n, now⟩)
      (first : n = max failures before.invocations + 1) (le : n ≤ before.invocations + attempts) :
      Called failures attempts before (.ok n) ⟨session, n, now⟩

section

variable {state : State}

/-- A call that is refused does nothing. -/
theorem call_of_refused {why : Refusal}
    (he : state.session.breaker.enter state.now = .refused why) :
    (s.call plan pick scope took number state).1 = state ∧
      (s.call plan pick scope took number state).2.1 = .error (.refused why) := by
  obtain ⟨hs, hr, hn⟩ := Session.guard_of_refused
    (plan.run pick classifier (operation s.failures took state.invocations)) scope he
  simp only [call]
  rw [hs, hr, hn]
  exact ⟨rfl, rfl⟩

/-- The breaker of any other records what its attempts come to. -/
theorem call_of_admitted {b : Breaker} {permit : Permit} {change : Option Change}
    (he : state.session.breaker.enter state.now = .admitted b permit change) :
    let r := plan.run pick classifier (operation s.failures took state.invocations) scope
      state.now
    (s.call plan pick scope took number state).1 =
        ⟨(state.session.follow (b, change)).follow (b.settle r.now r.result.toBool),
          state.invocations + r.count, r.now⟩ ∧
      (s.call plan pick scope took number state).2.1 = r.result.mapError .failed := by
  obtain ⟨hs, hr, hn⟩ := Session.guard_of_admitted
    (plan.run pick classifier (operation s.failures took state.invocations)) scope he
  simp only [call]
  rw [hs, hr, hn]
  exact ⟨rfl, rfl⟩

theorem le_call (s : Simulation) (plan : Retry.Plan) (pick : Nat → Backoff.Sampler)
    (scope : Scope) (took : Nat → Nat) (number : Nat) (state : State) :
    state.now ≤ (s.call plan pick scope took number state).1.now := by
  cases he : state.session.breaker.enter state.now with
  | refused why => rw [(call_of_refused he).1]
  | admitted b permit change =>
    rw [(call_of_admitted he).1]
    exact le_run plan pick s.failures took state.invocations scope state.now

theorem call_called (live : scope.error? (s.call plan pick scope took number state).1.now = none) :
    Called s.failures plan.attempts state (s.call plan pick scope took number state).2.1
      (s.call plan pick scope took number state).1 := by
  cases he : state.session.breaker.enter state.now with
  | refused why =>
    have notClosed : state.session.breaker.state ≠ .closed := by
      intro hc
      cases (enter_of_closed hc state.now).symm.trans he
    rw [(call_of_refused he).1, (call_of_refused he).2]
    exact .refused why notClosed
  | admitted b permit change =>
    rw [(call_of_admitted he).1] at live ⊢
    rw [(call_of_admitted he).2]
    rcases run_cases live with ⟨hcount, hle, hresult⟩ | ⟨hcount, hle, hresult⟩
    · rw [hresult]
      exact .failed (congrArg (state.invocations + ·) hcount) hle
    · rw [hresult]
      refine .succeeded ⟨?_, ?_, ?_⟩ hcount (Nat.add_le_add_left hle state.invocations)
      · rw [Session.follow_breaker]
        exact ((decided_of_admitted he _ true).closed rfl).1
      · rw [Session.follow_breaker]
        exact ((decided_of_admitted he _ true).closed rfl).2
      · show s.failures < state.invocations + _
        omega

theorem Recovered.later (h : Recovered failures state) (now : Instant) :
    Recovered failures { state with now } :=
  ⟨h.closed, h.cleared, h.past⟩

/-- The time does not matter. -/
theorem Called.shift {before after : State} {outcome : Outcome} {start now : Instant}
    (h : Called failures attempts { before with now := start } outcome after) :
    Called failures attempts before outcome { after with now } := by
  cases h with
  | refused why notClosed => exact .refused why notClosed
  | failed count le => exact .failed count le
  | succeeded recovered first le => exact .succeeded (recovered.later now) first le

end

/-! ### Calls one after the other -/

/-- What calls come to and do, one after the other. -/
inductive Calls (failures attempts : Nat) : State → List Outcome → State → Prop
  | nil (state : State) : Calls failures attempts state [] state
  | cons {before between after : State} {outcome : Outcome} {outcomes : List Outcome}
      (called : Called failures attempts before outcome between)
      (rest : Calls failures attempts between outcomes after) :
      Calls failures attempts before (outcome :: outcomes) after

section

variable {before after : State} {outcomes : List Outcome}

/-- After a success there are only successes, each at the first attempt. -/
theorem Calls.of_recovered (h : Calls failures attempts before outcomes after)
    (recovered : Recovered failures before) :
    outcomes = (List.range' (before.invocations + 1) outcomes.length).map .ok ∧
      Recovered failures after ∧ after.invocations = before.invocations + outcomes.length := by
  induction h with
  | nil state => exact ⟨rfl, recovered, rfl⟩
  | @cons before between after outcome outcomes called rest ih =>
    have past := recovered.past
    cases called with
    | refused why notClosed => exact absurd recovered.closed notClosed
    | failed count le => omega
    | @succeeded session n now recovered first le =>
      obtain rfl : n = before.invocations + 1 := by omega
      obtain ⟨values, recovered, total⟩ := ih recovered
      refine ⟨?_, recovered, ?_⟩
      · rw [List.length_cons, List.range'_succ, List.map_cons, ← values]
      · rw [total, List.length_cons]
        show before.invocations + 1 + outcomes.length = _
        omega

/-- Before the first success there are only calls without one. -/
theorem Calls.outcomes_of_le (h : Calls failures attempts before outcomes after)
    (le : before.invocations ≤ failures) :
    ∃ lost won, (∀ o ∈ lost, Lost failures attempts o) ∧
      outcomes = lost ++ (List.range' (failures + 1) won).map .ok ∧
      (won = 0 ∧ after.invocations ≤ failures ∨
        0 < won ∧ Recovered failures after ∧ after.invocations = failures + won) := by
  induction h with
  | nil state => exact ⟨[], 0, by simp, rfl, .inl ⟨rfl, le⟩⟩
  | @cons before between after outcome outcomes called rest ih =>
    cases called with
    | refused why notClosed =>
      obtain ⟨lost, won, hlost, rfl, hafter⟩ := ih le
      exact ⟨_ :: lost, won, List.forall_mem_cons.2 ⟨.refused why, hlost⟩, rfl, hafter⟩
    | failed count within =>
      obtain ⟨lost, won, hlost, rfl, hafter⟩ := ih within
      exact ⟨_ :: lost, won, List.forall_mem_cons.2 ⟨.failed within, hlost⟩, rfl, hafter⟩
    | @succeeded session n now recovered first within =>
      obtain rfl : n = failures + 1 := by rw [first, Nat.max_eq_left le]
      -- the dependency has recovered, and no more calls are lost
      obtain ⟨values, recovered, total⟩ := rest.of_recovered recovered
      refine ⟨[], outcomes.length + 1, by simp, ?_, .inr ⟨by omega, recovered, ?_⟩⟩
      · rw [List.nil_append, List.range'_succ, List.map_cons, ← values]
      · rw [total]
        show failures + 1 + outcomes.length = _
        omega

/-- No call makes more invocations than it has attempts. -/
theorem Calls.invocations_le (h : Calls failures attempts before outcomes after) :
    after.invocations ≤ before.invocations + outcomes.length * attempts := by
  induction h with
  | nil state => exact Nat.le_add_right _ _
  | @cons before between after outcome outcomes called rest ih =>
    have step : between.invocations ≤ before.invocations + attempts := by
      cases called with
      | refused => exact Nat.le_add_right _ _
      | failed count => exact Nat.le_of_eq count
      | succeeded _ _ le => exact le
    rw [List.length_cons, Nat.succ_mul]
    omega

end

/-! ### The calls of a simulation -/

/-- A state some time later. -/
abbrev State.after (state : State) (pause : Nat) : State := { state with now := state.now + pause }

/-- A call with the time before it and the wait after it. -/
def round (s : Simulation) (plan : Retry.Plan) (pick : Nat → Backoff.Sampler) (scope : Scope)
    (pace took : Nat → Nat) (made : Nat) (state : State) : State × Outcome × Journal :=
  let (after, outcome, journal) :=
    s.call plan pick scope took (made + 1) (state.after (pace made))
  ({ after with now := Instant.sleepEnd after.now s.interval }, outcome, journal)

section

variable {state : State} {left more : Nat}

theorem round_called
    (live : scope.error? (s.round plan pick scope pace took made state).1.now = none) :
    Called s.failures plan.attempts state (s.round plan pick scope pace took made state).2.1
      (s.round plan pick scope pace took made state).1 :=
  (call_called (Scope.live_of_le live (Instant.le_sleepEnd _ _))).shift

section

variable (s plan pick scope pace took made left state)

theorem le_round : state.now ≤ (s.round plan pick scope pace took made state).1.now :=
  calc state.now ≤ (state.after (pace made)).now := Nat.le_add_right _ _
    _ ≤ (s.call plan pick scope took (made + 1) (state.after (pace made))).1.now := le_call ..
    _ ≤ (s.round plan pick scope pace took made state).1.now := Instant.le_sleepEnd _ _

/-- Some more calls are a round and the calls after it, unless the scope ends in the round. -/
theorem callsFrom_succ_cases :
    let round := s.round plan pick scope pace took made state
    let rest := s.callsFrom plan pick scope pace took (made + 1) left round.1
    let e := s.callsFrom plan pick scope pace took made (left + 1) state
    e = ⟨round.2.1 :: rest.outcomes, rest.state, round.2.2 ++ rest.journal⟩ ∨
      ∃ error, scope.Over error e.state.now ∧ state.now ≤ e.state.now ∧
        e.state.now ≤ round.1.now := by
  intro round rest e
  let before := state.after (pace made)
  let called := s.call plan pick scope took (made + 1) before
  have hbefore : state.now ≤ before.now := Nat.le_add_right _ _
  have hcalled : before.now ≤ called.1.now := le_call ..
  cases begun : scope.error? before.now with
  | some error =>
    have he : e = ⟨[], before, []⟩ := if_pos (Option.isSome_iff_exists.2 ⟨error, begun⟩)
    rw [he]
    exact .inr ⟨error, Scope.over_of_error? begun, hbefore,
      Nat.le_trans hcalled (Instant.le_sleepEnd _ _)⟩
  | none =>
    have begins : ¬(scope.error? before.now).isSome = true :=
      Option.not_isSome_iff_eq_none.2 begun
    cases slept : scope.sleep called.1.now s.interval with
    | error cut =>
      obtain ⟨wakes, hlt⟩ := Scope.wakes_of_sleep_error (t := cut.1) (e := cut.2) slept
      have hcut : called.1.now ≤ cut.1 := Scope.le_of_alarm wakes.rings
      have he : e = ⟨[called.2.1], { called.1 with now := cut.1 }, called.2.2⟩ := by
        simp only [e, callsFrom]
        rw [if_neg begins, slept]
      rw [he]
      exact .inr ⟨cut.2, wakes.ended, Nat.le_trans hbefore (Nat.le_trans hcalled hcut),
        Nat.le_of_lt hlt⟩
    | ok t =>
      obtain rfl := (Scope.sleep_ok slept).1
      left
      simp only [e, callsFrom]
      rw [if_neg begins, slept]
      rfl

theorem le_callsFrom :
    state.now ≤ (s.callsFrom plan pick scope pace took made left state).state.now := by
  induction left generalizing made state with
  | zero => exact Nat.le_refl _
  | succ left ih =>
    rcases callsFrom_succ_cases s plan pick scope pace took made state left with
      h | ⟨_, -, le, -⟩
    · rw [h]
      exact Nat.le_trans (le_round ..) (ih ..)
    · exact le

end

theorem callsFrom_succ
    (live : scope.error? (s.round plan pick scope pace took made state).1.now = none) :
    let round := s.round plan pick scope pace took made state
    let rest := s.callsFrom plan pick scope pace took (made + 1) left round.1
    s.callsFrom plan pick scope pace took made (left + 1) state =
      ⟨round.2.1 :: rest.outcomes, rest.state, round.2.2 ++ rest.journal⟩ := by
  rcases callsFrom_succ_cases s plan pick scope pace took made state left with
    h | ⟨error, ended, -, le⟩
  · exact h
  · exact absurd (ended.mono le) (Scope.error?_eq_none_iff.1 live error)

/-- A scope that lasts until the calls are made lasts through the first round. -/
theorem live_round
    (live : scope.error?
      (s.callsFrom plan pick scope pace took made (left + 1) state).state.now = none) :
    scope.error? (s.round plan pick scope pace took made state).1.now = none := by
  rcases callsFrom_succ_cases s plan pick scope pace took made state left with
    h | ⟨error, ended, -, -⟩
  · rw [h] at live
    exact Scope.live_of_le live (le_callsFrom ..)
  · exact absurd ended (Scope.error?_eq_none_iff.1 live error)

/-- Calls go on where the calls before them end. -/
theorem callsFrom_add
    (live : scope.error?
      (s.callsFrom plan pick scope pace took made (left + more) state).state.now = none) :
    let first := s.callsFrom plan pick scope pace took made left state
    let rest := s.callsFrom plan pick scope pace took (made + left) more first.state
    s.callsFrom plan pick scope pace took made (left + more) state =
      ⟨first.outcomes ++ rest.outcomes, rest.state, first.journal ++ rest.journal⟩ := by
  induction left generalizing made state with
  | zero =>
    intro first rest
    rw [Nat.zero_add]
    rfl
  | succ left ih =>
    rw [Nat.add_right_comm] at live ⊢
    -- the round is the first of the first calls, and of them all
    have lasts := live_round live
    rw [callsFrom_succ lasts] at live
    rw [callsFrom_succ lasts, callsFrom_succ lasts, ih live, Nat.add_right_comm made 1 left]
    simp only [List.cons_append, List.append_assoc]
    rfl

/-- In a scope that lasts, all calls are made. -/
theorem calls_of_live
    (live : scope.error?
      (s.callsFrom plan pick scope pace took made left state).state.now = none) :
    let e := s.callsFrom plan pick scope pace took made left state
    Calls s.failures plan.attempts state e.outcomes e.state ∧ e.outcomes.length = left := by
  induction left generalizing made state with
  | zero => exact ⟨.nil state, rfl⟩
  | succ left ih =>
    have lasts := live_round live
    rw [callsFrom_succ lasts] at live ⊢
    obtain ⟨calls, length⟩ := ih live
    exact ⟨.cons (round_called lasts) calls, congrArg Nat.succ length⟩

end

/-! ### What is reported -/

/-- A success as it is reported: the number of the call and that of its last invocation, and the
state of the breaker after it. -/
structure Success where
  call : Nat
  invocation : Nat
  state : Breaker.State

def success? : Signal → Option Success
  | .callSucceeded call invocation state => some ⟨call, invocation, state⟩
  | _ => none

/-- The successes that a journal reports. -/
def reported (j : Journal) : List Success := j.filterMap fun e => success? e.signal

@[simp] theorem reported_append (j j' : Journal) :
    reported (j ++ j') = reported j ++ reported j' := List.filterMap_append

@[simp] theorem reported_stamp (now : Instant) (signals : List Signal) :
    reported (.stamp now signals) = signals.filterMap success? := by
  rw [reported, Journal.stamp, List.filterMap_map]
  rfl

@[simp] theorem reported_ofChange (now : Instant) (breaker : String) (change : Option Change) :
    reported (.ofChange now breaker change) = [] := by
  cases change <;> rfl

@[simp] theorem reported_obtain (r : Registry) (now : Instant) (name : String) :
    reported (r.obtain now name).2.2 = [] := by
  cases h : r.get? name with
  | some session => simp [Registry.obtain, h, reported]
  | none => simp [Registry.obtain, h, success?]

/-- What is told of an attempt is not about calls. -/
theorem reported_told {series : Retry.Series Failure Nat}
    (hs : series.rule = plan.rule pick classifier) (k : Nat) : reported (series.told k) = [] := by
  have h := Retry.Plan.judged hs k
  rw [Retry.Series.told, reported_stamp]
  generalize (series.attempt k).outcome = outcome at h
  generalize series.verdict k = verdict at h
  cases h <;> rfl

theorem reported_run (plan : Retry.Plan) (pick : Nat → Backoff.Sampler) (failures : Nat)
    (took : Nat → Nat) (before : Nat) (scope : Scope) (now : Instant) :
    reported (plan.run pick classifier (operation failures took before) scope now).journal =
      [] := by
  let s := plan.series pick classifier (operation failures took before) scope now
  have hs : s.rule = plan.rule pick classifier := rfl
  have hloop : Retry.Loop s.rule s.op 0 s.scope s.now
      (plan.run pick classifier (operation failures took before) scope now) := plan.run_loop ..
  rcases Retry.Series.run_of_loop hloop with ⟨e, -, h⟩ | ⟨n, hn⟩
  · rw [h]
    rfl
  · rw [hn.journal_eq, reported, List.filterMap_flatMap, List.flatMap_eq_nil_iff]
    intro k _
    exact reported_told hs k

section

variable {state : State} {left : Nat}

/-- A guarded run is reported by its caller. -/
theorem reported_guard (session : Session) (plan : Retry.Plan) (pick : Nat → Backoff.Sampler)
    (failures : Nat) (took : Nat → Nat) (before : Nat) (scope : Scope) (now : Instant) :
    reported (session.guard (plan.run pick classifier (operation failures took before)) scope
      now).journal = [] := by
  cases he : session.breaker.enter now with
  | refused why => simp [Session.guard, Session.enter, he, success?]
  | admitted b permit change => simp [Session.guard, Session.enter, he, reported_run]

/-- A call is reported as a success if it is one. -/
theorem reported_call :
    let call := s.call plan pick scope took number state
    reported call.2.2 =
      (call.2.1.toOption.map (⟨number, ·, call.1.session.breaker.state⟩)).toList := by
  intro call
  simp only [call, Simulation.call, reported_append, reported_guard, reported_stamp]
  generalize Session.guard _ _ _ _ = g
  obtain ⟨session, result, run, journal⟩ := g
  cases result with
  | ok n => rfl
  | error e => cases e <;> rfl

/-- The report of the call of a number as a success that leaves the breaker closed, if it is
a success. -/
def success (call : Outcome × Nat) : Option Success := call.1.toOption.map (⟨call.2, ·, .closed⟩)

theorem reported_round
    (live : scope.error? (s.round plan pick scope pace took made state).1.now = none) :
    reported (s.round plan pick scope pace took made state).2.2 =
      (success ((s.round plan pick scope pace took made state).2.1, made + 1)).toList := by
  have called := round_called live
  have hcall : reported (s.round plan pick scope pace took made state).2.2 =
      ((s.round plan pick scope pace took made state).2.1.toOption.map
        (⟨made + 1, ·, (s.round plan pick scope pace took made state).1.session.breaker.state⟩)
      ).toList := reported_call
  rw [hcall]
  generalize (s.round plan pick scope pace took made state).1 = after at called ⊢
  generalize (s.round plan pick scope pace took made state).2.1 = outcome at called ⊢
  cases called with
  | refused why notClosed => rfl
  | failed count le => rfl
  | succeeded recovered first le => rw [recovered.closed]; rfl

/-- In a scope that lasts, the successes are reported in order. -/
theorem reported_callsFrom
    (live : scope.error?
      (s.callsFrom plan pick scope pace took made left state).state.now = none) :
    let e := s.callsFrom plan pick scope pace took made left state
    reported e.journal = (e.outcomes.zipIdx (made + 1)).filterMap success := by
  induction left generalizing made state with
  | zero => rfl
  | succ left ih =>
    have lasts := live_round live
    rw [callsFrom_succ lasts] at live ⊢
    simp only [reported_append, reported_round lasts, List.zipIdx_cons, List.filterMap_cons]
    rw [ih live]
    cases success ((s.round plan pick scope pace took made state).2.1, made + 1) <;> rfl

end

theorem Lost.success_eq_none {o : Outcome} (h : Lost failures attempts o) (number : Nat) :
    success (o, number) = none := by
  cases h <;> rfl

/-- Where the successes come last, so do their reports. -/
theorem filterMap_success {lost : List Outcome} (hlost : ∀ o ∈ lost, Lost failures attempts o)
    (won : Nat) :
    ((lost ++ (List.range' (failures + 1) won).map Except.ok).zipIdx 1).filterMap success =
      (List.range won).map fun i => ⟨lost.length + i + 1, failures + i + 1, .closed⟩ := by
  induction won with
  | zero =>
    rw [List.range'_zero, List.map_nil, List.append_nil]
    refine List.filterMap_eq_nil_iff.2 fun o ho => ?_
    exact (hlost o.1 (List.fst_mem_of_mem_zipIdx ho)).success_eq_none o.2
  | succ won ih =>
    rw [List.range'_concat, List.map_append, ← List.append_assoc, List.zipIdx_append,
      List.filterMap_append, ih, List.range_succ, List.map_append, List.length_append,
      List.length_map, List.length_range']
    have number : 1 + (lost.length + won) = lost.length + won + 1 := by omega
    have invocation : failures + 1 + 1 * won = failures + won + 1 := by omega
    rw [number, invocation]
    rfl

/-! ### Every simulation recovers -/

/-- The number of calls that succeed. -/
def Ending.successes (e : Ending) : Nat := e.outcomes.countP (·.isOk)

/-- What a simulation begins with. -/
def start (s : Simulation) (c : Config) (now : Instant) : State :=
  ⟨((Registry.ofConfig c).obtain now s.dependency).2.1, 0, now⟩

section

variable (s : Simulation) (c : Config) (pick : Nat → Backoff.Sampler) (scope : Scope)
  (pace took : Nat → Nat) (now : Instant)

/-- The first so many calls of a simulation. -/
def first (k : Nat) : Ending :=
  s.callsFrom (.ofSettings c.retry) pick scope pace took 0 k (s.start c now)

/-- Its calls after them. -/
def rest (k : Nat) : Ending :=
  s.callsFrom (.ofSettings c.retry) pick scope pace took k (s.calls - k)
    (s.first c pick scope pace took now k).state

end

/-- What a simulation comes to whose calls make so many attempts at most each. -/
structure Recovers (s : Simulation) (attempts : Nat) (e : Ending) (first rest : Nat → Ending) :
    Prop where
  made : e.outcomes.length = s.calls
  /-- The calls that succeed come last. In order they have the invocations after the failures. -/
  outcomes : ∃ lost, (∀ o ∈ lost, Lost s.failures attempts o) ∧
    e.outcomes = lost ++ (List.range' (s.failures + 1) e.successes).map .ok
  /-- So they are reported, each with a closed breaker. -/
  reported : Simulation.reported e.journal = (List.range e.successes).map fun i =>
    ⟨s.calls - e.successes + i + 1, s.failures + i + 1, .closed⟩
  /-- There is one invocation for each failure and each success, -/
  total : 0 < e.successes → e.state.invocations = s.failures + e.successes
  /-- or some of the failures are left. -/
  total_le_failures : e.successes = 0 → e.state.invocations ≤ s.failures
  total_le : e.state.invocations ≤ s.calls * attempts
  /-- The number of an invocation stays in its range. -/
  total_lt : e.state.invocations < UInt32.size
  /-- After any number of its calls a simulation goes on from what they left. -/
  cut : ∀ k ≤ s.calls, (first k).outcomes.length = k ∧
    e.outcomes = (first k).outcomes ++ (rest k).outcomes ∧ e.state = (rest k).state
  /-- If one of them has succeeded the breaker is closed and has no failures to count, -/
  closed : ∀ k ≤ s.calls, ∀ n, .ok n ∈ (first k).outcomes →
    (first k).state.session.breaker.state = .closed ∧
      (first k).state.session.breaker.failures = 0
  /-- and none of the others is refused or fails. -/
  succeeds : ∀ k ≤ s.calls, ∀ n, .ok n ∈ (first k).outcomes →
    ∀ o ∈ (rest k).outcomes, ∃ m, o = .ok m

theorem Lost.ne_ok {o : Outcome} (h : Lost failures attempts o) (n : Nat) : o ≠ .ok n := by
  rintro rfl
  cases h

theorem successes_eq {e : Ending} {lost : List Outcome} {won : Nat}
    (hlost : ∀ o ∈ lost, Lost failures attempts o)
    (h : e.outcomes = lost ++ (List.range' (failures + 1) won).map .ok) : e.successes = won := by
  have lostNone : lost.countP (·.isOk) = 0 := by
    rw [List.countP_eq_zero]
    intro o ho hok
    cases hlost o ho <;> cases hok
  have wonAll : ∀ o ∈ (List.range' (failures + 1) won).map Except.ok,
      (o : Outcome).isOk = true := by
    intro o ho
    obtain ⟨n, -, rfl⟩ := List.mem_map.1 ho
    rfl
  rw [Ending.successes, h, List.countP_append, lostNone, List.countP_eq_length.2 wonAll,
    List.length_map, List.length_range', Nat.zero_add]

/-- Where there is a success among calls, the dependency has recovered after them. -/
theorem Calls.recovered {before after : State} {outcomes : List Outcome}
    (h : Calls failures attempts before outcomes after) (le : before.invocations ≤ failures)
    {n : Nat} (hn : .ok n ∈ outcomes) : Recovered failures after := by
  obtain ⟨lost, won, hlost, rfl, ⟨rfl, -⟩ | ⟨-, recovered, -⟩⟩ := h.outcomes_of_le le
  · rw [List.range'_zero, List.map_nil, List.append_nil] at hn
    exact absurd rfl ((hlost _ hn).ne_ok n)
  · exact recovered

section

variable {c : Config} {now : Instant} {k : Nat}
  (live : scope.error? (s.first c pick scope pace took now s.calls).state.now = none)
  (hk : k ≤ s.calls)

include live hk

/-- The first calls of a simulation and those after them are all its calls. -/
theorem first_eq_append :
    s.first c pick scope pace took now s.calls =
      ⟨(s.first c pick scope pace took now k).outcomes ++
          (s.rest c pick scope pace took now k).outcomes,
        (s.rest c pick scope pace took now k).state,
        (s.first c pick scope pace took now k).journal ++
          (s.rest c pick scope pace took now k).journal⟩ := by
  obtain ⟨more, hmore⟩ := Nat.exists_eq_add_of_le hk
  have hrest : s.calls - k = more := by omega
  rw [first, hmore] at live
  unfold rest
  rw [hrest, first, hmore, callsFrom_add live, Nat.zero_add]
  rfl

theorem live_first :
    scope.error? (s.first c pick scope pace took now k).state.now = none := by
  rw [first_eq_append live hk] at live
  exact Scope.live_of_le live (le_callsFrom ..)

theorem calls_first :
    Calls s.failures (max 1 c.retry.maxAttempts.toNat) (s.start c now)
        (s.first c pick scope pace took now k).outcomes
        (s.first c pick scope pace took now k).state ∧
      (s.first c pick scope pace took now k).outcomes.length = k :=
  calls_of_live (live_first live hk)

theorem reported_first :
    reported (s.first c pick scope pace took now k).journal =
      ((s.first c pick scope pace took now k).outcomes.zipIdx 1).filterMap success :=
  reported_callsFrom (live_first live hk)

theorem calls_rest :
    Calls s.failures (max 1 c.retry.maxAttempts.toNat)
      (s.first c pick scope pace took now k).state
      (s.rest c pick scope pace took now k).outcomes
      (s.rest c pick scope pace took now k).state := by
  rw [first_eq_append live hk] at live
  exact (calls_of_live live).1

end

/-- In a scope that lasts, whatever the settings and however much time passes, a simulation
recovers for good with its first success. -/
theorem recovers (s : Simulation) (c : Config) (pick : Nat → Backoff.Sampler) (scope : Scope)
    (pace took : Nat → Nat) (now : Instant) (fits : s.failures + s.calls < UInt32.size)
    (live : scope.error? (s.run c pick scope pace took now).state.now = none) :
    s.Recovers (max 1 c.retry.maxAttempts.toNat) (s.run c pick scope pace took now)
      (s.first c pick scope pace took now) (s.rest c pick scope pace took now) := by
  obtain ⟨houtcomes, hstate⟩ : (s.run c pick scope pace took now).outcomes =
        (s.first c pick scope pace took now s.calls).outcomes ∧
      (s.run c pick scope pace took now).state =
        (s.first c pick scope pace took now s.calls).state := ⟨rfl, rfl⟩
  have hreported : reported (s.run c pick scope pace took now).journal =
      reported (s.first c pick scope pace took now s.calls).journal := by
    simp [run, first, start, success?]
  generalize s.run c pick scope pace took now = e at *
  rw [hstate] at live
  have begins : (s.start c now).invocations = 0 := rfl
  have le : (s.start c now).invocations ≤ s.failures := by omega
  obtain ⟨calls, length⟩ := calls_first live (Nat.le_refl _)
  have hmost := calls.invocations_le
  rw [← houtcomes, ← hstate] at calls hmost
  rw [← houtcomes] at length
  obtain ⟨lost, won, hlost, hshape, htotal⟩ := calls.outcomes_of_le le
  have hsuccesses : e.successes = won := successes_eq hlost hshape
  have hwon : won ≤ s.calls := by
    rw [← hsuccesses, ← length]
    exact List.countP_le_length
  rw [begins, length, Nat.zero_add] at hmost
  exact {
    made := length
    outcomes := ⟨lost, hlost, by rw [hsuccesses]; exact hshape⟩
    reported := by
      have hcalls : lost.length = s.calls - e.successes := by
        rw [hsuccesses, ← length, hshape, List.length_append, List.length_map, List.length_range']
        omega
      rw [hreported, reported_first live (Nat.le_refl _), ← houtcomes, hshape,
        filterMap_success hlost, hcalls, hsuccesses]
    total := by omega
    total_le_failures := by omega
    total_le := hmost
    total_lt := by omega
    cut := by
      intro k hk
      rw [houtcomes, hstate, first_eq_append live hk]
      exact ⟨(calls_first live hk).2, rfl, rfl⟩
    closed := by
      intro k hk n hn
      have recovered := (calls_first live hk).1.recovered le hn
      exact ⟨recovered.closed, recovered.cleared⟩
    succeeds := by
      intro k hk n hn o ho
      have recovered := (calls_first live hk).1.recovered le hn
      rw [((calls_rest live hk).of_recovered recovered).1] at ho
      obtain ⟨m, -, rfl⟩ := List.mem_map.1 ho
      exact ⟨m, rfl⟩ }

/-- Five calls, the first three invocations being failures. -/
def quotes : Simulation := ⟨"quotes", 3, 5, .ofMillis 60⟩

/-- A breaker that opens at the first failed call, around two attempts. -/
def impatient : Config where
  breakerDefaults := { maxFailures := 1, resetTimeoutMs := 100 }
  retry := { maxAttempts := 2, randomizeFactor := 0 }

/-- The first call uses up two failures, the second is refused, and the third is a probe whose
second attempt succeeds. -/
theorem recovers_in_probe :
    let pick := fun _ => Backoff.Band.middle
    let scope : Scope := ⟨none, some 2000000000⟩
    let e := quotes.run impatient pick scope (fun _ => 1000) (fun _ => 7000) 0
    quotes.failures + quotes.calls < UInt32.size ∧ scope.error? e.state.now = none ∧
      quotes.Recovers 2 e
        (quotes.first impatient pick scope (fun _ => 1000) (fun _ => 7000) 0)
        (quotes.rest impatient pick scope (fun _ => 1000) (fun _ => 7000) 0) ∧
      e.outcomes.map Except.toOption = [none, none, some 4, some 5, some 6] ∧
      e.state.invocations = 6 := by
  intro pick scope e
  have fits : quotes.failures + quotes.calls < UInt32.size := by decide
  have live : scope.error? e.state.now = none := by decide +kernel
  refine ⟨fits, live, ?_, by decide +kernel, by decide +kernel⟩
  exact recovers quotes impatient pick scope (fun _ => 1000) (fun _ => 7000) 0 fits live

end CallGuard.Simulation
