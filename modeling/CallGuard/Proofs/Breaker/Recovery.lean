import CallGuard.Proofs.Breaker.Slots

/-! What decides over recovery. Whatever outcome is recorded while the breaker is half open
closes or opens it, whoever it comes from: a probe of the present window, a call let in
before the window, or a probe of an earlier one. So the probes of the window alone decide
just in those runs in which no such late call ends with an outcome before they do
(`recovery_decided`), and there are others (`late_success_closes`). -/

namespace CallGuard.Breaker

variable {H : List Moment} {m : Moment} {live live' : Call → Option Permit}

/-- The half-open state is left by hand or for the outcome of a probe of the window: to the
closed state if the probe succeeds, to the open state if it fails. -/
def OwnProbesDecide (H : List Moment) : Prop :=
  ∀ h m, h ++ [m] <+: H → m.before.state = .halfOpen →
    (m.after.state = .closed → m.act = .reset ∨ ∃ c ∈ probesInFlight h, m.act = .outcome c true) ∧
    (m.after.state = .opened → m.act = .trip ∨ ∃ c ∈ probesInFlight h, m.act = .outcome c false)

/-- No other call ends with an outcome while the breaker is half open. -/
def NoLateOutcome (H : List Moment) : Prop :=
  ∀ h m c succeeded, h ++ [m] <+: H → m.before.state = .halfOpen →
    m.act = .outcome c succeeded → c ∈ probesInFlight h

/-- The state that an act leaves a half-open breaker in. -/
def Act.verdict : Act → State
  | .reset => .closed
  | .trip => .opened
  | .outcome _ succeeded => if succeeded then .closed else .opened
  | .admission _ _ | .refusal _ | .loss _ _ | .budget _ => .halfOpen

theorem Next.state_of_halfOpen (hn : Next live m live') (hs : m.before.state = .halfOpen) :
    m.after.state = m.act.verdict := by
  cases hn with
  | admission free entered =>
    rcases admitted_cases entered with ⟨hs', -⟩ | ⟨hs', -⟩ | ⟨-, -, rfl, -⟩
    · cases hs'.symm.trans hs
    · cases hs'.symm.trans hs
    · exact hs
  | refusal entered => exact hs
  | @outcome c _ b now succeeded inFlight =>
    have hb : b.state = .halfOpen := hs
    rcases settle_cases b now succeeded with ⟨hs', -⟩ | ⟨hs', -⟩ | ⟨hs', -⟩ | ⟨hs', -⟩ |
      ⟨-, rfl, he⟩ | ⟨-, rfl, he⟩
    · cases hs'.symm.trans hb
    · cases hs'.symm.trans hb
    · cases hs'.symm.trans hb
    · cases hs'.symm.trans hb
    · exact congrArg (·.1.state) he
    · exact congrArg (·.1.state) he
  | @loss c permit b now inFlight =>
    rcases release_cases b permit with ⟨-, -, he⟩ | ⟨-, he⟩
    · exact (congrArg state he).trans hs
    · exact (congrArg state he).trans hs
  | reset b now => simp [reset_fst, Act.verdict]
  | trip b now => simp [trip_fst, Act.verdict]
  | budget b now n => exact hs

theorem Act.verdict_closed_iff (a : Act) :
    a.verdict = .closed ↔ a = .reset ∨ ∃ c, a = .outcome c true := by
  cases a with
  | outcome c succeeded => cases succeeded <;> simp [verdict]
  | _ => simp [verdict]

theorem Act.verdict_opened_iff (a : Act) :
    a.verdict = .opened ↔ a = .trip ∨ ∃ c, a = .outcome c false := by
  cases a with
  | outcome c succeeded => cases succeeded <;> simp [verdict]
  | _ => simp [verdict]

/-- Where each act on a half-open breaker leads is known, the probes of the window decide just
if nobody else does. -/
theorem ownProbesDecide_iff (verdict : ∀ h m, h ++ [m] <+: H → m.before.state = .halfOpen →
    m.after.state = m.act.verdict) : OwnProbesDecide H ↔ NoLateOutcome H := by
  constructor
  · intro own h m c succeeded hp hs ha
    obtain ⟨hclosed, hopened⟩ := own h m hp hs
    rw [verdict h m hp hs, ha] at hclosed hopened
    cases succeeded with
    | true =>
      rcases hclosed rfl with hr | ⟨c', hc, ho⟩
      · cases hr
      · cases ho
        exact hc
    | false =>
      rcases hopened rfl with hr | ⟨c', hc, ho⟩
      · cases hr
      · cases ho
        exact hc
  · intro late h m hp hs
    rw [verdict h m hp hs, m.act.verdict_closed_iff, m.act.verdict_opened_iff]
    constructor
    · rintro (ha | ⟨c, ha⟩)
      · exact .inl ha
      · exact .inr ⟨c, late h m c true hp hs ha, ha⟩
    · rintro (ha | ⟨c, ha⟩)
      · exact .inl ha
      · exact .inr ⟨c, late h m c false hp hs ha, ha⟩

variable {ε α : Type}

/-- The half-open state is left by hand or for any outcome; it is the probes of the window
that decide just if no late outcome is recorded. -/
theorem recovery_decided (name : String) (k : UInt32) (d : Duration)
    (ops : List (Instant × Op ε α)) :
    let H := (Session.new name k d).history ops
    (∀ h m, h ++ [m] <+: H → m.before.state = .halfOpen →
      (m.after.state = .closed ↔ m.act = .reset ∨ ∃ c, m.act = .outcome c true) ∧
      (m.after.state = .opened ↔ m.act = .trip ∨ ∃ c, m.act = .outcome c false)) ∧
    (OwnProbesDecide H ↔ NoLateOutcome H) := by
  intro H
  have verdict : ∀ h m, h ++ [m] <+: H → m.before.state = .halfOpen →
      m.after.state = m.act.verdict := by
    intro h m hp hs
    obtain ⟨live, live', -, hn⟩ := Session.next_upTo name k d hp
    exact hn.state_of_halfOpen hs
  constructor
  · intro h m hp hs
    rw [verdict h m hp hs]
    exact ⟨m.act.verdict_closed_iff, m.act.verdict_opened_iff⟩
  · exact ownProbesDecide_iff verdict

/-- A call of before the window succeeds while the probe is in flight, and closes the breaker. -/
theorem late_success_closes :
    let before : List (Instant × Op Unit Unit) :=
      [(0, .start "late"), (0, .trip), (1000000001, .start "probe")]
    ¬OwnProbesDecide ((Session.new "default" 1 (.ofNanos 1000000000)).history
      (before ++ [(1000000001, .finish "late" (.ok ()))])) := by
  intro before own
  -- `late` is in flight but no probe, so the outcome that closes the breaker is not a probe's
  let s := ((Session.new "default" 1 (.ofNanos 1000000000)).run before).1
  obtain ⟨hclosed, -⟩ := own ((Session.new "default" 1 (.ofNanos 1000000000)).history before)
    (.ofOutcome s.breaker 1000000001 (some "late") true) ⟨[], by decide⟩ (by decide)
  rcases hclosed (by decide) with hr | ⟨c, hc, ho⟩
  · cases hr
  · cases ho
    exact absurd hc (by decide)

end CallGuard.Breaker
