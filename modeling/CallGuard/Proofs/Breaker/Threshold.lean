import CallGuard.Proofs.Breaker.History

/-! The count of failures against the history. While the breaker is closed the count is the
number of failures recorded since it was last cleared, by a success, by hand or by closing;
it stays below the threshold, and the failure that would reach it opens the breaker. In the
other states the count only tells whether a failure was recorded while half open since the
closed state was left. Calls that are lost count nowhere (`thresholdKept`). -/

namespace CallGuard.Breaker

namespace Moment

/-- Whether a call ends in a failure. -/
def fails (m : Moment) : Bool :=
  match m.act with
  | .outcome _ succeeded => !succeeded
  | _ => false

theorem fails_iff (m : Moment) : m.fails = true ↔ ∃ c, m.act = .outcome c false := by
  unfold fails
  cases m.act <;> simp

/-- Whether a call ends well. -/
def succeeds (m : Moment) : Bool :=
  match m.act with
  | .outcome _ succeeded => succeeded
  | _ => false

/-- Whether failures count anew from here: the closed state is entered, a success is recorded
in it, or the breaker is reset. -/
def clears (m : Moment) : Bool :=
  (m.before.state ≠ .closed && m.after.state = .closed) ||
    (m.before.state = .closed && m.succeeds) || m.act = .reset

/-- Whether the closed state is left. -/
def leavesClosed (m : Moment) : Bool := m.before.state = .closed && m.after.state ≠ .closed

end Moment

/-- The failures recorded in the closed state since it was last cleared. -/
def failuresInRow (h : List Moment) : Nat :=
  (h.reverse.takeWhile fun m => !m.clears).countP fun m => m.before.state = .closed && m.fails

/-- Whether a failure was recorded in the half-open state since the closed one was last left. -/
def probeFailed (h : List Moment) : Bool :=
  (h.reverse.takeWhile fun m => !m.leavesClosed).any fun m => m.before.state = .halfOpen && m.fails

variable {b : Breaker} {h : List Moment} {m : Moment} {live live' : Call → Option Permit}

theorem failuresInRow_concat (h : List Moment) (m : Moment) :
    failuresInRow (h ++ [m]) =
      if m.clears then 0
      else failuresInRow h + if m.before.state = .closed && m.fails then 1 else 0 := by
  cases hc : m.clears <;> simp [failuresInRow, hc, List.countP_cons]

theorem failuresInRow_of_fails (hs : m.before.state = .closed) (hf : m.fails = true) :
    failuresInRow (h ++ [m]) = failuresInRow h + 1 := by
  obtain ⟨c, ha⟩ := m.fails_iff.1 hf
  simp [failuresInRow_concat, Moment.clears, Moment.fails, Moment.succeeds, ha, hs]

theorem probeFailed_concat (h : List Moment) (m : Moment) :
    probeFailed (h ++ [m]) =
      (!m.leavesClosed && (probeFailed h || (m.before.state = .halfOpen && m.fails))) := by
  cases hl : m.leavesClosed <;> simp [probeFailed, hl, Bool.or_comm]

/-- What holds of the count of failures at the end of a history. -/
structure FailuresCounted (h : List Moment) (b : Breaker) : Prop where
  maxFailures_pos : 0 < b.maxFailures.toNat
  closed : b.state = .closed → b.failures = failuresInRow h ∧ b.failures < b.maxFailures.toNat
  elsewhere : b.state ≠ .closed → b.failures = if probeFailed h then 1 else 0

namespace FailuresCounted

theorem start (name : String) (k : UInt32) (d : Duration) :
    FailuresCounted [] (.new name k d) where
  maxFailures_pos := new_maxFailures_pos name k d
  closed _ := ⟨rfl, new_maxFailures_pos name k d⟩
  elsewhere hs := absurd rfl hs

/-- An act that is neither an outcome nor a reset, and does not enter or leave the closed
state, counts for nothing. -/
theorem quiet (hi : FailuresCounted h m.before) (hf : m.fails = false) (hs : m.succeeds = false)
    (hr : m.act ≠ .reset) (hc : m.after.state = .closed ↔ m.before.state = .closed)
    (hb : m.after.failures = m.before.failures) (hm : m.after.maxFailures = m.before.maxFailures) :
    FailuresCounted (h ++ [m]) m.after := by
  have hrow : failuresInRow (h ++ [m]) = failuresInRow h := by
    simp [failuresInRow_concat, Moment.clears, hf, hs, hr, hc]
  have hprobe : probeFailed (h ++ [m]) = probeFailed h := by
    simp [probeFailed_concat, Moment.leavesClosed, hf, hc]
  exact {
    maxFailures_pos := hm ▸ hi.maxFailures_pos
    closed := fun h' => by rw [hb, hm, hrow]; exact hi.closed (hc.1 h')
    elsewhere := fun h' => by rw [hb, hprobe]; exact hi.elsewhere (mt hc.2 h') }

/-- Where failures count anew there are none yet. -/
theorem cleared (hi : FailuresCounted h m.before) (hc : m.clears = true)
    (hs : m.after.state = .closed) (hb : m.after.failures = 0)
    (hm : m.after.maxFailures = m.before.maxFailures) : FailuresCounted (h ++ [m]) m.after where
  maxFailures_pos := hm ▸ hi.maxFailures_pos
  closed _ := by
    rw [hb, hm, failuresInRow_concat, if_pos hc]
    exact ⟨rfl, hi.maxFailures_pos⟩
  elsewhere h' := absurd hs h'

/-- Once the closed state is left no probe has failed yet. -/
theorem left (hi : FailuresCounted h m.before) (hs : m.before.state = .closed)
    (ha : m.after.state ≠ .closed) (hb : m.after.failures = 0)
    (hm : m.after.maxFailures = m.before.maxFailures) : FailuresCounted (h ++ [m]) m.after where
  maxFailures_pos := hm ▸ hi.maxFailures_pos
  closed h' := absurd h' ha
  elsewhere _ := by
    rw [hb, probeFailed_concat]
    simp [Moment.leavesClosed, hs, ha]

/-- A failure in the closed state is one more, below the threshold. -/
theorem counted (hi : FailuresCounted h m.before) (hf : m.fails = true)
    (hs : m.before.state = .closed) (ha : m.after.state = .closed)
    (hb : m.after.failures = m.before.failures + 1)
    (hlt : m.before.failures + 1 < m.before.maxFailures.toNat)
    (hm : m.after.maxFailures = m.before.maxFailures) : FailuresCounted (h ++ [m]) m.after where
  maxFailures_pos := hm ▸ hi.maxFailures_pos
  closed _ := by
    rw [hb, hm, failuresInRow_of_fails hs hf, (hi.closed hs).1]
    exact ⟨rfl, (hi.closed hs).1 ▸ hlt⟩
  elsewhere h' := absurd ha h'

/-- A failure in the half-open state is remembered. -/
theorem remembered (hi : FailuresCounted h m.before) (hf : m.fails = true)
    (hs : m.before.state = .halfOpen) (ha : m.after.state = .opened) (hb : m.after.failures = 1)
    (hm : m.after.maxFailures = m.before.maxFailures) : FailuresCounted (h ++ [m]) m.after where
  maxFailures_pos := hm ▸ hi.maxFailures_pos
  closed h' := by cases ha.symm.trans h'
  elsewhere _ := by
    rw [hb, probeFailed_concat]
    simp [Moment.leavesClosed, hs, hf]

/-- An open breaker counts nothing. -/
theorem ignored (hi : FailuresCounted h m.before) (hs : m.before.state = .opened)
    (ha : m.after = m.before) : FailuresCounted (h ++ [m]) m.after where
  maxFailures_pos := ha ▸ hi.maxFailures_pos
  closed h' := by rw [ha, hs] at h'; cases h'
  elsewhere h' := by
    rw [ha] at h' ⊢
    rw [hi.elsewhere h', probeFailed_concat]
    simp [Moment.leavesClosed, hs]

theorem outcome (hi : FailuresCounted h b) (now : Instant) (c : Call) (succeeded : Bool) :
    FailuresCounted (h ++ [.ofOutcome b now c succeeded]) (b.settle now succeeded).1 := by
  rcases settle_cases b now succeeded with ⟨hs, he⟩ | ⟨hs, rfl, he⟩ | ⟨hs, rfl, hlt, he⟩ |
    ⟨hs, rfl, -, he⟩ | ⟨hs, rfl, he⟩ | ⟨hs, rfl, he⟩
  · exact hi.ignored hs (congrArg (·.1) he)
  · refine hi.cleared (m := .ofOutcome b now c true) ?_ ?_ ?_ ?_ <;>
      simp [Moment.ofOutcome, Moment.clears, Moment.succeeds, he, hs]
  · refine hi.counted (m := .ofOutcome b now c false) rfl hs ?_ ?_ hlt ?_ <;>
      simp [Moment.ofOutcome, he, hs]
  · refine hi.left (m := .ofOutcome b now c false) hs ?_ ?_ ?_ <;> simp [Moment.ofOutcome, he]
  · refine hi.cleared (m := .ofOutcome b now c true) ?_ ?_ ?_ ?_ <;>
      simp [Moment.ofOutcome, Moment.clears, he, hs]
  · refine hi.remembered (m := .ofOutcome b now c false) rfl hs ?_ ?_ ?_ <;>
      simp [Moment.ofOutcome, he]

theorem next (hi : FailuresCounted h m.before) (hn : Next live m live') :
    FailuresCounted (h ++ [m]) m.after := by
  cases hn with
  | admission free entered =>
    rcases admitted_cases entered with ⟨-, rfl, -⟩ | ⟨hs, -, rfl, -⟩ | ⟨-, -, rfl, -⟩
    · exact hi.quiet rfl rfl (by simp) Iff.rfl rfl rfl
    · exact hi.quiet rfl rfl (by simp) (by simp [hs]) rfl rfl
    · exact hi.quiet rfl rfl (by simp) Iff.rfl rfl rfl
  | refusal entered => exact hi.quiet rfl rfl (by simp) Iff.rfl rfl rfl
  | @outcome c _ b now succeeded inFlight => exact hi.outcome now c succeeded
  | @loss c permit b now inFlight =>
    obtain ⟨n, he⟩ := release_frame b permit
    refine hi.quiet (m := .ofLoss b now c permit) rfl rfl ?_ ?_ ?_ ?_ <;>
      simp [Moment.ofLoss, he]
  | reset b now =>
    exact hi.cleared (by simp [Moment.clears]) (by simp [reset_fst]) (by simp [reset_fst])
      (by simp [reset_fst])
  | trip b now =>
    -- only a breaker that was closed forgets its failures
    by_cases hs : b.state = .closed
    · exact hi.left hs (by simp [trip_fst]) (by simp [trip_fst, hs]) (by simp [trip_fst])
    · exact hi.quiet rfl rfl (by simp) (by simp [trip_fst, hs]) (by simp [trip_fst, hs])
        (by simp [trip_fst])
  | budget b now n => exact hi.quiet rfl rfl (by simp) Iff.rfl rfl rfl

end FailuresCounted

theorem Course.failuresCounted_of {b₀ : Breaker} (start : FailuresCounted [] b₀)
    (hc : Course b₀ h b live) : FailuresCounted h b := by
  induction hc with
  | start => exact start
  | next course hn ih => exact ih.next hn

theorem Course.failuresCounted {name : String} {k : UInt32} {d : Duration}
    (hc : Course (.new name k d) h b live) : FailuresCounted h b :=
  hc.failuresCounted_of (.start name k d)

/-! ### Every run keeps to the threshold -/

namespace FailuresCounted

theorem opened_iff (hi : FailuresCounted h m.before) (hn : Next live m live')
    (hs : m.before.state = .closed) (ht : m.act ≠ .trip) :
    m.after.state = .opened ↔
      m.fails ∧ failuresInRow (h ++ [m]) = m.before.maxFailures.toNat := by
  have stays (hf : m.fails = false) (ha : m.after.state = .closed) :
      m.after.state = .opened ↔
        m.fails ∧ failuresInRow (h ++ [m]) = m.before.maxFailures.toNat := by
    simp [hf, ha]
  cases hn with
  | admission free entered =>
    rcases admitted_cases entered with ⟨-, rfl, -⟩ | ⟨hs', -⟩ | ⟨hs', -⟩
    · exact stays rfl hs
    · cases hs'.symm.trans hs
    · cases hs'.symm.trans hs
  | refusal entered => exact stays rfl hs
  | @outcome c _ b now succeeded inFlight =>
    have hb : b.state = .closed := hs
    obtain ⟨hrow, hmax⟩ := hi.closed hs
    rcases settle_cases b now succeeded with ⟨hs', -⟩ | ⟨-, rfl, he⟩ | ⟨-, rfl, hlt, he⟩ |
      ⟨-, rfl, hle, he⟩ | ⟨hs', -⟩ | ⟨hs', -⟩
    · cases hs'.symm.trans hb
    · exact stays rfl ((congrArg (·.1.state) he).trans hb)
    · have ha : (Moment.ofOutcome b now c false).after.state = .closed :=
        (congrArg (·.1.state) he).trans hb
      rw [failuresInRow_of_fails hs rfl, ← hrow, ha]
      refine ⟨nofun, fun hf => absurd hf.2 (Nat.ne_of_lt hlt)⟩
    · have ha : (Moment.ofOutcome b now c false).after.state = .opened := congrArg (·.1.state) he
      rw [failuresInRow_of_fails hs rfl, ← hrow, ha]
      exact ⟨fun _ => ⟨rfl, Nat.le_antisymm hmax hle⟩, fun _ => rfl⟩
    · cases hs'.symm.trans hb
    · cases hs'.symm.trans hb
  | @loss c permit b now inFlight =>
    obtain ⟨n, he⟩ := release_frame b permit
    exact stays rfl ((congrArg state he).trans hs)
  | reset b now => exact stays rfl (by simp [reset_fst])
  | trip b now => exact absurd rfl ht
  | budget b now n => exact stays rfl hs

end FailuresCounted

variable {ε α : Type}

/-- How a run keeps to the threshold. -/
structure ThresholdKept (s₀ : Session) (ops : List (Instant × Op ε α)) : Prop where
  /-- A closed breaker counts the failures in a row, which are less than the threshold. -/
  closed : ∀ h, h <+: s₀.history ops → (breakerAfter s₀.breaker h).state = .closed →
    (breakerAfter s₀.breaker h).failures = failuresInRow h ∧
      failuresInRow h < s₀.breaker.maxFailures.toNat
  /-- Any other one only knows whether a probe has failed. -/
  elsewhere : ∀ h, h <+: s₀.history ops → (breakerAfter s₀.breaker h).state ≠ .closed →
    (breakerAfter s₀.breaker h).failures = if probeFailed h then 1 else 0
  /-- Each failure of a closed breaker is one more, and the count stays within a word. -/
  counted : ∀ h m, h ++ [m] <+: s₀.history ops → m.before.state = .closed → m.fails →
    failuresInRow (h ++ [m]) = failuresInRow h + 1 ∧ m.before.failures + 1 < UInt32.size
  /-- The closed state is left by hand or for the failure that reaches the threshold. -/
  opened_iff : ∀ h m, h ++ [m] <+: s₀.history ops → m.before.state = .closed → m.act ≠ .trip →
    (m.after.state = .opened ↔
      m.fails ∧ failuresInRow (h ++ [m]) = s₀.breaker.maxFailures.toNat)
  /-- A call that is lost does not count. -/
  lost : ∀ h m c permit, h ++ [m] <+: s₀.history ops → m.act = .loss c permit →
    m.after.state = m.before.state ∧ m.after.failures = m.before.failures

/-- Every run keeps to the threshold, whatever the order in which its calls end. -/
theorem thresholdKept (name : String) (k : UInt32) (d : Duration) (ops : List (Instant × Op ε α)) :
    ThresholdKept (Session.new name k d) ops := by
  have counted {h : List Moment} (hp : h <+: (Session.new name k d).history ops) :
      FailuresCounted h (breakerAfter (.new name k d) h) ∧
        (breakerAfter (.new name k d) h).maxFailures = (Breaker.new name k d).maxFailures := by
    obtain ⟨live, hc⟩ := Session.course_upTo name k d hp
    exact ⟨hc.failuresCounted, hc.settings.2.1⟩
  have next {h : List Moment} {m : Moment} (hp : h ++ [m] <+: (Session.new name k d).history ops) :
      ∃ live live', FailuresCounted h m.before ∧ Next live m live' ∧
        m.before.maxFailures = (Breaker.new name k d).maxFailures := by
    obtain ⟨live, live', hc, hn⟩ := Session.next_upTo name k d hp
    exact ⟨live, live', hc.failuresCounted, hn, hc.settings.2.1⟩
  constructor
  case closed =>
    intro h hp hs
    obtain ⟨hi, hm⟩ := counted hp
    obtain ⟨hrow, hlt⟩ := hi.closed hs
    exact ⟨hrow, hrow ▸ hm ▸ hlt⟩
  case elsewhere =>
    intro h hp hs
    exact (counted hp).1.elsewhere hs
  case counted =>
    intro h m hp hs hf
    obtain ⟨live, live', hi, -, -⟩ := next hp
    refine ⟨failuresInRow_of_fails hs hf, ?_⟩
    have hlt := (hi.closed hs).2
    have := m.before.maxFailures.toNat_lt_size
    omega
  case opened_iff =>
    intro h m hp hs ht
    obtain ⟨live, live', hi, hn, hm⟩ := next hp
    rw [hi.opened_iff hn hs ht, hm]
    rfl
  case lost =>
    intro h m c permit hp ha
    obtain ⟨live, live', -, hn, -⟩ := next hp
    cases hn with
    | loss b now inFlight =>
      cases ha
      obtain ⟨n, he⟩ := release_frame b permit
      simp [Moment.ofLoss, he]
    | _ => cases ha

end CallGuard.Breaker
