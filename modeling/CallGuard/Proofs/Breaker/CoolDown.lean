import CallGuard.Proofs.Breaker.History

/-! The cool-down of an open breaker. It runs from the instant at which the breaker was
opened or, if it was tripped since, from the last trip; nothing else that happens to an open
breaker prolongs it, late outcomes least of all. A call is refused up to the very end of the
cool-down, and the first one after it is let in as a probe (`coolDownKept`). No open breaker
is without that instant. -/

namespace CallGuard.Breaker

/-- Whether the cool-down begins anew: the breaker opens, or is tripped. -/
def Moment.stamps (m : Moment) : Bool :=
  (m.before.state ≠ .opened && m.after.state = .opened) || m.act = .trip

/-- The instant at which the cool-down last began. -/
def lastStamp (h : List Moment) : Option Instant := (h.filter Moment.stamps).getLast?.map (·.time)

variable {b : Breaker} {h : List Moment} {m : Moment} {live live' : Call → Option Permit}

theorem lastStamp_concat (h : List Moment) (m : Moment) :
    lastStamp (h ++ [m]) = if m.stamps then some m.time else lastStamp h := by
  cases hs : m.stamps <;> simp [lastStamp, List.filter_append, hs]

/-- An open breaker knows when its cool-down began. -/
def Stamped (h : List Moment) (b : Breaker) : Prop :=
  b.state = .opened → ∃ t, lastStamp h = some t ∧ b.lastFailure = some t

namespace Stamped

theorem elsewhere (hs : b.state ≠ .opened) : Stamped h b := fun h' => absurd h' hs

theorem stamp (hs : m.stamps = true) (ha : m.after.lastFailure = some m.time) :
    Stamped (h ++ [m]) m.after := fun _ => by
  rw [lastStamp_concat, if_pos hs]
  exact ⟨m.time, rfl, ha⟩

theorem quiet (hi : Stamped h m.before) (ht : m.act ≠ .trip) (hs : m.after.state = m.before.state)
    (ha : m.after.lastFailure = m.before.lastFailure) : Stamped (h ++ [m]) m.after := by
  intro ho
  have hq : m.stamps = false := by simp [Moment.stamps, ht, hs]
  rw [lastStamp_concat, hq, ha]
  exact hi (hs ▸ ho)

theorem outcome (hi : Stamped h b) (now : Instant) (c : Call) (succeeded : Bool) :
    Stamped (h ++ [.ofOutcome b now c succeeded]) (b.settle now succeeded).1 := by
  rcases settle_cases b now succeeded with ⟨-, he⟩ | ⟨hs, -, he⟩ | ⟨hs, -, -, he⟩ |
    ⟨hs, -, -, he⟩ | ⟨-, -, he⟩ | ⟨hs, -, he⟩
  · refine hi.quiet (m := .ofOutcome b now c succeeded) ?_ ?_ ?_ <;> simp [Moment.ofOutcome, he]
  · exact elsewhere (by simp [he, hs])
  · exact elsewhere (by simp [he, hs])
  · refine stamp (m := .ofOutcome b now c succeeded) ?_ ?_ <;>
      simp [Moment.ofOutcome, Moment.stamps, he, hs]
  · exact elsewhere (by simp [he])
  · refine stamp (m := .ofOutcome b now c succeeded) ?_ ?_ <;>
      simp [Moment.ofOutcome, Moment.stamps, he, hs]

theorem next (hi : Stamped h m.before) (hn : Next live m live') : Stamped (h ++ [m]) m.after := by
  cases hn with
  | admission free entered =>
    rcases admitted_cases entered with ⟨hs, rfl, -⟩ | ⟨-, -, rfl, -⟩ | ⟨hs, -, rfl, -⟩
    · exact elsewhere (by simp [hs])
    · exact elsewhere (by simp)
    · exact elsewhere (by simp [hs])
  | refusal entered => exact hi.quiet (by simp) rfl rfl
  | @outcome c _ b now succeeded inFlight => exact hi.outcome now c succeeded
  | @loss c permit b now inFlight =>
    obtain ⟨n, he⟩ := release_frame b permit
    refine hi.quiet (m := .ofLoss b now c permit) ?_ ?_ ?_ <;> simp [Moment.ofLoss, he]
  | reset b now => exact elsewhere (by simp [reset_fst])
  -- a breaker that is open already is stamped anew
  | trip b now => exact stamp (by simp [Moment.stamps]) (by simp [trip_fst])
  | budget b now n => exact hi.quiet (by simp) rfl rfl

end Stamped

theorem Course.stamped {name : String} {k : UInt32} {d : Duration}
    (hc : Course (.new name k d) h b live) : Stamped h b := by
  induction hc with
  | start => exact .elsewhere (by simp [new])
  | next course hn ih => exact ih.next hn

/-! ### Who is let in -/

section Asking

variable {t : Instant}

theorem cooled_iff {now : Instant} (hl : b.lastFailure = some t) :
    b.cooled now = true ↔ b.resetTimeout.nanos < now - t := by
  simp [cooled, hl]

theorem Next.refused_iff (hn : Next live m live') (hs : m.before.state = .opened) (ha : m.asks)
    (hl : m.before.lastFailure = some t) :
    m.act = .refusal .opened ↔ m.time - t ≤ m.before.resetTimeout.nanos := by
  cases hn with
  | @admission b _ now _ _ _ free entered =>
    rcases admitted_cases entered with ⟨hs', -⟩ | ⟨-, hc, -⟩ | ⟨hs', -⟩
    · cases hs'.symm.trans hs
    · have hlt : b.resetTimeout.nanos < now - t := (cooled_iff hl).1 hc
      exact ⟨nofun, fun hle => absurd hle (Nat.not_le_of_lt hlt)⟩
    · cases hs'.symm.trans hs
  | @refusal b now _ entered =>
    rcases refused_cases entered with ⟨-, hc, rfl⟩ | ⟨hs', -⟩
    · have hle : ¬b.resetTimeout.nanos < now - t := fun hlt => by
        rw [(cooled_iff hl).2 hlt] at hc
        cases hc
      exact ⟨fun _ => Nat.le_of_not_lt hle, fun _ => rfl⟩
    · cases hs'.symm.trans hs
  | _ => cases ha

theorem Next.admitted (hn : Next live m live') (hs : m.before.state = .opened) (ha : m.asks)
    (hl : m.before.lastFailure = some t) (hlt : m.before.resetTimeout.nanos < m.time - t) :
    ∃ c, m.act = .admission c ⟨some m.after.window⟩ ∧ m.after.state = .halfOpen ∧
      m.after.probes = 1 := by
  cases hn with
  | @admission _ _ _ c _ _ free entered =>
    rcases admitted_cases entered with ⟨hs', -⟩ | ⟨-, -, rfl, rfl, -⟩ | ⟨hs', -⟩
    · cases hs'.symm.trans hs
    · exact ⟨c, rfl, rfl, rfl⟩
    · cases hs'.symm.trans hs
  | @refusal b now _ entered =>
    rcases refused_cases entered with ⟨-, hc, -⟩ | ⟨hs', -⟩
    · rw [(cooled_iff hl).2 hlt] at hc
      cases hc
    · cases hs'.symm.trans hs
  | _ => cases ha

/-- What ends a call changes nothing about an open breaker. -/
theorem Next.ignored (hn : Next live m live') (hs : m.before.state = .opened)
    (he : (∃ c succeeded, m.act = .outcome c succeeded) ∨ ∃ c permit, m.act = .loss c permit) :
    m.after = m.before := by
  cases hn with
  | outcome b now succeeded inFlight =>
    exact congrArg (·.1) (settle_of_opened hs now succeeded)
  | @loss c permit b now inFlight =>
    have hb : b.state = .opened := hs
    rcases release_cases b permit with ⟨hs', -⟩ | ⟨-, he⟩
    · cases hs'.symm.trans hb
    · exact he
  | _ => simp at he

end Asking

variable {ε α : Type}

/-- Nor does anyone hear of an outcome that comes when the breaker is open. -/
theorem Session.finish_of_opened {s : Session} {id : String} {permit : Permit}
    (hs : s.breaker.state = .opened) (hl : s.live.get? id = some permit) (now : Instant)
    (outcome : Except ε α) :
    (s.step now (.finish id outcome)).session = { s with live := s.live.erase id } ∧
      (s.step now (.finish id outcome)).journal = [] := by
  have he : s.settle now outcome = (s, none) := by
    rw [settle, settle_of_opened hs]
    rfl
  constructor
  · simp only [step, hl, he]
  · simp only [step, hl, he]
    rfl

/-! ### Every run keeps to the cool-down -/

/-- How a run keeps to the cool-down. -/
structure CoolDownKept (s₀ : Session) (ops : List (Instant × Op ε α)) : Prop where
  /-- An open breaker counts from the instant at which it was opened or last tripped. -/
  stamped : ∀ h, h <+: s₀.history ops → (breakerAfter s₀.breaker h).state = .opened →
    ∃ t, lastStamp h = some t ∧ (breakerAfter s₀.breaker h).lastFailure = some t
  /-- An outcome changes nothing about it. -/
  outcome_ignored : ∀ h m c succeeded, h ++ [m] <+: s₀.history ops → m.before.state = .opened →
    m.act = .outcome c succeeded → m.after = m.before
  /-- Those who follow its changes hear nothing of it. -/
  unnoticed : ∀ past now id outcome rest permit, ops = past ++ (now, .finish id outcome) :: rest →
    (s₀.run past).1.breaker.state = .opened → (s₀.run past).1.live.get? id = some permit →
      ((s₀.run past).1.step now (.finish id outcome)).session =
        { (s₀.run past).1 with live := (s₀.run past).1.live.erase id } ∧
      ((s₀.run past).1.step now (.finish id outcome)).journal = []
  /-- Nor does the loss of a call change anything. -/
  loss_ignored : ∀ h m c permit, h ++ [m] <+: s₀.history ops → m.before.state = .opened →
    m.act = .loss c permit → m.after = m.before
  /-- It refuses calls as long as no more than the cool-down has passed. -/
  refused_iff : ∀ h m t, h ++ [m] <+: s₀.history ops → m.before.state = .opened → m.asks →
    lastStamp h = some t → (m.act = .refusal .opened ↔ m.time - t ≤ s₀.breaker.resetTimeout.nanos)
  /-- The first call after it is let in as the first probe of a new window. -/
  admitted : ∀ h m t, h ++ [m] <+: s₀.history ops → m.before.state = .opened → m.asks →
    lastStamp h = some t → s₀.breaker.resetTimeout.nanos < m.time - t →
      ∃ c, m.act = .admission c ⟨some m.after.window⟩ ∧ m.after.state = .halfOpen ∧
        m.after.probes = 1
  /-- Whoever is refused is told so, and the call is not begun. -/
  told : ∀ past now op rest, ops = past ++ (now, op) :: rest →
    (((s₀.run past).1.step now op).reply = .result (.error (.refused .opened)) ↔
      ∃ m ∈ (s₀.run past).1.moments now op, m.act = .refusal .opened) ∧
    (((s₀.run past).1.step now op).reply = .result (.error (.refused .opened)) →
      ((s₀.run past).1.step now op).invoked = false)
  /-- Whoever is let in has the call begun. -/
  begun : ∀ past now op rest, ops = past ++ (now, op) :: rest →
    (((s₀.run past).1.step now op).invoked = true ↔
      ∃ m ∈ (s₀.run past).1.moments now op, m.admits)

/-- Every run keeps to the cool-down, from the shortest to the longest. -/
theorem coolDownKept (name : String) (k : UInt32) (d : Duration) (ops : List (Instant × Op ε α)) :
    CoolDownKept (Session.new name k d) ops := by
  have next {h : List Moment} {m : Moment} (hp : h ++ [m] <+: (Session.new name k d).history ops) :
      ∃ live live', Stamped h m.before ∧ Next live m live' ∧ m.before.resetTimeout = d := by
    obtain ⟨live, live', hc, hn⟩ := Session.next_upTo name k d hp
    exact ⟨live, live', hc.stamped, hn, hc.settings.2.2⟩
  constructor
  case stamped =>
    intro h hp
    obtain ⟨live, hc⟩ := Session.course_upTo name k d hp
    exact hc.stamped
  case outcome_ignored =>
    intro h m c succeeded hp hs ha
    obtain ⟨live, live', -, hn, -⟩ := next hp
    exact hn.ignored hs (.inl ⟨c, succeeded, ha⟩)
  case unnoticed =>
    intro past now id outcome rest permit _ hs hl
    exact Session.finish_of_opened hs hl now outcome
  case loss_ignored =>
    intro h m c permit hp hs ha
    obtain ⟨live, live', -, hn, -⟩ := next hp
    exact hn.ignored hs (.inr ⟨c, permit, ha⟩)
  case refused_iff =>
    intro h m t hp hs ha ht
    obtain ⟨live, live', hi, hn, hd⟩ := next hp
    obtain ⟨t', ht', hl⟩ := hi hs
    cases ht.symm.trans ht'
    rw [hn.refused_iff hs ha hl, hd]
    rfl
  case admitted =>
    intro h m t hp hs ha ht hlt
    obtain ⟨live, live', hi, hn, hd⟩ := next hp
    obtain ⟨t', ht', hl⟩ := hi hs
    cases ht.symm.trans ht'
    exact hn.admitted hs ha hl (by rw [hd]; exact hlt)
  case told =>
    intro past now op rest _
    exact ⟨Session.reply_refused_iff _ now op .opened, Session.not_invoked_of_refused _ now op⟩
  case begun =>
    intro past now op rest _
    exact Session.invoked_iff _ now op

end CallGuard.Breaker
