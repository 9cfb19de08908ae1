import CallGuard.Proofs.Breaker.Slots
import CallGuard.Proofs.Breaker.CoolDown
import CallGuard.Proofs.Breaker.Threshold

/-! No breaker stays shut. With no call in flight, and the cool-down over since the last
failure recorded or trip, it lets the next call in, whatever came before; and that call, if
nothing else befalls the breaker until it ends, decides what becomes of it (`available`).
The slots in use are at most the probes in flight, so that none is lost for good; this holds
even when the numbers of the windows start over. -/

namespace CallGuard.Breaker

/-- Whether a failure is recorded or the breaker is tripped. -/
def Moment.strikes (m : Moment) : Bool := (m.before.state ≠ .opened && m.fails) || m.act = .trip

/-- The instant of the last failure recorded or trip. -/
def lastStrike (h : List Moment) : Option Instant :=
  (h.filter Moment.strikes).getLast?.map (·.time)

variable {b b' : Breaker} {h : List Moment} {m : Moment} {live live' : Call → Option Permit}
  {now : Instant}

theorem lastStrike_concat (h : List Moment) (m : Moment) :
    lastStrike (h ++ [m]) = if m.strikes then some m.time else lastStrike h := by
  cases hs : m.strikes <;> simp [lastStrike, List.filter_append, hs]

/-! ### Slots in use -/

/-- So many slots at most are in use in a window: for each there is a probe in flight. -/
def SlotsHeld (n : Nat) (w : UInt64) (live : Call → Option Permit) : Prop :=
  ∃ calls : Finset Call, n ≤ calls.card ∧
    ∀ c ∈ calls, ∃ permit, live c = some permit ∧ permit.window = some w

namespace SlotsHeld

variable {n : Nat} {w : UInt64} {c : Call}

theorem first (w : UInt64) (live : Call → Option Permit) (c : Call) :
    SlotsHeld 1 w (Function.update live c (some ⟨some w⟩)) := by
  refine ⟨{c}, Nat.le_refl 1, ?_⟩
  intro c' hc
  obtain rfl := Finset.mem_singleton.1 hc
  exact ⟨_, Function.update_self .., rfl⟩

theorem further (hn : SlotsHeld n w live) (free : live c = none) :
    SlotsHeld (n + 1) w (Function.update live c (some ⟨some w⟩)) := by
  obtain ⟨calls, hle, hp⟩ := hn
  have hc : c ∉ calls := by
    intro hc
    obtain ⟨permit, hl, -⟩ := hp c hc
    cases free.symm.trans hl
  refine ⟨insert c calls, ?_, ?_⟩
  · rw [Finset.card_insert_of_notMem hc]
    exact Nat.succ_le_succ hle
  · intro c' hc'
    rcases Finset.mem_insert.1 hc' with rfl | hc'
    · exact ⟨_, Function.update_self .., rfl⟩
    · rw [Function.update_of_ne (ne_of_mem_of_not_mem hc' hc)]
      exact hp c' hc'

/-- With a call goes one slot at most. -/
theorem lost (hn : SlotsHeld n w live) (c : Call) :
    SlotsHeld (n - 1) w (Function.update live c none) := by
  obtain ⟨calls, hle, hp⟩ := hn
  refine ⟨calls.erase c, (Nat.sub_le_sub_right hle 1).trans Finset.pred_card_le_card_erase, ?_⟩
  intro c' hc'
  obtain ⟨hne, hc'⟩ := Finset.mem_erase.1 hc'
  rw [Function.update_of_ne hne]
  exact hp c' hc'

/-- With a call that is no probe of the window goes none. -/
theorem lost_elsewhere (hn : SlotsHeld n w live) {permit : Permit} (hl : live c = some permit)
    (hw : permit.window ≠ some w) : SlotsHeld n w (Function.update live c none) := by
  obtain ⟨calls, hle, hp⟩ := hn
  refine ⟨calls, hle, ?_⟩
  intro c' hc'
  obtain ⟨permit', hl', hw'⟩ := hp c' hc'
  have hne : c' ≠ c := by
    rintro rfl
    cases hl.symm.trans hl'
    exact hw hw'
  rw [Function.update_of_ne hne]
  exact ⟨permit', hl', hw'⟩

/-- Without calls in flight no slot is in use. -/
theorem eq_zero (hn : SlotsHeld n w live) (idle : ∀ c, live c = none) : n = 0 := by
  obtain ⟨calls, hle, hp⟩ := hn
  have hc : calls = ∅ := by
    refine Finset.eq_empty_of_forall_notMem ?_
    intro c hc
    obtain ⟨permit, hl, -⟩ := hp c hc
    cases (idle c).symm.trans hl
  simpa [hc] using hle

end SlotsHeld

/-- What keeps a breaker from being shut for good, at the end of a history. -/
structure Unblocked (h : List Moment) (b : Breaker) (live : Call → Option Permit) : Prop where
  budget_pos : 0 < b.probeBudget.toNat
  struck : ∀ t, b.lastFailure = some t → lastStrike h = some t
  held : b.state = .halfOpen → SlotsHeld b.probes b.window live

namespace Unblocked

theorem start (name : String) (k : UInt32) (d : Duration) :
    Unblocked [] (.new name k d) fun _ => none where
  budget_pos := Nat.one_pos
  struck _ ht := by cases ht
  held hs := by cases hs

/-- An act that is no strike, and after which the slots in use are held. -/
theorem quiet (hi : Unblocked h m.before live) (hq : m.strikes = false)
    (hl : ∀ t, m.after.lastFailure = some t → m.before.lastFailure = some t)
    (hb : 0 < m.after.probeBudget.toNat)
    (hh : m.after.state = .halfOpen → SlotsHeld m.after.probes m.after.window live') :
    Unblocked (h ++ [m]) m.after live' where
  budget_pos := hb
  struck t ht := by
    rw [lastStrike_concat, hq]
    exact hi.struck t (hl t ht)
  held := hh

/-- A strike is the last one so far. -/
theorem strike (hi : Unblocked h m.before live) (hq : m.strikes = true)
    (hl : m.after.lastFailure = some m.time) (hb : m.after.probeBudget = m.before.probeBudget)
    (hs : m.after.state ≠ .halfOpen) : Unblocked (h ++ [m]) m.after live' where
  budget_pos := hb ▸ hi.budget_pos
  struck t ht := by
    rw [lastStrike_concat, hq]
    exact hl.symm.trans ht
  held hs' := absurd hs' hs

theorem outcome (hi : Unblocked h b live) (now : Instant) (c : Call) (succeeded : Bool) :
    Unblocked (h ++ [.ofOutcome b now c succeeded]) (b.settle now succeeded).1 live' := by
  obtain ⟨hn, -, hb⟩ := settle_frame b now succeeded
  have quiet (hq : (Moment.ofOutcome b now c succeeded).strikes = false)
      (hl : (b.settle now succeeded).1.lastFailure = b.lastFailure) :
      Unblocked (h ++ [.ofOutcome b now c succeeded]) (b.settle now succeeded).1 live' :=
    hi.quiet (m := .ofOutcome b now c succeeded) hq (fun _ ht => hl ▸ ht) (hb ▸ hi.budget_pos)
      fun hs => absurd hs hn
  have strike (hq : (Moment.ofOutcome b now c succeeded).strikes = true)
      (hl : (b.settle now succeeded).1.lastFailure = some now) :
      Unblocked (h ++ [.ofOutcome b now c succeeded]) (b.settle now succeeded).1 live' :=
    hi.strike (m := .ofOutcome b now c succeeded) hq hl hb hn
  rcases settle_cases b now succeeded with ⟨hs, he⟩ | ⟨-, rfl, he⟩ | ⟨hs, rfl, -, he⟩ |
    ⟨hs, rfl, -, he⟩ | ⟨-, rfl, he⟩ | ⟨hs, rfl, he⟩
  · exact quiet (by simp [Moment.strikes, Moment.ofOutcome, hs]) (by rw [he])
  · exact quiet (by simp [Moment.strikes, Moment.fails, Moment.ofOutcome]) (by rw [he])
  · exact strike (by simp [Moment.strikes, Moment.fails, Moment.ofOutcome, hs]) (by rw [he])
  · exact strike (by simp [Moment.strikes, Moment.fails, Moment.ofOutcome, hs]) (by rw [he])
  · exact quiet (by simp [Moment.strikes, Moment.fails, Moment.ofOutcome]) (by rw [he])
  · exact strike (by simp [Moment.strikes, Moment.fails, Moment.ofOutcome, hs]) (by rw [he])

theorem loss (hi : Unblocked h b live) (now : Instant) {c : Call} {permit : Permit}
    (hl : live c = some permit) :
    Unblocked (h ++ [.ofLoss b now c permit]) (b.release permit)
      (Function.update live c none) := by
  obtain ⟨n, hn⟩ := release_frame b permit
  refine hi.quiet (m := .ofLoss b now c permit) ?_ ?_ ?_ ?_
  · simp [Moment.strikes, Moment.fails, Moment.ofLoss]
  · simp [Moment.ofLoss, hn]
  · simpa [Moment.ofLoss, hn] using hi.budget_pos
  · show (b.release permit).state = .halfOpen →
      SlotsHeld (b.release permit).probes (b.release permit).window _
    -- a slot is given back just if the call is a probe of the window
    rcases release_cases b permit with ⟨hs, -, he⟩ | ⟨hne, he⟩
    · rw [he]
      exact fun _ => (hi.held hs).lost c
    · rw [he]
      exact fun hs => (hi.held hs).lost_elsewhere hl fun hw => hne ⟨hs, hw⟩

theorem next (hi : Unblocked h m.before live) (hn : Next live m live') :
    Unblocked (h ++ [m]) m.after live' := by
  have calm (hf : m.fails = false) (ht : m.act ≠ .trip) : m.strikes = false := by
    simp [Moment.strikes, hf, ht]
  cases hn with
  | @admission b _ _ c _ _ free entered =>
    have hq := calm rfl (by simp)
    rcases admitted_cases entered with ⟨hs, rfl, -⟩ | ⟨-, -, rfl, rfl, -⟩ | ⟨hs, -, rfl, rfl, -⟩
    · exact hi.quiet hq (fun _ ht => ht) hi.budget_pos fun hs' => by cases hs.symm.trans hs'
    · exact hi.quiet hq (fun _ ht => ht) hi.budget_pos fun _ => .first _ live c
    · exact hi.quiet hq (fun _ ht => ht) hi.budget_pos fun _ => (hi.held hs).further free
  | refusal entered => exact hi.quiet (calm rfl (by simp)) (fun _ ht => ht) hi.budget_pos hi.held
  | @outcome c _ b now succeeded inFlight => exact hi.outcome now c succeeded
  | loss b now inFlight => exact hi.loss now inFlight
  | reset b now =>
    refine hi.quiet (calm rfl (by simp)) ?_ ?_ ?_
    · simp [reset_fst]
    · simpa [reset_fst] using hi.budget_pos
    · simp [reset_fst]
  | trip b now =>
    exact hi.strike (by simp [Moment.strikes]) (by simp [trip_fst]) (by simp [trip_fst])
      (by simp [trip_fst])
  | budget b now n =>
    exact hi.quiet (calm rfl (by simp)) (fun _ ht => ht) (setProbeBudget_pos b n) hi.held

/-- With no call in flight and the cool-down over, nobody is refused. -/
theorem admits (hi : Unblocked h b live) (idle : ∀ c, live c = none)
    (rested : ∀ t, lastStrike h = some t → b.resetTimeout.nanos < now - t) :
    ∃ b' permit change, b.enter now = .admitted b' permit change := by
  cases he : b.enter now with
  | admitted b' permit change => exact ⟨b', permit, change, rfl⟩
  | refused why =>
    rcases refused_cases he with ⟨-, hc, -⟩ | ⟨hs, hp, -⟩
    · cases hl : b.lastFailure with
      | none => simp [cooled, hl] at hc
      | some t =>
        rw [(cooled_iff hl).2 (rested t (hi.struck t hl))] at hc
        cases hc
    · have hb := hi.budget_pos
      have hz := (hi.held hs).eq_zero idle
      omega

end Unblocked

theorem Course.unblocked {name : String} {k : UInt32} {d : Duration}
    (hc : Course (.new name k d) h b live) : Unblocked h b live := by
  induction hc with
  | start => exact .start name k d
  | next course hn ih => exact ih.next hn

/-! ### What the next call decides -/

variable {permit : Permit} {change : Option Change}

/-- What the outcome of a call makes of a breaker, from just before the call to just after it. -/
structure Decided (b b' : Breaker) (later : Instant) (succeeded : Bool) : Prop where
  /-- After a success it is closed, and no failures count. -/
  closed : succeeded = true → b'.state = .closed ∧ b'.failures = 0
  /-- A failure below the threshold is one more for a closed breaker. -/
  counted : succeeded = false → b.state = .closed → b.failures + 1 < b.maxFailures.toNat →
    b'.state = .closed ∧ b'.failures = b.failures + 1
  /-- Any other failure opens the breaker, whose cool-down begins at that instant. -/
  opened : succeeded = false →
    ¬(b.state = .closed ∧ b.failures + 1 < b.maxFailures.toNat) →
      b'.state = .opened ∧
        ∀ now, b'.enter now = .refused .opened ↔ now - later ≤ b.resetTimeout.nanos

/-- Whoever is let in finds the breaker closed or half open. -/
theorem state_of_admitted (entered : b.enter now = .admitted b' permit change) :
    (b.state = .closed ∧ b' = b) ∨
      (b.state ≠ .closed ∧ b'.state = .halfOpen ∧ b'.resetTimeout = b.resetTimeout) := by
  rcases admitted_cases entered with ⟨hs, rfl, -⟩ | ⟨hs, -, rfl, -⟩ | ⟨hs, -, rfl, -⟩
  · exact .inl ⟨hs, rfl⟩
  · exact .inr ⟨by simp [hs], rfl, rfl⟩
  · exact .inr ⟨by simp [hs], hs, rfl⟩

/-- A breaker that was opened at an instant refuses calls up to the end of the cool-down. -/
theorem enter_refused_iff {t : Instant} (hs : b.state = .opened) (hl : b.lastFailure = some t)
    (now : Instant) : b.enter now = .refused .opened ↔ now - t ≤ b.resetTimeout.nanos := by
  have hc : b.cooled now = false ↔ now - t ≤ b.resetTimeout.nanos := by
    rw [← Bool.not_eq_true, cooled_iff hl, Nat.not_lt]
  rw [← hc]
  cases hb : b.cooled now with
  | true => simp [enter_of_cooled hs hb]
  | false => simp [enter_of_cooling hs hb]

theorem decided_of_admitted (entered : b.enter now = .admitted b' permit change)
    (later : Instant) (succeeded : Bool) :
    Decided b (b'.settle later succeeded).1 later succeeded := by
  constructor
  case closed =>
    rintro rfl
    rcases state_of_admitted entered with ⟨hs, rfl⟩ | ⟨-, hs, -⟩
    · rw [settle_true_of_closed hs]
      exact ⟨hs, rfl⟩
    · rw [settle_true_of_halfOpen hs]
      exact ⟨rfl, rfl⟩
  case counted =>
    rintro rfl hs hlt
    rcases state_of_admitted entered with ⟨-, rfl⟩ | ⟨hs', -⟩
    · rw [settle_false_of_lt hs hlt]
      exact ⟨hs, rfl⟩
    · exact absurd hs hs'
  case opened =>
    rintro rfl hn
    rcases state_of_admitted entered with ⟨hs, rfl⟩ | ⟨-, hs, hd⟩
    · have hle : b'.maxFailures.toNat ≤ b'.failures + 1 := Nat.not_lt.1 fun hlt => hn ⟨hs, hlt⟩
      rw [settle_false_of_le hs hle]
      exact ⟨rfl, enter_refused_iff rfl rfl⟩
    · rw [settle_false_of_halfOpen hs, ← hd]
      exact ⟨rfl, enter_refused_iff rfl rfl⟩

/-! ### Every run comes to a call that is let in -/

variable {ε α : Type}

/-- A session lets its next call in, and leaves it to that call what becomes of the breaker. -/
structure Available (ε α : Type) (s : Session) (now : Instant) : Prop where
  /-- The call is begun, -/
  started : ∀ id, let a := s.step now (.start id : Op ε α)
    a.reply = .running ∧ a.invoked = true
  /-- be it that it ends at once -/
  called : ∀ outcome : Except ε α, let a := s.step now (.call outcome)
    a.reply = .result (outcome.mapError .failed) ∧ a.invoked = true
  /-- or crashes. -/
  crashed : let a := s.step now (.crash : Op ε α)
    a.reply = .crashed ∧ a.invoked = true
  /-- Its outcome is handed on, whenever it comes, and decides. -/
  decided : ∀ id later (outcome : Except ε α),
    let a := (s.step now (.start id : Op ε α)).session.step later (.finish id outcome)
    a.reply = .result (outcome.mapError .failed) ∧
      Decided s.breaker a.session.breaker later outcome.toBool
  /-- So does one that comes at once. -/
  decided_at_once : ∀ outcome : Except ε α,
    Decided s.breaker (s.step now (.call outcome)).session.breaker now outcome.toBool

/-- A session is available if its breaker admits a call. -/
theorem Session.available_of_admitted {s : Session} (idle : s.live = .empty)
    (entered : s.breaker.enter now = .admitted b permit change) : Available ε α s now := by
  have hl (id : String) : s.live.get? id = none := by rw [idle, NameMap.get?_empty]
  constructor
  case started =>
    intro id
    simp [step, abandon, enter, hl, entered]
  case called =>
    intro outcome
    simp [step, enter, entered]
  case crashed => simp [step, enter, entered]
  case decided =>
    intro id later outcome
    have hd := decided_of_admitted entered later outcome.toBool
    simpa [step, abandon, enter, settle, hl, entered] using hd
  case decided_at_once =>
    intro outcome
    have hd := decided_of_admitted entered now outcome.toBool
    simpa [step, enter, settle, entered] using hd

/-- However a breaker was used, if no call is in flight any more and the cool-down is over since
the last failure or trip, it is available. -/
theorem available (name : String) (k : UInt32) (d : Duration) (past : List (Instant × Op ε α))
    (now : Instant) (idle : ((Session.new name k d).run past).1.live = .empty)
    (rested : ∀ t ∈ lastStrike ((Session.new name k d).history past), d.nanos < now - t) :
    Available ε α ((Session.new name k d).run past).1 now := by
  have hc := Session.course_history name k d past
  have hl : ∀ c, permits ((Session.new name k d).run past).1.live c = none := by
    intro c
    rw [idle, permits_empty]
  have hd : ((Session.new name k d).run past).1.breaker.resetTimeout = d := hc.settings.2.2
  obtain ⟨b, permit, change, entered⟩ := hc.unblocked.admits hl (by rw [hd]; exact rested)
  exact Session.available_of_admitted idle entered

/-- Two probes that are never heard of again, a budget of none, and a trip in between. -/
theorem available_after_lost_probes :
    let past : List (Instant × Op Unit Unit) := [(0, .start "early"), (1, .trip),
      (0, .setProbeBudget 0), (3, .start "a"), (4, .trip), (6, .start "b"), (7, .abandon "a"),
      (7, .abandon "early"), (8, .abandon "b"), (9, .crash)]
    let s := (Session.new "agent" 1 (.ofNanos 1)).run past
    s.1.live = .empty ∧ s.1.breaker.state = .halfOpen ∧ Available Unit Unit s.1 10 :=
  ⟨by decide, by decide, available _ _ _ _ _ (by decide) (by decide)⟩

end CallGuard.Breaker
