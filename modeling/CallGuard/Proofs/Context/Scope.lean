import CallGuard.Context.Scope

/-! The end of a scope, seen by one who looks and by one who waits. To look is to compare
with the exact instants; to wait is to be woken by the first of two alarms, of which that
of the deadline rings at a whole millisecond. A sleep ends at a whole millisecond too, so
that a deadline within a sleep never rings after it. -/

namespace CallGuard

namespace Instant

theorem wake_le_wake {s t : Nat} (h : s ≤ wake t) : wake s ≤ wake t := by
  change s ≤ (t + 999999) / 1000000 * 1000000 at h
  change (s + 999999) / 1000000 * 1000000 ≤ (t + 999999) / 1000000 * 1000000
  omega

end Instant

namespace Scope

variable {s : Scope} {now t : Instant} {e : ContextError} {wait : Duration}

@[simp] theorem earlier_none (t : Option Instant) : earlier t none = t := by
  cases t <;> rfl

/-! ### To look -/

/-- The instant at which a scope ends for a reason. -/
def instant? (s : Scope) : ContextError → Option Instant
  | .canceled => s.cancelled
  | .deadlineExceeded => s.deadline

/-- A reason for the end of a scope has come. -/
def Over (s : Scope) (e : ContextError) (now : Instant) : Prop :=
  ∃ t, s.instant? e = some t ∧ t ≤ now

theorem reached_iff (t : Option Instant) : reached t now = true ↔ ∃ u, t = some u ∧ u ≤ now := by
  cases t <;> simp [reached]

theorem reached_earlier {t u : Option Instant} :
    reached (earlier t u) now = true ↔ reached t now = true ∨ reached u now = true := by
  cases t with
  | none => simp [reached, earlier]
  | some t =>
    cases u with
    | none => simp [reached, earlier]
    | some u =>
      simp only [reached, earlier, Option.any_some, decide_eq_true_eq]
      exact Std.min_le

theorem Over.mono {later : Instant} (h : s.Over e now) (hl : now ≤ later) : s.Over e later := by
  obtain ⟨t, ht, hn⟩ := h
  exact ⟨t, ht, Nat.le_trans hn hl⟩

/-- A scope with one more cancellation is over when it was, for the same reason. -/
theorem Over.add_call (h : s.Over e now) (call : Option Instant) :
    Over ⟨earlier call s.cancelled, s.deadline⟩ e now := by
  cases e with
  | canceled => exact (reached_iff _).1 (reached_earlier.2 (.inr ((reached_iff _).2 h)))
  | deadlineExceeded => exact h

/-- A cancellation still to come is no reason yet. -/
theorem Over.of_add_call {call : Option Instant}
    (h : Over ⟨earlier call s.cancelled, s.deadline⟩ e now) (hcall : ¬ reached call now = true) :
    s.Over e now := by
  cases e with
  | canceled =>
    have hreached : reached (earlier call s.cancelled) now = true := (reached_iff _).2 h
    exact (reached_iff _).1 ((reached_earlier.1 hreached).resolve_left hcall)
  | deadlineExceeded => exact h

theorem over_of_error? (h : s.error? now = some e) : s.Over e now := by
  unfold error? at h
  split at h
  case isTrue hc =>
    cases h
    exact (reached_iff _).1 hc
  case isFalse =>
    split at h
    · next hd =>
      cases h
      exact (reached_iff _).1 hd
    · cases h

/-- A cancellation that has come is the reason, whatever the deadline. -/
theorem error?_of_canceled (h : s.Over .canceled now) : s.error? now = some .canceled :=
  if_pos ((reached_iff s.cancelled).2 h)

/-- A scope lasts as long as no reason for its end has come. -/
theorem error?_eq_none_iff : s.error? now = none ↔ ∀ e, ¬ s.Over e now := by
  constructor
  · intro h e he
    unfold error? at h
    split at h
    case isTrue => cases h
    case isFalse hc =>
      split at h
      case isTrue => cases h
      case isFalse hd =>
        cases e with
        | canceled => exact hc ((reached_iff _).2 he)
        | deadlineExceeded => exact hd ((reached_iff _).2 he)
  · intro h
    cases he : s.error? now with
    | none => rfl
    | some e => exact absurd (over_of_error? he) (h e)

theorem live_of_le {later : Instant} (live : s.error? later = none) (hl : now ≤ later) :
    s.error? now = none :=
  error?_eq_none_iff.2 fun e h => error?_eq_none_iff.1 live e (h.mono hl)

theorem error?_eq_canceled_iff : s.error? now = some .canceled ↔ s.Over .canceled now :=
  ⟨over_of_error?, error?_of_canceled⟩

/-- A deadline is the reason only of a scope that is not cancelled. -/
theorem error?_eq_deadlineExceeded_iff : s.error? now = some .deadlineExceeded ↔
    ¬ s.Over .canceled now ∧ s.Over .deadlineExceeded now := by
  constructor
  · intro h
    refine ⟨fun hc => ?_, over_of_error? h⟩
    rw [error?_of_canceled hc] at h
    cases h
  · rintro ⟨hc, hd⟩
    cases he : s.error? now with
    | none => exact absurd hd (error?_eq_none_iff.1 he .deadlineExceeded)
    | some e =>
      cases e with
      | canceled => exact absurd (over_of_error? he) hc
      | deadlineExceeded => rfl

/-! ### To wait -/

/-- When the end of a scope for a reason wakes one who waits from an instant on. -/
def alarm? (s : Scope) (now : Instant) : ContextError → Option Instant
  | .canceled => s.cancelled.map (max now)
  | .deadlineExceeded => s.deadline.map (wakeAt now)

/-- One who waits from an instant on is woken at another by the end of the scope, and told
a reason: that of the first alarm, and of two at once that of the cancellation. -/
structure Wakes (s : Scope) (now t : Instant) (e : ContextError) : Prop where
  rings : s.alarm? now e = some t
  first : ∀ other u, s.alarm? now other = some u → t ≤ u
  cancellation : ∀ u, s.alarm? now .canceled = some u → u = t → e = .canceled

theorem le_wakeAt (now t : Instant) : t ≤ wakeAt now t := by
  unfold wakeAt
  split
  · assumption
  · exact Instant.le_wake t

/-- A deadline within a sleep wakes the sleeper before the sleep is over, or then. -/
theorem wakeAt_le_sleepEnd (h : t ≤ Instant.sleepEnd now wait) :
    wakeAt now t ≤ Instant.sleepEnd now wait := by
  by_cases hn : t ≤ now
  · rw [wakeAt, if_pos hn]
    exact Instant.le_sleepEnd now wait
  · rw [wakeAt, if_neg hn]
    unfold Instant.sleepEnd at h ⊢
    split at h
    · exact absurd h hn
    · next hw =>
      rw [if_neg hw]
      exact Instant.wake_le_wake h

/-- By the time of an alarm its reason has come. -/
theorem over_of_alarm (h : s.alarm? now e = some t) : s.Over e t := by
  cases e with
  | canceled =>
    obtain ⟨c, hc, rfl⟩ := Option.map_eq_some_iff.1 h
    exact ⟨c, hc, Nat.le_max_right _ _⟩
  | deadlineExceeded =>
    obtain ⟨d, hd, rfl⟩ := Option.map_eq_some_iff.1 h
    exact ⟨d, hd, le_wakeAt _ _⟩

/-- A reason that comes during a sleep has its alarm before the sleep is over, or then. -/
theorem Over.alarm (h : s.Over e (Instant.sleepEnd now wait)) :
    ∃ t, s.alarm? now e = some t ∧ t ≤ Instant.sleepEnd now wait := by
  obtain ⟨t, ht, hl⟩ := h
  cases e with
  | canceled =>
    exact ⟨max now t, congrArg (Option.map (max now)) ht,
      Nat.max_le.2 ⟨Instant.le_sleepEnd _ _, hl⟩⟩
  | deadlineExceeded =>
    exact ⟨wakeAt now t, congrArg (Option.map (wakeAt now)) ht, wakeAt_le_sleepEnd hl⟩

theorem Wakes.ended (h : s.Wakes now t e) : s.Over e t := over_of_alarm h.rings

/-- No alarm rings before one waits. -/
theorem le_of_alarm (h : s.alarm? now e = some t) : now ≤ t := by
  cases e with
  | canceled =>
    obtain ⟨c, -, rfl⟩ := Option.map_eq_some_iff.1 h
    exact Nat.le_max_left _ _
  | deadlineExceeded =>
    obtain ⟨d, -, rfl⟩ := Option.map_eq_some_iff.1 h
    unfold wakeAt
    split
    · exact Nat.le_refl _
    · next hd => exact Nat.le_trans (Nat.le_of_not_le hd) (Instant.le_wake d)

/-- A waiter is woken by the earlier of the two alarms. -/
theorem ending?_instant (s : Scope) (now : Instant) : (s.ending? now).map Prod.fst =
    earlier (s.alarm? now .canceled) (s.alarm? now .deadlineExceeded) := by
  obtain ⟨cancelled, deadline⟩ := s
  cases cancelled with
  | none => cases deadline <;> rfl
  | some c =>
    cases deadline with
    | none => rfl
    | some d =>
      change ((if max now c ≤ wakeAt now d then some (max now c, ContextError.canceled)
        else some (wakeAt now d, .deadlineExceeded)).map Prod.fst) =
          some (min (max now c) (wakeAt now d))
      split
      · next hle => exact congrArg some (Nat.min_eq_left hle).symm
      · next hle => exact congrArg some (Nat.min_eq_right (Nat.le_of_not_le hle)).symm

/-- The end that a waiter sees is the first alarm. -/
theorem wakes_of_ending? (h : s.ending? now = some (t, e)) : s.Wakes now t e := by
  obtain ⟨cancelled, deadline⟩ := s
  cases cancelled with
  | none =>
    cases deadline with
    | none => cases h
    | some d =>
      cases h
      exact ⟨rfl, fun other u hu => by cases other <;> cases hu; exact Nat.le_refl _,
        fun u hu => by cases hu⟩
  | some c =>
    cases deadline with
    | none =>
      cases h
      exact ⟨rfl, fun other u hu => by cases other <;> cases hu; exact Nat.le_refl _,
        fun _ _ _ => rfl⟩
    | some d =>
      by_cases hle : max now c ≤ wakeAt now d
      · obtain ⟨rfl, rfl⟩ : max now c = t ∧ ContextError.canceled = e := by
          simpa [ending?, hle] using h
        refine ⟨rfl, fun other u hu => ?_, fun _ _ _ => rfl⟩
        cases other <;> cases hu
        · exact Nat.le_refl _
        · exact hle
      · obtain ⟨rfl, rfl⟩ : wakeAt now d = t ∧ ContextError.deadlineExceeded = e := by
          simpa [ending?, hle] using h
        refine ⟨rfl, fun other u hu => ?_, fun u hu hut => ?_⟩
        · cases other <;> cases hu
          · exact Nat.le_of_not_le hle
          · exact Nat.le_refl _
        · cases hu
          exact absurd (Nat.le_of_eq hut) hle

/-- Where a waiter sees no end there is no alarm. -/
theorem alarm?_of_ending?_none (h : s.ending? now = none) (e : ContextError) :
    s.alarm? now e = none := by
  obtain ⟨cancelled, deadline⟩ := s
  cases cancelled <;> cases deadline <;> simp [ending?] at h
  · cases e <;> rfl
  · split at h <;> cases h

/-- One who waits for a scope that is over goes on at once. -/
theorem ending?_of_over (h : s.Over e now) : (s.ending? now).map Prod.fst = some now := by
  have hrings : s.alarm? now e = some now := by
    obtain ⟨t, ht, hn⟩ := h
    cases e with
    | canceled =>
      change s.cancelled = some t at ht
      rw [alarm?, ht, Option.map_some, Nat.max_eq_left hn]
    | deadlineExceeded =>
      change s.deadline = some t at ht
      rw [alarm?, ht, Option.map_some, wakeAt, if_pos hn]
  cases he : s.ending? now with
  | none =>
    rw [alarm?_of_ending?_none he e] at hrings
    cases hrings
  | some r =>
    have hw := wakes_of_ending? (t := r.1) (e := r.2) he
    exact congrArg some (Nat.le_antisymm (hw.first e now hrings) (le_of_alarm hw.rings))

/-- One who waits for what is still to come is woken by the first of it. -/
theorem ending?_of_future {cancelled deadline : Option Instant}
    (hc : ∀ t, cancelled = some t → now ≤ t) (hd : ∀ t, deadline = some t → ¬ t ≤ now) :
    (ending? ⟨cancelled, deadline⟩ now).map Prod.fst =
      earlier cancelled (deadline.map Instant.wake) := by
  have hcall : cancelled.map (max now) = cancelled := by
    cases cancelled with
    | none => rfl
    | some t => exact congrArg some (Nat.max_eq_right (hc t rfl))
  have hexpiry : deadline.map (wakeAt now) = deadline.map Instant.wake :=
    Option.map_congr fun t ht => if_neg (hd t ht)
  rw [ending?_instant, alarm?, alarm?, hcall, hexpiry]

/-! ### To sleep -/

/-- A sleep that is cut short is so by the first alarm, before it would be over. -/
theorem wakes_of_sleep_error (h : s.sleep now wait = .error (t, e)) :
    s.Wakes now t e ∧ t < Instant.sleepEnd now wait := by
  cases he : s.ending? now with
  | none => simp [sleep, he] at h
  | some p =>
    obtain ⟨u, why⟩ := p
    by_cases hu : u < Instant.sleepEnd now wait
    · obtain ⟨rfl, rfl⟩ : u = t ∧ why = e := by simpa [sleep, he, hu] using h
      exact ⟨wakes_of_ending? he, hu⟩
    · simp [sleep, he, hu] at h

/-- A sleep that is not cut short takes its time, and no alarm rings before. -/
theorem sleep_ok (h : s.sleep now wait = .ok t) :
    t = Instant.sleepEnd now wait ∧ ∀ e u, s.alarm? now e = some u → t ≤ u := by
  cases he : s.ending? now with
  | none =>
    refine ⟨by simpa [sleep, he, eq_comm] using h, fun e u hu => ?_⟩
    rw [alarm?_of_ending?_none he e] at hu
    cases hu
  | some p =>
    obtain ⟨u, why⟩ := p
    by_cases hu : u < Instant.sleepEnd now wait
    · simp [sleep, he, hu] at h
    · obtain rfl : Instant.sleepEnd now wait = t := by simpa [sleep, he, hu] using h
      exact ⟨rfl, fun e u' hu' =>
        Nat.le_trans (Nat.le_of_not_lt hu) ((wakes_of_ending? he).first e u' hu')⟩

/-- A scope found over just when a sleep is has its first alarm then, for the reason found. -/
theorem wakes_of_sleep_ok (h : s.sleep now wait = .ok t) (he : s.error? t = some e) :
    s.Wakes now t e := by
  obtain ⟨rfl, hfirst⟩ := sleep_ok h
  obtain ⟨u, hu, hle⟩ := (over_of_error? he).alarm
  obtain rfl : u = Instant.sleepEnd now wait := Nat.le_antisymm hle (hfirst e u hu)
  refine ⟨hu, hfirst, fun v hv hvu => ?_⟩
  have hc : s.error? v = some .canceled := error?_of_canceled (over_of_alarm hv)
  rw [hvu, he] at hc
  exact Option.some.inj hc

end Scope

end CallGuard
