import CallGuard.Guard
import CallGuard.Proofs.Breaker.Changes

/-! A guarded run is one call of its breaker, which takes as long as the run: it asks to be let
in, and if it is the breaker records one outcome, the result of the run, whatever that took
(`history_calls`). On a session with nothing else in flight a guarded run is the beginning and the
end of a call (`run_calls`), so that what is known of the runs of sessions is known of it. -/

namespace CallGuard

open Breaker

variable {ε α : Type} {s : Session} {b : Breaker} {permit : Permit} {change : Option Change}
  {call : Scope → Instant → Retry.Run ε α} {scope : Scope} {now : Instant}

/-- What a guarded run does to its breaker. -/
def Guarded.calls (g : Guarded ε α) (now : Instant) : List (Instant × Op (RetryError ε) α) :=
  (now, .start "") :: g.run.toList.map fun r => (r.now, .finish "" r.result)

namespace Breaker.Session

/-- A run that is refused is not begun, and leaves no trace in the session. -/
theorem guard_of_refused (call : Scope → Instant → Retry.Run ε α) (scope : Scope)
    {why : Refusal} (he : s.breaker.enter now = .refused why) :
    (s.guard call scope now).session = s ∧
      (s.guard call scope now).result = .error (.refused why) ∧
      (s.guard call scope now).run = none := by
  simp [guard, enter, he]

/-- A run that is let in is made, and its result is the outcome that the breaker records. -/
theorem guard_of_admitted (call : Scope → Instant → Retry.Run ε α) (scope : Scope)
    (he : s.breaker.enter now = .admitted b permit change) :
    let r := call scope now
    (s.guard call scope now).session =
        (s.follow (b, change)).follow (b.settle r.now r.result.toBool) ∧
      (s.guard call scope now).result = r.result.mapError .failed ∧
      (s.guard call scope now).run = some r := by
  simp [guard, enter, settle, he]

theorem guard_live (s : Session) (call : Scope → Instant → Retry.Run ε α) (scope : Scope)
    (now : Instant) : (s.guard call scope now).session.live = s.live := by
  cases he : s.breaker.enter now with
  | refused why => rw [(guard_of_refused call scope he).1]
  | admitted b permit change =>
    rw [(guard_of_admitted call scope he).1, follow_live, follow_live]

/-- To follow a change has nothing to do with the calls in flight. -/
theorem follow_with_live (s : Session) (live : NameMap Permit) (step : Breaker × Option Change) :
    ({ s with live } : Session).follow step = { s.follow step with live } := by
  unfold follow
  split <;> rfl

theorem step_start_of_admitted {id : String} (hl : s.live.get? id = none)
    (he : s.breaker.enter now = .admitted b permit change) :
    (s.step now (.start id : Op ε α)).session =
      { s.follow (b, change) with live := s.live.insert id permit } := by
  simp [step, abandon, enter, hl, he]

theorem step_finish_of_live {id : String} (hl : s.live.get? id = some permit) (now : Instant)
    (outcome : Except ε α) :
    (s.step now (.finish id outcome)).session =
      { s.follow (s.breaker.settle now outcome.toBool) with live := s.live.erase id } := by
  simp [step, settle, hl]

/-- A call that is begun and ended in between is no longer in flight. -/
theorem erase_insert_empty (id : String) (permit : Permit) :
    (NameMap.empty.insert id permit).erase id = .empty := by
  apply NameMap.ext_entries
  simp [NameMap.erase, NameMap.insert, NameMap.put, NameMap.empty]

/-- On a session with no call in flight a guarded run is a call like any other. -/
theorem run_calls (idle : s.live = .empty) (call : Scope → Instant → Retry.Run ε α)
    (scope : Scope) (now : Instant) :
    (s.run ((s.guard call scope now).calls now)).1 = (s.guard call scope now).session := by
  have hl : s.live.get? "" = none := by rw [idle, NameMap.get?_empty]
  cases he : s.breaker.enter now with
  | refused why =>
    obtain ⟨hs, -, hr⟩ := guard_of_refused call scope he
    rw [Guarded.calls, hr, hs]
    simp [run, step, abandon, enter, refuse, hl, he]
  | admitted b permit change =>
    obtain ⟨hs, -, hr⟩ := guard_of_admitted call scope he
    have hlive : ((s.follow (b, change)).follow
        (b.settle (call scope now).now (call scope now).result.toBool)).live = .empty := by
      rw [follow_live, follow_live, idle]
    rw [Guarded.calls, hr, hs]
    simp only [Option.toList_some, List.map_cons, List.map_nil, run]
    rw [step_start_of_admitted hl he, step_finish_of_live (NameMap.get?_insert_self ..),
      follow_with_live, idle, erase_insert_empty, follow_breaker, ← hlive]

/-- If it is let in the breaker records one outcome of it. -/
theorem history_calls (idle : s.live = .empty)
    (he : s.breaker.enter now = .admitted b permit change) :
    let r := call scope now
    s.history ((s.guard call scope now).calls now) =
      [⟨now, .admission (some "") permit, s.breaker, b⟩,
        .ofOutcome b r.now (some "") r.result.toBool] := by
  have hl : s.live.get? "" = none := by rw [idle, NameMap.get?_empty]
  obtain ⟨-, -, hr⟩ := guard_of_admitted call scope he
  rw [Guarded.calls, hr]
  simp [history, moments, losses, step, abandon, enter, Moment.ofEntry, hl, he]

end Breaker.Session

end CallGuard
