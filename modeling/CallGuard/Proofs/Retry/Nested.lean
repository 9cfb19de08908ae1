import CallGuard.Proofs.Fault
import CallGuard.Proofs.Retry.Cancellation

/-! Attempts that are themselves runs, guarded or not, whose own contexts may end. An outer run
that tells errors by their chains gives up when the end of a context shows in the error of an
attempt. It does not when that end is veiled, and so not when an attempt reports nothing but
the end of its own context (`contextsJudged`, `ended_retried`). -/

namespace CallGuard.Retry

open Fault

variable {ε α : Type}

/-- Errors told by the faults they are. -/
def Classifier.ofFault (fault : ε → Fault) : Classifier ε :=
  ⟨fun e => (fault e).isRetryable, fun e => (fault e).message⟩

section

variable {p : Plan} {pick : Nat → Backoff.Sampler} {fault : ε → Fault} {s : Series ε α}
  {r : Run ε α} {k : Nat} {e : ε}

/-- A run gives up on an error in which the end of a context shows. -/
theorem Plan.Returns.shown (h : p.Returns (.ofFault fault) s r) (hk : k < r.count)
    (ho : (s.attempt k).outcome = .error e) (he : (fault e).EndsContext)
    (hv : ¬ (fault e).Veiled) : r.count = k + 1 ∧ r.result = .error (.terminal e) := by
  have declined : (fault e).isRetryable = false := by
    rw [Bool.eq_false_iff, ne_eq, isRetryable_iff]
    exact not_or.2 ⟨fun h => h he, hv⟩
  exact h.terminal k hk e ho declined

/-- It goes on after one in which that is veiled, as after any other worth another attempt. -/
theorem Series.Heeds.veiled (hs : s.rule = p.rule pick (.ofFault fault)) (h : s.Heeds r)
    (hk : k < r.count) (ho : (s.attempt k).outcome = .error e) (hv : (fault e).Veiled)
    (left : k + 1 < p.attempts) (live : (s.attempt k).scope.error?
      (Instant.sleepEnd (s.attempt k).now (p.wait pick k)) = none) : k + 1 < r.count := by
  have retried : s.Retried (.ofFault fault) k := ⟨e, ho, (isRetryable_iff _).2 (.inr hv)⟩
  obtain ⟨text, verdict⟩ :=
    Plan.verdict_of_waits hs ((Plan.waits_iff hs k).2 ⟨retried, left⟩)
  exact h.undisturbed k hk _ _ verdict live

end

/-- What is made of the ends of contexts in errors, by the classifier and by the outer runs of
an operation that go by it. -/
structure ContextsJudged (fault : ε → Fault) (op : Operation ε α) (scope : Scope)
    (now : Instant) : Prop where
  /-- An error is not worth another attempt just if the end of a context shows in it. -/
  declined_iff : ∀ f : Fault, f.isRetryable = false ↔ f.EndsContext ∧ ¬ f.Veiled
  /-- After an error in which it shows there is no further attempt. -/
  shown : ∀ (p : Plan) (pick : Nat → Backoff.Sampler),
    let s := p.series pick (.ofFault fault) op scope now
    let r := p.run pick (.ofFault fault) op scope now
    ∀ k < r.count, ∀ e, (s.attempt k).outcome = .error e →
      (fault e).EndsContext → ¬ (fault e).Veiled →
        r.count = k + 1 ∧ r.result = .error (.terminal e)
  /-- After one in which it is veiled there is, as long as there are any left in the scope. -/
  veiled : ∀ (p : Plan) (pick : Nat → Backoff.Sampler),
    let s := p.series pick (.ofFault fault) op scope now
    let r := p.run pick (.ofFault fault) op scope now
    ∀ k < r.count, ∀ e, (s.attempt k).outcome = .error e → (fault e).Veiled →
      k + 1 < p.attempts → (s.attempt k).scope.error?
        (Instant.sleepEnd (s.attempt k).now (p.wait pick k)) = none → k + 1 < r.count
  /-- A run, guarded or not, that reports the end of its context veils it. -/
  reported : ∀ e, (ofRetry fault (.cancelled e)).Veiled ∧
    (ofGuard (ofRetry fault) (.failed (.cancelled e))).Veiled
  /-- In the error of an exchange that was given up it shows, guarded or not. -/
  exchanged : ∀ e, let f := ofGuard (ofRetry transport) (.failed (.terminal (.cancelled e)))
    f.EndsContext ∧ ¬ f.Veiled

/-- So it is of every operation, whatever faults its errors are. -/
theorem contextsJudged (fault : ε → Fault) (op : Operation ε α) (scope : Scope) (now : Instant) :
    ContextsJudged fault op scope now := by
  have heeds (p : Plan) (pick : Nat → Backoff.Sampler) :
      (p.series pick (.ofFault fault) op scope now).Heeds
        (p.run pick (.ofFault fault) op scope now) :=
    Series.heeds (s := p.series pick (.ofFault fault) op scope now) (Plan.neverCancels rfl)
      (p.run_loop pick (.ofFault fault) op scope now)
  constructor
  case declined_iff =>
    intro f
    rw [← Bool.not_eq_true, isRetryable_iff, not_or, Classical.not_not]
  case shown =>
    intro p pick s r k hk e ho he hv
    exact (Plan.returns rfl (heeds p pick)).shown hk ho he hv
  case veiled =>
    intro p pick s r k hk e ho hv left live
    exact (heeds p pick).veiled rfl hk ho hv left live
  case reported =>
    intro e
    exact ⟨.of_veils rfl, ⟨retryCancelled e, by simp [ofGuard, ofRetry, contents], rfl⟩⟩
  case exchanged =>
    intro e
    simp [EndsContext, Veiled, ofGuard, ofRetry, contents, isContext, veils]

/-- A guarded run in a context that has ended reports just that, which passes for an error worth
another attempt. -/
theorem ended_retried :
    ¬ ∀ f : Fault, f.EndsContext → f.isRetryable = false := by
  intro h
  have declined := h (ofGuard (ofRetry transport) (.failed (.cancelled .canceled)))
    ⟨context .canceled, by simp [ofGuard, ofRetry, contents], rfl⟩
  exact absurd declined (by decide)

end CallGuard.Retry
