import CallGuard.Retry.Run

/-! What plans and policies have in common: both look at what an attempt came to and either
settle the run or ask for a wait. A rule is that decision, and the loop is what an operation
comes to under a rule, one case for each way a round can end. -/

namespace CallGuard.Retry

/-- What is made of an attempt: a result, or a wait for another; and what is told of it. -/
inductive Verdict (ε α : Type)
  | settled (result : Except (RetryError ε) α) (signals : List Signal)
  | wait (delay : Duration) (signals : List Signal)

namespace Verdict

variable {ε α : Type}

def signals : Verdict ε α → List Signal
  | settled _ signals => signals
  | wait _ signals => signals

/-- When the next attempt is due after one that ended at an instant. -/
def due (now : Instant) : Verdict ε α → Instant
  | settled _ _ => now
  | wait delay _ => Instant.sleepEnd now delay

theorem le_due (now : Instant) (v : Verdict ε α) : now ≤ v.due now := by
  cases v with
  | settled => exact Nat.le_refl now
  | wait delay => exact Instant.le_sleepEnd now delay

def waits : Verdict ε α → Bool
  | settled _ _ => false
  | wait _ _ => true

end Verdict

/-- What is made of the attempt of a number, counted from zero. -/
abbrev Rule (ε α : Type) := Nat → Except ε α → Verdict ε α

variable {ε α : Type}

/-- The runs of an operation by a rule from an attempt of a number on. -/
inductive Loop (rule : Rule ε α) (op : Operation ε α) : Nat → Scope → Instant → Run ε α → Prop
  | stopped {k : Nat} {scope : Scope} {now : Instant} {e : ContextError}
      (ended : scope.error? now = some e) : Loop rule op k scope now (.stopped e scope now)
  | settled {k : Nat} {scope : Scope} {now : Instant} {result : Except (RetryError ε) α}
      {signals : List Signal} (live : scope.error? now = none)
      (verdict : rule k (op k scope now).outcome = .settled result signals) :
      Loop rule op k scope now (.last now (op k scope now) result signals)
  | halted {k : Nat} {scope : Scope} {now t : Instant} {delay : Duration}
      {signals : List Signal} {e : ContextError} (live : scope.error? now = none)
      (verdict : rule k (op k scope now).outcome = .wait delay signals)
      (cut : (op k scope now).scope.sleep (op k scope now).now delay = .error (t, e)) :
      Loop rule op k scope now
        ((Run.stopped e (op k scope now).scope t).before now (op k scope now) signals)
  | again {k : Nat} {scope : Scope} {now t : Instant} {delay : Duration}
      {signals : List Signal} {r : Run ε α} (live : scope.error? now = none)
      (verdict : rule k (op k scope now).outcome = .wait delay signals)
      (slept : (op k scope now).scope.sleep (op k scope now).now delay = .ok t)
      (rest : Loop rule op (k + 1) (op k scope now).scope t r) :
      Loop rule op k scope now (r.before now (op k scope now) signals)

/-- In a scope that is over there is no attempt. -/
theorem Loop.eq_stopped {rule : Rule ε α} {op : Operation ε α} {k : Nat} {scope : Scope}
    {now : Instant} {r : Run ε α} {e : ContextError} (h : Loop rule op k scope now r)
    (ended : scope.error? now = some e) : r = .stopped e scope now := by
  cases h with
  | stopped other =>
    rw [ended] at other
    cases other
    rfl
  | settled live => rw [ended] at live; cases live
  | halted live => rw [ended] at live; cases live
  | again live => rw [ended] at live; cases live

/-- A rule leaves no choice of the run. -/
theorem Loop.eq {rule : Rule ε α} {op : Operation ε α} {k : Nat} {scope : Scope}
    {now : Instant} {r r' : Run ε α} (h : Loop rule op k scope now r)
    (h' : Loop rule op k scope now r') : r = r' := by
  induction h generalizing r' with
  | stopped ended => exact (h'.eq_stopped ended).symm
  | settled live verdict =>
    cases h' with
    | stopped ended => cases live.symm.trans ended
    | settled _ verdict' => cases verdict.symm.trans verdict'; rfl
    | halted _ verdict' => cases verdict.symm.trans verdict'
    | again _ verdict' => cases verdict.symm.trans verdict'
  | halted live verdict cut =>
    cases h' with
    | stopped ended => cases live.symm.trans ended
    | settled _ verdict' => cases verdict.symm.trans verdict'
    | halted _ verdict' cut' =>
      cases verdict.symm.trans verdict'
      cases cut.symm.trans cut'
      rfl
    | again _ verdict' slept =>
      cases verdict.symm.trans verdict'
      cases cut.symm.trans slept
  | again live verdict slept _ ih =>
    cases h' with
    | stopped ended => cases live.symm.trans ended
    | settled _ verdict' => cases verdict.symm.trans verdict'
    | halted _ verdict' cut =>
      cases verdict.symm.trans verdict'
      cases slept.symm.trans cut
    | again _ verdict' slept' rest' =>
      cases verdict.symm.trans verdict'
      cases slept.symm.trans slept'
      rw [ih rest']

end CallGuard.Retry
