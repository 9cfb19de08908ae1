import CallGuard.Proofs.Context.Scope
import CallGuard.Proofs.Retry.Loop

/-! The attempts that a rule would make one after the other, each started when the one before
it is over and its wait has taken its time, with no regard to any end of the scope. A run of
the loop makes the first so many of them: it goes on as long as the verdict is to wait and
the scope lasts, and it ends with the verdict on its last attempt, or in the wait after it. -/

namespace CallGuard.Retry

/-- A rule with an operation, from a scope and an instant on. -/
structure Series (ε α : Type) where
  rule : Rule ε α
  op : Operation ε α
  scope : Scope
  now : Instant

namespace Series

variable {ε α : Type} (s : Series ε α)

/-- Where and when the attempt of a number starts. -/
def start : Nat → Scope × Instant
  | 0 => (s.scope, s.now)
  | k + 1 =>
    let a := s.op k (start k).1 (start k).2
    (a.scope, (s.rule k a.outcome).due a.now)

/-- The attempt of a number. -/
def attempt (k : Nat) : Attempt ε α := s.op k (s.start k).1 (s.start k).2

/-- What is made of it. -/
def verdict (k : Nat) : Verdict ε α := s.rule k (s.attempt k).outcome

/-- When it starts and ends. -/
def times (k : Nat) : Instant × Instant := ((s.start k).2, (s.attempt k).now)

/-- What is told of it. -/
def told (k : Nat) : Journal := .stamp (s.attempt k).now (s.verdict k).signals

/-- What happens in it and is told of it. -/
def entries (k : Nat) : Journal := (s.attempt k).journal ++ s.told k

/-- The scope in which it starts is not over. -/
def LiveAt (k : Nat) : Prop := (s.start k).1.error? (s.start k).2 = none

instance (k : Nat) : Decidable (s.LiveAt k) :=
  inferInstanceAs (Decidable ((s.start k).1.error? (s.start k).2 = none))

theorem start_succ (k : Nat) :
    s.start (k + 1) = ((s.attempt k).scope, (s.verdict k).due (s.attempt k).now) := rfl

variable {s} {k n : Nat} {r : Run ε α}

/-- How a run ends whose last attempt is of a number: settled by the verdict on it, or in the
wait that the verdict asks for, at the first alarm of the scope. -/
inductive Ends (s : Series ε α) (n : Nat) (r : Run ε α) : Prop
  | settled {signals : List Signal} (verdict : s.verdict n = .settled r.result signals)
      (now : r.now = (s.attempt n).now) (scope : r.scope = (s.attempt n).scope)
  | halted {delay : Duration} {signals : List Signal} {e : ContextError}
      (verdict : s.verdict n = .wait delay signals)
      (wakes : (s.attempt n).scope.Wakes (s.attempt n).now r.now e)
      (within : r.now ≤ Instant.sleepEnd (s.attempt n).now delay)
      (result : r.result = .error (.cancelled e)) (scope : r.scope = (s.attempt n).scope)

/-- Attempts before it do not change how a run ends. -/
theorem Ends.before {start : Instant} {a : Attempt ε α} {signals : List Signal}
    (h : s.Ends n r) : s.Ends n (r.before start a signals) := by
  cases h with
  | settled verdict now scope => exact .settled verdict now scope
  | halted verdict wakes within result scope => exact .halted verdict wakes within result scope

/-- A run makes the attempts from one to another and no more. -/
structure Makes (s : Series ε α) (k n : Nat) (r : Run ε α) : Prop where
  le : k ≤ n
  attempts : r.attempts = (List.range' k (n + 1 - k)).map s.times
  journal : r.journal = (List.range' k (n + 1 - k)).flatMap s.entries
  live : ∀ i, k ≤ i → i ≤ n → s.LiveAt i
  waits : ∀ i, k ≤ i → i < n → (s.verdict i).waits = true
  ends : s.Ends n r

theorem Makes.count (h : s.Makes 0 n r) : r.count = n + 1 := by
  simp [Run.count, h.attempts]

theorem Makes.attempts_eq (h : s.Makes 0 n r) : r.attempts = (List.range (n + 1)).map s.times := by
  rw [h.attempts, List.range_eq_range']
  rfl

theorem Makes.journal_eq (h : s.Makes 0 n r) :
    r.journal = (List.range (n + 1)).flatMap s.entries := by
  rw [h.journal, List.range_eq_range']
  rfl

/-- A run of one attempt. -/
theorem makes_one (live : s.LiveAt k) (ends : s.Ends k r) (attempts : r.attempts = [s.times k])
    (journal : r.journal = s.entries k) : s.Makes k k r where
  le := Nat.le_refl k
  attempts := by simp [attempts]
  journal := by simp [journal]
  live i hk hn := by rwa [Nat.le_antisymm hn hk]
  waits i hk hn := absurd hk (Nat.not_le.2 hn)
  ends := ends

/-- One attempt before those of a run. -/
theorem Makes.before (h : s.Makes (k + 1) n r) (live : s.LiveAt k)
    (waits : (s.verdict k).waits = true) :
    s.Makes k n (r.before (s.start k).2 (s.attempt k) (s.verdict k).signals) := by
  have hrange : List.range' k (n + 1 - k) = k :: List.range' (k + 1) (n + 1 - (k + 1)) := by
    rw [← List.range'_succ]
    congr 1
    have := h.le
    omega
  refine ⟨Nat.le_of_succ_le h.le, ?_, ?_, fun i hk hn => ?_, fun i hk hn => ?_, h.ends.before⟩
  · rw [hrange, List.map_cons, ← h.attempts]
    rfl
  · rw [hrange, List.flatMap_cons, ← h.journal]
    rfl
  · rcases Nat.eq_or_lt_of_le hk with rfl | hlt
    · exact live
    · exact h.live i hlt hn
  · rcases Nat.eq_or_lt_of_le hk with rfl | hlt
    · exact waits
    · exact h.waits i hlt hn

/-! ### Runs of the loop -/

/-- The attempt of a number cut short in the wait after it. -/
theorem makes_halted {delay : Duration} {signals : List Signal} {t : Instant} {e : ContextError}
    (live : s.LiveAt k) (verdict : s.verdict k = .wait delay signals)
    (wakes : (s.attempt k).scope.Wakes (s.attempt k).now t e)
    (within : t ≤ Instant.sleepEnd (s.attempt k).now delay) :
    s.Makes k k ((Run.stopped e (s.attempt k).scope t).before (s.start k).2 (s.attempt k)
      signals) := by
  refine makes_one live (.halted verdict wakes within rfl rfl) rfl ?_
  rw [entries, told, verdict]
  exact List.append_nil _

/-- A run of the loop that starts where and when an attempt does, the scope not being over,
makes that attempt and so many after it. -/
theorem makes_of_loop {scope : Scope} {now : Instant} (h : Loop s.rule s.op k scope now r)
    (hs : s.start k = (scope, now)) (live : scope.error? now = none) : ∃ n, s.Makes k n r := by
  induction h with
  | stopped ended => rw [ended] at live; cases live
  | @settled k scope now result signals _ verdict =>
    obtain ⟨rfl, rfl⟩ : (s.start k).1 = scope ∧ (s.start k).2 = now := by simp [hs]
    have hv : s.verdict k = .settled result signals := verdict
    refine ⟨k, makes_one live (.settled hv rfl rfl) rfl ?_⟩
    rw [entries, told, hv]
    rfl
  | @halted k scope now t delay signals e _ verdict cut =>
    obtain ⟨rfl, rfl⟩ : (s.start k).1 = scope ∧ (s.start k).2 = now := by simp [hs]
    obtain ⟨wakes, within⟩ := Scope.wakes_of_sleep_error cut
    exact ⟨k, makes_halted live verdict wakes (Nat.le_of_lt within)⟩
  | @again k scope now t delay signals r _ verdict slept rest ih =>
    obtain ⟨rfl, rfl⟩ : (s.start k).1 = scope ∧ (s.start k).2 = now := by simp [hs]
    have hv : s.verdict k = .wait delay signals := verdict
    have ht := (Scope.sleep_ok slept).1
    -- The scope may be over just when the wait is, and then the run ends in the wait.
    cases ended : (s.attempt k).scope.error? t with
    | some e =>
      rw [rest.eq_stopped ended]
      exact ⟨k, makes_halted live hv (Scope.wakes_of_sleep_ok slept ended) (Nat.le_of_eq ht)⟩
    | none =>
      obtain ⟨n, hn⟩ := ih (by rw [start_succ, hv, ht]; rfl) ended
      have := hn.before live (by rw [hv]; rfl)
      rw [hv] at this
      exact ⟨n, this⟩

/-- A run of the loop from the start of a series on ends at once, the scope being over, or
makes the first attempts of the series. -/
theorem run_of_loop (h : Loop s.rule s.op 0 s.scope s.now r) :
    (∃ e, s.scope.error? s.now = some e ∧ r = .stopped e s.scope s.now) ∨
      ∃ n, s.Makes 0 n r := by
  cases ended : s.scope.error? s.now with
  | some e => exact .inl ⟨e, rfl, h.eq_stopped ended⟩
  | none => exact .inr (makes_of_loop h rfl ended)

/-- Every attempt that a run can come to starts in a scope that is not over. -/
def Lasts (s : Series ε α) : Prop := ∀ k, (∀ i < k, (s.verdict i).waits = true) → s.LiveAt k

/-- A series lasts if its scope has no end and no attempt gives it one. -/
theorem lasts_of_endless (hs : s.scope = {}) (kept : ∀ k now, (s.op k {} now).scope = {}) :
    s.Lasts := by
  have endless (k : Nat) : (s.start k).1 = {} := by
    induction k with
    | zero => exact hs
    | succ k ih =>
      show (s.op k (s.start k).1 (s.start k).2).scope = {}
      rw [ih, kept]
  intro k _
  rw [LiveAt, endless]
  rfl

/-- In a scope that lasts, a run ends with the verdict on its last attempt. -/
theorem settles (h : Loop s.rule s.op 0 s.scope s.now r) (lasts : s.Lasts) :
    ∃ n signals, s.Makes 0 n r ∧ s.verdict n = .settled r.result signals ∧
      r.now = (s.attempt n).now ∧ r.scope = (s.attempt n).scope := by
  rcases run_of_loop h with ⟨e, ended, -⟩ | ⟨n, hn⟩
  · have live : s.scope.error? s.now = none := lasts 0 (by simp)
    rw [ended] at live
    cases live
  cases hn.ends with
  | settled verdict now scope => exact ⟨n, _, hn, verdict, now, scope⟩
  | halted verdict wakes within =>
    -- The scope would be over at the start of the next attempt.
    have live : s.LiveAt (n + 1) := lasts (n + 1) fun i hi => by
      rcases Nat.lt_succ_iff_lt_or_eq.1 hi with hi | rfl
      · exact hn.waits i (Nat.zero_le i) hi
      · rw [verdict]
        rfl
    rw [LiveAt, start_succ, verdict] at live
    exact absurd (wakes.ended.mono within) (Scope.error?_eq_none_iff.1 live _)

/-! ### Operations that leave the scope as it is -/

section

variable (kept : ∀ k scope now, (s.op k scope now).scope = scope)

include kept

theorem scope_start (k : Nat) : (s.start k).1 = s.scope := by
  induction k with
  | zero => rfl
  | succ k ih => exact (kept k _ _).trans ih

theorem scope_attempt (k : Nat) : (s.attempt k).scope = s.scope :=
  (kept k _ _).trans (scope_start kept k)

theorem scope_run (h : Loop s.rule s.op 0 s.scope s.now r) : r.scope = s.scope := by
  rcases run_of_loop h with ⟨e, -, rfl⟩ | ⟨n, hn⟩
  · rfl
  · cases hn.ends with
    | settled _ _ scope => exact scope.trans (scope_attempt kept n)
    | halted _ _ _ _ scope => exact scope.trans (scope_attempt kept n)

end

/-! ### Operations that take time -/

section

variable (forward : ∀ k scope now, now ≤ (s.op k scope now).now)

include forward

theorem le_start (k : Nat) : s.now ≤ (s.start k).2 := by
  induction k with
  | zero => exact Nat.le_refl s.now
  | succ k ih =>
    calc s.now ≤ (s.start k).2 := ih
      _ ≤ (s.attempt k).now := forward k _ _
      _ ≤ (s.start (k + 1)).2 := Verdict.le_due _ _

theorem le_run (h : Loop s.rule s.op 0 s.scope s.now r) : s.now ≤ r.now := by
  rcases run_of_loop h with ⟨e, -, rfl⟩ | ⟨n, hn⟩
  · exact Nat.le_refl s.now
  have ended : s.now ≤ (s.attempt n).now := Nat.le_trans (le_start forward n) (forward n _ _)
  cases hn.ends with
  | settled _ now => rwa [now]
  | halted _ wakes => exact Nat.le_trans ended (Scope.le_of_alarm wakes.rings)

end

end Series

end CallGuard.Retry
