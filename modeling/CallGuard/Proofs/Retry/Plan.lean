import CallGuard.Proofs.Retry.Series

/-! The rule of a plan. It settles on a value, on an error not worth another attempt and on
any error of the last attempt, and else asks for the wait of the attempt. A plan that counts
down the attempts left and carries its delay along goes by this rule, which counts the
attempts made and knows the delay from their number. -/

namespace CallGuard.Retry

variable {ε α : Type}

/-- The attempt of a number fails with an error worth another. -/
def Series.Retried (s : Series ε α) (c : Classifier ε) (k : Nat) : Prop :=
  ∃ e, (s.attempt k).outcome = .error e ∧ c.retries e = true

namespace Plan

/-- The wait after an attempt, counted from zero. -/
def wait (p : Plan) (pick : Nat → Backoff.Sampler) (k : Nat) : Duration :=
  Backoff.jitter (pick k) (p.base k) p.factor

/-- A plan settles on a value, on an error not worth another attempt, and on any error of
its last attempt. -/
def rule (p : Plan) (pick : Nat → Backoff.Sampler) (c : Classifier ε) : Rule ε α
  | _, .ok v => .settled (.ok v) [.succeeded]
  | k, .error e =>
    if !c.retries e then
      .settled (.error (.terminal e)) [.failed, .terminal (k + 1) (c.message e)]
    else if p.attempts ≤ k + 1 then
      .settled (.error (.exhausted (k + 1) e)) [.failed, .exhausted (k + 1) (c.message e)]
    else .wait (p.wait pick k) [.failed, .waiting (k + 1) (p.wait pick k) (c.message e)]

theorem attempts_pos (p : Plan) : 0 < p.attempts := Nat.le_max_left _ _

theorem attempts_lt (p : Plan) : p.attempts < UInt32.size :=
  Nat.max_lt.2 ⟨by decide, p.maxAttempts.toNat_lt⟩

section

variable (p : Plan) (pick : Nat → Backoff.Sampler) {c : Classifier ε} {k : Nat} {e : ε}

theorem rule_terminal (h : (!c.retries e) = true) :
    p.rule pick c k (.error e : Except ε α) = .settled (.error (.terminal e))
      [.failed, .terminal (k + 1) (c.message e)] :=
  if_pos h

theorem rule_exhausted (h : ¬ (!c.retries e) = true) (hk : p.attempts ≤ k + 1) :
    p.rule pick c k (.error e : Except ε α) = .settled (.error (.exhausted (k + 1) e))
      [.failed, .exhausted (k + 1) (c.message e)] :=
  (if_neg h).trans (if_pos hk)

theorem rule_wait (h : ¬ (!c.retries e) = true) (hk : k + 1 < p.attempts) :
    p.rule pick c k (.error e : Except ε α) = .wait (p.wait pick k)
      [.failed, .waiting (k + 1) (p.wait pick k) (c.message e)] :=
  (if_neg h).trans (if_neg (Nat.not_le.2 hk))

end

/-- With some attempts left, a plan goes through its loop from the attempt that these leave,
the delay being that after the failures before it. -/
theorem attemptsFrom_loop (p : Plan) (pick : Nat → Backoff.Sampler) (c : Classifier ε)
    (op : Operation ε α) (left k : Nat) (delay : Duration) (scope : Scope) (now : Instant)
    (hk : k + left + 1 = p.attempts) (hd : delay = p.base k) :
    Loop (p.rule pick c) op k scope now
      (p.attemptsFrom pick c op left k delay scope now) := by
  fun_induction attemptsFrom p pick c op left k delay scope now with
  | case1 _ _ _ _ _ _ ended => exact .stopped ended
  | case2 _ _ _ _ _ live _ _ value => exact .settled live (congrArg _ value)
  | case3 _ _ _ _ _ live _ _ error declined =>
    exact .settled live ((congrArg _ error).trans (p.rule_terminal pick declined))
  | case4 _ _ _ _ live _ _ error accepted =>
    exact .settled live
      ((congrArg _ error).trans (p.rule_exhausted pick accepted (Nat.le_of_eq hk.symm)))
  | case5 k _ scope now live a e error accepted left wait ih =>
    subst hd
    have verdict : p.rule pick c k a.outcome = .wait wait _ :=
      (congrArg _ error).trans (p.rule_wait pick accepted (by omega))
    unfold afterWait
    split
    · next cut => exact .halted live verdict cut
    -- The delay carried on is `p.base (k + 1)` by definition.
    · next t slept => exact .again live verdict slept (ih t (by omega) rfl)

theorem run_loop (p : Plan) (pick : Nat → Backoff.Sampler) (c : Classifier ε)
    (op : Operation ε α) (scope : Scope) (now : Instant) :
    Loop (p.rule pick c) op 0 scope now (p.run pick c op scope now) :=
  p.attemptsFrom_loop pick c op _ 0 p.initial scope now (by have := p.attempts_pos; omega) rfl

/-! ### Verdicts -/

/-- The attempts that a plan would make. -/
def series (p : Plan) (pick : Nat → Backoff.Sampler) (c : Classifier ε)
    (op : Operation ε α) (scope : Scope) (now : Instant) : Series ε α :=
  ⟨p.rule pick c, op, scope, now⟩

variable {p : Plan} {pick : Nat → Backoff.Sampler} {c : Classifier ε} {s : Series ε α} {k : Nat}

/-- The verdict of a plan on the outcome of an attempt. -/
inductive Judged (p : Plan) (pick : Nat → Backoff.Sampler) (c : Classifier ε) (k : Nat) :
    Except ε α → Verdict ε α → Prop
  | value (v : α) : Judged p pick c k (.ok v) (.settled (.ok v) [.succeeded])
  | terminal (e : ε) (declined : c.retries e = false) : Judged p pick c k (.error e)
      (.settled (.error (.terminal e)) [.failed, .terminal (k + 1) (c.message e)])
  | exhausted (e : ε) (accepted : c.retries e = true) (last : p.attempts ≤ k + 1) :
      Judged p pick c k (.error e)
        (.settled (.error (.exhausted (k + 1) e)) [.failed, .exhausted (k + 1) (c.message e)])
  | wait (e : ε) (accepted : c.retries e = true) (left : k + 1 < p.attempts) :
      Judged p pick c k (.error e)
        (.wait (p.wait pick k) [.failed, .waiting (k + 1) (p.wait pick k) (c.message e)])

theorem judged_rule (p : Plan) (pick : Nat → Backoff.Sampler) (c : Classifier ε) (k : Nat)
    (o : Except ε α) : p.Judged pick c k o (p.rule pick c k o) := by
  cases o with
  | ok v => exact .value v
  | error e =>
    cases he : c.retries e with
    | false =>
      rw [p.rule_terminal pick (by simp [he])]
      exact .terminal e he
    | true =>
      rcases Nat.lt_or_ge (k + 1) p.attempts with hk | hk
      · rw [p.rule_wait pick (by simp [he]) hk]
        exact .wait e he hk
      · rw [p.rule_exhausted pick (by simp [he]) hk]
        exact .exhausted e he hk

theorem judged (hs : s.rule = p.rule pick c) (k : Nat) :
    p.Judged pick c k (s.attempt k).outcome (s.verdict k) := by
  rw [Series.verdict, hs]
  exact p.judged_rule pick c k _

theorem verdict_value {v : α} (hs : s.rule = p.rule pick c) (ho : (s.attempt k).outcome = .ok v) :
    s.verdict k = .settled (.ok v) [.succeeded] := by
  rw [Series.verdict, hs, ho]
  rfl

theorem verdict_terminal {e : ε} (hs : s.rule = p.rule pick c)
    (ho : (s.attempt k).outcome = .error e) (declined : c.retries e = false) :
    s.verdict k = .settled (.error (.terminal e))
      [.failed, .terminal (k + 1) (c.message e)] := by
  rw [Series.verdict, hs, ho]
  exact p.rule_terminal pick (by simp [declined])

theorem verdict_exhausted {e : ε} (hs : s.rule = p.rule pick c)
    (ho : (s.attempt k).outcome = .error e) (accepted : c.retries e = true)
    (last : p.attempts ≤ k + 1) :
    s.verdict k = .settled (.error (.exhausted (k + 1) e))
      [.failed, .exhausted (k + 1) (c.message e)] := by
  rw [Series.verdict, hs, ho]
  exact p.rule_exhausted pick (by simp [accepted]) last

/-- A plan asks for a wait after a failure worth another attempt unless it was the last. -/
theorem waits_iff (hs : s.rule = p.rule pick c) (k : Nat) :
    (s.verdict k).waits = true ↔ s.Retried c k ∧ k + 1 < p.attempts := by
  have h := judged hs k
  unfold Series.Retried
  generalize (s.attempt k).outcome = o at h ⊢
  generalize s.verdict k = v at h ⊢
  cases h with
  | value v => simp [Verdict.waits]
  | terminal e declined => simp [Verdict.waits, declined]
  | exhausted e accepted last => simp [Verdict.waits, accepted, last]
  | wait e accepted left => simp [Verdict.waits, accepted, left]

/-- A plan settles on a value, on an error not worth another attempt, or on the error of its
last attempt. -/
theorem settled_cases {result : Except (RetryError ε) α} {signals : List Signal}
    (hs : s.rule = p.rule pick c) (hv : s.verdict k = .settled result signals) :
    (∃ v, (s.attempt k).outcome = .ok v ∧ result = .ok v ∧ signals = [.succeeded]) ∨
      (∃ e text, (s.attempt k).outcome = .error e ∧ c.retries e = false ∧
        result = .error (.terminal e) ∧ signals = [.failed, .terminal (k + 1) text]) ∨
      ∃ e text, (s.attempt k).outcome = .error e ∧ c.retries e = true ∧ p.attempts ≤ k + 1 ∧
        result = .error (.exhausted (k + 1) e) ∧ signals = [.failed, .exhausted (k + 1) text] := by
  have h := judged hs k
  rw [hv] at h
  generalize (s.attempt k).outcome = o at h ⊢
  cases h with
  | value v => exact .inl ⟨v, rfl, rfl, rfl⟩
  | terminal e declined => exact .inr (.inl ⟨e, _, rfl, declined, rfl, rfl⟩)
  | exhausted e accepted last => exact .inr (.inr ⟨e, _, rfl, accepted, last, rfl, rfl⟩)

/-- The verdict on an attempt that is waited after. -/
theorem verdict_of_waits (hs : s.rule = p.rule pick c) (h : (s.verdict k).waits = true) :
    ∃ text, s.verdict k =
      .wait (p.wait pick k) [.failed, .waiting (k + 1) (p.wait pick k) text] := by
  have hj := judged hs k
  generalize (s.attempt k).outcome = o at hj
  generalize s.verdict k = v at h hj ⊢
  cases hj with
  | value v => cases h
  | terminal e declined => cases h
  | exhausted e accepted last => cases h
  | wait e accepted left => exact ⟨_, rfl⟩

end Plan

end CallGuard.Retry
