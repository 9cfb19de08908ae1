import CallGuard.Proofs.Retry.Series

/-! The rule of a policy. It settles on a value and on an error that the policy declines to
follow up, and else asks for the delay of the attempt. -/

namespace CallGuard.Retry

variable {ε α : Type}

namespace Policy

/-- A policy settles on a value and on an error that it declines to follow up. -/
def rule (p : Policy ε) (message : ε → String) : Rule ε α
  | _, .ok v => .settled (.ok v) [.succeeded]
  | k, .error e =>
    if !p.retries e (number k) then
      .settled (.error (.terminal e)) [.failed, .declined (number k) (message e)]
    else .wait (p.delay (number k))
      [.failed, .waiting (number k) (p.delay (number k)) (message e)]

section

variable (p : Policy ε) {message : ε → String} {k : Nat} {e : ε}

theorem rule_terminal (h : (!p.retries e (number k)) = true) :
    p.rule message k (.error e : Except ε α) = .settled (.error (.terminal e))
      [.failed, .declined (number k) (message e)] :=
  if_pos h

theorem rule_wait (h : ¬ (!p.retries e (number k)) = true) :
    p.rule message k (.error e : Except ε α) = .wait (p.delay (number k))
      [.failed, .waiting (number k) (p.delay (number k)) (message e)] :=
  if_neg h

end

/-- A run by a policy that comes to an end has gone through its loop, in no more attempts
than were allowed. -/
theorem loop_of_attemptsFrom? (p : Policy ε) (message : ε → String) (op : Operation ε α)
    {fuel k : Nat} {scope : Scope} {now : Instant} {r : Run ε α}
    (h : p.attemptsFrom? message op fuel k scope now = some r) :
    Loop (p.rule message) op k scope now r ∧ r.count ≤ fuel + 1 := by
  fun_induction attemptsFrom? p message op fuel k scope now generalizing r with
  | case1 _ _ _ _ _ ended =>
    cases h
    exact ⟨.stopped ended, Nat.zero_le _⟩
  | case2 =>
    rename_i live _ _ value
    cases h
    exact ⟨.settled live (congrArg _ value), Nat.le_add_left _ _⟩
  | case3 =>
    rename_i live _ _ error declined
    cases h
    exact ⟨.settled live ((congrArg _ error).trans (p.rule_terminal declined)),
      Nat.le_add_left _ _⟩
  | case4 => cases h
  | case5 =>
    rename_i live _ _ error accepted _ _ _ _ _ cut
    cases h
    exact ⟨.halted live ((congrArg _ error).trans (p.rule_wait accepted)) cut,
      Nat.le_add_left _ _⟩
  | case6 =>
    rename_i live _ _ error accepted _ _ _ _ slept ih
    obtain ⟨rest, hrest, rfl⟩ := Option.map_eq_some_iff.1 h
    obtain ⟨hl, hc⟩ := ih hrest
    exact ⟨.again live ((congrArg _ error).trans (p.rule_wait accepted)) slept hl,
      Nat.succ_le_succ hc⟩

/-! ### Verdicts -/

/-- The attempts that a policy would have made. -/
def series (p : Policy ε) (message : ε → String) (op : Operation ε α) (scope : Scope)
    (now : Instant) : Series ε α :=
  ⟨p.rule message, op, scope, now⟩

variable {p : Policy ε} {message : ε → String} {s : Series ε α} {k : Nat}

theorem verdict_value {v : α} (hs : s.rule = p.rule message)
    (ho : (s.attempt k).outcome = .ok v) : s.verdict k = .settled (.ok v) [.succeeded] := by
  rw [Series.verdict, hs, ho]
  rfl

theorem verdict_terminal {e : ε} (hs : s.rule = p.rule message)
    (ho : (s.attempt k).outcome = .error e) (declined : p.retries e (number k) = false) :
    s.verdict k = .settled (.error (.terminal e)) [.failed, .declined (number k) (message e)] := by
  rw [Series.verdict, hs, ho]
  exact p.rule_terminal (by simp [declined])

theorem verdict_wait {e : ε} (hs : s.rule = p.rule message)
    (ho : (s.attempt k).outcome = .error e) (accepted : p.retries e (number k) = true) :
    s.verdict k = .wait (p.delay (number k))
      [.failed, .waiting (number k) (p.delay (number k)) (message e)] := by
  rw [Series.verdict, hs, ho]
  exact p.rule_wait (by simp [accepted])

/-- A policy settles on a value or on an error that it declines to follow up. -/
theorem settled_cases {result : Except (RetryError ε) α} {signals : List Signal}
    (hs : s.rule = p.rule message) (hv : s.verdict k = .settled result signals) :
    (∃ v, (s.attempt k).outcome = .ok v ∧ result = .ok v) ∨
      ∃ e, (s.attempt k).outcome = .error e ∧ p.retries e (number k) = false ∧
        result = .error (.terminal e) := by
  cases ho : (s.attempt k).outcome with
  | ok v =>
    cases hv.symm.trans (verdict_value hs ho)
    exact .inl ⟨v, rfl, rfl⟩
  | error e =>
    cases hr : p.retries e (number k) with
    | true => cases hv.symm.trans (verdict_wait hs ho hr)
    | false =>
      cases hv.symm.trans (verdict_terminal hs ho hr)
      exact .inr ⟨e, rfl, hr, rfl⟩

/-- Where a policy comes to no end in the attempts allowed, the scope lasts through all of
them and each is waited after. -/
theorem waits_of_none {fuel : Nat} {scope : Scope} {now : Instant}
    (hs : s.rule = p.rule message) (hstart : s.start k = (scope, now))
    (h : p.attemptsFrom? message s.op fuel k scope now = none) :
    ∀ i, k ≤ i → i ≤ k + fuel → s.LiveAt i ∧ (s.verdict i).waits = true := by
  -- Nothing comes out where the fuel ends on a wait, here or after some more attempts.
  fun_induction attemptsFrom? p message s.op fuel k scope now with
  | case1 => cases h
  | case2 => cases h
  | case3 => cases h
  | case4 k scope now live a _ error accepted =>
    have hat : s.attempt k = a := by rw [Series.attempt, hstart]
    intro i hk hf
    obtain rfl : k = i := Nat.le_antisymm hk hf
    have hw := verdict_wait hs (hat ▸ error) (by simpa using accepted)
    exact ⟨by rw [Series.LiveAt, hstart]; exact live, by rw [hw]; rfl⟩
  | case5 => cases h
  | case6 k scope now live a _ error accepted _ _ _ _ slept ih =>
    have hat : s.attempt k = a := by rw [Series.attempt, hstart]
    have hw := verdict_wait hs (hat ▸ error) (by simpa using accepted)
    have rest := ih (by rw [Series.start_succ, hw, hat, (Scope.sleep_ok slept).1]; rfl)
      (Option.map_eq_none_iff.1 h)
    intro i hk hf
    rcases Nat.eq_or_lt_of_le hk with rfl | hlt
    · exact ⟨by rw [Series.LiveAt, hstart]; exact live, by rw [hw]; rfl⟩
    · exact rest i hlt (by omega)

end Policy

end CallGuard.Retry
