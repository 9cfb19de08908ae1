import CallGuard.Transport.Client
import CallGuard.Proofs.Retry.Attempts

/-! The exchanges of one message. An answer is final if it is a value, or a failure that another
exchange would not change: a status below 500, a body that is no JSON, or a request that failed
neither in connecting, nor for want of time, nor on its way. In a scope that is not over when the
message is done, the exchanges end with the first final answer or with the last of the plan, and
that answer is the result (`reaches_of_live`). In no scope are there more (`count_le_attempts`). -/

namespace CallGuard

/-- Whether another exchange would be no use after an answer. -/
def Answer.isFinal : Answer → Bool
  | .none failure => !(failure.isConnect || failure.isTimeout || failure.stage = .sending)
  | .broken status failure =>
    if Status.isSuccess status then
      !(failure.isConnect || failure.isTimeout || failure.stage = .sending)
    else status < 500
  | .full status _ => status < 500

namespace Transport

/-- A final answer is a value, or an error not worth another exchange. -/
theorem isFinal_iff (url : String) (a : Answer) :
    a.isFinal = true ↔ ∀ e, outcome url a = .error e → e.isRetryable = false := by
  cases a with
  | none failure => simp [Answer.isFinal, outcome, TransportError.isRetryable,
      RequestFailure.isRetryable]
  | broken status failure =>
    cases hs : Status.isSuccess status with
    | true => simp [Answer.isFinal, outcome, hs, TransportError.isRetryable,
        RequestFailure.isRetryable]
    | false => simp [Answer.isFinal, outcome, hs, TransportError.isRetryable]
  | full status body =>
    cases hs : Status.isSuccess status with
    | false => simp [Answer.isFinal, outcome, hs, TransportError.isRetryable]
    | true =>
      have hlt : status < 500 := by
        simp [Status.isSuccess] at hs
        omega
      refine iff_of_true (by simpa [Answer.isFinal] using hlt) ?_
      intro e he
      by_cases hb : body.isEmpty = true
      · simp [outcome, hs, hb] at he
      · have hm : (Json.read body).mapError (.decode url) = .error e := by
          simpa [outcome, hs, hb] using he
        cases hr : Json.read body with
        | ok v =>
          rw [hr] at hm
          cases hm
        | error r =>
          rw [hr] at hm
          cases hm
          rfl

theorem isFinal_of_ok {url : String} {a : Answer} {v : Json} (h : outcome url a = .ok v) :
    a.isFinal = true := by
  rw [isFinal_iff url]
  intro e he
  cases h.symm.trans he

theorem isFinal_of_error {url : String} {a : Answer} {e : TransportError}
    (h : outcome url a = .error e) : a.isFinal = !e.isRetryable := by
  have hf := isFinal_iff url a
  cases hr : e.isRetryable with
  | false =>
    refine hf.2 ?_
    intro e' he'
    cases h.symm.trans he'
    exact hr
  | true =>
    rw [Bool.not_true, Bool.eq_false_iff]
    intro hfinal
    cases hr.symm.trans (hf.1 hfinal e h)

/-- The result of a message by its last answer, where so many exchanges are made at most. -/
def conclusion (url : String) (most : Nat) (a : Answer) : Except SendError Json :=
  match outcome url a with
  | .ok v => .ok v
  | .error e => .error (.failed (if a.isFinal then .terminal e else .exhausted most e))

/-- What a message comes to with so many exchanges, given the answers to be had: the first final
one is the last, and the last of all is if there is none. -/
structure Reaches (answers : Nat → Answer) (url : String) (most count : Nat)
    (result : Except SendError Json) : Prop where
  pos : 0 < count
  le : count ≤ most
  before : ∀ i, i + 1 < count → (answers i).isFinal = false
  last : (answers (count - 1)).isFinal = true ∨ count = most
  concluded : result = conclusion url most (answers (count - 1))

variable {network : Network} {first : Nat} {target : Target} {message : Json} {p : Retry.Plan}
  {pick : Nat → Backoff.Sampler} {scope : Scope} {now : Instant}

/-- An exchange gets its answer, or is given up when its scope is over. -/
theorem exchange_cases (network : Network) (first : Nat) (target : Target) (message : Json)
    (k : Nat) (scope : Scope) (now : Instant) :
    let a := exchange network first target message k scope now
    a.scope = scope ∧
      (a.outcome = outcome target.url.text (network (first + k) target message).1 ∨
        ∃ e, a.outcome = .error (.cancelled e) ∧ scope.Over e a.now) := by
  cases he : scope.ending? now with
  | none =>
    refine ⟨?_, .inl ?_⟩
    · simp [exchange, he]
    · simp [exchange, he]
  | some ending =>
    obtain ⟨t, e⟩ := ending
    by_cases ht : t < now + (network (first + k) target message).2.nanos
    · refine ⟨?_, .inr ⟨e, ?_, ?_⟩⟩
      · simp [exchange, he, ht]
      · simp [exchange, he, ht]
      · simpa [exchange, he, ht] using (Scope.wakes_of_ending? he).ended
    · refine ⟨?_, .inl ?_⟩
      · simp [exchange, he, ht]
      · simp [exchange, he, ht]

/-- The exchanges that a plan would make. -/
def exchanges (network : Network) (first : Nat) (target : Target) (message : Json)
    (p : Retry.Plan) (pick : Nat → Backoff.Sampler) (scope : Scope) (now : Instant) :
    Retry.Series TransportError Json :=
  p.series pick classifier (exchange network first target message) scope now

variable {s : Retry.Series TransportError Json} {r : Retry.Run TransportError Json} {k n : Nat}

section

variable (hs : s = exchanges network first target message p pick scope now)

include hs

theorem scope_start (k : Nat) : (s.start k).1 = scope := by
  subst hs
  exact Retry.Series.scope_start
    (fun k scope now => (exchange_cases network first target message k scope now).1) k

theorem attempt_cases (k : Nat) :
    (s.attempt k).scope = scope ∧
      ((s.attempt k).outcome = outcome target.url.text (network (first + k) target message).1 ∨
        ∃ e, (s.attempt k).outcome = .error (.cancelled e) ∧
          scope.Over e (s.attempt k).now) := by
  have ha : s.attempt k = exchange network first target message k scope (s.start k).2 := by
    rw [← scope_start hs k, hs]
    rfl
  rw [ha]
  exact exchange_cases network first target message k scope _

/-- An exchange worth another has its answer, which is not final. -/
theorem not_final_of_retried (h : s.Retried classifier k) :
    (network (first + k) target message).1.isFinal = false := by
  obtain ⟨e, he, accepted⟩ := h
  have retryable : e.isRetryable = true := accepted
  rcases (attempt_cases hs k).2 with ho | ⟨e', ho, -⟩
  · rw [isFinal_of_error (ho.symm.trans he), retryable, Bool.not_true]
  · cases ho.symm.trans he
    cases retryable

/-- A message that is done while its scope lasts has come to one of its answers. -/
theorem reaches_of_settlesAt (h : p.SettlesAt classifier s r n)
    (live : scope.error? r.now = none) :
    Reaches (fun i => (network (first + i) target message).1) target.url.text p.attempts r.count
      (r.result.mapError .failed) := by
  -- only the end of the scope could have kept the last answer away
  have hlast : (s.attempt n).outcome =
      outcome target.url.text (network (first + n) target message).1 := by
    rcases (attempt_cases hs n).2 with ho | ⟨e, -, ended⟩
    · exact ho
    · rw [(Prod.mk.inj h.ended).2] at live
      exact absurd ended (Scope.error?_eq_none_iff.1 live e)
  have hrule : s.rule = p.rule pick classifier := by rw [hs]; rfl
  have hbefore (i : Nat) (hi : i + 1 < n + 1) :
      (network (first + i) target message).1.isFinal = false :=
    not_final_of_retried hs (h.retried i (by omega))
  have hleft := h.left
  obtain ⟨signals, hv⟩ := h.verdict
  rw [show r.count = n + 1 from h.makes.count]
  rcases Retry.Plan.settled_cases hrule hv with ⟨v, ho, hr, -⟩ | ⟨e, -, ho, declined, hr, -⟩ |
    ⟨e, -, ho, accepted, hle, hr, -⟩
  · rw [hlast] at ho
    refine ⟨Nat.succ_pos n, hleft, hbefore, .inl (isFinal_of_ok ho), ?_⟩
    rw [hr, Nat.add_sub_cancel, conclusion, ho]
    rfl
  · rw [hlast] at ho
    have hfinal : (network (first + n) target message).1.isFinal = true := by
      rw [isFinal_of_error ho, show e.isRetryable = false from declined, Bool.not_false]
    refine ⟨Nat.succ_pos n, hleft, hbefore, .inl hfinal, ?_⟩
    rw [hr, Nat.add_sub_cancel, conclusion, ho, hfinal]
    rfl
  · rw [hlast] at ho
    have hfinal : (network (first + n) target message).1.isFinal = false := by
      rw [isFinal_of_error ho, show e.isRetryable = true from accepted, Bool.not_true]
    have hmost : n + 1 = p.attempts := by omega
    refine ⟨Nat.succ_pos n, hleft, hbefore, .inr hmost, ?_⟩
    rw [hr, Nat.add_sub_cancel, conclusion, ho, hfinal, hmost]
    rfl

/-- Exchanges leave the scope as it is. -/
theorem scope_run (h : Retry.Loop s.rule s.op 0 s.scope s.now r) : r.scope = scope := by
  subst hs
  exact Retry.Series.scope_run
    (fun k scope now => (exchange_cases network first target message k scope now).1) h

end

/-- In a scope that is not over when they are done, the exchanges come to one of the answers. -/
theorem reaches_of_live
    (live : scope.error?
      (p.run pick classifier (exchange network first target message) scope now).now = none) :
    let r := p.run pick classifier (exchange network first target message) scope now
    Reaches (fun i => (network (first + i) target message).1) target.url.text p.attempts r.count
      (r.result.mapError .failed) := by
  intro r
  have hloop := p.run_loop pick classifier (exchange network first target message) scope now
  have hscope : r.scope = scope :=
    scope_run (s := exchanges network first target message p pick scope now) rfl hloop
  obtain ⟨n, hn⟩ := Retry.Plan.settles_of_live
    (s := exchanges network first target message p pick scope now) rfl hloop
    (by rw [hscope]; exact live)
  exact reaches_of_settlesAt rfl hn live

/-- There are never more exchanges than the plan has attempts. -/
theorem count_run_le (network : Network) (first : Nat) (target : Target) (message : Json)
    (p : Retry.Plan) (pick : Nat → Backoff.Sampler) (scope : Scope) (now : Instant) :
    (p.run pick classifier (exchange network first target message) scope now).count ≤
      p.attempts :=
  Retry.Plan.count_le_attempts
    (s := exchanges network first target message p pick scope now) rfl (p.run_loop ..)

end Transport

end CallGuard
