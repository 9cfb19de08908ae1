import CallGuard.Journal.Counter
import CallGuard.Proofs.Retry.Plan

/-! How often a plan repeats an operation in a scope that lasts. The run settles at the first
attempt with a value or with an error not worth another attempt, and at the last attempt
of the plan if there is none; it waits once after each attempt before that, and it counts
each attempt once, by what it came to. -/

namespace CallGuard

/-- The signal of a wait before another attempt. -/
def Signal.isWaiting : Signal → Bool
  | waiting _ _ _ => true
  | _ => false

/-- What a counter counts are the signals that count it up. -/
theorem Journal.count_eq_countP (j : Journal) (c : Counter) :
    j.count c = j.countP fun e => e.signal.counter? == some c := by
  rw [Journal.count, List.count, List.countP_filterMap]
  refine List.countP_congr fun e _ => ?_
  cases e.signal.counter? <;> simp

namespace Retry

variable {ε α : Type}

namespace Series

variable {s : Series ε α} {n : Nat} {r : Run ε α} {q : Entry → Bool}

/-! ### Signals of the first attempts -/

/-- What happens in the first so many attempts. -/
def inner (s : Series ε α) (n : Nat) : Journal :=
  (List.range n).flatMap fun k => (s.attempt k).journal

/-- What is told of them. -/
def own (s : Series ε α) (n : Nat) : Journal := (List.range n).flatMap s.told

/-- Entries happen in attempts or are told of them. -/
theorem countP_entries (s : Series ε α) (q : Entry → Bool) (n : Nat) :
    ((List.range n).flatMap s.entries).countP q = (s.inner n).countP q + (s.own n).countP q := by
  induction n with
  | zero => rfl
  | succ n ih =>
    simp only [inner, own] at ih
    simp only [inner, own, List.range_succ, List.flatMap_append, List.flatMap_singleton,
      List.countP_append, ih, entries]
    omega

theorem Makes.countP (h : s.Makes 0 n r) (q : Entry → Bool) :
    r.journal.countP q = (s.inner r.count).countP q + (s.own r.count).countP q := by
  rw [h.journal_eq, h.count, countP_entries]

/-- Where the same number is told of each attempt but the last. -/
theorem countP_own {m : Nat} (h : ∀ i < n, (s.told i).countP q = m) :
    (s.own (n + 1)).countP q = n * m + (s.told n).countP q := by
  rw [own, List.range_succ, List.flatMap_append, List.countP_append, List.flatMap_singleton]
  congr 1
  induction n with
  | zero => simp
  | succ n ih =>
    rw [List.range_succ, List.flatMap_append, List.countP_append, List.flatMap_singleton,
      ih fun i hi => h i (by omega), h n (Nat.lt_succ_self n), Nat.succ_mul]

end Series

/-- A run whose attempts were used up. -/
def Run.isExhausted (r : Run ε α) : Bool :=
  match r.result with
  | .error (.exhausted _ _) => true
  | _ => false

namespace Plan

variable {p : Plan} {pick : Nat → Backoff.Sampler} {c : Classifier ε} {s : Series ε α}
  {n : Nat} {r : Run ε α}

/-! ### The last attempt -/

/-- A run settles on the attempt of a number, after failures worth another attempt each. -/
structure SettlesAt (p : Plan) (c : Classifier ε) (s : Series ε α) (r : Run ε α) (n : Nat) :
    Prop where
  makes : s.Makes 0 n r
  verdict : ∃ signals, s.verdict n = .settled r.result signals
  ended : (r.scope, r.now) = ((s.attempt n).scope, (s.attempt n).now)
  left : n < p.attempts
  retried : ∀ i < n, s.Retried c i

/-- A run waits after each of its attempts but the last, so that one was left. -/
theorem waited (hs : s.rule = p.rule pick c) (h : s.Makes 0 n r) {i : Nat} (hi : i < n) :
    s.Retried c i ∧ i + 1 < p.attempts :=
  (waits_iff hs i).1 (h.waits i (Nat.zero_le i) hi)

theorem lt_attempts (hs : s.rule = p.rule pick c) (h : s.Makes 0 n r) : n < p.attempts := by
  cases n with
  | zero => exact p.attempts_pos
  | succ n => exact (waited hs h (Nat.lt_succ_self n)).2

/-- No run makes more attempts than the plan has. -/
theorem count_le_attempts (hs : s.rule = p.rule pick c)
    (h : Loop s.rule s.op 0 s.scope s.now r) : r.count ≤ p.attempts := by
  rcases Series.run_of_loop h with ⟨e, -, rfl⟩ | ⟨n, hn⟩
  · exact Nat.zero_le _
  · rw [hn.count]
    exact lt_attempts hs hn

theorem settlesAt_of_makes (hs : s.rule = p.rule pick c) (h : s.Makes 0 n r)
    {signals : List Signal} (verdict : s.verdict n = .settled r.result signals)
    (now : r.now = (s.attempt n).now) (scope : r.scope = (s.attempt n).scope) :
    SettlesAt p c s r n where
  makes := h
  verdict := ⟨signals, verdict⟩
  ended := by rw [now, scope]
  left := lt_attempts hs h
  retried i hi := (waited hs h hi).1

/-- In a scope that lasts, a plan settles. -/
theorem settles (hs : s.rule = p.rule pick c) (h : Loop s.rule s.op 0 s.scope s.now r)
    (lasts : ∀ k < p.attempts, (∀ i < k, s.Retried c i) → s.LiveAt k) :
    ∃ n, SettlesAt p c s r n := by
  have hl : s.Lasts := by
    intro k waits
    refine lasts k ?_ fun i hi => ((waits_iff hs i).1 (waits i hi)).1
    cases k with
    | zero => exact p.attempts_pos
    | succ k => exact ((waits_iff hs k).1 (waits k (Nat.lt_succ_self k))).2
  obtain ⟨n, signals, hn, verdict, now, scope⟩ := Series.settles h hl
  exact ⟨n, settlesAt_of_makes hs hn verdict now scope⟩

/-- So it does if the scope is not over when the run is. -/
theorem settles_of_live (hs : s.rule = p.rule pick c)
    (h : Loop s.rule s.op 0 s.scope s.now r) (live : r.scope.error? r.now = none) :
    ∃ n, SettlesAt p c s r n := by
  rcases Series.run_of_loop h with ⟨e, ended, rfl⟩ | ⟨n, hn⟩
  · cases ended.symm.trans live
  cases hn.ends with
  | settled verdict now scope => exact ⟨n, settlesAt_of_makes hs hn verdict now scope⟩
  | halted verdict wakes within result scope =>
    rw [scope] at live
    exact absurd wakes.ended (Scope.error?_eq_none_iff.1 live _)

section

variable (hs : s.rule = p.rule pick c) (h : SettlesAt p c s r n)

include hs h

/-- The first attempt that a plan settles on is the last one made. -/
theorem result_of_settled {k : Nat} {result : Except (RetryError ε) α} {signals : List Signal}
    (hk : k < p.attempts) (before : ∀ i < k, s.Retried c i)
    (hr : s.verdict k = .settled result signals) : r.count = k + 1 ∧ r.result = result := by
  obtain ⟨signals', hv⟩ := h.verdict
  obtain rfl : n = k := by
    rcases Nat.lt_trichotomy n k with hlt | heq | hgt
    · have hw := (waits_iff hs n).2 ⟨before n hlt, by omega⟩
      rw [hv] at hw
      cases hw
    · exact heq
    · have hw := h.makes.waits k (Nat.zero_le k) hgt
      rw [hr] at hw
      cases hw
  rw [hr] at hv
  cases hv
  exact ⟨h.makes.count, rfl⟩

/-- Where every attempt of the plan fails with an error worth another, all of them are made. -/
theorem exhausted_of_settled (all : ∀ i < p.attempts, s.Retried c i) {e : ε}
    (ho : (s.attempt (p.attempts - 1)).outcome = .error e) :
    r.count = p.attempts ∧ r.result = .error (.exhausted p.attempts e) := by
  have hpos := p.attempts_pos
  have hm : p.attempts - 1 + 1 = p.attempts := Nat.sub_add_cancel hpos
  obtain ⟨e', he', accepted⟩ := all (p.attempts - 1) (by omega)
  obtain rfl : e' = e := Except.error.inj (he'.symm.trans ho)
  have settled := verdict_exhausted hs ho accepted (Nat.le_of_eq hm.symm)
  rw [hm] at settled
  obtain ⟨count, result⟩ :=
    result_of_settled hs h (by omega) (fun i hi => all i (by omega)) settled
  exact ⟨count.trans hm, result⟩

/-! ### What is told of a run -/

/-- What is told of the attempts of a run, where of each wait the same number is. -/
theorem countP_settled {m : Nat} {q : Entry → Bool}
    (hq : ∀ t a w text, (Journal.stamp t [.failed, .waiting a w text]).countP q = m) :
    r.journal.countP q = (s.inner r.count).countP q + (n * m + (s.told n).countP q) := by
  have told (i : Nat) (hi : i < n) : (s.told i).countP q = m := by
    obtain ⟨text, hw⟩ := verdict_of_waits hs (h.makes.waits i (Nat.zero_le i) hi)
    rw [Series.told, hw]
    exact hq _ _ _ _
  rw [h.makes.countP q, h.makes.count, Series.countP_own told]

/-- What is told of the last attempt of a run, by what the run comes to. -/
theorem told_cases :
    (∃ v, (s.attempt n).outcome = .ok v ∧ r.result = .ok v ∧
        s.told n = .stamp (s.attempt n).now [.succeeded]) ∨
      (∃ e text, (s.attempt n).outcome = .error e ∧ r.result = .error (.terminal e) ∧
        s.told n = .stamp (s.attempt n).now [.failed, .terminal (n + 1) text]) ∨
      ∃ e text, (s.attempt n).outcome = .error e ∧ r.result = .error (.exhausted (n + 1) e) ∧
        s.told n = .stamp (s.attempt n).now [.failed, .exhausted (n + 1) text] := by
  obtain ⟨signals, hv⟩ := h.verdict
  rw [Series.told, hv]
  rcases settled_cases hs hv with
    ⟨v, ho, hr, rfl⟩ | ⟨e, text, ho, -, hr, rfl⟩ | ⟨e, text, ho, -, -, hr, rfl⟩
  · exact .inl ⟨v, ho, hr, rfl⟩
  · exact .inr (.inl ⟨e, text, ho, hr, rfl⟩)
  · exact .inr (.inr ⟨e, text, ho, hr, rfl⟩)

/-- A run waits once less often than it makes an attempt. -/
theorem sleeps_settled : r.journal.countP (·.signal.isWaiting) =
    (s.inner r.count).countP (·.signal.isWaiting) + (r.count - 1) := by
  rw [countP_settled hs h (m := 1) fun _ _ _ _ => rfl, h.makes.count]
  congr 1
  rcases told_cases hs h with ⟨v, -, -, ht⟩ | ⟨e, text, -, -, ht⟩ | ⟨e, text, -, -, ht⟩ <;>
    simp [ht, Journal.stamp, Signal.isWaiting]

/-- A success is counted if the run has a value. -/
theorem successes_settled : r.journal.count (.attempt "success") =
    (s.inner r.count).count (.attempt "success") + if r.result.isOk then 1 else 0 := by
  rw [Journal.count_eq_countP, Journal.count_eq_countP,
    countP_settled hs h (m := 0) fun _ _ _ _ => rfl]
  congr 1
  rcases told_cases hs h with ⟨v, -, hr, ht⟩ | ⟨e, text, -, hr, ht⟩ | ⟨e, text, -, hr, ht⟩ <;>
    rw [hr, ht] <;> rfl

/-- A failure is counted for each attempt without a value. -/
theorem failures_settled : r.journal.count (.attempt "failure") =
    (s.inner r.count).count (.attempt "failure") +
      (List.range r.count).countP fun k => !(s.attempt k).outcome.isOk := by
  have before : ((List.range n).countP fun k => !(s.attempt k).outcome.isOk) = n := by
    rw [List.countP_eq_length.2, List.length_range]
    intro i hi
    obtain ⟨e, he, -⟩ := h.retried i (List.mem_range.1 hi)
    rw [he]
    rfl
  rw [Journal.count_eq_countP, Journal.count_eq_countP,
    countP_settled hs h (m := 1) fun _ _ _ _ => rfl]
  congr 1
  rw [h.makes.count, List.range_succ, List.countP_append, before, Nat.mul_one]
  congr 1
  rcases told_cases hs h with ⟨v, ho, -, ht⟩ | ⟨e, text, ho, -, ht⟩ | ⟨e, text, ho, -, ht⟩ <;>
    rw [List.countP_singleton, ho, ht] <;> rfl

/-- The end of the attempts is counted if they were used up. -/
theorem exhaustions_settled : r.journal.count .exhaustion =
    (s.inner r.count).count .exhaustion + if r.isExhausted then 1 else 0 := by
  rw [Journal.count_eq_countP, Journal.count_eq_countP,
    countP_settled hs h (m := 0) fun _ _ _ _ => rfl]
  congr 1
  unfold Run.isExhausted
  rcases told_cases hs h with ⟨v, -, hr, ht⟩ | ⟨e, text, -, hr, ht⟩ | ⟨e, text, -, hr, ht⟩ <;>
    rw [hr, ht] <;> rfl

end

/-! ### The run of a plan -/

/-- A run is what a plan stands for, given the attempts that it would make. -/
structure Fulfilled (p : Plan) (pick : Nat → Backoff.Sampler) (c : Classifier ε)
    (s : Series ε α) (r : Run ε α) : Prop where
  /-- A value after failures worth another attempt each is the result. -/
  value : ∀ k < p.attempts, (∀ i < k, s.Retried c i) → ∀ v, (s.attempt k).outcome = .ok v →
    r.count = k + 1 ∧ r.result = .ok v
  /-- So is an error not worth another attempt, be it that of the last one. -/
  terminal : ∀ k < p.attempts, (∀ i < k, s.Retried c i) → ∀ e,
    (s.attempt k).outcome = .error e → c.retries e = false →
      r.count = k + 1 ∧ r.result = .error (.terminal e)
  /-- Without either, the attempts are used up. -/
  exhausted : (∀ i < p.attempts, s.Retried c i) → ∀ e,
    (s.attempt (p.attempts - 1)).outcome = .error e →
      r.count = p.attempts ∧ r.result = .error (.exhausted p.attempts e)
  count_pos : 0 < r.count
  count_le : r.count ≤ p.attempts
  /-- The number of an attempt stays in its range. -/
  attempts_lt : p.attempts < UInt32.size
  attempts : r.attempts = (List.range r.count).map s.times
  /-- Between two attempts there is the wait of the plan and nothing else. -/
  waits : ∀ k, k + 1 < r.count →
    s.start (k + 1) = ((s.attempt k).scope, Instant.sleepEnd (s.attempt k).now (p.wait pick k))
  /-- After the last attempt there is no wait. -/
  ended : (r.scope, r.now) = ((s.attempt (r.count - 1)).scope, (s.attempt (r.count - 1)).now)
  journal : r.journal = (List.range r.count).flatMap s.entries
  /-- Of waits as many are told as there are attempts but one, those within attempts apart. -/
  sleeps : r.journal.countP (·.signal.isWaiting) =
    (s.inner r.count).countP (·.signal.isWaiting) + (r.count - 1)
  successes : r.journal.count (.attempt "success") =
    (s.inner r.count).count (.attempt "success") + if r.result.isOk then 1 else 0
  failures : r.journal.count (.attempt "failure") =
    (s.inner r.count).count (.attempt "failure") +
      (List.range r.count).countP fun k => !(s.attempt k).outcome.isOk
  exhaustions : r.journal.count .exhaustion =
    (s.inner r.count).count .exhaustion + if r.isExhausted then 1 else 0

/-- In a scope that lasts, the run of a plan is what the plan stands for. -/
theorem fulfilled (p : Plan) (pick : Nat → Backoff.Sampler) (c : Classifier ε)
    (op : Operation ε α) (scope : Scope) (now : Instant)
    (lasts : ∀ k < p.attempts, (∀ i < k, (p.series pick c op scope now).Retried c i) →
      (p.series pick c op scope now).LiveAt k) :
    p.Fulfilled pick c (p.series pick c op scope now) (p.run pick c op scope now) := by
  have hs : (p.series pick c op scope now).rule = p.rule pick c := rfl
  have hl : Loop (p.series pick c op scope now).rule (p.series pick c op scope now).op 0
    (p.series pick c op scope now).scope (p.series pick c op scope now).now
    (p.run pick c op scope now) := p.run_loop pick c op scope now
  generalize p.series pick c op scope now = s at *
  generalize p.run pick c op scope now = r at *
  obtain ⟨n, h⟩ := settles hs hl lasts
  have hc : r.count = n + 1 := h.makes.count
  exact {
    value := fun k hk before v ho => result_of_settled hs h hk before (verdict_value hs ho)
    terminal := fun k hk before e ho declined =>
      result_of_settled hs h hk before (verdict_terminal hs ho declined)
    exhausted := fun all e ho => exhausted_of_settled hs h all ho
    count_pos := by rw [hc]; exact Nat.succ_pos n
    count_le := by rw [hc]; exact h.left
    attempts_lt := p.attempts_lt
    attempts := by rw [hc, h.makes.attempts_eq]
    waits := by
      intro k hk
      obtain ⟨text, hw⟩ := verdict_of_waits hs (h.makes.waits k (Nat.zero_le k) (by omega))
      rw [Series.start_succ, hw]
      rfl
    ended := by rw [hc]; exact h.ended
    journal := by rw [hc, h.makes.journal_eq]
    sleeps := sleeps_settled hs h
    successes := successes_settled hs h
    failures := failures_settled hs h
    exhaustions := exhaustions_settled hs h }

/-- Every error is worth another attempt. -/
def everyError : Classifier Nat := ⟨fun _ => true, fun _ => ""⟩

/-- Two failures and a value, each after some work. -/
def thirdTime : Operation Nat String := fun k scope now =>
  ⟨if k < 2 then .error k else .ok "done", scope, now + 5000, []⟩

/-- Attempts by the plan with no settings of its own, before a deadline that comes later. -/
def thirdTimeSeries : Series Nat String :=
  series {} (fun _ => Backoff.Band.middle) everyError thirdTime ⟨none, some 400000000⟩ 0

def thirdTimeRun : Run Nat String :=
  run {} (fun _ => Backoff.Band.middle) everyError thirdTime ⟨none, some 400000000⟩ 0

theorem fulfilled_third_time :
    (∀ k < 3, thirdTimeSeries.LiveAt k) ∧
      Fulfilled {} (fun _ => Backoff.Band.middle) everyError thirdTimeSeries thirdTimeRun ∧
      thirdTimeRun.count = 3 ∧ thirdTimeRun.result = .ok "done" := by
  have live : ∀ k < 3, thirdTimeSeries.LiveAt k := by decide +kernel
  have all : Fulfilled {} (fun _ => Backoff.Band.middle) everyError thirdTimeSeries thirdTimeRun :=
    fulfilled {} _ _ thirdTime ⟨none, some 400000000⟩ 0 fun k hk _ => live k hk
  have retried : ∀ i < 2, thirdTimeSeries.Retried everyError i := by
    intro i hi
    refine ⟨i, ?_, rfl⟩
    show (if i < 2 then Except.error i else Except.ok "done") = Except.error i
    rw [if_pos hi]
  exact ⟨live, all, all.value 2 (by decide) retried "done" rfl⟩

end Plan

end Retry

end CallGuard
