import CallGuard.Proofs.Retry.Attempts

/-! When a plan makes its attempts. The base delays are the initial delay and what grows from it,
whatever the jitter of the waits was before; the wait after an attempt is the base delay of its
number, jittered. The run starts an attempt when the wait after the one before it is over, at a
whole millisecond, and takes as long as its attempts and these waits together (`Plan.paced`). -/

namespace CallGuard

namespace Instant

/-- An instant is the first whole millisecond at or after another. -/
def RoundsUp (t u : Instant) : Prop := u % 1000000 = 0 ∧ t ≤ u ∧ u < t + 1000000

theorem roundsUp_wake (t : Nat) : RoundsUp t (wake t) := by
  change (t + 999999) / 1000000 * 1000000 % 1000000 = 0 ∧ t ≤ (t + 999999) / 1000000 * 1000000 ∧
    (t + 999999) / 1000000 * 1000000 < t + 1000000
  omega

/-- How long one is asleep who goes to sleep at an instant for some time. -/
def asleep (t : Instant) (d : Duration) : Nat := sleepEnd t d - t

theorem sleepEnd_eq_add (t : Instant) (d : Duration) : sleepEnd t d = t + asleep t d :=
  (Nat.add_sub_cancel' (le_sleepEnd t d)).symm

theorem sleepEnd_of_zero {t : Instant} {d : Duration} (hd : d.nanos = 0) : sleepEnd t d = t :=
  if_pos hd

theorem sleepEnd_of_lt {t : Instant} {d : Duration} (hd : d.nanos ≠ 0)
    (h : t + d.nanos < rangeEnd) : sleepEnd t d = wake (t + d.nanos) := by
  rw [sleepEnd, if_neg hd, after?, if_pos h]
  rfl

end Instant

/-- The number and the length of a wait that is told. -/
def Signal.wait? : Signal → Option (Nat × Duration)
  | waiting k wait _ => some (k, wait)
  | _ => none

namespace Backoff

open Binary64

/-- A factor that leaves delays as they are. -/
def Still (factor : Binary64) : Prop := factor.isNan = true ∨ le factor 0 = true

theorem jitter_of_still {factor : Binary64} (h : Still factor) (pick : Sampler)
    (delay : Duration) : jitter pick delay factor = delay := by
  have hband : jitterBand? delay factor = none := by
    rw [jitterBand?, if_pos]
    rcases h with h | h <;> simp [h]
  rw [jitter, hband]

/-- What grows from a delay is known from its first value and its growth. -/
theorem grown_unique {d : Nat → Duration} {delay cap : Duration} {multiplier : Binary64}
    (first : d 0 = delay) (grows : ∀ k, d (k + 1) = grow (d k) multiplier cap) (k : Nat) :
    d k = grown delay multiplier cap k := by
  induction k with
  | zero => exact first
  | succ k ih => rw [grows, ih, grown]

end Backoff

namespace Retry

variable {ε α : Type}

/-- The sum of the first so many numbers. -/
def total (f : Nat → Nat) : Nat → Nat
  | 0 => 0
  | n + 1 => total f n + f n

namespace Plan

variable {p : Plan} {pick : Nat → Backoff.Sampler} {c : Classifier ε} {s : Series ε α}
  {n : Nat} {r : Run ε α}

/-- The next attempt of a run starts when the wait of the plan is over. -/
theorem start_succ_of_lt (hs : s.rule = p.rule pick c) (h : s.Makes 0 n r) {k : Nat}
    (hk : k < n) :
    s.start (k + 1) =
      ((s.attempt k).scope, Instant.sleepEnd (s.attempt k).now (p.wait pick k)) := by
  obtain ⟨text, hw⟩ := verdict_of_waits hs (h.waits k (Nat.zero_le k) hk)
  rw [Series.start_succ, hw]
  rfl

/-- An attempt starts after the attempts and the waits before it. -/
theorem start_eq_add (hs : s.rule = p.rule pick c) (h : s.Makes 0 n r) {took : Nat → Nat}
    (ht : ∀ k < n, (s.attempt k).now = (s.start k).2 + took k) {k : Nat} (hk : k ≤ n) :
    (s.start k).2 = s.now + total took k +
      total (fun i => Instant.asleep (s.attempt i).now (p.wait pick i)) k := by
  induction k with
  | zero => rfl
  | succ k ih =>
    have arrange (a b c d e : Nat) : a + b + c + d + e = a + (b + d) + (c + e) := by omega
    calc (s.start (k + 1)).2
        = (s.attempt k).now + Instant.asleep (s.attempt k).now (p.wait pick k) := by
          rw [start_succ_of_lt hs h hk, Instant.sleepEnd_eq_add]
      _ = (s.start k).2 + took k + Instant.asleep (s.attempt k).now (p.wait pick k) :=
          congrArg (· + Instant.asleep (s.attempt k).now (p.wait pick k)) (ht k hk)
      _ = s.now + total took k +
            total (fun i => Instant.asleep (s.attempt i).now (p.wait pick i)) k + took k +
            Instant.asleep (s.attempt k).now (p.wait pick k) := by
          rw [ih (Nat.le_of_succ_le hk)]
      _ = _ := arrange ..

/-- What is told of an attempt that is waited after is one wait, that of its number. -/
theorem wait?_told_of_lt (hs : s.rule = p.rule pick c) (h : s.Makes 0 n r) {k : Nat}
    (hk : k < n) : (s.told k).filterMap (·.signal.wait?) = [(k + 1, p.wait pick k)] := by
  obtain ⟨text, hw⟩ := verdict_of_waits hs (h.waits k (Nat.zero_le k) hk)
  rw [Series.told, hw]
  rfl

/-- No wait is told of the attempt that a run settles on. -/
theorem wait?_told_last (hs : s.rule = p.rule pick c) (h : SettlesAt p c s r n) :
    (s.told n).filterMap (·.signal.wait?) = [] := by
  rcases told_cases hs h with ⟨v, -, -, ht⟩ | ⟨e, text, -, -, ht⟩ | ⟨e, text, -, -, ht⟩ <;>
    rw [ht] <;> rfl

theorem waits_own (hs : s.rule = p.rule pick c) (h : SettlesAt p c s r n) :
    (s.own (n + 1)).filterMap (·.signal.wait?) =
      (List.range n).map fun k => (k + 1, p.wait pick k) := by
  have before (m : Nat) (hm : m ≤ n) : (s.own m).filterMap (·.signal.wait?) =
      (List.range m).map fun k => (k + 1, p.wait pick k) := by
    induction m with
    | zero => rfl
    | succ m ih =>
      rw [Series.own, List.range_succ, List.flatMap_append, List.filterMap_append,
        List.flatMap_singleton, wait?_told_of_lt hs h.makes hm, List.map_append, ← ih (by omega)]
      rfl
  rw [Series.own, List.range_succ, List.flatMap_append, List.filterMap_append,
    List.flatMap_singleton, wait?_told_last hs h, List.append_nil, ← before n (Nat.le_refl n)]
  rfl

/-- A run waits as a plan does whose base delays are given, with some jitter. -/
structure Paced (p : Plan) (base : Nat → Duration) (pick : Nat → Backoff.Sampler)
    (c : Classifier ε) (s : Series ε α) (r : Run ε α) : Prop where
  attempts : r.attempts = (List.range r.count).map s.times
  journal : r.journal = (List.range r.count).flatMap s.entries
  count_pos : 0 < r.count
  /-- As long as any are left, a failure worth another attempt is followed by one. -/
  goesOn : ∀ k < r.count, s.Retried c k → k + 1 < p.attempts → k + 1 < r.count
  /-- A wait is told of each attempt but the last: the base delay of its number, jittered. -/
  told : (s.own r.count).filterMap (·.signal.wait?) =
    (List.range (r.count - 1)).map fun k => (k + 1, Backoff.jitter (pick k) (base k) p.factor)
  /-- The next attempt starts when that wait is over. -/
  starts : ∀ k, k + 1 < r.count → (s.start (k + 1)).2 =
    Instant.sleepEnd (s.attempt k).now (Backoff.jitter (pick k) (base k) p.factor)
  /-- Without jitter the waits are the base delays. -/
  still : Backoff.Still p.factor → ∀ k, Backoff.jitter (pick k) (base k) p.factor = base k
  /-- Then the next attempt starts at once if there is no delay, and else at the first whole
  millisecond at which the delay is over, as far as the clock goes. -/
  atOnce : Backoff.Still p.factor → ∀ k, k + 1 < r.count → (base k).nanos = 0 →
    (s.start (k + 1)).2 = (s.attempt k).now
  onTime : Backoff.Still p.factor → ∀ k, k + 1 < r.count → (base k).nanos ≠ 0 →
    (s.attempt k).now + (base k).nanos < Instant.rangeEnd →
      Instant.RoundsUp ((s.attempt k).now + (base k).nanos) (s.start (k + 1)).2
  /-- The run takes as long as its attempts and the waits between them. -/
  elapsed : ∀ took : Nat → Nat, (∀ k < r.count, (s.attempt k).now = (s.start k).2 + took k) →
    r.now = s.now + total took r.count + total (fun k => Instant.asleep (s.attempt k).now
      (Backoff.jitter (pick k) (base k) p.factor)) (r.count - 1)

theorem paced_of_settlesAt {base : Nat → Duration} (hb : base = p.base)
    (hs : s.rule = p.rule pick c) (h : SettlesAt p c s r n) : p.Paced base pick c s r := by
  subst hb
  have hc : r.count = n + 1 := h.makes.count
  have starts (k : Nat) (hk : k + 1 < r.count) :
      (s.start (k + 1)).2 = Instant.sleepEnd (s.attempt k).now (p.wait pick k) := by
    rw [start_succ_of_lt hs h.makes (by omega)]
  have still (hp : Backoff.Still p.factor) (k : Nat) : p.wait pick k = p.base k :=
    Backoff.jitter_of_still hp (pick k) (p.base k)
  constructor
  case attempts => rw [hc, h.makes.attempts_eq]
  case journal => rw [hc, h.makes.journal_eq]
  case count_pos => rw [hc]; exact Nat.succ_pos n
  case goesOn =>
    intro k hk retried left
    rw [hc] at hk ⊢
    refine Nat.succ_lt_succ ((Nat.lt_succ_iff_lt_or_eq.1 hk).resolve_right ?_)
    rintro rfl
    obtain ⟨signals, hv⟩ := h.verdict
    have hw := (waits_iff hs k).2 ⟨retried, left⟩
    rw [hv] at hw
    cases hw
  case told =>
    rw [hc]
    exact waits_own hs h
  case starts => exact starts
  case still => exact still
  case atOnce =>
    intro hp k hk hd
    rw [starts k hk, still hp, Instant.sleepEnd_of_zero hd]
  case onTime =>
    intro hp k hk hd hr
    rw [starts k hk, still hp, Instant.sleepEnd_of_lt hd hr]
    exact Instant.roundsUp_wake _
  case elapsed =>
    intro took ht
    rw [hc] at ht
    have hstart := start_eq_add hs h.makes (fun k hk => ht k (by omega)) (Nat.le_refl n)
    have arrange (a b c d : Nat) : a + b + c + d = a + (b + d) + c := by omega
    rw [hc]
    calc r.now = (s.attempt n).now := congrArg Prod.snd h.ended
      _ = (s.start n).2 + took n := ht n (Nat.lt_succ_self n)
      _ = s.now + total took n +
            total (fun k => Instant.asleep (s.attempt k).now (p.wait pick k)) n + took n := by
          rw [hstart]
      _ = _ := arrange ..

/-- Given the base delays that grow from the initial one, a run in a scope that lasts waits as
the plan does, whatever the jitter. -/
theorem paced (p : Plan) (base : Nat → Duration) (first : base 0 = p.initial)
    (grows : ∀ k, base (k + 1) = Backoff.grow (base k) p.multiplier p.cap)
    (pick : Nat → Backoff.Sampler) (c : Classifier ε) (op : Operation ε α) (scope : Scope)
    (now : Instant)
    (lasts : ∀ k < p.attempts, (∀ i < k, (p.series pick c op scope now).Retried c i) →
      (p.series pick c op scope now).LiveAt k) :
    p.Paced base pick c (p.series pick c op scope now) (p.run pick c op scope now) := by
  obtain ⟨n, h⟩ := settles (s := p.series pick c op scope now) rfl
    (p.run_loop pick c op scope now) lasts
  exact paced_of_settlesAt (funext (Backoff.grown_unique first grows)) rfl h

/-- Four attempts that take a millisecond and fail, with delays that do not end at whole
milliseconds and grow up to the cap. -/
def capped : Plan where
  maxAttempts := 4
  initial := .ofNanos 22500000
  cap := .ofMillis 50
  factor := 0

def slowFailure : Operation Nat String := fun k scope now => ⟨.error k, scope, now + 1000000, []⟩

theorem paced_capped :
    let s := capped.series (fun _ => Backoff.Band.middle) everyError slowFailure {} 0
    let r := capped.run (fun _ => Backoff.Band.middle) everyError slowFailure {} 0
    (∀ k < 4, s.LiveAt k) ∧ capped.Paced capped.base (fun _ => Backoff.Band.middle) everyError s r ∧
      r.attempts = [(0, 1000000), (24000000, 25000000), (70000000, 71000000),
        (121000000, 122000000)] := by
  intro s r
  have live : ∀ k < 4, s.LiveAt k := by decide +kernel
  exact ⟨live, paced capped capped.base rfl (fun _ => rfl) _ everyError slowFailure {} 0
    (fun k hk _ => live k hk), by decide +kernel⟩

end Plan

end Retry

end CallGuard
