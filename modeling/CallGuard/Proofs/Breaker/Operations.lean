import CallGuard.Breaker.Basic

/-! What each operation of a breaker can do, once and for all: `admitted_cases` and
`refused_cases` for a call that asks to be let in, `settle_cases` for an outcome,
`release_cases` for a call that ends without one, and one equation each for `reset` and
`trip`. No proof about breakers has to open the operations themselves. -/

namespace CallGuard.Breaker

variable {b b' : Breaker} {now : Instant} {permit : Permit} {change : Option Change}

/-! ### Admission -/

theorem enter_of_closed (hs : b.state = .closed) (now : Instant) :
    b.enter now = .admitted b ⟨none⟩ none := by
  simp [enter, hs]

/-- The first call after the cool-down begins a window. -/
theorem enter_of_cooled (hs : b.state = .opened) (hc : b.cooled now = true) :
    b.enter now =
      .admitted { b with state := .halfOpen, probes := 1, window := b.window + 1 }
        ⟨some (b.window + 1)⟩ (some ⟨.opened, .halfOpen⟩) := by
  simp [enter, moveTo, hs, hc]

theorem enter_of_cooling (hs : b.state = .opened) (hc : b.cooled now = false) :
    b.enter now = .refused .opened := by
  simp [enter, hs, hc]

theorem enter_of_probes_lt (hs : b.state = .halfOpen) (hlt : b.probes < b.probeBudget.toNat)
    (now : Instant) :
    b.enter now = .admitted { b with probes := b.probes + 1 } ⟨some b.window⟩ none := by
  simp [enter, hs, hlt]

theorem enter_of_le_probes (hs : b.state = .halfOpen) (hle : b.probeBudget.toNat ≤ b.probes)
    (now : Instant) : b.enter now = .refused .probesUsed := by
  simp [enter, hs, Nat.not_lt.2 hle]

/-- A call is let in by a closed breaker, as the first probe of a new window once an open
one has cooled down, or as one more probe of a half-open one. -/
theorem admitted_cases (h : b.enter now = .admitted b' permit change) :
    (b.state = .closed ∧ b' = b ∧ permit = ⟨none⟩ ∧ change = none) ∨
    (b.state = .opened ∧ b.cooled now = true ∧
      b' = { b with state := .halfOpen, probes := 1, window := b.window + 1 } ∧
      permit = ⟨some (b.window + 1)⟩ ∧ change = some ⟨.opened, .halfOpen⟩) ∨
    (b.state = .halfOpen ∧ b.probes < b.probeBudget.toNat ∧
      b' = { b with probes := b.probes + 1 } ∧ permit = ⟨some b.window⟩ ∧ change = none) := by
  cases hs : b.state with
  | closed =>
    rw [enter_of_closed hs] at h
    obtain ⟨rfl, rfl, rfl⟩ := Admission.admitted.inj h
    exact .inl ⟨rfl, rfl, rfl, rfl⟩
  | opened =>
    cases hc : b.cooled now with
    | true =>
      rw [enter_of_cooled hs hc] at h
      obtain ⟨rfl, rfl, rfl⟩ := Admission.admitted.inj h
      exact .inr (.inl ⟨rfl, rfl, rfl, rfl, rfl⟩)
    | false =>
      rw [enter_of_cooling hs hc] at h
      cases h
  | halfOpen =>
    rcases Nat.lt_or_ge b.probes b.probeBudget.toNat with hlt | hle
    · rw [enter_of_probes_lt hs hlt] at h
      obtain ⟨rfl, rfl, rfl⟩ := Admission.admitted.inj h
      exact .inr (.inr ⟨rfl, hlt, by simp [hs], rfl, rfl⟩)
    · rw [enter_of_le_probes hs hle] at h
      cases h

/-- A call is refused while an open breaker cools down, and by a half-open one whose probes
are all in use. -/
theorem refused_cases {why : Refusal} (h : b.enter now = .refused why) :
    (b.state = .opened ∧ b.cooled now = false ∧ why = .opened) ∨
    (b.state = .halfOpen ∧ b.probeBudget.toNat ≤ b.probes ∧ why = .probesUsed) := by
  cases hs : b.state with
  | closed =>
    rw [enter_of_closed hs] at h
    cases h
  | opened =>
    cases hc : b.cooled now with
    | true =>
      rw [enter_of_cooled hs hc] at h
      cases h
    | false =>
      rw [enter_of_cooling hs hc] at h
      exact .inl ⟨rfl, rfl, (Admission.refused.inj h).symm⟩
  | halfOpen =>
    rcases Nat.lt_or_ge b.probes b.probeBudget.toNat with hlt | hle
    · rw [enter_of_probes_lt hs hlt] at h
      cases h
    · rw [enter_of_le_probes hs hle] at h
      exact .inr ⟨rfl, hle, (Admission.refused.inj h).symm⟩

/-! ### Outcomes -/

theorem settle_of_opened (hs : b.state = .opened) (now : Instant) (succeeded : Bool) :
    b.settle now succeeded = (b, none) := by
  cases succeeded <;> simp [settle, succeed, fail, hs]

theorem settle_true_of_closed (hs : b.state = .closed) (now : Instant) :
    b.settle now true = ({ b with failures := 0 }, none) := by
  simp [settle, succeed, hs]

theorem settle_false_of_lt (hs : b.state = .closed)
    (hlt : b.failures + 1 < b.maxFailures.toNat) (now : Instant) :
    b.settle now false =
      ({ b with failures := b.failures + 1, lastFailure := some now }, none) := by
  have hm : ¬b.maxFailures.toNat ≤ b.failures + 1 := by omega
  simp [settle, fail, hs, hm]

theorem settle_false_of_le (hs : b.state = .closed)
    (hle : b.maxFailures.toNat ≤ b.failures + 1) (now : Instant) :
    b.settle now false =
      ({ b with state := .opened, failures := 0, lastFailure := some now },
        some ⟨.closed, .opened⟩) := by
  simp [settle, fail, moveTo, hs, hle]

theorem settle_true_of_halfOpen (hs : b.state = .halfOpen) (now : Instant) :
    b.settle now true =
      ({ b with state := .closed, failures := 0 }, some ⟨.halfOpen, .closed⟩) := by
  simp [settle, succeed, moveTo, hs]

theorem settle_false_of_halfOpen (hs : b.state = .halfOpen) (now : Instant) :
    b.settle now false =
      ({ b with state := .opened, failures := 1, lastFailure := some now },
        some ⟨.halfOpen, .opened⟩) := by
  simp [settle, fail, moveTo, hs]

/-- An outcome is ignored by an open breaker, clears or counts up the failures of a closed
one and opens it at the threshold, and decides over a half-open one. -/
theorem settle_cases (b : Breaker) (now : Instant) (succeeded : Bool) :
    (b.state = .opened ∧ b.settle now succeeded = (b, none)) ∨
    (b.state = .closed ∧ succeeded = true ∧
      b.settle now succeeded = ({ b with failures := 0 }, none)) ∨
    (b.state = .closed ∧ succeeded = false ∧ b.failures + 1 < b.maxFailures.toNat ∧
      b.settle now succeeded =
        ({ b with failures := b.failures + 1, lastFailure := some now }, none)) ∨
    (b.state = .closed ∧ succeeded = false ∧ b.maxFailures.toNat ≤ b.failures + 1 ∧
      b.settle now succeeded =
        ({ b with state := .opened, failures := 0, lastFailure := some now },
          some ⟨.closed, .opened⟩)) ∨
    (b.state = .halfOpen ∧ succeeded = true ∧
      b.settle now succeeded =
        ({ b with state := .closed, failures := 0 }, some ⟨.halfOpen, .closed⟩)) ∨
    (b.state = .halfOpen ∧ succeeded = false ∧
      b.settle now succeeded =
        ({ b with state := .opened, failures := 1, lastFailure := some now },
          some ⟨.halfOpen, .opened⟩)) := by
  cases hs : b.state with
  | opened => simp [settle_of_opened hs]
  | halfOpen =>
    cases succeeded with
    | true => simp [settle_true_of_halfOpen hs]
    | false => simp [settle_false_of_halfOpen hs]
  | closed =>
    cases succeeded with
    | true => simp [settle_true_of_closed hs, hs]
    | false =>
      rcases Nat.lt_or_ge (b.failures + 1) b.maxFailures.toNat with hlt | hle
      · simp [settle_false_of_lt hs hlt, hs, hlt]
      · simp [settle_false_of_le hs hle, hle]

/-- After an outcome no breaker is half open; its windows and its budget stay as they are. -/
theorem settle_frame (b : Breaker) (now : Instant) (succeeded : Bool) :
    (b.settle now succeeded).1.state ≠ .halfOpen ∧
      (b.settle now succeeded).1.window = b.window ∧
      (b.settle now succeeded).1.probeBudget = b.probeBudget := by
  rcases settle_cases b now succeeded with ⟨hs, he⟩ | ⟨hs, -, he⟩ | ⟨hs, -, -, he⟩ |
    ⟨hs, -, -, he⟩ | ⟨hs, -, he⟩ | ⟨hs, -, he⟩ <;> simp [he, hs]

/-- A call that ends without an outcome gives a slot back to the window it is a probe of,
and does nothing otherwise. -/
theorem release_cases (b : Breaker) (permit : Permit) :
    (b.state = .halfOpen ∧ permit.window = some b.window ∧
      b.release permit = { b with probes := b.probes - 1 }) ∨
    (¬(b.state = .halfOpen ∧ permit.window = some b.window) ∧ b.release permit = b) := by
  by_cases h : b.state = .halfOpen ∧ permit.window = some b.window
  · exact .inl ⟨h.1, h.2, by simp [release, h.1, h.2]⟩
  · refine .inr ⟨h, ?_⟩
    unfold release
    rw [if_neg (by simpa using h)]

/-- Only the count of probes can change with it. -/
theorem release_frame (b : Breaker) (permit : Permit) :
    ∃ n, b.release permit = { b with probes := n } := by
  rcases release_cases b permit with ⟨-, -, he⟩ | ⟨-, he⟩
  · exact ⟨_, he⟩
  · exact ⟨b.probes, he⟩

theorem reset_fst (b : Breaker) :
    b.reset.1 = { b with state := .closed, failures := 0, probes := 0, lastFailure := none } := by
  by_cases hs : b.state = .closed <;> simp [reset, moveTo, hs]

theorem trip_fst (b : Breaker) (now : Instant) :
    (b.trip now).1 = { b with
      state := .opened
      failures := if b.state = .closed then 0 else b.failures
      lastFailure := some now } := by
  cases hs : b.state <;> simp [trip, moveTo, hs]

/-- A number raised to one if it is zero. -/
theorem raised_pos (n : UInt32) : 0 < (if n = 0 then 1 else n).toNat := by
  split
  next => decide
  next h => exact Nat.pos_of_ne_zero fun h' => h (UInt32.toNat_inj.1 h')

/-- It takes one failure at least to open a new breaker. -/
theorem new_maxFailures_pos (name : String) (k : UInt32) (d : Duration) :
    0 < (new name k d).maxFailures.toNat := raised_pos k

/-- A budget is one probe at least. -/
theorem setProbeBudget_pos (b : Breaker) (n : UInt32) :
    0 < (b.setProbeBudget n).probeBudget.toNat := raised_pos n

end CallGuard.Breaker
