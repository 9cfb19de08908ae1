import CallGuard.Proofs.Breaker.Availability
import CallGuard.Proofs.Breaker.Refusals

/-! Callers who take turns. Where every call has ended or is dropped before the next one asks to
be let in, whatever is done by hand meanwhile, a half-open breaker has no probe in flight when
it is asked, and since its count never exceeds those in flight the budget is never used up. So
two runs that set different budgets are the same to everyone (`budget_unseen`). -/

namespace CallGuard.Breaker

variable {b b' : Breaker} {now : Instant} {n : UInt32}

/-- The breaker with a budget as it is given. -/
def rebudget (b : Breaker) (n : UInt32) : Breaker := { b with probeBudget := n }

/-- Whether a half-open breaker counts no probe. -/
def Vacant (b : Breaker) : Prop := b.state = .halfOpen → b.probes = 0

def Admission.rebudget (n : UInt32) : Admission → Admission
  | .admitted b permit change => .admitted (b.rebudget n) permit change
  | .refused why => .refused why

/-! ### Operations that do not look at the budget -/

/-- A budget matters to a half-open breaker only that counts probes. -/
theorem enter_rebudget (hv : b.Vacant) (hb : 0 < b.probeBudget.toNat) (hn : 0 < n.toNat)
    (now : Instant) : (b.rebudget n).enter now = (b.enter now).rebudget n := by
  cases hs : b.state with
  | closed =>
    rw [enter_of_closed hs, enter_of_closed (b := b.rebudget n) hs]
    rfl
  | opened =>
    cases hc : b.cooled now with
    | true =>
      rw [enter_of_cooled hs hc, enter_of_cooled (b := b.rebudget n) hs hc]
      rfl
    | false =>
      rw [enter_of_cooling hs hc, enter_of_cooling (b := b.rebudget n) hs hc]
      rfl
  | halfOpen =>
    have hz := hv hs
    rw [enter_of_probes_lt hs (hz ▸ hb),
      enter_of_probes_lt (b := b.rebudget n) hs (show b.probes < n.toNat from hz ▸ hn)]
    rfl

theorem not_probesUsed (hv : b.Vacant) (hb : 0 < b.probeBudget.toNat) (now : Instant) :
    b.enter now ≠ .refused .probesUsed := by
  intro he
  rcases refused_cases he with ⟨-, -, hw⟩ | ⟨hs, hle, -⟩
  · cases hw
  · have hz := hv hs
    omega

@[simp] theorem moveTo_rebudget (b : Breaker) (n : UInt32) (s : State) :
    (b.rebudget n).moveTo s = ((b.moveTo s).1.rebudget n, (b.moveTo s).2) := by
  have hs : (b.rebudget n).state = b.state := rfl
  unfold moveTo
  rw [hs]
  split <;> rfl

@[simp] theorem settle_rebudget (b : Breaker) (n : UInt32) (now : Instant) (succeeded : Bool) :
    (b.rebudget n).settle now succeeded =
      ((b.settle now succeeded).1.rebudget n, (b.settle now succeeded).2) := by
  have hs : (b.rebudget n).state = b.state := rfl
  rcases settle_cases b now succeeded with ⟨h, he⟩ | ⟨h, rfl, he⟩ | ⟨h, rfl, hlt, he⟩ |
    ⟨h, rfl, hle, he⟩ | ⟨h, rfl, he⟩ | ⟨h, rfl, he⟩
  · rw [he, settle_of_opened (hs.trans h)]
  · rw [he, settle_true_of_closed (hs.trans h)]
    rfl
  · rw [he, settle_false_of_lt (hs.trans h) hlt]
    rfl
  · rw [he, settle_false_of_le (hs.trans h) hle]
    rfl
  · rw [he, settle_true_of_halfOpen (hs.trans h)]
    rfl
  · rw [he, settle_false_of_halfOpen (hs.trans h)]
    rfl

@[simp] theorem release_rebudget (b : Breaker) (n : UInt32) (permit : Permit) :
    (b.rebudget n).release permit = (b.release permit).rebudget n := by
  rcases release_cases b permit with ⟨hs, hw, he⟩ | ⟨hn, he⟩
  · rcases release_cases (b.rebudget n) permit with ⟨-, -, he'⟩ | ⟨hn, -⟩
    · rw [he, he']
      rfl
    · exact absurd ⟨hs, hw⟩ hn
  · rcases release_cases (b.rebudget n) permit with ⟨hs, hw, -⟩ | ⟨-, he'⟩
    · exact absurd ⟨hs, hw⟩ hn
    · rw [he, he']

@[simp] theorem reset_rebudget (b : Breaker) (n : UInt32) :
    (b.rebudget n).reset = (b.reset.1.rebudget n, b.reset.2) := by
  rw [reset, moveTo_rebudget]
  rfl

@[simp] theorem trip_rebudget (b : Breaker) (n : UInt32) (now : Instant) :
    (b.rebudget n).trip now = ((b.trip now).1.rebudget n, (b.trip now).2) := by
  rw [trip, moveTo_rebudget]
  rfl

variable {ε α : Type}

namespace Session

variable {s : Session}

def rebudget (s : Session) (n : UInt32) : Session := { s with breaker := s.breaker.rebudget n }

@[simp] theorem rebudget_breaker (s : Session) (n : UInt32) :
    (s.rebudget n).breaker = s.breaker.rebudget n := rfl

@[simp] theorem rebudget_live (s : Session) (n : UInt32) : (s.rebudget n).live = s.live := rfl

@[simp] theorem follow_rebudget (s : Session) (n : UInt32) (b : Breaker) (change : Option Change) :
    (s.rebudget n).follow (b.rebudget n, change) = (s.follow (b, change)).rebudget n := by
  cases change <;> rfl

@[simp] theorem release_rebudget (s : Session) (n : UInt32) (permit : Permit) :
    (s.rebudget n).release permit = (s.release permit).rebudget n := by
  simp [release, rebudget]

@[simp] theorem abandon_rebudget (s : Session) (n : UInt32) (id : String) :
    (s.rebudget n).abandon id = (s.abandon id).rebudget n := by
  cases hl : s.live.get? id with
  | none => simp [abandon, hl]
  | some permit =>
    simp only [abandon, rebudget_live, hl, release_rebudget]
    rfl

@[simp] theorem settle_rebudget (s : Session) (n : UInt32) (now : Instant)
    (outcome : Except ε α) : (s.rebudget n).settle now outcome =
      ((s.settle now outcome).1.rebudget n, (s.settle now outcome).2) := by
  simp [settle]

/-- What a call is told, and what it finds if it is let in. -/
theorem enter_rebudget (hv : s.breaker.Vacant) (hb : 0 < s.breaker.probeBudget.toNat)
    (hn : 0 < n.toNat) (now : Instant) :
    (s.rebudget n).enter now = (s.enter now).map fun r => (r.1.rebudget n, r.2) := by
  have he := Breaker.enter_rebudget hv hb hn now
  unfold enter
  rw [rebudget_breaker, he]
  cases s.breaker.enter now with
  | refused why => rfl
  | admitted b permit change => simp [Admission.rebudget, Except.map]

@[simp] theorem probeBudget_abandon (s : Session) (id : String) :
    (s.abandon id).breaker.probeBudget = s.breaker.probeBudget := by
  cases hl : s.live.get? id with
  | none => rw [abandon_of_none hl]
  | some permit =>
    obtain ⟨n, he⟩ := release_frame s.breaker permit
    simp [abandon, release, hl, he]

end Session

/-- The answer as it is in a session of another budget. -/
def Answer.rebudget (a : Answer ε α) (n : UInt32) : Answer ε α :=
  { a with session := a.session.rebudget n }

namespace Session

variable {s : Session} {op : Op ε α}

/-- An operation that sets no budget and finds no probe counted goes the same way with any
budget. -/
theorem step_rebudget (hv : op.calls = true → (s.room op).breaker.Vacant)
    (hb : 0 < s.breaker.probeBudget.toNat) (hn : 0 < n.toNat) (hop : ∀ m, op ≠ .setProbeBudget m)
    (now : Instant) : (s.rebudget n).step now op = (s.step now op).rebudget n := by
  cases op with
  | call outcome =>
    have hv : s.breaker.Vacant := hv rfl
    simp only [step, enter_rebudget hv hb hn]
    cases s.enter now with
    | error why => rfl
    | ok r => simp [Except.map, Answer.rebudget]; rfl
  | crash =>
    have hv : s.breaker.Vacant := hv rfl
    simp only [step, enter_rebudget hv hb hn]
    cases s.enter now with
    | error why => rfl
    | ok r => simp [Except.map, Answer.rebudget]; rfl
  | start id =>
    have hv : (s.abandon id).breaker.Vacant := hv rfl
    have hb : 0 < (s.abandon id).breaker.probeBudget.toNat := by rwa [probeBudget_abandon]
    simp only [step, abandon_rebudget, enter_rebudget hv hb hn]
    cases (s.abandon id).enter now <;> rfl
  | finish id outcome =>
    simp only [step, rebudget_live, settle_rebudget]
    cases s.live.get? id <;> rfl
  | abandon id =>
    simp only [step, rebudget_live, abandon_rebudget]
    cases s.live.get? id <;> rfl
  | reset =>
    simp only [step, rebudget_breaker, reset_rebudget, follow_rebudget]
    rfl
  | trip =>
    simp only [step, rebudget_breaker, trip_rebudget, follow_rebudget]
    rfl
  | setProbeBudget m => exact absurd rfl (hop m)
  | read id =>
    have hc : (s.rebudget n).channel = s.channel := rfl
    simp only [step, hc]
    cases s.channel.read? id <;> rfl
  | subscribe id => rfl
  | observe tag => rfl
  | collect => rfl

/-- An operation that finds no probe counted is not refused for the budget. -/
theorem refusal?_ne_probesUsed (hv : op.calls = true → (s.room op).breaker.Vacant)
    (hb : 0 < s.breaker.probeBudget.toNat) (now : Instant) :
    (s.step now op).reply.refusal? ≠ some .probesUsed := by
  intro hr
  obtain ⟨hop, he, -⟩ := step_of_refused hr
  have hroom : (s.room op).breaker.probeBudget = s.breaker.probeBudget := by
    cases op with
    | start id => exact probeBudget_abandon s id
    | _ => rfl
  exact not_probesUsed (hv hop) (hroom ▸ hb) now he

/-! ### Taking turns -/

/-- Whether whoever makes a call in a run finds no other in flight. -/
def Sequential (s : Session) : List (Instant × Op ε α) → Prop
  | [] => True
  | (now, op) :: ops =>
    (op.calls = true → (s.room op).live = .empty) ∧ (s.step now op).session.Sequential ops

instance Sequential.decidable : (s : Session) → (ops : List (Instant × Op ε α)) →
    Decidable (s.Sequential ops)
  | _, [] => .isTrue trivial
  | s, (now, op) :: ops =>
    have := Sequential.decidable (s.step now op).session ops
    inferInstanceAs (Decidable (_ ∧ _))

variable {name : String} {k : UInt32} {d : Duration} {h : List Moment}

theorem course_room (hc : Course (.new name k d) h s.breaker (permits s.live)) (now : Instant)
    (op : Op ε α) :
    ∃ h', Course (.new name k d) h' (s.room op).breaker (permits (s.room op).live) := by
  cases op with
  | start id => exact ⟨_, course_losses hc now id⟩
  | _ => exact ⟨_, hc⟩

/-- A call that finds no other in flight finds no probe counted. -/
theorem vacant_room (hc : Course (.new name k d) h s.breaker (permits s.live)) (now : Instant)
    (idle : (s.room op).live = .empty) : (s.room op).breaker.Vacant := by
  intro hs
  obtain ⟨h', hr⟩ := course_room hc now op
  rw [idle, permits_empty] at hr
  exact (hr.unblocked.held hs).eq_zero fun _ => rfl

end Session

/-- Two operations that differ at most in the budget that they set. -/
inductive Op.Twin : Op ε α → Op ε α → Prop
  | same (op : Op ε α) : Twin op op
  | budgets (n n' : UInt32) : Twin (.setProbeBudget n) (.setProbeBudget n')

/-- Two runs with the same operations at the same times, but for the budgets that they set. -/
def Twins : List (Instant × Op ε α) → List (Instant × Op ε α) → Prop :=
  List.Forall₂ fun o o' => o.1 = o'.1 ∧ o.2.Twin o'.2

/-- Two runs that are the same to everyone. -/
structure BudgetUnseen (s s' : Session) (ops ops' : List (Instant × Op ε α)) : Prop where
  /-- Each operation has the same answer, in a session that is the same but for its budget. -/
  answers : List.Forall₂ (fun a a' => ∃ n, a' = a.rebudget n) (s.answers ops) (s'.answers ops')
  /-- All that is written down is the same, -/
  written : (s'.run ops').2 = (s.run ops).2
  /-- and so is the session at the end, but for its budget. -/
  session : ∃ n, (s'.run ops').1 = (s.run ops).1.rebudget n
  /-- Nobody is told that the probes are used up, in the one run -/
  never : ∀ a ∈ s.answers ops, a.reply.refusal? ≠ some .probesUsed
  /-- and in the other. -/
  never_twin : ∀ a ∈ s'.answers ops', a.reply.refusal? ≠ some .probesUsed

namespace Session

variable {s : Session} {op op' : Op ε α} {ops ops' : List (Instant × Op ε α)} {name : String}
  {k : UInt32} {d : Duration} {h : List Moment}

theorem step_twin (hv : op.calls = true → (s.room op).breaker.Vacant)
    (hb : 0 < s.breaker.probeBudget.toNat) (hn : 0 < n.toNat) (ht : op.Twin op') (now : Instant) :
    ∃ n' : UInt32, 0 < n'.toNat ∧ (s.rebudget n).step now op' = (s.step now op).rebudget n' := by
  have budgets (m m' : UInt32) : ∃ n' : UInt32, 0 < n'.toNat ∧
      (s.rebudget n).step now (.setProbeBudget m' : Op ε α) =
        (s.step now (.setProbeBudget m)).rebudget n' :=
    ⟨_, setProbeBudget_pos s.breaker m', rfl⟩
  cases ht with
  | budgets m m' => exact budgets m m'
  | same =>
    by_cases hop : ∃ m, op = .setProbeBudget m
    · obtain ⟨m, rfl⟩ := hop
      exact budgets m m
    · exact ⟨n, hn, step_rebudget hv hb hn (fun m hm => hop ⟨m, hm⟩) now⟩

theorem budgetUnseen_rebudget (hc : Course (.new name k d) h s.breaker (permits s.live))
    (hs : s.Sequential ops) (ht : Twins ops ops') (hn : 0 < n.toNat) :
    BudgetUnseen s (s.rebudget n) ops ops' := by
  induction ht generalizing s h n with
  | nil => exact ⟨.nil, rfl, ⟨n, rfl⟩, by simp [answers], by simp [answers]⟩
  | @cons o o' ops ops' ho _ ih =>
    obtain ⟨now, op⟩ := o
    obtain ⟨now', op'⟩ := o'
    obtain ⟨rfl, ht⟩ : now = now' ∧ op.Twin op' := ho
    have hv : op.calls = true → (s.room op).breaker.Vacant :=
      fun hop => vacant_room hc now (hs.1 hop)
    have hb := hc.unblocked.budget_pos
    obtain ⟨n', hn', he⟩ := step_twin hv hb hn ht now
    have hne := refusal?_ne_probesUsed hv hb now
    have hrest := ih (course_moments hc now op) hs.2 hn'
    constructor
    case answers =>
      rw [answers, answers, he]
      exact .cons ⟨n', rfl⟩ hrest.answers
    case written =>
      rw [run, run, he]
      exact congrArg ((s.step now op).journal ++ ·) hrest.written
    case session =>
      rw [run, run, he]
      exact hrest.session
    case never =>
      rw [answers]
      exact List.forall_mem_cons.2 ⟨hne, hrest.never⟩
    case never_twin =>
      rw [answers, he]
      exact List.forall_mem_cons.2 ⟨hne, hrest.never_twin⟩

end Session

/-- In a run in which callers take turns, the budgets that are set matter to nobody. -/
theorem budget_unseen (name : String) (k : UInt32) (d : Duration)
    (ops ops' : List (Instant × Op ε α)) (twins : Twins ops ops')
    (turns : (Session.new name k d).Sequential ops) :
    BudgetUnseen (.new name k d) (.new name k d) ops ops' := by
  have hc : Course (.new name k d) [] (Session.new name k d).breaker
      (permits (Session.new name k d).live) := by simpa [Session.new] using Course.start
  exact Session.budgetUnseen_rebudget hc turns twins (n := 1) (by decide)

/-- A trip and a reset while a probe is in flight, and probes that are lost: with a budget of one
after another and with a budget of none and then nine. -/
theorem budget_unseen_lost_probes :
    let ops (m n : UInt32) : List (Instant × Op Unit Unit) := [(0, .setProbeBudget m),
      (0, .call (.error ())), (6, .start "a"), (7, .trip), (8, .setProbeBudget n),
      (13, .start "a"), (14, .reset), (14, .trip), (15, .abandon "a"), (20, .start "b"),
      (20, .abandon "b"), (21, .crash), (22, .call (.ok ()))]
    let s := Session.new "agent" 1 (.ofNanos 5)
    Twins (ops 1 1) (ops 0 9) ∧ s.Sequential (ops 1 1) ∧ BudgetUnseen s s (ops 1 1) (ops 0 9) := by
  intro ops s
  have twins : Twins (ops 1 1) (ops 0 9) := by
    simp [ops, Twins, Op.Twin.same, Op.Twin.budgets]
  have turns : s.Sequential (ops 1 1) := by decide
  exact ⟨twins, turns, budget_unseen _ _ _ _ _ twins turns⟩

end CallGuard.Breaker
