import CallGuard.Proofs.Breaker.Changes

/-! Calls that are refused. A call that is not let in is not begun either, and all that is left
of it is one count of the reason (`step_of_calls`). So whoever looks at a run cannot tell
whether refused calls were made in it at all: struck out, they change neither the answers to
the other operations nor what is written down of those (`refusals_unseen`). -/

namespace CallGuard

/-- Whether a signal is of a call that was refused. -/
def Signal.refuses : Signal → Bool
  | .refused _ _ => true
  | _ => false

namespace Journal

variable {j j' : Journal}

/-- What is written down but for refusals. -/
def butRefusals (j : Journal) : Journal := j.filter (!·.signal.refuses)

@[simp] theorem butRefusals_append (j j' : Journal) :
    butRefusals (j ++ j') = j.butRefusals ++ j'.butRefusals := List.filter_append ..

/-- Only counters of refusals count refusals. -/
theorem count_of_butRefusals (h : j.butRefusals = j'.butRefusals) {c : Counter}
    (hc : ∀ name why, c ≠ .rejection name why) : j.count c = j'.count c := by
  have drop (j : Journal) : j.butRefusals.count c = j.count c := by
    simp only [count, butRefusals, List.count, List.countP_filterMap, List.countP_filter]
    refine List.countP_congr fun e _ => ?_
    cases hs : e.signal <;> simp [Signal.counter?, Signal.refuses, (hc _ _).symm]
  rw [← drop j, h, drop j']

/-- Refusals have no log events. -/
theorem events_of_butRefusals (h : j.butRefusals = j'.butRefusals) : j.events = j'.events := by
  have drop (j : Journal) : j.butRefusals.events = j.events := by
    rw [butRefusals, events, List.filterMap_filter]
    refine List.filterMap_congr fun e _ => ?_
    cases hs : e.signal <;> simp [Signal.event?, Signal.refuses]
  rw [← drop j, h, drop j']

@[simp] theorem count_nil (c : Counter) : count [] c = 0 := rfl

theorem count_rejection_ofChange (now : Instant) (breaker name : String)
    (change : Option Breaker.Change) (why : Breaker.Refusal) :
    (ofChange now breaker change).count (.rejection name why) = 0 := by
  cases change with
  | none => rfl
  | some c => simp [ofChange, count_stamp, Signal.counter?, Counter.transition, Counter.rejection]

end Journal

theorem Breaker.Refusal.reason_injective : Function.Injective Breaker.Refusal.reason := by
  intro why why' h
  cases why <;> cases why' <;> simp [Breaker.Refusal.reason] at h ⊢

theorem Counter.rejection_inj {name name' : String} {why why' : Breaker.Refusal} :
    rejection name why = rejection name' why' ↔ name = name' ∧ why = why' := by
  simp [rejection, Breaker.Refusal.reason_injective.eq_iff]

namespace Breaker

variable {ε α : Type}

/-- Whether an operation makes a call. -/
def Op.calls : Op ε α → Bool
  | .call _ | .crash | .start _ => true
  | _ => false

/-- Whether a call takes the place of one that is in flight under its name. -/
def Op.displaces (live : NameMap Permit) : Op ε α → Bool
  | .start id => (live.get? id).isSome
  | _ => false

/-- Why a call was refused, if it was. -/
def Reply.refusal? : Reply ε α → Option Refusal
  | .result (.error (.refused why)) => some why
  | _ => none

/-- What is left of a list when the elements that are marked are struck out. -/
def spare {β : Type} : List Bool → List β → List β
  | [], l => l
  | _, [] => []
  | struck :: marks, b :: l => if struck then spare marks l else b :: spare marks l

namespace Session

variable {s : Session} {now : Instant} {op : Op ε α} {ops : List (Instant × Op ε α)}

/-- The session that a call asks to be let in to. The call whose place it takes is dropped by
then. -/
def room (s : Session) : Op ε α → Session
  | .start id => s.abandon id
  | _ => s

theorem abandon_of_none {id : String} (hl : s.live.get? id = none) : s.abandon id = s := by
  simp [abandon, hl]

theorem room_of_not_displaces (hd : op.displaces s.live = false) : s.room op = s := by
  cases op with
  | start id =>
    exact abandon_of_none (by simpa [Op.displaces] using hd)
  | _ => rfl

@[simp] theorem name_room (s : Session) (op : Op ε α) :
    (s.room op).breaker.name = s.breaker.name := by
  cases op with
  | start id => exact name_abandon s id
  | _ => rfl

/-- The answers to the operations of a run. -/
def answers (s : Session) : List (Instant × Op ε α) → List (Answer ε α)
  | [] => []
  | (now, op) :: ops =>
    let a := s.step now op
    a :: a.session.answers ops

/-! ### One call -/

/-- A call is refused, and then no more happens than its refusal, or it is begun. -/
theorem step_of_calls (s : Session) (now : Instant) (hop : op.calls = true) :
    (∃ why, (s.room op).breaker.enter now = .refused why ∧
        s.step now op = (s.room op).refuse now why) ∨
      ((s.step now op).invoked = true ∧ (s.step now op).reply.refusal? = none) := by
  cases op with
  | call outcome =>
    cases he : s.breaker.enter now with
    | refused why => exact .inl ⟨why, he, by simp [step, enter, room, he]⟩
    | admitted b permit change =>
      refine .inr ⟨by simp [step, enter, he], ?_⟩
      cases outcome <;> simp [step, enter, he, Reply.refusal?, Except.mapError]
  | crash =>
    cases he : s.breaker.enter now with
    | refused why => exact .inl ⟨why, he, by simp [step, enter, room, he]⟩
    | admitted b permit change => exact .inr (by simp [step, enter, he, Reply.refusal?])
  | start id =>
    cases he : (s.abandon id).breaker.enter now with
    | refused why => exact .inl ⟨why, he, by simp [step, enter, room, he]⟩
    | admitted b permit change => exact .inr (by simp [step, enter, he, Reply.refusal?])
  | _ => cases hop

theorem not_invoked_of_not_calls (s : Session) (now : Instant) (hop : op.calls = false) :
    (s.step now op).invoked = false ∧ (s.step now op).reply.refusal? = none := by
  cases op with
  | finish id outcome =>
    cases hl : s.live.get? id with
    | none => simp [step, hl, Reply.refusal?]
    | some permit => cases outcome <;> simp [step, hl, Reply.refusal?, Except.mapError]
  | abandon id => cases hl : s.live.get? id <;> simp [step, hl, Reply.refusal?]
  | read id => cases hr : s.channel.read? id <;> simp [step, hr, Reply.refusal?]
  | call _ => cases hop
  | crash => cases hop
  | start _ => cases hop
  | _ => exact ⟨rfl, rfl⟩

/-- Whoever is refused made a call, and no more happened than its refusal. -/
theorem step_of_refused {why : Refusal} (hr : (s.step now op).reply.refusal? = some why) :
    op.calls = true ∧ (s.room op).breaker.enter now = .refused why ∧
      s.step now op = (s.room op).refuse now why := by
  cases hop : op.calls with
  | false =>
    rw [(not_invoked_of_not_calls s now hop).2] at hr
    cases hr
  | true =>
    rcases step_of_calls s now hop with ⟨why', hw, he⟩ | ⟨-, hn⟩
    · rw [he] at hr
      cases hr
      exact ⟨rfl, hw, he⟩
    · rw [hn] at hr
      cases hr

/-- A call comes to one of two things: it is refused or begun. -/
theorem refused_add_invoked (s : Session) (now : Instant) (op : Op ε α) :
    (if (s.step now op).invoked then 1 else 0) +
      (if (s.step now op).reply.refusal?.isSome then 1 else 0) = if op.calls then 1 else 0 := by
  cases hop : op.calls with
  | false =>
    obtain ⟨hi, hr⟩ := not_invoked_of_not_calls s now hop
    rw [hi, hr]
    rfl
  | true =>
    rcases step_of_calls s now hop with ⟨why, -, he⟩ | ⟨hi, hr⟩
    · rw [he]
      rfl
    · rw [hi, hr]
      rfl

@[simp] theorem refuse_session (s : Session) (now : Instant) (why : Refusal) :
    (s.refuse now why : Answer ε α).session = s := rfl

theorem count_refuse (s : Session) (now : Instant) (why : Refusal) (c : Counter) :
    (s.refuse now why : Answer ε α).journal.count c =
      if c = .rejection s.breaker.name why then 1 else 0 := by
  simp [refuse, Journal.count_stamp, Signal.counter?, eq_comm]

theorem count_rejection_step (s : Session) (now : Instant) (op : Op ε α) (why : Refusal) :
    (s.step now op).journal.count (.rejection s.breaker.name why) =
      if (s.step now op).reply.refusal? = some why then 1 else 0 := by
  cases hr : (s.step now op).reply.refusal? with
  | some why' =>
    rw [(step_of_refused hr).2.2, count_refuse, name_room]
    simp [Counter.rejection_inj, eq_comm]
  | none =>
    simp only [reduceCtorEq, if_false]
    cases op with
    | call outcome =>
      cases he : s.breaker.enter now <;>
        simp_all [step, enter, refuse, Reply.refusal?, Journal.count_rejection_ofChange]
    | crash =>
      cases he : s.breaker.enter now <;>
        simp_all [step, enter, refuse, Reply.refusal?, Journal.count_rejection_ofChange]
    | start id =>
      cases he : (s.abandon id).breaker.enter now <;>
        simp_all [step, enter, refuse, Reply.refusal?, Journal.count_rejection_ofChange]
    | finish id outcome =>
      cases hl : s.live.get? id <;>
        simp [step, hl, Journal.count_rejection_ofChange]
    | abandon id => cases hl : s.live.get? id <;> simp [step, hl]
    | read id => cases hd : s.channel.read? id <;> simp [step, hd]
    | reset =>
      simp [step, Journal.count_stamp, Signal.counter?, Journal.count_rejection_ofChange]
    | trip =>
      simp [step, Journal.count_stamp, Signal.counter?, Journal.count_rejection_ofChange]
    | _ => rfl

/-! ### Whole runs -/

/-- The calls of a run are those that are begun and those that are refused. -/
theorem countP_invoked_add_refused (s : Session) (ops : List (Instant × Op ε α)) :
    (s.answers ops).countP (·.invoked) + (s.answers ops).countP (·.reply.refusal?.isSome) =
      ops.countP (·.2.calls) := by
  induction ops generalizing s with
  | nil => rfl
  | cons o ops ih =>
    have hone := refused_add_invoked s o.1 o.2
    have hrest := ih (s.step o.1 o.2).session
    simp only [answers, List.countP_cons]
    omega

theorem count_rejection_run (s : Session) (ops : List (Instant × Op ε α)) (why : Refusal) :
    (s.run ops).2.count (.rejection s.breaker.name why) =
      (s.answers ops).countP (·.reply.refusal? = some why) := by
  induction ops generalizing s with
  | nil => rfl
  | cons o ops ih =>
    have hrest := ih (s.step o.1 o.2).session
    rw [name_step] at hrest
    simp only [run, answers, Journal.count_append, List.countP_cons, decide_eq_true_eq,
      count_rejection_step, hrest]
    exact Nat.add_comm ..

/-- Whether marks strike out refused calls only, and none that took another's place. -/
def MarksRefused (s : Session) (marks : List Bool) (ops : List (Instant × Op ε α)) : Prop :=
  ∀ past now op rest, ops = past ++ (now, op) :: rest → marks[past.length]? = some true →
    ((s.run past).1.step now op).reply.refusal?.isSome = true ∧
      op.displaces (s.run past).1.live = false

theorem MarksRefused.head {marks : List Bool}
    (hm : s.MarksRefused (true :: marks) ((now, op) :: ops)) :
    ∃ why, s.step now op = s.refuse now why := by
  obtain ⟨hr, hd⟩ := hm [] now op ops rfl rfl
  obtain ⟨why, hr⟩ := Option.isSome_iff_exists.1 hr
  have he := (step_of_refused hr).2.2
  rw [room_of_not_displaces hd] at he
  exact ⟨why, he⟩

theorem MarksRefused.tail {struck : Bool} {marks : List Bool}
    (hm : s.MarksRefused (struck :: marks) ((now, op) :: ops)) :
    (s.step now op).session.MarksRefused marks ops := by
  intro past now' op' rest ho hs
  exact hm ((now, op) :: past) now' op' rest (by rw [ho]; rfl) hs

/-- A run goes on without the operations that are marked as if they had been made. -/
structure Spared (s : Session) (marks : List Bool) (ops : List (Instant × Op ε α)) : Prop where
  /-- The answers to the other operations are what they were, -/
  answers : s.answers (spare marks ops) = spare marks (s.answers ops)
  /-- the session at the end is, -/
  session : (s.run (spare marks ops)).1 = (s.run ops).1
  /-- and so is what is written down but for refusals. -/
  written : (s.run (spare marks ops)).2.butRefusals = (s.run ops).2.butRefusals

theorem MarksRefused.spared {marks : List Bool} (hm : s.MarksRefused marks ops) :
    Spared s marks ops := by
  induction ops generalizing s marks with
  | nil => cases marks <;> exact ⟨rfl, rfl, rfl⟩
  | cons o ops ih =>
    obtain ⟨now, op⟩ := o
    cases marks with
    | nil => exact ⟨rfl, rfl, rfl⟩
    | cons struck marks =>
      have ht := ih hm.tail
      cases struck with
      | true =>
        -- the next operation finds the session that the struck one found
        obtain ⟨why, he⟩ := hm.head
        have hj : (s.refuse now why : Answer ε α).journal.butRefusals = [] := rfl
        rw [he, refuse_session] at ht
        constructor
        · simpa [spare, Session.answers, he] using ht.answers
        · simpa [spare, run, he] using ht.session
        · simpa [spare, run, he, hj] using ht.written
      | false =>
        constructor
        · simpa [spare, Session.answers] using ht.answers
        · simpa [spare, run] using ht.session
        · simpa [spare, run] using ht.written

/-- Refused calls go by without a trace but for their count, in whatever session. -/
structure RefusalsUnseen (s : Session) (ops : List (Instant × Op ε α)) : Prop where
  /-- A call is refused just if it is not begun. -/
  refused_iff : ∀ now (op : Op ε α), op.calls = true →
    ((s.step now op).reply.refusal?.isSome = true ↔ (s.step now op).invoked = false)
  /-- It leaves the session that it came to as it is -/
  unmoved : ∀ now (op : Op ε α) why, (s.step now op).reply.refusal? = some why →
    op.calls = true ∧ (s.step now op).session = s.room op
  /-- and counts up one counter, that of the reason, by one. -/
  counted : ∀ now (op : Op ε α) why c, (s.step now op).reply.refusal? = some why →
    (s.step now op).journal.count c = if c = .rejection s.breaker.name why then 1 else 0
  /-- It came to the session as it was, -/
  room_eq : ∀ op : Op ε α, op.displaces s.live = false → s.room op = s
  /-- or the call whose place it takes was dropped just before it, which is an operation apart. -/
  displaced : ∀ now id, (Op.start id : Op ε α).displaces s.live = true →
    s.step now (.abandon id : Op ε α) = ⟨s.abandon id, .done, false, []⟩ ∧
      (Op.start id : Op ε α).displaces (s.abandon id).live = false ∧
      s.step now (.start id : Op ε α) = (s.abandon id).step now (.start id)
  /-- Any refused calls can be struck out of a run: the other answers and the session stay, -/
  spared : ∀ marks, s.MarksRefused marks ops → Spared s marks ops
  /-- and so do the counters but those of refusals, and the log events. -/
  counters : ∀ marks, s.MarksRefused marks ops → ∀ c, (∀ name why, c ≠ .rejection name why) →
    (s.run (spare marks ops)).2.count c = (s.run ops).2.count c
  events : ∀ marks, s.MarksRefused marks ops →
    (s.run (spare marks ops)).2.events = (s.run ops).2.events
  /-- Every call of a run is begun or refused, and not both. -/
  balance : (s.answers ops).countP (·.invoked) +
    (s.answers ops).countP (·.reply.refusal?.isSome) = ops.countP (·.2.calls)
  /-- The counters of refusals tell how many were told each reason. -/
  rejections : ∀ why, (s.run ops).2.count (.rejection s.breaker.name why) =
    (s.answers ops).countP (·.reply.refusal? = some why)

theorem refusals_unseen (s : Session) (ops : List (Instant × Op ε α)) :
    RefusalsUnseen s ops := by
  constructor
  case refused_iff =>
    intro now op hop
    have hone := refused_add_invoked s now op
    rw [hop] at hone
    cases hr : (s.step now op).reply.refusal?.isSome <;>
      cases hi : (s.step now op).invoked <;> simp [hr, hi] at hone ⊢
  case unmoved =>
    intro now op why hr
    obtain ⟨hop, -, he⟩ := step_of_refused hr
    exact ⟨hop, by rw [he]; rfl⟩
  case counted =>
    intro now op why c hr
    rw [(step_of_refused hr).2.2, count_refuse, name_room]
  case room_eq =>
    intro op hd
    exact room_of_not_displaces hd
  case displaced =>
    intro now id hd
    have hl := get?_abandon s id
    obtain ⟨permit, hp⟩ := Option.isSome_iff_exists.1 hd
    refine ⟨by simp [step, hp], by simp [Op.displaces, hl], ?_⟩
    simp only [step, abandon_of_none hl]
  case spared =>
    intro marks hm
    exact hm.spared
  case counters =>
    intro marks hm c hc
    exact Journal.count_of_butRefusals hm.spared.written hc
  case events =>
    intro marks hm
    exact Journal.events_of_butRefusals hm.spared.written
  case balance => exact countP_invoked_add_refused s ops
  case rejections =>
    intro why
    exact count_rejection_run s ops why

/-- Two calls are refused while the breaker cools down and one while its probe is in flight. -/
example :
    let ops : List (Instant × Op Unit Unit) := [(0, .call (.error ())), (1, .call (.ok ())),
      (2, .start "a"), (9, .start "b"), (9, .crash)]
    ((new "agent" 1 (.ofNanos 5)).answers ops).map (·.reply.refusal?) =
      [none, some .opened, some .opened, none, some .probesUsed] := by decide

end Session

end Breaker

end CallGuard
