import CallGuard.Proofs.Breaker.History
import CallGuard.Proofs.Journal

/-! The changes of a breaker, and how they go out. `changesIn` reads them off a history, from the
states before and after each moment, and they lead from state to state (`Course.leads`). Each
operation tells of a change in four ways, at different places: it is sent on the channel, told
to the observer of the moment, counted and logged. That everyone is told just of the changes
that are made is the step lemma `tells_step`; `changes_run` and `of_run` carry it to what is
written down in a whole run. -/

namespace CallGuard.Breaker

/-- The change from one state to another, if they differ. -/
def Change.between? (s t : State) : Option Change := if s = t then none else some ⟨s, t⟩

/-- The change that a moment made, if it made one. -/
def Moment.change? (m : Moment) : Option Change := Change.between? m.before.state m.after.state

/-- The changes of a history, in order. -/
def changesIn (h : List Moment) : List Change := h.filterMap Moment.change?

/-- Whether changes lead from one state to another: each begins where the one before it ended
and ends elsewhere, and the half-open state is entered from the open one only. -/
def Leads : State → List Change → State → Prop
  | s, [], t => s = t
  | s, c :: cs, t =>
    c.source = s ∧ c.target ≠ s ∧ (c.target = .halfOpen → s = .opened) ∧ Leads c.target cs t

variable {b b' b₀ : Breaker} {h : List Moment} {m : Moment} {now : Instant} {permit : Permit}
  {change : Option Change} {live live' : Call → Option Permit}

@[simp] theorem changesIn_nil : changesIn [] = [] := rfl

@[simp] theorem changesIn_cons (m : Moment) (h : List Moment) :
    changesIn (m :: h) = m.change?.toList ++ changesIn h := by
  cases hc : m.change? <;> simp [changesIn, hc]

@[simp] theorem changesIn_append (h h' : List Moment) :
    changesIn (h ++ h') = changesIn h ++ changesIn h' := List.filterMap_append

theorem Leads.concat {s t u : State} {cs : List Change} (hl : Leads s cs t)
    (hu : u = .halfOpen → t = .halfOpen ∨ t = .opened) :
    Leads s (cs ++ (Change.between? t u).toList) u := by
  induction cs generalizing s with
  | nil =>
    obtain rfl : s = t := hl
    by_cases hs : s = u
    · simp [Change.between?, hs, Leads]
    · have hopen (ht : u = .halfOpen) : s = .opened :=
        (hu ht).resolve_left fun h => hs (h.trans ht.symm)
      simp only [Change.between?, hs, if_false, Option.toList_some, List.nil_append, Leads]
      exact ⟨trivial, Ne.symm hs, hopen, trivial⟩
  | cons c cs ih => exact ⟨hl.1, hl.2.1, hl.2.2.1, ih hl.2.2.2⟩

/-! ### Every operation tells the change it makes -/

theorem change_of_admitted (h : b.enter now = .admitted b' permit change) :
    change = Change.between? b.state b'.state := by
  rcases admitted_cases h with ⟨-, rfl, -, rfl⟩ | ⟨hs, -, rfl, -, rfl⟩ | ⟨hs, -, rfl, -, rfl⟩ <;>
    simp_all [Change.between?]

theorem change_of_settle (b : Breaker) (now : Instant) (succeeded : Bool) :
    (b.settle now succeeded).2 = Change.between? b.state (b.settle now succeeded).1.state := by
  rcases settle_cases b now succeeded with ⟨-, he⟩ | ⟨-, -, he⟩ | ⟨-, -, -, he⟩ |
    ⟨hs, -, -, he⟩ | ⟨hs, -, he⟩ | ⟨hs, -, he⟩ <;> simp_all [Change.between?]

theorem change_of_reset (b : Breaker) : b.reset.2 = Change.between? b.state b.reset.1.state := by
  by_cases hs : b.state = .closed <;> simp [reset, moveTo, Change.between?, hs]

theorem change_of_trip (b : Breaker) (now : Instant) :
    (b.trip now).2 = Change.between? b.state (b.trip now).1.state := by
  by_cases hs : b.state = .opened <;> simp [trip, moveTo, Change.between?, hs]

@[simp] theorem change?_ofOutcome (b : Breaker) (now : Instant) (c : Call) (succeeded : Bool) :
    (Moment.ofOutcome b now c succeeded).change? = (b.settle now succeeded).2 :=
  (change_of_settle b now succeeded).symm

@[simp] theorem change?_ofLoss (b : Breaker) (now : Instant) (c : Call) (permit : Permit) :
    (Moment.ofLoss b now c permit).change? = none := by
  obtain ⟨n, he⟩ := release_frame b permit
  simp [Moment.change?, Moment.ofLoss, Change.between?, he]

theorem name_of_admitted (h : b.enter now = .admitted b' permit change) : b'.name = b.name := by
  rcases admitted_cases h with ⟨-, rfl, -⟩ | ⟨-, -, rfl, -⟩ | ⟨-, -, rfl, -⟩ <;> rfl

@[simp] theorem name_settle (b : Breaker) (now : Instant) (succeeded : Bool) :
    (b.settle now succeeded).1.name = b.name := by
  rcases settle_cases b now succeeded with ⟨-, he⟩ | ⟨-, -, he⟩ | ⟨-, -, -, he⟩ |
    ⟨-, -, -, he⟩ | ⟨-, -, he⟩ | ⟨-, -, he⟩ <;> rw [he]

@[simp] theorem name_release (b : Breaker) (permit : Permit) :
    (b.release permit).name = b.name := by
  obtain ⟨n, he⟩ := release_frame b permit
  rw [he]

/-- The half-open state is entered from the open one. -/
theorem Next.opened_of_halfOpen (hn : Next live m live') (hs : m.after.state = .halfOpen) :
    m.before.state = .halfOpen ∨ m.before.state = .opened := by
  cases hn with
  | admission free entered =>
    rcases admitted_cases entered with ⟨hs', rfl, -⟩ | ⟨hs', -⟩ | ⟨hs', -⟩
    · exact .inl hs
    · exact .inr hs'
    · exact .inl hs'
  | refusal entered => exact .inl hs
  | outcome b now succeeded inFlight => exact absurd hs (settle_frame b now succeeded).1
  | @loss c permit b now inFlight =>
    obtain ⟨n, he⟩ := release_frame b permit
    exact .inl ((congrArg state he).symm.trans hs)
  | reset b now => simp [reset_fst] at hs
  | trip b now => simp [trip_fst] at hs
  | budget b now n => exact .inl hs

theorem Course.leads (hc : Course b₀ h b live) : Leads b₀.state (changesIn h) b.state := by
  induction hc with
  | start => rfl
  | @next h m live live' course hn ih =>
    rw [changesIn_append, changesIn_cons, changesIn_nil, List.append_nil]
    exact ih.concat hn.opened_of_halfOpen

/-! ### Sessions pass changes on -/

/-- Whether an operation is one on the breaker, and not on what its followers have. -/
def Op.acts {ε α : Type} : Op ε α → Bool
  | .subscribe _ | .read _ | .observe _ | .collect => false
  | _ => true

/-- What an observer is told of changes. -/
def noticesOf (observer : Option String) (cs : List Change) : List (String × Change) :=
  observer.toList.flatMap fun tag => cs.map (tag, ·)

namespace Session

variable {ε α : Type} {s s' s'' : Session} {cs cs' : List Change}

/-- A session after it has sent certain changes and told the observer of them. -/
structure PassesOn (s : Session) (cs : List Change) (s' : Session) : Prop where
  channel : s'.channel = cs.foldl Channel.send s.channel
  observer : s'.observer = s.observer
  observed : s'.observed = s.observed ++ noticesOf s.observer cs

namespace PassesOn

theorem silent (hc : s'.channel = s.channel) (ho : s'.observer = s.observer)
    (hd : s'.observed = s.observed) : s.PassesOn [] s' where
  channel := hc
  observer := ho
  observed := by simp [hd, noticesOf]

theorem trans (h : s.PassesOn cs s') (h' : s'.PassesOn cs' s'') : s.PassesOn (cs ++ cs') s'' where
  channel := by rw [h'.channel, h.channel, List.foldl_append]
  observer := h'.observer.trans h.observer
  observed := by
    rw [h'.observed, h.observed, h.observer, List.append_assoc]
    cases s.observer <;> simp [noticesOf]

theorem follow (s : Session) (step : Breaker × Option Change) :
    s.PassesOn step.2.toList (s.follow step) := by
  obtain ⟨b, change⟩ := step
  cases change with
  | none => exact silent rfl rfl rfl
  | some c =>
    constructor
    · rfl
    · rfl
    · cases ho : s.observer <;> simp [Session.follow, noticesOf, ho]

/-- Other parts of the session do not matter. -/
theorem congr (h : s.PassesOn cs s') (hc : s''.channel = s'.channel)
    (ho : s''.observer = s'.observer) (hd : s''.observed = s'.observed) : s.PassesOn cs s'' := by
  simpa using h.trans (silent hc ho hd)

end PassesOn

/-! ### Steps -/

/-- An answer in whose course everyone is told of certain changes. -/
structure Tells (s : Session) (cs : List Change) (a : Answer ε α) : Prop where
  passed : s.PassesOn cs a.session
  written : a.journal.changes = cs
  named : a.journal.Of s.breaker.name

theorem changesIn_ofEntry_refused {why : Refusal} (he : b.enter now = .refused why) (c : Call)
    (rest : Breaker → Permit → List Moment) : changesIn (Moment.ofEntry b now c rest) = [] := by
  simp [Moment.ofEntry, he, Moment.change?, Change.between?]

theorem changesIn_ofEntry_admitted (he : b.enter now = .admitted b' permit change) (c : Call)
    (rest : Breaker → Permit → List Moment) :
    changesIn (Moment.ofEntry b now c rest) = change.toList ++ changesIn (rest b' permit) := by
  simp [Moment.ofEntry, he, Moment.change?, change_of_admitted he]

theorem changesIn_losses (s : Session) (now : Instant) (id : String) :
    changesIn (s.losses now id) = [] := by
  cases hl : s.live.get? id <;> simp [losses, hl]

theorem passesOn_abandon (s : Session) (id : String) : s.PassesOn [] (s.abandon id) := by
  cases hl : s.live.get? id <;> exact .silent (by simp [abandon, release, hl])
    (by simp [abandon, release, hl]) (by simp [abandon, release, hl])

theorem name_abandon (s : Session) (id : String) :
    (s.abandon id).breaker.name = s.breaker.name := by
  cases hl : s.live.get? id <;> simp [abandon, release, hl]

theorem tells_refuse (s : Session) (now : Instant) (why : Refusal) :
    s.Tells [] (s.refuse now why : Answer ε α) where
  passed := .silent rfl rfl rfl
  written := rfl
  named := .stamp now rfl

theorem Tells.silent {a : Answer ε α} (hp : s.PassesOn [] a.session) (hj : a.journal = []) :
    s.Tells [] a where
  passed := hp
  written := by rw [hj, Journal.changes_nil]
  named := by rw [hj]; exact .nil _

/-- Everyone is told just of the changes that an operation makes. -/
theorem tells_step (s : Session) (now : Instant) {op : Op ε α} (hop : op.acts = true) :
    s.Tells (changesIn (s.moments now op)) (s.step now op) := by
  cases op with
  | call outcome =>
    rw [moments]
    cases he : s.breaker.enter now with
    | refused why =>
      rw [changesIn_ofEntry_refused he]
      simpa [step, enter, he] using tells_refuse s now why
    | admitted b permit change =>
      have hn := name_of_admitted he
      have hc := (PassesOn.follow s (b, change)).trans
        (.follow _ (b.settle now outcome.toBool))
      simp only [changesIn_ofEntry_admitted he, changesIn_cons, change?_ofOutcome, changesIn_nil,
        List.append_nil]
      refine ⟨?_, ?_, ?_⟩
      · simpa [step, enter, settle, he] using hc
      · simp [step, enter, settle, he]
      · simpa [step, enter, settle, he, hn] using
          (Journal.Of.ofChange now _ change).append (.ofChange now _ _)
  | crash =>
    rw [moments]
    cases he : s.breaker.enter now with
    | refused why =>
      rw [changesIn_ofEntry_refused he]
      simpa [step, enter, he] using tells_refuse s now why
    | admitted b permit change =>
      have hn := name_of_admitted he
      simp only [changesIn_ofEntry_admitted he, changesIn_cons, change?_ofLoss, changesIn_nil,
        Option.toList_none, List.append_nil]
      refine ⟨?_, ?_, ?_⟩
      · refine (PassesOn.follow s (b, change)).congr ?_ ?_ ?_ <;> simp [step, enter, he, release]
      · simp [step, enter, he]
      · simpa [step, enter, he, hn] using Journal.Of.ofChange now s.breaker.name change
  | start id =>
    have ha := passesOn_abandon s id
    have hna := name_abandon s id
    rw [moments, changesIn_append, changesIn_losses, List.nil_append]
    cases he : (s.abandon id).breaker.enter now with
    | refused why =>
      have hr := tells_refuse (ε := ε) (α := α) (s.abandon id) now why
      rw [changesIn_ofEntry_refused he]
      refine ⟨?_, ?_, ?_⟩
      · simpa [step, enter, he] using ha.trans hr.passed
      · simpa [step, enter, he] using hr.written
      · simpa [step, enter, he, hna] using hr.named
    | admitted b permit change =>
      have hn := (name_of_admitted he).trans hna
      simp only [changesIn_ofEntry_admitted he, changesIn_nil, List.append_nil]
      refine ⟨?_, ?_, ?_⟩
      · have hc := ha.trans (.follow (s.abandon id) (b, change))
        refine hc.congr ?_ ?_ ?_ <;> simp [step, enter, he]
      · simp [step, enter, he]
      · simpa [step, enter, he, hn] using Journal.Of.ofChange now s.breaker.name change
  | finish id outcome =>
    rw [moments]
    cases hl : s.live.get? id with
    | none =>
      have hd : s.step now (.finish id outcome) = ⟨s, .unknown, false, []⟩ := by simp [step, hl]
      rw [hd]
      exact .silent (.silent rfl rfl rfl) rfl
    | some permit =>
      simp only [changesIn_cons, change?_ofOutcome, changesIn_nil, List.append_nil]
      refine ⟨?_, ?_, ?_⟩
      · refine (PassesOn.follow s (s.breaker.settle now outcome.toBool)).congr ?_ ?_ ?_ <;>
          simp [step, settle, hl]
      · simp [step, settle, hl]
      · simpa [step, settle, hl] using Journal.Of.ofChange now s.breaker.name _
  | abandon id =>
    have ha := passesOn_abandon s id
    rw [moments, changesIn_losses]
    cases hl : s.live.get? id with
    | none =>
      have hd : s.step now (.abandon id : Op ε α) = ⟨s, .unknown, false, []⟩ := by simp [step, hl]
      rw [hd]
      exact .silent (.silent rfl rfl rfl) rfl
    | some permit =>
      have hd : s.step now (.abandon id : Op ε α) = ⟨s.abandon id, .done, false, []⟩ := by
        simp [step, hl]
      rw [hd]
      exact .silent ha rfl
  | reset =>
    simp only [moments, changesIn_cons, changesIn_nil, List.append_nil, Moment.change?,
      ← change_of_reset]
    refine ⟨by simpa [step] using PassesOn.follow s s.breaker.reset, ?_, ?_⟩
    · simp [step, Signal.change?]
    · refine Journal.Of.append (.stamp now rfl) ?_
      simpa [reset_fst] using Journal.Of.ofChange now s.breaker.name s.breaker.reset.2
  | trip =>
    simp only [moments, changesIn_cons, changesIn_nil, List.append_nil, Moment.change?,
      ← change_of_trip]
    refine ⟨by simpa [step] using PassesOn.follow s (s.breaker.trip now), ?_, ?_⟩
    · simp [step, Signal.change?]
    · refine Journal.Of.append (.stamp now rfl) ?_
      simpa [trip_fst] using Journal.Of.ofChange now s.breaker.name (s.breaker.trip now).2
  | setProbeBudget n =>
    have hc : changesIn (s.moments now (.setProbeBudget n : Op ε α)) = [] := by
      simp [moments, Moment.change?, Change.between?, setProbeBudget]
    rw [hc]
    exact .silent (.silent rfl rfl rfl) rfl
  | subscribe _ => cases hop
  | read _ => cases hop
  | observe _ => cases hop
  | collect => cases hop

/-- What followers do to what they have changes nothing else. -/
theorem step_of_not_acts (s : Session) (now : Instant) {op : Op ε α} (hop : op.acts = false) :
    s.moments now op = [] ∧ (s.step now op).journal = [] ∧
      (s.step now op).session.breaker = s.breaker ∧
      (s.step now op).session.channel.sent = s.channel.sent ∧
      (s.step now op).session.channel.recent = s.channel.recent := by
  cases op with
  | subscribe id => exact ⟨rfl, rfl, rfl, rfl, rfl⟩
  | read id =>
    cases hp : s.channel.positions.get? id <;> simp [moments, step, Channel.read?, hp]
  | observe tag => exact ⟨rfl, rfl, rfl, rfl, rfl⟩
  | collect => exact ⟨rfl, rfl, rfl, rfl, rfl⟩
  | _ => cases hop

theorem live_of_not_acts (s : Session) (now : Instant) {op : Op ε α} (hop : op.acts = false) :
    (s.step now op).session.live = s.live := by
  cases op with
  | read id => cases hr : s.channel.read? id <;> simp [step, hr]
  | subscribe id => rfl
  | observe tag => rfl
  | collect => rfl
  | _ => cases hop

theorem changes_step (s : Session) (now : Instant) (op : Op ε α) :
    (s.step now op).journal.changes = changesIn (s.moments now op) := by
  cases hop : op.acts with
  | true => exact (tells_step s now hop).written
  | false =>
    obtain ⟨hm, hj, -⟩ := step_of_not_acts s now hop
    rw [hm, hj, changesIn_nil, Journal.changes_nil]

theorem of_step (s : Session) (now : Instant) (op : Op ε α) :
    (s.step now op).journal.Of s.breaker.name := by
  cases hop : op.acts with
  | true => exact (tells_step s now hop).named
  | false =>
    rw [(step_of_not_acts s now hop).2.1]
    exact .nil _

theorem name_step (s : Session) (now : Instant) (op : Op ε α) :
    (s.step now op).session.breaker.name = s.breaker.name := by
  cases op with
  | call outcome =>
    cases he : s.breaker.enter now with
    | refused why => simp [step, enter, he, refuse]
    | admitted b permit change => simp [step, enter, he, settle, name_of_admitted he]
  | crash =>
    cases he : s.breaker.enter now with
    | refused why => simp [step, enter, he, refuse]
    | admitted b permit change => simp [step, enter, he, release, name_of_admitted he]
  | start id =>
    cases he : (s.abandon id).breaker.enter now with
    | refused why => simp [step, enter, he, refuse, name_abandon]
    | admitted b permit change => simp [step, enter, he, name_of_admitted he, name_abandon]
  | finish id outcome => cases hl : s.live.get? id <;> simp [step, settle, hl]
  | abandon id => cases hl : s.live.get? id <;> simp [step, hl, name_abandon]
  | reset => simp [step, reset_fst]
  | trip => simp [step, trip_fst]
  | read id => cases hr : s.channel.read? id <;> simp [step, hr]
  | _ => rfl

/-! ### Runs -/

theorem run_append (s : Session) (past rest : List (Instant × Op ε α)) :
    s.run (past ++ rest) =
      (((s.run past).1.run rest).1, (s.run past).2 ++ ((s.run past).1.run rest).2) := by
  induction past generalizing s with
  | nil => rfl
  | cons o past ih => simp [run, ih]

theorem run_concat (s : Session) (past : List (Instant × Op ε α)) (now : Instant) (op : Op ε α) :
    (s.run (past ++ [(now, op)])).1 = ((s.run past).1.step now op).session := by
  rw [run_append]
  rfl

theorem name_run (s : Session) (ops : List (Instant × Op ε α)) :
    (s.run ops).1.breaker.name = s.breaker.name := by
  induction ops generalizing s with
  | nil => rfl
  | cons o ops ih => exact (ih _).trans (name_step s o.1 o.2)

theorem changes_run (s : Session) (ops : List (Instant × Op ε α)) :
    (s.run ops).2.changes = changesIn (s.history ops) := by
  induction ops generalizing s with
  | nil => rfl
  | cons o ops ih => simp [run, history, changes_step, ih]

theorem of_run (s : Session) (ops : List (Instant × Op ε α)) :
    (s.run ops).2.Of s.breaker.name := by
  induction ops generalizing s with
  | nil => exact .nil _
  | cons o ops ih =>
    have ho := ih (s.step o.1 o.2).session
    rw [name_step] at ho
    exact (of_step s o.1 o.2).append ho

end Session

end CallGuard.Breaker
