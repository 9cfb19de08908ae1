import CallGuard.Proofs.Breaker.Changes

/-! What those who follow a breaker hear of it: its subscribers, its observers, and those who
read its counters and its log. All are told the same history (`channelsAgree`). A subscription
gets the last 64 of the changes that are new to it and is told how many it lost; an observer is
told of the changes made while it was the observer. -/

namespace CallGuard.Breaker

/-! ### The channel -/

namespace Channel

theorem lastOf_append {α : Type} (n : Nat) (l l' : List α) :
    lastOf n (lastOf n l ++ l') = lastOf n (l ++ l') := by
  have hd : lastOf n l ++ l' = (l ++ l').drop (l.length - n) :=
    (List.drop_append_of_le_length (Nat.sub_le ..)).symm
  rw [hd, lastOf, List.drop_drop, lastOf, List.length_drop, List.length_append]
  congr 1
  omega

/-- The last of what a channel holds is the last of what came after the rest. -/
theorem lastOf_lastOf {α : Type} (n : Nat) (l l' : List α) :
    lastOf l'.length (lastOf n (l ++ l')) = lastOf n l' := by
  simp only [lastOf, List.drop_drop, List.length_drop, List.length_append]
  have hd : l.length + l'.length - n + (l.length + l'.length - (l.length + l'.length - n) -
      l'.length) = l.length + (l'.length - n) := by omega
  rw [hd, List.drop_length_add_append]

/-- A channel on which certain changes have been sent. -/
structure Carries (c : Channel) (cs : List Change) : Prop where
  sent : c.sent = cs.length
  recent : c.recent = lastOf capacity cs

theorem Carries.send {c : Channel} {cs : List Change} (hc : c.Carries cs) (change : Change) :
    (c.send change).Carries (cs ++ [change]) where
  sent := by simp [Channel.send, hc.sent]
  recent := by rw [Channel.send, hc.recent, lastOf_append]

theorem Carries.foldl {c : Channel} {cs : List Change} (hc : c.Carries cs) (more : List Change) :
    (more.foldl Channel.send c).Carries (cs ++ more) := by
  induction more generalizing c cs with
  | nil => simpa using hc
  | cons change more ih => simpa using ih (hc.send change)

@[simp] theorem positions_foldl (c : Channel) (cs : List Change) :
    (cs.foldl send c).positions = c.positions := by
  induction cs generalizing c with
  | nil => rfl
  | cons change cs ih => exact ih _

/-- What a subscription gets to which certain changes are new. -/
def deliveryOf (unseen : List Change) : Delivery :=
  ⟨unseen.length - capacity, lastOf capacity unseen⟩

theorem length_deliveryOf (unseen : List Change) :
    (deliveryOf unseen).lost + (deliveryOf unseen).changes.length = unseen.length := by
  simp only [deliveryOf, lastOf, List.length_drop]
  omega

theorem Carries.read? {c : Channel} {seen unseen : List Change} (hc : c.Carries (seen ++ unseen))
    {id : String} (hp : c.positions.get? id = some seen.length) :
    c.read? id =
      some (deliveryOf unseen, { c with positions := c.positions.insert id c.sent }) := by
  have hb : c.sent - seen.length = unseen.length := by
    rw [hc.sent, List.length_append, Nat.add_sub_cancel_left]
  simp only [Channel.read?, hp, Option.map_some, hb, hc.recent, lastOf_lastOf, deliveryOf]

end Channel

/-! ### Subscriptions -/

section

variable {ε α : Type}

/-- Whether an operation reads a certain subscription. -/
def Op.reads (id : String) : Op ε α → Bool
  | .read id' => id' = id
  | _ => false

/-- The observer after an operation. -/
def Op.observer (observer : Option String) : Op ε α → Option String
  | .observe tag => some tag
  | _ => observer

/-- How many changes a reply accounts for. -/
def Reply.accounted : Reply ε α → Nat
  | .delivery d => d.lost + d.changes.length
  | _ => 0

/-- What an observer was told of, as handed over in a reply. -/
def Reply.collected : Reply ε α → List (String × Change)
  | .observed changes => changes
  | _ => []

end

namespace Session

variable {ε α : Type} {s : Session} {cs cs' : List Change}

theorem carries_step (hc : s.channel.Carries cs) (now : Instant) (op : Op ε α) :
    (s.step now op).session.channel.Carries (cs ++ changesIn (s.moments now op)) := by
  cases hop : op.acts with
  | true =>
    rw [(tells_step s now hop).passed.channel]
    exact hc.foldl _
  | false =>
    obtain ⟨hm, -, -, hs, hr⟩ := step_of_not_acts s now hop
    rw [hm, changesIn_nil, List.append_nil]
    exact ⟨hs.trans hc.sent, hr.trans hc.recent⟩

/-- How far a subscription has come, by what is done. -/
theorem position_step (s : Session) (now : Instant) (op : Op ε α) (id : String)
    (hs : op ≠ .subscribe id) (hr : op ≠ .read id) :
    (s.step now op).session.channel.positions.get? id = s.channel.positions.get? id := by
  cases hop : op.acts with
  | true => rw [(tells_step s now hop).passed.channel, Channel.positions_foldl]
  | false =>
    cases op with
    | subscribe id' =>
      have hne : id ≠ id' := fun h => hs (h ▸ rfl)
      exact NameMap.get?_insert_of_ne hne _ _
    | read id' =>
      have hne : id ≠ id' := fun h => hr (h ▸ rfl)
      cases hp : s.channel.positions.get? id' with
      | none => simp [step, Channel.read?, hp]
      | some p => simp [step, Channel.read?, hp, NameMap.get?_insert_of_ne hne]
    | observe tag => rfl
    | collect => rfl
    | _ => cases hop

theorem position_subscribe (s : Session) (now : Instant) (id : String) :
    (s.step now (.subscribe id : Op ε α)).session.channel.positions.get? id =
      some s.channel.sent :=
  NameMap.get?_insert_self _ _ _

theorem position_read (s : Session) (now : Instant) (id : String) :
    (s.step now (.read id : Op ε α)).session.channel.positions.get? id =
      (s.channel.positions.get? id).map fun _ => s.channel.sent := by
  cases hp : s.channel.positions.get? id <;> simp [step, Channel.read?, hp]

/-- A subscription that is made or read has nothing more to come for the moment. -/
theorem position_upToDate (s : Session) (now : Instant) {op : Op ε α} {id : String}
    (ho : op = .subscribe id ∨ op = .read id ∧ (s.channel.positions.get? id).isSome) :
    (s.step now op).session.channel.positions.get? id =
      some (s.step now op).session.channel.sent := by
  rcases ho with rfl | ⟨rfl, hp⟩
  · exact position_subscribe s now id
  · obtain ⟨p, hp⟩ := Option.isSome_iff_exists.1 hp
    have hread : (Op.read id : Op ε α).acts = false := rfl
    have hsent := (step_of_not_acts s now hread).2.2.2.1
    rw [position_read, hp, hsent, Option.map_some]

theorem carries_run (hc : s.channel.Carries cs) (ops : List (Instant × Op ε α)) :
    (s.run ops).1.channel.Carries (cs ++ changesIn (s.history ops)) := by
  induction ops generalizing s cs with
  | nil => simpa [run, history] using hc
  | cons o ops ih =>
    have ho := ih (carries_step hc o.1 o.2)
    simpa [run, history, List.append_assoc] using ho

/-- A subscription nobody touches stays where it is. -/
theorem position_run (s : Session) {ops : List (Instant × Op ε α)} {id : String}
    (hn : ∀ o ∈ ops, o.2 ≠ .subscribe id ∧ o.2 ≠ .read id) :
    (s.run ops).1.channel.positions.get? id = s.channel.positions.get? id := by
  induction ops generalizing s with
  | nil => rfl
  | cons o ops ih =>
    obtain ⟨hs, hr⟩ := hn o List.mem_cons_self
    rw [run, ih _ fun o' ho => hn o' (List.mem_cons_of_mem _ ho)]
    exact position_step s o.1 o.2 id hs hr

/-- There is a subscription once it has been made. -/
theorem subscribed_iff (s : Session) (ops : List (Instant × Op ε α)) (id : String) :
    ((s.run ops).1.channel.positions.get? id).isSome ↔
      (s.channel.positions.get? id).isSome ∨ ∃ t, (t, .subscribe id) ∈ ops := by
  induction ops generalizing s with
  | nil => simp [run]
  | cons o ops ih =>
    obtain ⟨now, op⟩ := o
    rw [run, ih]
    by_cases hs : op = .subscribe id
    · subst hs
      simp [position_subscribe]
    · have hp : ((s.step now op).session.channel.positions.get? id).isSome =
          (s.channel.positions.get? id).isSome := by
        by_cases hr : op = .read id
        · subst hr
          rw [position_read, Option.isSome_map]
        · rw [position_step s now op id hs hr]
      simp [hp, Ne.symm hs]

theorem reply_read (hc : s.channel.Carries (cs ++ cs')) {id : String}
    (hp : s.channel.positions.get? id = some cs.length) (now : Instant) :
    (s.step now (.read id : Op ε α)).reply = .delivery (Channel.deliveryOf cs') := by
  simp [step, hc.read? hp]

theorem reply_read_unknown_iff (s : Session) (now : Instant) (id : String) :
    (s.step now (.read id : Op ε α)).reply = .unknown ↔
      ¬(s.channel.positions.get? id).isSome := by
  cases hp : s.channel.positions.get? id <;> simp [step, Channel.read?, hp]

/-- How many changes a subscription has got, or been told that it lost. -/
def accounted (id : String) (s : Session) : List (Instant × Op ε α) → Nat
  | [] => 0
  | (now, op) :: ops =>
    (if op.reads id then (s.step now op).reply.accounted else 0)
      + (s.step now op).session.accounted id ops

/-- A subscription is as far as it has been told. -/
theorem position_accounted (hc : s.channel.Carries (cs ++ cs')) {id : String}
    (hp : s.channel.positions.get? id = some cs.length) {ops : List (Instant × Op ε α)}
    (hn : ∀ o ∈ ops, o.2 ≠ .subscribe id) :
    (s.run ops).1.channel.positions.get? id = some (cs.length + s.accounted id ops) := by
  induction ops generalizing s cs cs' with
  | nil => simpa [run, accounted] using hp
  | cons o ops ih =>
    obtain ⟨now, op⟩ := o
    have hs : op ≠ .subscribe id := hn _ List.mem_cons_self
    have hrest : ∀ o ∈ ops, o.2 ≠ .subscribe id := fun o ho => hn o (List.mem_cons_of_mem _ ho)
    have hc' := carries_step hc now op
    rw [run]
    by_cases hr : op = .read id
    · subst hr
      have hp' := position_read (ε := ε) (α := α) s now id
      rw [hp, Option.map_some, hc.sent] at hp'
      have hm := (step_of_not_acts s now (show (Op.read id : Op ε α).acts = false from rfl)).1
      rw [hm, changesIn_nil] at hc'
      rw [ih hc' hp' hrest, accounted, reply_read hc hp]
      simp [Op.reads, Reply.accounted, Channel.length_deliveryOf, Nat.add_assoc]
    · have hp' := (position_step s now op id hs hr).trans hp
      have hnr : op.reads id = false := by
        cases op with
        | read id' => simpa [Op.reads] using fun h : id' = id => hr (h ▸ rfl)
        | _ => rfl
      rw [List.append_assoc] at hc'
      rw [ih hc' hp' hrest, accounted, hnr]
      simp

/-- Once it is read, a subscription has been told of all changes since it was made. -/
theorem accounted_until_read (hc : s.channel.Carries cs) {id : String}
    (hp : s.channel.positions.get? id = some cs.length) {since : List (Instant × Op ε α)}
    (hn : ∀ o ∈ since, o.2 ≠ .subscribe id) (now : Instant) :
    s.accounted id (since ++ [(now, .read id)]) = (changesIn (s.history since)).length := by
  have hc₀ : s.channel.Carries (cs ++ []) := by simpa using hc
  have hn' : ∀ o ∈ since ++ [(now, .read id)], o.2 ≠ (.subscribe id : Op ε α) := by
    simpa [or_imp, forall_and] using hn
  have hsum := position_accounted hc₀ hp hn'
  have hmid := position_accounted hc₀ hp hn
  have hread : (Op.read id : Op ε α).acts = false := rfl
  obtain ⟨-, -, -, hsent, -⟩ := step_of_not_acts (s.run since).1 now hread
  rw [run_concat, position_upToDate _ now (.inr ⟨rfl, by rw [hmid]; rfl⟩), hsent,
    (carries_run hc since).sent, List.length_append, Option.some_inj] at hsum
  omega

/-! ### Observers -/

/-- All that observers were told of and that has been handed over. -/
def collected (s : Session) : List (Instant × Op ε α) → List (String × Change)
  | [] => []
  | (now, op) :: ops => (s.step now op).reply.collected ++ (s.step now op).session.collected ops

/-- What there is to tell the observers of a run, the first of them given. -/
def notices (observer : Option String) (s : Session) :
    List (Instant × Op ε α) → List (String × Change)
  | [] => []
  | (now, op) :: ops =>
    noticesOf observer (changesIn (s.moments now op))
      ++ (s.step now op).session.notices (op.observer observer) ops

theorem collected_of_acts (s : Session) (now : Instant) {op : Op ε α} (hop : op.acts = true) :
    (s.step now op).reply.collected = [] := by
  cases op with
  | call outcome =>
    cases he : s.breaker.enter now <;> simp [step, enter, refuse, he, Reply.collected]
  | crash => cases he : s.breaker.enter now <;> simp [step, enter, refuse, he, Reply.collected]
  | start id =>
    cases he : (s.abandon id).breaker.enter now <;> simp [step, enter, refuse, he, Reply.collected]
  | finish id outcome => cases hl : s.live.get? id <;> simp [step, hl, Reply.collected]
  | abandon id => cases hl : s.live.get? id <;> simp [step, hl, Reply.collected]
  | reset => rfl
  | trip => rfl
  | setProbeBudget n => rfl
  | _ => cases hop

theorem observer_of_acts {op : Op ε α} (hop : op.acts = true) (observer : Option String) :
    op.observer observer = observer := by
  cases op with
  | observe tag => cases hop
  | _ => rfl

theorem observer_step (s : Session) (now : Instant) (op : Op ε α) :
    (s.step now op).session.observer = op.observer s.observer := by
  cases hop : op.acts with
  | true => rw [(tells_step s now hop).passed.observer, observer_of_acts hop]
  | false =>
    cases op with
    | read id => cases hr : s.channel.read? id <;> simp [step, hr, Op.observer]
    | subscribe id => rfl
    | observe tag => rfl
    | collect => rfl
    | _ => cases hop

/-- What is handed over and what is kept for later is what there was, and what is new. -/
theorem observed_step (s : Session) (now : Instant) (op : Op ε α) :
    (s.step now op).reply.collected ++ (s.step now op).session.observed =
      s.observed ++ noticesOf s.observer (changesIn (s.moments now op)) := by
  cases hop : op.acts with
  | true =>
    rw [collected_of_acts s now hop, (tells_step s now hop).passed.observed, List.nil_append]
  | false =>
    rw [(step_of_not_acts s now hop).1]
    cases op with
    | read id => cases hr : s.channel.read? id <;> simp [step, hr, Reply.collected, noticesOf]
    | subscribe id => simp [step, Reply.collected, noticesOf]
    | observe tag => simp [step, Reply.collected, noticesOf]
    | collect => simp [step, Reply.collected, noticesOf]
    | _ => cases hop

theorem observed_run (s : Session) (ops : List (Instant × Op ε α)) :
    s.collected ops ++ (s.run ops).1.observed = s.observed ++ s.notices s.observer ops := by
  induction ops generalizing s with
  | nil => simp [collected, run, notices]
  | cons o ops ih =>
    obtain ⟨now, op⟩ := o
    rw [collected, run, List.append_assoc, ih, ← List.append_assoc, observed_step, notices,
      observer_step, List.append_assoc]

end Session

/-! ### Everyone is told the same -/

variable {ε α : Type}

/-- How those who follow a breaker are told of its changes in a run. -/
structure ChannelsAgree (s₀ : Session) (ops : List (Instant × Op ε α)) : Prop where
  /-- The changes lead from the closed state to that of the moment. -/
  leads : Leads .closed (changesIn (s₀.history ops)) (s₀.run ops).1.breaker.state
  /-- Who never subscribed is told so. -/
  unknown_iff : ∀ past now id rest, ops = past ++ (now, .read id) :: rest →
    (((s₀.run past).1.step now (.read id : Op ε α)).reply = .unknown ↔
      ∀ t, (t, .subscribe id) ∉ past)
  /-- A subscription gets the last 64 changes since it was made or last read, and the number of
  those before them. -/
  delivered : ∀ past t mark since now id rest,
    ops = past ++ (t, mark) :: (since ++ (now, .read id) :: rest) →
    (mark = .subscribe id ∨ mark = .read id ∧ ∃ t', (t', .subscribe id) ∈ past) →
    (∀ o ∈ since, o.2 ≠ .subscribe id ∧ o.2 ≠ .read id) →
      let s := (s₀.run (past ++ [(t, mark)])).1
      let unseen := changesIn (s.history since)
      ((s.run since).1.step now (.read id : Op ε α)).reply =
        .delivery ⟨unseen.length - 64, unseen.drop (unseen.length - 64)⟩
  /-- Over all reads, what it gets and what it lost add up to the changes since it was made. -/
  accounted : ∀ past t since now id rest,
    ops = past ++ (t, .subscribe id) :: (since ++ (now, .read id) :: rest) →
    (∀ o ∈ since, o.2 ≠ .subscribe id) →
      let s := (s₀.run (past ++ [(t, .subscribe id)])).1
      s.accounted id (since ++ [(now, .read id)]) = (changesIn (s.history since)).length
  /-- Observers are told of the changes made in their time, and of no others. -/
  notified : s₀.collected ops ++ (s₀.run ops).1.observed = s₀.notices none ops
  /-- Each counter of a change tells how often it was made. -/
  counted : ∀ c, (s₀.run ops).2.count (.transition s₀.breaker.name c) =
    (changesIn (s₀.history ops)).count c
  /-- The log tells of each change once. -/
  logged : (s₀.run ops).2.events.filter (·.message = "Circuit breaker state changed") =
    (changesIn (s₀.history ops)).map (LogEvent.ofChange s₀.breaker.name)

open Session in
/-- Everyone who follows a new breaker is told the same history, whatever its users do. -/
theorem channelsAgree (name : String) (k : UInt32) (d : Duration) (ops : List (Instant × Op ε α)) :
    ChannelsAgree (Session.new name k d) ops := by
  have carries (ops : List (Instant × Op ε α)) :
      ((Session.new name k d).run ops).1.channel.Carries
        (changesIn ((Session.new name k d).history ops)) := by
    have hs : (Session.new name k d).channel.Carries [] := ⟨rfl, rfl⟩
    simpa using carries_run hs ops
  constructor
  case leads => exact (course_history name k d ops).leads
  case unknown_iff =>
    intro past now id rest _
    rw [reply_read_unknown_iff, subscribed_iff]
    simp [Session.new]
  case delivered =>
    intro past t mark since now id rest _ hmark hsince s unseen
    have hm : mark = .subscribe id ∨
        mark = .read id ∧ (((Session.new name k d).run past).1.channel.positions.get? id).isSome :=
      hmark.imp_right fun h => ⟨h.1, (subscribed_iff _ past id).2 (.inr h.2)⟩
    have hc : s.channel.Carries _ := carries (past ++ [(t, mark)])
    have hp := position_upToDate ((Session.new name k d).run past).1 t hm
    rw [← run_concat, hc.sent, ← position_run s hsince] at hp
    exact reply_read (carries_run hc since) hp now
  case accounted =>
    intro past t since now id rest _ hsince s
    have hc : s.channel.Carries _ := carries (past ++ [(t, .subscribe id)])
    have hp := position_upToDate ((Session.new name k d).run past).1 t
      (show (Op.subscribe id : Op ε α) = .subscribe id ∨ _ from .inl rfl)
    rw [← run_concat, hc.sent] at hp
    exact accounted_until_read hc hp hsince now
  case notified =>
    exact observed_run (Session.new name k d) ops
  case counted =>
    intro c
    rw [Journal.count_transition (of_run _ ops), changes_run]
  case logged =>
    rw [Journal.events_changed (of_run _ ops), changes_run]

end CallGuard.Breaker
