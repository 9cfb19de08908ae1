import CallGuard.Proofs.Breaker.Alike
import CallGuard.Proofs.Breaker.Availability
import CallGuard.Proofs.Breaker.Observation
import CallGuard.Proofs.NameMap

/-! A closed breaker remembers nothing but its failures. Two of them with the same settings, the
same number of failures and the same calls in flight cannot be told apart by anything that is
done with both from then on, whenever they failed before and whatever the calls in flight were
let in as. So a breaker that is reset goes on like a new one on which calls of the same names
have been begun (`forgetful`). -/

namespace CallGuard.Breaker

variable {ε α : Type} {s s' : Session} {cs cs' : List Change} {ops : List (Instant × Op ε α)}

/-- What is the same of two sessions with which the same is done. -/
structure Indistinguishable (s s' : Session) (ops : List (Instant × Op ε α)) : Prop where
  /-- Whoever acts on them gets the same reply, and the same calls are begun. -/
  replies : ∀ past now op rest, ops = past ++ (now, op) :: rest → op.acts = true →
    ((s'.run past).1.step now op).reply = ((s.run past).1.step now op).reply ∧
      ((s'.run past).1.step now op).invoked = ((s.run past).1.step now op).invoked
  /-- The breakers are in the same state at all times, and count as many failures. -/
  states : ∀ past rest, ops = past ++ rest →
    (s'.run past).1.breaker.state = (s.run past).1.breaker.state ∧
      (s'.run past).1.breaker.failures = (s.run past).1.breaker.failures
  /-- The same is logged and counted. -/
  journal : ∀ past rest, ops = past ++ rest → (s'.run past).2 = (s.run past).2
  /-- The same changes are sent, -/
  sent : ∀ before before', s.channel.Carries before → s'.channel.Carries before' →
    ∃ cs, (s.run ops).1.channel.Carries (before ++ cs) ∧
      (s'.run ops).1.channel.Carries (before' ++ cs)
  /-- and whoever subscribes gets the same of them. -/
  delivered : ∀ past t since now id rest,
    ops = past ++ (t, .subscribe id) :: (since ++ (now, .read id) :: rest) →
      ((s'.run (past ++ (t, .subscribe id) :: since)).1.step now (.read id : Op ε α)).reply =
        ((s.run (past ++ (t, .subscribe id) :: since)).1.step now (.read id)).reply
  /-- The observers are told the same. -/
  observed : ∃ told, s.collected ops ++ (s.run ops).1.observed = s.observed ++ told ∧
    s'.collected ops ++ (s'.run ops).1.observed = s'.observed ++ told

theorem Indistinguishable.symm (h : Indistinguishable s s' ops) : Indistinguishable s' s ops where
  replies := by
    intro past now op rest ho hop
    obtain ⟨hr, hi⟩ := h.replies past now op rest ho hop
    exact ⟨hr.symm, hi.symm⟩
  states := by
    intro past rest ho
    obtain ⟨hs, hf⟩ := h.states past rest ho
    exact ⟨hs.symm, hf.symm⟩
  journal past rest ho := (h.journal past rest ho).symm
  sent := by
    intro before before' hc hc'
    obtain ⟨cs, hs, hs'⟩ := h.sent before' before hc' hc
    exact ⟨cs, hs', hs⟩
  delivered past t since now id rest ho := (h.delivered past t since now id rest ho).symm
  observed := by
    obtain ⟨told, ht, ht'⟩ := h.observed
    exact ⟨told, ht', ht⟩

namespace Session

/-! ### Subscriptions to both -/

/-- A subscription to both of two sessions to which the same is new. -/
def Abreast (s s' : Session) (id : String) : Prop :=
  ∃ seen seen' unseen : List Change,
    (s.channel.Carries (seen ++ unseen) ∧ s.channel.positions.get? id = some seen.length) ∧
      s'.channel.Carries (seen' ++ unseen) ∧ s'.channel.positions.get? id = some seen'.length

theorem Alike.changes_step (h : s.Alike s') (now : Instant) (op : Op ε α)
    (hn : Numbered (s.moments now op)) :
    changesIn (s'.moments now op) = changesIn (s.moments now op) := by
  rw [← Session.changes_step, ← Session.changes_step, (h.step_session now op hn).2]

/-- A subscription that is made or read has come as far as its channel. -/
theorem carries_upToDate (hc : s.channel.Carries cs) (now : Instant) {op : Op ε α} {id : String}
    (ho : op = .subscribe id ∨ op = .read id ∧ (s.channel.positions.get? id).isSome) :
    (s.step now op).session.channel.Carries (cs ++ []) ∧
      (s.step now op).session.channel.positions.get? id = some cs.length := by
  have hop : op.acts = false := by rcases ho with rfl | ⟨rfl, -⟩ <;> rfl
  have hs := carries_step hc now op
  rw [(step_of_not_acts s now hop).1, changesIn_nil] at hs
  refine ⟨hs, ?_⟩
  rw [position_upToDate s now ho, hs.sent, List.append_nil]

namespace Abreast

variable {id : String}

theorem of_subscribe (hc : s.channel.Carries cs) (hc' : s'.channel.Carries cs') (now : Instant)
    (id : String) : (s.step now (.subscribe id : Op ε α)).session.Abreast
      (s'.step now (.subscribe id : Op ε α)).session id :=
  ⟨cs, cs', [], carries_upToDate hc now (.inl rfl), carries_upToDate hc' now (.inl rfl)⟩

theorem step (ha : s.Abreast s' id) (now : Instant) (op : Op ε α)
    (hc : changesIn (s'.moments now op) = changesIn (s.moments now op)) :
    (s.step now op).session.Abreast (s'.step now op).session id := by
  obtain ⟨seen, seen', unseen, ⟨hs, hp⟩, hs', hp'⟩ := ha
  by_cases hsub : op = .subscribe id
  · subst hsub
    exact of_subscribe hs hs' now id
  · by_cases hread : op = .read id
    · have hsome : (s.channel.positions.get? id).isSome := by rw [hp]; rfl
      have hsome' : (s'.channel.positions.get? id).isSome := by rw [hp']; rfl
      exact ⟨_, _, [], carries_upToDate hs now (.inr ⟨hread, hsome⟩),
        carries_upToDate hs' now (.inr ⟨hread, hsome'⟩)⟩
    · have hm := carries_step hs now op
      have hm' := carries_step hs' now op
      rw [List.append_assoc] at hm hm'
      rw [hc] at hm'
      exact ⟨seen, seen', _, ⟨hm, (position_step s now op id hsub hread).trans hp⟩, hm',
        (position_step s' now op id hsub hread).trans hp'⟩

theorem run (ha : s.Abreast s' id) (h : s.Alike s') (hn : Numbered (s.history ops)) :
    (s.run ops).1.Abreast (s'.run ops).1 id := by
  induction ops generalizing s s' with
  | nil => exact ha
  | cons o ops ih =>
    have ho := ha.step o.1 o.2 (h.changes_step o.1 o.2 hn.left)
    exact ih ho (h.step_session o.1 o.2 hn.left).1 hn.right

theorem reply (ha : s.Abreast s' id) (now : Instant) :
    (s'.step now (.read id : Op ε α)).reply = (s.step now (.read id)).reply := by
  obtain ⟨seen, seen', unseen, ⟨hs, hp⟩, hs', hp'⟩ := ha
  rw [reply_read hs hp, reply_read hs' hp']

end Abreast

/-! ### What follows of two sessions that are alike -/

namespace Alike

theorem changes_run (h : s.Alike s') (hn : Numbered (s.history ops)) :
    changesIn (s'.history ops) = changesIn (s.history ops) := by
  rw [← Session.changes_run, ← Session.changes_run, (h.run hn).2]

theorem notices (h : s.Alike s') (hn : Numbered (s.history ops)) (observer : Option String) :
    s'.notices observer ops = s.notices observer ops := by
  induction ops generalizing s s' observer with
  | nil => rfl
  | cons o ops ih =>
    have hr := ih (h.step_session o.1 o.2 hn.left).1 hn.right (o.2.observer observer)
    rw [Session.notices, Session.notices, h.changes_step o.1 o.2 hn.left, hr]

theorem indistinguishable (h : s.Alike s') (ho : s'.observer = s.observer)
    (hc : s.channel.Carries cs) (hc' : s'.channel.Carries cs')
    (hn : Numbered (s.history ops)) : Indistinguishable s s' ops := by
  have upTo {past rest : List (Instant × Op ε α)} (he : ops = past ++ rest) :
      Numbered (s.history past) ∧ Numbered ((s.run past).1.history rest) := by
    rw [he, history_append] at hn
    exact ⟨hn.left, hn.right⟩
  constructor
  case replies =>
    intro past now op rest he hop
    obtain ⟨hpast, hrest⟩ := upTo he
    have ha := (h.run hpast).1.step now hop hrest.left
    exact ⟨ha.reply, ha.invoked⟩
  case states =>
    intro past rest he
    have hb := (h.run (upTo he).1).1.breakers
    exact ⟨hb.state, hb.failures⟩
  case journal =>
    intro past rest he
    exact (h.run (upTo he).1).2
  case sent =>
    intro before before' hb hb'
    have hs' := carries_run hb' ops
    rw [h.changes_run hn] at hs'
    exact ⟨_, carries_run hb ops, hs'⟩
  case delivered =>
    intro past t since now id rest he
    obtain ⟨hpast, hrest⟩ := upTo he
    obtain ⟨hstep, -⟩ := (h.run hpast).1.step_session t (.subscribe id) hrest.left
    have hsince := hrest.right
    rw [history_append] at hsince
    have ha := (Abreast.of_subscribe (ε := ε) (α := α) (carries_run hc past)
      (carries_run hc' past) t id).run hstep hsince.left
    rw [run_append, run_append]
    exact ha.reply now
  case observed =>
    refine ⟨s.notices s.observer ops, observed_run s ops, ?_⟩
    rw [observed_run, ho, h.notices hn]

end Alike

/-! ### Windows with numbers -/

/-- In a run that does not begin too many of them every window has its number. -/
theorem numbered (name : String) (k : UInt32) (d : Duration) (past ops : List (Instant × Op ε α))
    (few : windows ((new name k d).history (past ++ ops)) < UInt64.size) :
    Numbered (((new name k d).run past).1.history ops) := by
  intro m hm ho
  obtain ⟨h, h', he⟩ := List.append_of_mem hm
  have hp : ((new name k d).history past ++ h) ++ [m] <+: (new name k d).history (past ++ ops) :=
    ⟨h', by simp [history_append, he]⟩
  obtain ⟨live, live', hc, -⟩ := next_upTo name k d hp
  have hle := windows_mono hp
  have hn : windows (((new name k d).history past ++ h) ++ [m]) =
      windows ((new name k d).history past ++ h) + 1 := by
    rw [windows_concat, if_pos ho]
  have hw := (hc.slotsCounted (by omega)).window
  omega

/-- In such a run no permit in flight names a window yet to come. -/
theorem permitsKnown (name : String) (k : UInt32) (d : Duration)
    (past ops : List (Instant × Op ε α))
    (few : windows ((new name k d).history (past ++ ops)) < UInt64.size) :
    PermitsKnown ((new name k d).run past).1.breaker.window.toNat
      (permits ((new name k d).run past).1.live) := by
  have hle : windows ((new name k d).history past) ≤
      windows ((new name k d).history (past ++ ops)) := by
    apply windows_mono
    rw [history_append]
    exact List.prefix_append ..
  have hi := (course_history name k d past).slotsCounted (by omega)
  rw [hi.window]
  exact hi.known

/-! ### Calls begun on a closed breaker -/

theorem abandon_of_closed (hs : s.breaker.state = .closed) (id : String) :
    (s.abandon id).breaker = s.breaker := by
  cases hl : s.live.get? id with
  | none => simp [abandon, hl]
  | some permit =>
    rcases release_cases s.breaker permit with ⟨hs', -⟩ | ⟨-, he⟩
    · cases hs.symm.trans hs'
    · simp [abandon, release, hl, he]

theorem get?_abandon_of_ne (s : Session) {id other : String} (hne : other ≠ id) :
    (s.abandon id).live.get? other = s.live.get? other := by
  cases hl : s.live.get? id with
  | none => simp [abandon, hl]
  | some permit => simp [abandon, release, hl, NameMap.get?_erase_of_ne hne]

/-- They are no probes, and leave the breaker as it is. -/
theorem start_of_closed (hs : s.breaker.state = .closed) (now : Instant) (id : String) :
    (s.step now (.start id : Op ε α)).session.breaker = s.breaker ∧
      ∀ other, (s.step now (.start id : Op ε α)).session.live.get? other =
        if other = id then some ⟨none⟩ else s.live.get? other := by
  have hb := abandon_of_closed hs id
  have he := enter_of_closed (hb ▸ hs) now
  constructor
  · simpa [step, enter, he] using hb
  · intro other
    by_cases ho : other = id
    · subst ho
      simp [step, enter, he]
    · simp [step, enter, he, NameMap.get?_insert_of_ne ho, get?_abandon_of_ne s ho, ho]

theorem run_starts (hs : s.breaker.state = .closed) (now : Instant) (ids : List String) :
    let s' := (s.run (ids.map fun id => (now, (.start id : Op ε α)))).1
    s'.breaker = s.breaker ∧ s'.observer = s.observer ∧
      ∀ id, s'.live.get? id = if id ∈ ids then some ⟨none⟩ else s.live.get? id := by
  induction ids generalizing s with
  | nil => exact ⟨rfl, rfl, fun _ => by simp [run]⟩
  | cons first ids ih =>
    obtain ⟨hb, hl⟩ := start_of_closed (ε := ε) (α := α) hs now first
    obtain ⟨hb', ho', hl'⟩ := ih (s := (s.step now (.start first : Op ε α)).session) (hb ▸ hs)
    refine ⟨hb'.trans hb, ho'.trans (observer_step s now _), ?_⟩
    intro id
    rw [List.map_cons, run, hl', hl]
    by_cases hid : id = first
    · simp [hid]
    · simp [hid]

/-- What makes a new session the like of one that is reset: it gets the same budget and the same
observer, and calls of the same names are begun. -/
def anew (s : Session) (now : Instant) : List (Instant × Op ε α) :=
  (now, .setProbeBudget s.breaker.probeBudget) ::
    (s.observer.toList.map (fun tag => (now, .observe tag)) ++
      s.live.names.map fun id => (now, .start id))

theorem run_observe (ho : s.observer = none) (now : Instant) (observer : Option String) :
    (s.run (observer.toList.map fun tag => (now, (.observe tag : Op ε α)))).1 =
      { s with observer } := by
  cases observer with
  | none =>
    cases s
    cases ho
    rfl
  | some tag => rfl

theorem setProbeBudget_of_pos (b : Breaker) {n : UInt32} (hpos : 0 < n.toNat) :
    b.setProbeBudget n = { b with probeBudget := n } := by
  have hne : n ≠ 0 := by
    rintro rfl
    exact absurd hpos (by decide)
  rw [Breaker.setProbeBudget, if_neg hne]

theorem run_anew (s : Session) (hpos : 0 < s.breaker.probeBudget.toNat) (name : String)
    (k : UInt32) (d : Duration) (now : Instant) :
    let s' := ((new name k d).run (s.anew now : List (Instant × Op ε α))).1
    s'.breaker = { Breaker.new name k d with probeBudget := s.breaker.probeBudget } ∧
      s'.observer = s.observer ∧
      ∀ id, s'.live.get? id = if id ∈ s.live.names then some ⟨none⟩ else none := by
  let t : Session :=
    ⟨(Breaker.new name k d).setProbeBudget s.breaker.probeBudget, .empty, {}, s.observer, []⟩
  have hrun : ((new name k d).run (s.anew now : List (Instant × Op ε α))).1 =
      (t.run (s.live.names.map fun id => (now, (.start id : Op ε α)))).1 := by
    rw [anew, run, run_append, run_observe rfl]
    rfl
  rw [hrun, ← setProbeBudget_of_pos _ hpos]
  exact run_starts rfl now s.live.names

end Session

/-! ### What a closed breaker has forgotten -/

/-- Two sessions that agree in all that a closed breaker remembers. -/
structure Interchangeable (s s' : Session) : Prop where
  name : s'.breaker.name = s.breaker.name
  maxFailures : s'.breaker.maxFailures = s.breaker.maxFailures
  resetTimeout : s'.breaker.resetTimeout = s.breaker.resetTimeout
  probeBudget : s'.breaker.probeBudget = s.breaker.probeBudget
  closed : s.breaker.state = .closed
  closed' : s'.breaker.state = .closed
  failures : s'.breaker.failures = s.breaker.failures
  inFlight : ∀ id, (s'.live.get? id).isSome = (s.live.get? id).isSome
  observer : s'.observer = s.observer

theorem Interchangeable.symm (h : Interchangeable s s') : Interchangeable s' s where
  name := h.name.symm
  maxFailures := h.maxFailures.symm
  resetTimeout := h.resetTimeout.symm
  probeBudget := h.probeBudget.symm
  closed := h.closed'
  closed' := h.closed
  failures := h.failures.symm
  inFlight id := (h.inFlight id).symm
  observer := h.observer.symm

theorem Interchangeable.alike (h : Interchangeable s s')
    (hk : PermitsKnown s.breaker.window.toNat (permits s.live))
    (hk' : PermitsKnown s'.breaker.window.toNat (permits s'.live))
    (hle : s'.breaker.window.toNat ≤ s.breaker.window.toNat) : s.Alike s' where
  breakers := {
    name := h.name
    maxFailures := h.maxFailures
    resetTimeout := h.resetTimeout
    probeBudget := h.probeBudget
    state := h.closed'.trans h.closed.symm
    failures := h.failures
    lastFailure := fun hs => by cases h.closed.symm.trans hs
    probes := fun hs => by cases h.closed.symm.trans hs }
  calls := {
    inFlight := fun c => by
      cases c with
      | none => rfl
      | some id => exact h.inFlight id
    window_iff := fun hs => by cases h.closed.symm.trans hs
    known := hk
    known' := hk'
    window_le := hle }

section Anew

variable (s : Session) (name : String) (k : UInt32) (d : Duration) (now : Instant)

/-- The calls that are begun anew are no probes. -/
theorem anew_permitsKnown (hpos : 0 < s.breaker.probeBudget.toNat) (n : Nat) :
    PermitsKnown n
      (permits ((Session.new name k d).run (s.anew now : List (Instant × Op ε α))).1.live) := by
  obtain ⟨-, -, hl⟩ := Session.run_anew (ε := ε) (α := α) s hpos name k d now
  intro c permit w hp hw
  cases c with
  | none => cases hp
  | some id =>
    rw [permits_some, hl] at hp
    split at hp
    · cases hp
      cases hw
    · cases hp

/-- A breaker that is reset remembers no more than one that is made anew. -/
theorem reset_interchangeable {h : List Moment} {live : Call → Option Permit}
    (hc : Course (.new name k d) h s.breaker live) :
    Interchangeable (s.step now (.reset : Op ε α)).session
      ((Session.new name k d).run (s.anew now : List (Instant × Op ε α))).1 := by
  obtain ⟨hname, hmax, htimeout⟩ := hc.settings
  obtain ⟨hb, ho, hl⟩ :=
    Session.run_anew (ε := ε) (α := α) s hc.unblocked.budget_pos name k d now
  have hr : (s.step now (.reset : Op ε α)).session.breaker =
      { s.breaker with state := .closed, failures := 0, probes := 0, lastFailure := none } := by
    simp [Session.step, reset_fst]
  have hlive : (s.step now (.reset : Op ε α)).session.live = s.live := by simp [Session.step]
  constructor
  case name => rw [hb, hr]; exact hname.symm
  case maxFailures => rw [hb, hr]; exact hmax.symm
  case resetTimeout => rw [hb, hr]; exact htimeout.symm
  case probeBudget => rw [hb, hr]
  case closed => rw [hr]
  case closed' => rw [hb]; rfl
  case failures => rw [hb, hr]; rfl
  case inFlight =>
    intro id
    rw [hl, hlive]
    by_cases hid : id ∈ s.live.names
    · rw [if_pos hid, NameMap.mem_names_iff.1 hid]
      rfl
    · rw [if_neg hid, Bool.eq_false_iff.2 (mt NameMap.mem_names_iff.2 hid)]
      rfl
  case observer => rw [ho, Session.observer_step]; rfl

end Anew

/-- The channel of a session has carried the changes of its history. -/
theorem Session.carries_history (name : String) (k : UInt32) (d : Duration)
    (past : List (Instant × Op ε α)) :
    ((new name k d).run past).1.channel.Carries (changesIn ((new name k d).history past)) := by
  have hs : (new name k d).channel.Carries [] := ⟨rfl, rfl⟩
  simpa using carries_run hs past

/-- What a breaker that is closed has forgotten, in as far as its windows have numbers. -/
structure Forgetful (name : String) (k : UInt32) (d : Duration)
    (past : List (Instant × Op ε α)) : Prop where
  /-- It cannot be told from any other that remembers the same. -/
  closed : ∀ name' k' d' (past' ops : List (Instant × Op ε α)),
    let s := ((Session.new name k d).run past).1
    let s' := ((Session.new name' k' d').run past').1
    windows ((Session.new name k d).history (past ++ ops)) < UInt64.size →
    windows ((Session.new name' k' d').history (past' ++ ops)) < UInt64.size →
      Interchangeable s s' → Indistinguishable s s' ops
  /-- Reset from any state, it cannot be told from a new one on which the calls are begun. -/
  reset : ∀ now (ops : List (Instant × Op ε α)),
    let s := ((Session.new name k d).run past).1
    windows ((Session.new name k d).history (past ++ (now, .reset) :: ops)) < UInt64.size →
      Indistinguishable (s.step now (.reset : Op ε α)).session
        ((Session.new name k d).run (s.anew now : List (Instant × Op ε α))).1 ops

open Session in
/-- Every breaker is forgetful, however it was used. -/
theorem forgetful (name : String) (k : UInt32) (d : Duration) (past : List (Instant × Op ε α)) :
    Forgetful name k d past := by
  constructor
  case closed =>
    intro name' k' d' past' ops s s' few few' hi
    have hk := permitsKnown name k d past ops few
    have hk' := permitsKnown name' k' d' past' ops few'
    have hc := carries_history name k d past
    have hc' := carries_history name' k' d' past'
    -- the one with fewer windows behind it comes second
    rcases Nat.le_total s'.breaker.window.toNat s.breaker.window.toNat with hle | hle
    · exact (hi.alike hk hk' hle).indistinguishable hi.observer hc hc'
        (numbered name k d past ops few)
    · exact ((hi.symm.alike hk' hk hle).indistinguishable hi.symm.observer hc' hc
        (numbered name' k' d' past' ops few')).symm
  case reset =>
    intro now ops s few
    have hcourse := course_history name k d past
    have hpos : 0 < s.breaker.probeBudget.toNat := hcourse.unblocked.budget_pos
    have hi := reset_interchangeable (ε := ε) (α := α) s name k d now hcourse
    have hk := permitsKnown name k d (past ++ [(now, .reset)]) ops (by simpa using few)
    have hn := numbered name k d (past ++ [(now, .reset)]) ops (by simpa using few)
    have hc := carries_history name k d (past ++ [(now, .reset)])
    rw [run_concat] at hk hn hc
    have hw : ((Session.new name k d).run
        (s.anew now : List (Instant × Op ε α))).1.breaker.window.toNat = 0 := by
      rw [(run_anew s hpos name k d now).1]
      rfl
    have ha := hi.alike hk (anew_permitsKnown s name k d now hpos _) (hw ▸ Nat.zero_le _)
    exact ha.indistinguishable hi.observer hc (carries_history name k d _) hn

/-- A probe of a window that is over, and a call that was never one. -/
theorem forgetful_late_probe :
    let past : List (Instant × Op Unit Unit) := [(0, .trip), (2, .start "call"), (3, .reset)]
    let past' : List (Instant × Op Unit Unit) := [(3, .start "call")]
    let ops : List (Instant × Op Unit Unit) := [(4, .trip), (6, .start "probe"),
      (7, .abandon "call"), (8, .call (.ok ())), (9, .finish "probe" (.ok ()))]
    let s := ((Session.new "agent" 1 (.ofNanos 1)).run past).1
    let s' := ((Session.new "agent" 1 (.ofNanos 1)).run past').1
    s.live ≠ s'.live ∧ Indistinguishable s s' ops := by
  intro past past' ops s s'
  have hl : s.live = NameMap.empty.insert "call" ⟨some 1⟩ := by decide
  have hl' : s'.live = NameMap.empty.insert "call" ⟨none⟩ := by decide
  have hi : Interchangeable s s' := by
    constructor
    case inFlight =>
      intro id
      rw [hl, hl']
      by_cases hid : id = "call"
      · rw [hid, NameMap.get?_insert_self, NameMap.get?_insert_self]
        rfl
      · rw [NameMap.get?_insert_of_ne hid, NameMap.get?_insert_of_ne hid]
    all_goals decide
  exact ⟨by decide, (forgetful "agent" 1 (.ofNanos 1) past).closed _ _ _ past' ops (by decide)
    (by decide) hi⟩

end CallGuard.Breaker
