import CallGuard.Proofs.Context.Pedigree

/-! What the holder of a context sees of it, after any history. Its deadline is the earliest of
those asked for on the way from its root; it is cancelled just if cancel was called on it, a copy of
it or a context it is derived from, be it before or after it was made. All that happens during a
wait is the call that is to come in it, so that the waiter is woken by that call or by the deadline
(`tree_law`). -/

namespace CallGuard

namespace Context

theorem reached_earliest (es : List (Nat × Instant)) (now : Instant) :
    Scope.reached (es.foldr (fun e t => Scope.earlier (some e.2) t) none) now = true ↔
      ∃ e ∈ es, e.2 ≤ now := by
  induction es with
  | nil => simp [Scope.reached]
  | cons e es ih =>
    rw [List.foldr_cons, Scope.reached_earlier, ih]
    simp [Scope.reached]

/-- A context is cancelled by the tokens of its lineage. -/
theorem reached_cancelledAt (c : Context) (cs : Cancellations) (now : Instant) :
    Scope.reached (c.cancelledAt cs) now = true ↔
      ∃ e ∈ cs.instants, e.1 ∈ c.lineage ∧ e.2 ≤ now := by
  rw [cancelledAt, reached_earliest]
  simp [List.mem_filter, and_assoc]

end Context

namespace Contexts

/-! ### As a history goes on -/

variable {h : List Op} {p q : Pedigree} {name : String}

/-- A wait is over when the end of the scope wakes the waiter, or after its time. -/
theorem le_awaited (c : Scope) (now : Instant) (within : Duration) :
    now ≤ (awaited c now within).1 := by
  have hlimit := Instant.le_sleepEnd now within
  unfold awaited
  split
  · next t e he =>
    dsimp only
    split
    · exact Scope.le_of_alarm (Scope.wakes_of_ending? he).rings
    · exact hlimit
  · exact hlimit

theorem now_le_step (s : Contexts) (op : Op) : s.now ≤ (s.step op).1.now := by
  have held (source : String) (act : Context → Contexts × Reply)
      (hact : ∀ c, s.now ≤ (act c).1.now) : s.now ≤ (s.withContext source act).1.now := by
    rw [withContext]
    cases s.named.get? source with
    | none => exact Nat.le_refl _
    | some c => exact hact c
  cases op with
  | background => exact Nat.le_refl _
  | advance d => exact Nat.le_add_right _ _
  | copy source | child source | deadline source | cancel source =>
    exact held source _ fun _ => Nat.le_refl _
  | timeout source name d =>
    refine held source _ fun c => ?_
    split <;> exact Nat.le_refl _
  | done source within =>
    refine held source _ fun c => ?_
    rw [await_eq]
    exact le_awaited _ _ _
  | doneWhile source within other wait =>
    refine held source _ fun c => held other _ fun o => ?_
    simp only [await_eq]
    split <;> exact le_awaited _ _ _

/-- A call of cancel in an operation is no later than its end. -/
theorem call?_le {s : Contexts} {op : Op} {t : Instant} (hc : s.call? op = some (name, t)) :
    t ≤ (s.step op).1.now := by
  cases op with
  | cancel source =>
    cases hc
    exact now_le_step s _
  | doneWhile source within other wait =>
    rw [call?] at hc
    split at hc
    · next hle =>
      cases hc
      exact hle.2
    · cases hc
  | _ => cases hc

theorem now_le_after (later h : List Op) : (after h).now ≤ (after (later ++ h)).now := by
  induction later with
  | nil => exact Nat.le_refl _
  | cons op later ih => exact Nat.le_trans ih (now_le_step _ op)

theorem calls_suffix (later h : List Op) : calls h <:+ calls (later ++ h) := by
  induction later with
  | nil => exact List.suffix_refl _
  | cons op later ih => exact ih.trans (List.suffix_append _ _)

/-- A call was on a context that had been made, and is over. -/
theorem of_mem_calls {c : Pedigree × Instant} (hc : c ∈ calls h) :
    c.1 ∈ (family h).made ∧ c.2 ≤ (after h).now := by
  induction h with
  | nil => cases hc
  | cons op earlier ih =>
    have hmade := Family.made_suffix_next (family earlier) (after earlier).now op
    rcases List.mem_append.1 hc with hnew | hold
    · obtain ⟨⟨name, t⟩, hcall, hnamed⟩ := Option.bind_eq_some_iff.1 (Option.mem_toList.1 hnew)
      obtain ⟨p, hp, rfl⟩ := Option.map_eq_some_iff.1 hnamed
      exact ⟨hmade.subset ((grown_family earlier).mem_of_named name p hp), call?_le hcall⟩
    · obtain ⟨hold, hle⟩ := ih hold
      exact ⟨hmade.subset hold, Nat.le_trans hle (now_le_step _ op)⟩

/-- A deadline asked for binds all contexts derived later on. -/
theorem due_of_suffix {t : Instant} (hs : p <:+ q) (ht : due p = some t) :
    ∃ u, due q = some u ∧ u ≤ t := by
  obtain ⟨younger, rfl⟩ := hs
  induction younger with
  | nil => exact ⟨t, ht, Nat.le_refl t⟩
  | cons b younger ih =>
    obtain ⟨u, hu, hle⟩ := ih
    rw [List.cons_append, due_cons, hu]
    cases b.asked with
    | none => exact ⟨u, rfl, hle⟩
    | some v => exact ⟨min u v, rfl, Nat.le_trans (Nat.min_le_left u v) hle⟩

/-! ### What a context shows -/

/-- Why a context has ended, if it is known and has. -/
def error? (s : Contexts) (name : String) : Option ContextError :=
  (s.scope? name).bind (·.error? s.now)

/-- Cancel was called on a context or on one that it is derived from. -/
def Canceled (h : List Op) (p : Pedigree) : Prop := ∃ c ∈ calls h, c.1 <:+ p

/-- The earliest of the deadlines of a context has come. -/
def Expired (h : List Op) (p : Pedigree) : Prop := ∃ t, due p = some t ∧ t ≤ (after h).now

/-- What a context of a name and a pedigree shows. -/
structure Reads (h : List Op) (name : String) (p : Pedigree) : Prop where
  deadline : ((after h).scope? name).map Scope.deadline = some (p.filterMap Birth.asked).min?
  canceled_iff : (after h).error? name = some .canceled ↔ Canceled h p
  expired_iff : (after h).error? name = some .deadlineExceeded ↔ ¬ Canceled h p ∧ Expired h p
  live_iff : (after h).error? name = none ↔ ¬ Canceled h p ∧ ¬ Expired h p

theorem scope?_eq (hp : (family h).named name = some p) :
    (after h).scope? name = some ((contextOf p).scope (after h).cancellations) := by
  rw [scope?, (shows_after h).named name, hp]
  rfl

/-- What marks the call on a context that has been made. -/
theorem mem_marks {c : Pedigree × Instant} (hc : c.1 ∈ (family h).made) (hp : p ∈ (family h).made)
    {e : Nat × Instant} (he : e ∈ marks c) : (e.1 ∈ p.map Birth.place ↔ c.1 <:+ p) ∧ e.2 = c.2 := by
  obtain ⟨forest, -⟩ := grown_family h
  obtain ⟨q, t⟩ := c
  obtain ⟨b, older, rfl⟩ := forest.exists_cons hc
  obtain rfl : e = (b.place, t) := List.mem_singleton.1 he
  exact ⟨(forest.suffix_iff hc hp).symm, rfl⟩

/-- When the calls of a history cancel a context. -/
theorem reached_iff_calls (hp : p ∈ (family h).made) (t : Instant) :
    Scope.reached ((contextOf p).cancelledAt (after h).cancellations) t = true ↔
      ∃ c ∈ calls h, c.1 <:+ p ∧ c.2 ≤ t := by
  rw [Context.reached_cancelledAt, (shows_after h).instants]
  constructor
  · rintro ⟨e, he, hmem, hle⟩
    obtain ⟨c, hc, he⟩ := List.mem_flatMap.1 he
    obtain ⟨hiff, heq⟩ := mem_marks (of_mem_calls hc).1 hp he
    exact ⟨c, hc, hiff.1 hmem, heq ▸ hle⟩
  · rintro ⟨c, hc, hs, hle⟩
    obtain ⟨b, older, hb⟩ := (grown_family h).forest.exists_cons (of_mem_calls hc).1
    have he : (b.place, c.2) ∈ marks c := by simp [marks, contextOf, hb]
    obtain ⟨hiff, -⟩ := mem_marks (of_mem_calls hc).1 hp he
    exact ⟨_, List.mem_flatMap.2 ⟨c, hc, he⟩, hiff.2 hs, hle⟩

/-- A context is over by cancellation just if cancel was called. -/
theorem over_canceled_iff (hp : p ∈ (family h).made) :
    ((contextOf p).scope (after h).cancellations).Over .canceled (after h).now ↔ Canceled h p := by
  refine (Scope.reached_iff _).symm.trans ((reached_iff_calls hp _).trans ?_)
  constructor
  · rintro ⟨c, hc, hs, -⟩
    exact ⟨c, hc, hs⟩
  · rintro ⟨c, hc, hs⟩
    exact ⟨c, hc, hs, (of_mem_calls hc).2⟩

/-- The deadline of a context is that of its scope. -/
theorem over_expired_iff (p : Pedigree) (cs : Cancellations) :
    ((contextOf p).scope cs).Over .deadlineExceeded (after h).now ↔ Expired h p :=
  Iff.rfl

theorem error?_eq (hp : (family h).named name = some p) : (after h).error? name =
    ((contextOf p).scope (after h).cancellations).error? (after h).now := by
  rw [error?, scope?_eq hp]
  rfl

theorem reads (hp : (family h).named name = some p) : Reads h name p := by
  have canceled := over_canceled_iff ((grown_family h).mem_of_named name p hp)
  have expired := over_expired_iff (h := h) p (after h).cancellations
  constructor
  case deadline =>
    rw [scope?_eq hp]
    rfl
  case canceled_iff => rw [error?_eq hp, Scope.error?_eq_canceled_iff, canceled]
  case expired_iff => rw [error?_eq hp, Scope.error?_eq_deadlineExceeded_iff, canceled, expired]
  case live_iff =>
    rw [error?_eq hp, Scope.error?_eq_none_iff, ← canceled, ← expired]
    exact ⟨fun live => ⟨live _, live _⟩, fun ⟨hc, he⟩ e => by cases e <;> assumption⟩

/-- What is done is so because it is cancelled or expired. -/
theorem Reads.done_iff (r : Reads h name p) :
    (after h).error? name ≠ none ↔ Canceled h p ∨ Expired h p := by
  rw [ne_eq, r.live_iff, not_and_or, not_not, not_not]

/-- What is cancelled and expired alike shows the same. -/
theorem Reads.error?_congr {h' : List Op} {name' : String} (r : Reads h name p)
    (r' : Reads h' name' q) (hc : Canceled h p ↔ Canceled h' q) (he : Expired h p ↔ Expired h' q) :
    (after h).error? name = (after h').error? name' := by
  refine Option.ext fun e => ?_
  cases e with
  | canceled => rw [r.canceled_iff, r'.canceled_iff, hc]
  | deadlineExceeded => rw [r.expired_iff, r'.expired_iff, hc, he]

/-! ### What happens in the course of a history -/

/-- A context that is done has all that is derived from it done, for good. -/
theorem Reads.derived {name' : String} {later : List Op} (r : Reads h name p)
    (r' : Reads (later ++ h) name' q) (hs : p <:+ q) (hdone : (after h).error? name ≠ none) :
    (after (later ++ h)).error? name' ≠ none := by
  rw [r'.done_iff]
  rcases r.done_iff.1 hdone with ⟨c, hc, hcs⟩ | ⟨t, ht, hle⟩
  · exact .inl ⟨c, (calls_suffix later h).subset hc, hcs.trans hs⟩
  · obtain ⟨u, hu, hut⟩ := due_of_suffix hs ht
    exact .inr ⟨u, hu, Nat.le_trans hut (Nat.le_trans hle (now_le_after later h))⟩

theorem calls_cancel (hq : (family h).named name = some q) :
    calls (.cancel name :: h) = (q, (after h).now) :: calls h := by
  simp [calls, callsOf, call?, hq]

theorem after_cancel_now (h : List Op) (name : String) :
    (after (.cancel name :: h)).now = (after h).now := by
  rw [after, step, withContext]
  split <;> rfl

section
variable {name' : String}

/-- To cancel a context cancels all that are derived from it. -/
theorem error?_of_cancel (hp : (family h).named name = some p)
    (hq : (family h).named name' = some q) (hs : p <:+ q) :
    (after (.cancel name :: h)).error? name' = some .canceled := by
  have r : Reads (.cancel name :: h) name' q := reads hq
  refine r.canceled_iff.2 ⟨(p, (after h).now), ?_, hs⟩
  rw [calls_cancel hp]
  exact List.mem_cons_self

/-- To cancel a context does nothing to one that is not derived from it. -/
theorem error?_of_cancel_other (hp : (family h).named name = some p)
    (hq : (family h).named name' = some q) (hs : ¬ p <:+ q) :
    (after (.cancel name :: h)).error? name' = (after h).error? name' := by
  have r : Reads (.cancel name :: h) name' q := reads hq
  refine r.error?_congr (reads hq) ?_ ?_
  · simp [Canceled, calls_cancel hp, hs]
  · rw [Expired, after_cancel_now]
    exact Iff.rfl

end

/-! ### Waits -/

section
variable {c : Scope} {now t : Instant} {within : Duration} {e : ContextError}

theorem awaited_of_le (h : (c.ending? now).map Prod.fst = some t)
    (ht : t ≤ Instant.sleepEnd now within) : ∃ e, awaited c now within = (t, .ended e) := by
  obtain ⟨⟨u, e⟩, he, rfl⟩ := Option.map_eq_some_iff.1 h
  exact ⟨e, by simp only [awaited, he, if_pos ht]⟩

theorem awaited_of_lt (h : ∀ t, (c.ending? now).map Prod.fst = some t →
    Instant.sleepEnd now within < t) :
    awaited c now within = (Instant.sleepEnd now within, .pending) := by
  unfold awaited
  cases he : c.ending? now with
  | none => rfl
  | some r =>
    have hlt := h r.1 (by rw [he]; rfl)
    exact if_neg (Nat.not_le_of_lt hlt)

/-- One who is told that the scope is over is so when it is. -/
theorem over_awaited (h : (awaited c now within).2 = .ended e) :
    c.Over e (awaited c now within).1 := by
  unfold awaited at h ⊢
  cases he : c.ending? now with
  | none => simp [he] at h
  | some r =>
    obtain ⟨t, e'⟩ := r
    simp only [he] at h ⊢
    split at h
    · next ht =>
      cases h
      rw [if_pos ht]
      exact (Scope.wakes_of_ending? he).ended
    · cases h

end

/-- When one who waits for the end of a context, from the end of a history on, is woken: at once if
it is done, or else at the earlier of a call that is to cancel it and its deadline. -/
def bell? (h : List Op) (name : String) (p : Pedigree) (call : Option Instant) : Option Instant :=
  if (after h).error? name = none then Scope.earlier call ((due p).map Instant.wake)
  else some (after h).now

/-- A wait for the end of a context is over when the bell rings, and lasts its time if it does not
ring before. One who is told that the context has ended finds it so. -/
structure Waits (h : List Op) (op : Op) (name : String) (p : Pedigree) (within : Duration)
    (call : Option Instant) : Prop where
  resolves : ∀ t, bell? h name p call = some t → t ≤ Instant.sleepEnd (after h).now within →
    (∃ e, ((after h).step op).2 = .ended e) ∧ (after (op :: h)).now = t
  pends : (∀ t, bell? h name p call = some t → Instant.sleepEnd (after h).now within < t) →
    ((after h).step op).2 = .pending ∧
      (after (op :: h)).now = Instant.sleepEnd (after h).now within
  done : ∀ e, ((after h).step op).2 = .ended e → (after (op :: h)).error? name ≠ none

/-- A call on a context is one more cancellation of those derived from it. -/
theorem cancelledAt_cancel (hp : p ∈ (family h).made) (hq : q ∈ (family h).made)
    (cs : Cancellations) (t : Instant) :
    (contextOf p).cancelledAt ((contextOf q).cancel cs t) =
      Scope.earlier (if q <:+ p then some t else none) ((contextOf p).cancelledAt cs) := by
  obtain ⟨b, older, rfl⟩ := (grown_family h).forest.exists_cons hq
  have hiff := (grown_family h).forest.suffix_iff hq hp
  change (((b.place, t) :: cs.instants).filter
    fun e => (p.map Birth.place).contains e.1).foldr _ none = _
  by_cases hs : b :: older <:+ p
  · have hmem := List.contains_iff_mem.2 (hiff.1 hs)
    rw [if_pos hs, List.filter_cons, if_pos hmem]
    rfl
  · have hmem : ¬ (p.map Birth.place).contains b.place = true :=
      fun hmem => hs (hiff.2 (List.contains_iff_mem.1 hmem))
    rw [if_neg hs, List.filter_cons, if_neg hmem]
    rfl

/-- A context that is not done has no cancellation, not even one to come. -/
theorem cancelledAt_of_live (hp : (family h).named name = some p)
    (live : (after h).error? name = none) :
    (contextOf p).cancelledAt (after h).cancellations = none := by
  cases hc : (contextOf p).cancelledAt (after h).cancellations with
  | none => rfl
  | some t =>
    have hreached : Scope.reached ((contextOf p).cancelledAt (after h).cancellations) t = true :=
      (Scope.reached_iff _).2 ⟨t, hc, Nat.le_refl t⟩
    obtain ⟨c, hmem, hs, -⟩ :=
      (reached_iff_calls ((grown_family h).mem_of_named name p hp) t).1 hreached
    exact absurd ⟨c, hmem, hs⟩ ((reads hp).live_iff.1 live).1

/-- The bell is the end of the scope with the call in it. -/
theorem ending?_eq_bell? (hp : (family h).named name = some p) (call : Option Instant)
    (hcall : ∀ t, call = some t → (after h).now ≤ t) :
    (Scope.ending? ⟨Scope.earlier call ((contextOf p).cancelledAt (after h).cancellations), due p⟩
      (after h).now).map Prod.fst = bell? h name p call := by
  rw [bell?]
  split
  · next live =>
    rw [cancelledAt_of_live hp live, Scope.earlier_none]
    exact Scope.ending?_of_future hcall fun t ht hle =>
      ((reads hp).live_iff.1 live).2 ⟨t, ht, hle⟩
  · next done =>
    obtain ⟨e, he⟩ := Option.ne_none_iff_exists'.1 done
    rw [error?_eq hp] at he
    exact Scope.ending?_of_over ((Scope.over_of_error? he).add_call call)

theorem error?_ne_none {s : Contexts} {c : Context} {e : ContextError}
    (hc : s.named.get? name = some c) (h : (c.scope s.cancellations).Over e s.now) :
    s.error? name ≠ none := by
  rw [error?, scope?, hc]
  exact fun live => Scope.error?_eq_none_iff.1 live e h

/-- A wait is as its scope has it, if the scope the waiter finds after it is over too. -/
theorem Waits.of_awaited {op : Op} {within : Duration} {call : Option Instant} {c : Scope}
    (hnow : (after (op :: h)).now = (awaited c (after h).now within).1)
    (hreply : ((after h).step op).2 = (awaited c (after h).now within).2)
    (hbell : (c.ending? (after h).now).map Prod.fst = bell? h name p call)
    (hover : ∀ e, c.Over e (after (op :: h)).now → (after (op :: h)).error? name ≠ none) :
    Waits h op name p within call where
  resolves t ht hle := by
    obtain ⟨e, he⟩ := awaited_of_le (hbell.trans ht) hle
    rw [hnow, hreply, he]
    exact ⟨⟨e, rfl⟩, rfl⟩
  pends hlt := by
    rw [hnow, hreply, awaited_of_lt fun t ht => hlt t (hbell.symm.trans ht)]
    exact ⟨rfl, rfl⟩
  done e he := by
    refine hover e ?_
    rw [hnow]
    exact over_awaited (hreply.symm.trans he)

theorem get?_named (hp : (family h).named name = some p) :
    (after h).named.get? name = some (contextOf p) := by
  rw [(shows_after h).named name, hp]
  rfl

theorem waits_done (hp : (family h).named name = some p) (within : Duration) :
    Waits h (.done name within) name p within none := by
  have hstep := (step_done (get?_named hp) within).trans (await_eq _ _ _)
  have hafter := congrArg Prod.fst hstep
  refine .of_awaited (c := (contextOf p).scope (after h).cancellations)
    (congrArg Contexts.now hafter) (congrArg Prod.snd hstep)
    (ending?_eq_bell? hp none fun _ h => by cases h) fun e he => ?_
  rw [after, hafter] at he ⊢
  exact error?_ne_none (get?_named hp) he

theorem waits_doneWhile {other : String} (hp : (family h).named name = some p)
    (hq : (family h).named other = some q) (within wait : Duration) :
    Waits h (.doneWhile name within other wait) name p within
      (if q <:+ p then some (Instant.sleepEnd (after h).now wait) else none) := by
  have hstep := step_doneWhile (get?_named hp) (get?_named hq) within wait rfl rfl
  have hafter := congrArg Prod.fst hstep
  have hscope := cancelledAt_cancel ((grown_family h).mem_of_named name p hp)
    ((grown_family h).mem_of_named other q hq) (after h).cancellations
    (Instant.sleepEnd (after h).now wait)
  refine .of_awaited (c := (contextOf p).scope ((contextOf q).cancel (after h).cancellations
      (Instant.sleepEnd (after h).now wait)))
    (congrArg Contexts.now hafter) (congrArg Prod.snd hstep) ?_ fun e he => ?_
  · rw [Context.scope, hscope]
    refine ending?_eq_bell? hp _ fun t ht => ?_
    split at ht
    · cases ht
      exact Instant.le_sleepEnd _ _
    · cases ht
  · rw [after, hafter] at he ⊢
    generalize awaited _ (after h).now within = r at he ⊢
    refine error?_ne_none (get?_named hp) (e := e) ?_
    -- the call has been made unless it would have come after the wait was over
    split
    · exact he
    · next hlate =>
      rw [Context.scope, hscope] at he
      refine Scope.Over.of_add_call (s := (contextOf p).scope (after h).cancellations) he
        fun hreached => ?_
      split at hreached
      · exact hlate (by simpa [Scope.reached] using hreached)
      · cases hreached

/-! ### The law -/

/-- What holds of a tree of contexts after a history. One context is derived from another, or is it
or a copy of it, just if its pedigree ends in the other's. -/
structure TreeLaw (h : List Op) : Prop where
  known : ∀ name, (after h).scope? name = none ↔ (family h).named name = none
  reads : ∀ name p, (family h).named name = some p → Reads h name p
  derived : ∀ later name name' p q, (family h).named name = some p →
    (after h).error? name ≠ none → (family (later ++ h)).named name' = some q → p <:+ q →
      (after (later ++ h)).error? name' ≠ none
  cancels : ∀ name name' p q, (family h).named name = some p → (family h).named name' = some q →
    p <:+ q → (after (.cancel name :: h)).error? name' = some .canceled
  spares : ∀ name name' p q, (family h).named name = some p → (family h).named name' = some q →
    ¬ p <:+ q → (after (.cancel name :: h)).error? name' = (after h).error? name'
  spares_ancestor : ∀ name name' p q, (family h).named name = some p →
    (family h).named name' = some q → q <:+ p → q ≠ p →
      (after (.cancel name :: h)).error? name' = (after h).error? name'
  done : ∀ name p within, (family h).named name = some p →
    Waits h (.done name within) name p within none
  doneWhile : ∀ name other p q within wait, (family h).named name = some p →
    (family h).named other = some q → Waits h (.doneWhile name within other wait) name p within
      (if q <:+ p then some (Instant.sleepEnd (after h).now wait) else none)

theorem tree_law (h : List Op) : TreeLaw h where
  known name := by
    rw [scope?, (shows_after h).named name, Option.map_map, Option.map_eq_none_iff]
  reads _ _ := reads
  derived _ _ _ _ _ hp hdone hq hs := (reads hp).derived (reads hq) hs hdone
  cancels _ _ _ _ := error?_of_cancel
  spares _ _ _ _ := error?_of_cancel_other
  spares_ancestor name name' p q hp hq hs hne :=
    error?_of_cancel_other hp hq fun hsp => hne (hs.eq_of_length_le hsp.length_le)
  done _ _ within hp := waits_done hp within
  doneWhile _ _ _ _ within wait hp hq := waits_doneWhile hp hq within wait

/-- What is derived from a cancelled context is cancelled, and its root is not. -/
example :
    let s := after [.child "left" "leaf", .cancel "left", .child "root" "left", .background "root"]
    s.error? "leaf" = some .canceled ∧ s.error? "root" = none := by
  decide

end Contexts

end CallGuard
