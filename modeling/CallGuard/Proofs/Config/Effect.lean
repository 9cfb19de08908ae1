import CallGuard.Proofs.Breaker.Refusals
import CallGuard.Proofs.Breaker.Slots
import CallGuard.Proofs.Breaker.Threshold
import CallGuard.Proofs.Config.RoundTrip
import CallGuard.Proofs.Config.Validity
import CallGuard.Proofs.Registry
import CallGuard.Proofs.Retry.Attempts

/-! What the settings of a text come to. A breaker raises a threshold or a budget of zero to one,
and a plan its number of attempts; settings that a text gives are valid, so nothing of theirs is
raised, and their milliseconds are durations as they are. Hence the breakers of a registry, whoever
asks for them first, open at the number of failures that is set, let in the number of probes that is
set, and plans make the number of attempts that is set (`inForce_of_parse`). -/

namespace CallGuard

namespace Breaker

variable {ε α : Type} {b : Breaker} {h : List Moment} {m : Moment}
  {live live' : Call → Option Permit}

/-- A breaker has a name and settings; its cool-down is that many milliseconds. -/
structure Has (b : Breaker) (name : String) (s : BreakerSettings) : Prop where
  name : b.name = name
  maxFailures : b.maxFailures = s.maxFailures
  resetTimeout : b.resetTimeout.nanos = s.resetTimeoutMs.toNat * 1000000
  probeBudget : b.probeBudget = s.halfOpenRequests

/-! ### The breaker of valid settings -/

/-- Valid settings are not raised. -/
theorem has_ofSettings {s : BreakerSettings} (hs : s.Valid) (name : String) :
    (ofSettings name s).Has name s where
  name := rfl
  maxFailures := if_neg (UInt32.pos_iff_ne_zero.1 hs.maxFailures_pos)
  resetTimeout := rfl
  probeBudget := if_neg (UInt32.pos_iff_ne_zero.1 hs.halfOpenRequests_pos)

theorem failuresCounted_ofSettings (name : String) (s : BreakerSettings) :
    FailuresCounted [] (ofSettings name s) where
  maxFailures_pos := new_maxFailures_pos name s.maxFailures (.ofMillis s.resetTimeoutMs)
  closed _ := ⟨rfl, new_maxFailures_pos name s.maxFailures (.ofMillis s.resetTimeoutMs)⟩
  elsewhere hs := absurd rfl hs

theorem slotsCounted_ofSettings (name : String) (s : BreakerSettings) :
    SlotsCounted [] (ofSettings name s) fun _ => none where
  window := rfl
  known _ _ _ hc := by cases hc
  budget_pos := setProbeBudget_pos _ s.halfOpenRequests
  mem_iff hs := by cases hs
  count hs := by cases hs

/-! ### Budgets that nobody sets -/

/-- Whether the budget is set. -/
def Moment.setsBudget (m : Moment) : Bool :=
  match m.act with
  | .budget _ => true
  | _ => false

theorem Next.probeBudget (hn : Next live m live') (hb : m.setsBudget = false) :
    m.after.probeBudget = m.before.probeBudget := by
  cases hn with
  | admission free entered =>
    rcases admitted_cases entered with ⟨-, rfl, -⟩ | ⟨-, -, rfl, -⟩ | ⟨-, -, rfl, -⟩ <;> rfl
  | refusal entered => rfl
  | outcome b now succeeded inFlight => exact (settle_frame b now succeeded).2.2
  | @loss c permit b now inFlight =>
    obtain ⟨n, he⟩ := release_frame b permit
    simp [Moment.ofLoss, he]
  | reset b now => simp [reset_fst]
  | trip b now => simp [trip_fst]
  | budget b now n => cases hb

theorem Course.probeBudget {b₀ : Breaker} (hc : Course b₀ h b live)
    (hb : ∀ m ∈ h, m.setsBudget = false) : b.probeBudget = b₀.probeBudget := by
  induction hc with
  | start => rfl
  | next course hn ih =>
    rw [hn.probeBudget (hb _ (by simp)), ih fun m hm => hb m (List.mem_append_left _ hm)]

/-- A course leaves a breaker the settings it has, but for a budget that is set. -/
theorem Course.has {b₀ : Breaker} {name : String} {s : BreakerSettings} (hc : Course b₀ h b live)
    (hs : b₀.Has name s) (hb : ∀ m ∈ h, m.setsBudget = false) : b.Has name s := by
  obtain ⟨hname, hmax, htimeout⟩ := hc.settings
  exact {
    name := hname.trans hs.name
    maxFailures := hmax.trans hs.maxFailures
    resetTimeout := (congrArg Duration.nanos htimeout).trans hs.resetTimeout
    probeBudget := (hc.probeBudget hb).trans hs.probeBudget }

namespace Session

variable {s : Session}

theorem setsBudget_of_mem_moments {now : Instant} {op : Op ε α}
    (hop : ∀ n, op ≠ .setProbeBudget n) (hm : m ∈ s.moments now op) : m.setsBudget = false := by
  have entry {b : Breaker} {c : Call} {rest : Breaker → Permit → List Moment}
      (hrest : ∀ b permit, ∀ m ∈ rest b permit, m.setsBudget = false)
      (hm : m ∈ Moment.ofEntry b now c rest) : m.setsBudget = false := by
    unfold Moment.ofEntry at hm
    split at hm
    next => obtain rfl := List.mem_singleton.1 hm; rfl
    next =>
      rcases List.mem_cons.1 hm with rfl | hm
      · rfl
      · exact hrest _ _ m hm
  have lost {id : String} (hm : m ∈ s.losses now id) : m.setsBudget = false := by
    obtain ⟨permit, rfl⟩ := mem_losses s now hm
    rfl
  cases op with
  | call outcome => exact entry (by simp [Moment.ofOutcome, Moment.setsBudget]) hm
  | crash => exact entry (by simp [Moment.ofLoss, Moment.setsBudget]) hm
  | start id =>
    rcases List.mem_append.1 hm with hm | hm
    · exact lost hm
    · exact entry (by simp) hm
  | finish id outcome =>
    simp only [moments] at hm
    split at hm
    next => cases hm
    next => obtain rfl := List.mem_singleton.1 hm; rfl
  | abandon id => exact lost hm
  | setProbeBudget n => exact absurd rfl (hop n)
  | reset => obtain rfl := List.mem_singleton.1 hm; rfl
  | trip => obtain rfl := List.mem_singleton.1 hm; rfl
  | _ => cases hm

theorem setsBudget_of_mem_history {ops : List (Instant × Op ε α)}
    (hops : ∀ o ∈ ops, ∀ n, o.2 ≠ .setProbeBudget n) :
    ∀ m ∈ s.history ops, m.setsBudget = false := by
  induction ops generalizing s with
  | nil =>
    intro m hm
    cases hm
  | cons o ops ih =>
    obtain ⟨ho, hops⟩ := List.forall_mem_cons.1 hops
    intro m hm
    rcases List.mem_append.1 hm with hm | hm
    · exact setsBudget_of_mem_moments ho hm
    · exact ih hops m hm

/-! ### Calls started at once -/

/-- Calls started one after the other, each under a name of its own. -/
def starts (calls : List (Instant × String)) : List (Instant × Op ε α) :=
  calls.map fun c => (c.1, .start c.2)

/-- The replies to so many calls of which only the first are let in. -/
def firstLetIn (free calls : Nat) : List (Reply ε α) :=
  .replicate (min free calls) .running ++
    .replicate (calls - free) (.result (.error (.refused .probesUsed)))

theorem firstLetIn_succ_succ (free calls : Nat) :
    (firstLetIn (free + 1) (calls + 1) : List (Reply ε α)) = .running :: firstLetIn free calls := by
  rw [firstLetIn, firstLetIn, Nat.succ_min_succ, Nat.add_sub_add_right, List.replicate_succ]
  rfl

theorem firstLetIn_zero_succ (calls : Nat) :
    (firstLetIn 0 (calls + 1) : List (Reply ε α)) =
      .result (.error (.refused .probesUsed)) :: firstLetIn 0 calls := by
  simp [firstLetIn, List.replicate_succ]

/-- Calls under names that are not in flight. -/
structure Apart (s : Session) (calls : List (Instant × String)) : Prop where
  nodup : (calls.map (·.2)).Nodup
  free : ∀ c ∈ calls, s.live.get? c.2 = none

theorem Apart.tail {c : Instant × String} {calls : List (Instant × String)} {s' : Session}
    {permit : Permit} (ha : s.Apart (c :: calls)) (hl : s'.live = s.live.insert c.2 permit) :
    s'.Apart calls := by
  obtain ⟨hc, hn⟩ := List.nodup_cons.1 (List.map_cons ▸ ha.nodup)
  refine ⟨hn, fun c' hc' => ?_⟩
  have hne : c'.2 ≠ c.2 := fun he => hc (he ▸ List.mem_map_of_mem hc')
  rw [hl, NameMap.get?_insert_of_ne hne]
  exact ha.free c' (List.mem_cons_of_mem _ hc')

/-- A call that is let in under a name that is not in flight. -/
theorem start_of_admitted {now : Instant} {id : String} {permit : Permit}
    {change : Option Change} (hl : s.live.get? id = none)
    (he : s.breaker.enter now = .admitted b permit change) :
    let a : Answer ε α := s.step now (.start id)
    a.reply = .running ∧ a.session.breaker = b ∧ a.session.live = s.live.insert id permit := by
  simp [step, enter, abandon_of_none hl, he]

theorem start_of_refused {now : Instant} {id : String} {why : Refusal}
    (hl : s.live.get? id = none) (he : s.breaker.enter now = .refused why) :
    (s.step now (.start id) : Answer ε α) = s.refuse now why := by
  simp [step, enter, abandon_of_none hl, he]

/-- A half-open breaker lets in as many of them as it has slots left. -/
theorem replies_of_halfOpen {calls : List (Instant × String)} (hs : s.breaker.state = .halfOpen)
    (ha : s.Apart calls) :
    (s.answers (starts calls : List (Instant × Op ε α))).map (·.reply) =
      firstLetIn (s.breaker.probeBudget.toNat - s.breaker.probes) calls.length := by
  induction calls generalizing s with
  | nil => simp [starts, answers, firstLetIn]
  | cons c calls ih =>
    have hl : s.live.get? c.2 = none := ha.free c List.mem_cons_self
    rw [starts, List.map_cons, answers, List.map_cons, List.length_cons]
    rcases Nat.lt_or_ge s.breaker.probes s.breaker.probeBudget.toNat with hlt | hle
    · obtain ⟨hr, hb, hlive⟩ :=
        start_of_admitted (ε := ε) (α := α) hl (enter_of_probes_lt hs hlt c.1)
      obtain ⟨k, hk⟩ := Nat.exists_eq_add_one_of_ne_zero (Nat.sub_ne_zero_of_lt hlt)
      rw [hr, hk, firstLetIn_succ_succ]
      have hrest := ih (by rw [hb]; exact hs) (ha.tail hlive)
      rw [hb] at hrest
      refine congrArg _ (hrest.trans ?_)
      congr 1
      show s.breaker.probeBudget.toNat - (s.breaker.probes + 1) = k
      omega
    · rw [start_of_refused hl (enter_of_le_probes hs hle c.1), Nat.sub_eq_zero_of_le hle,
        firstLetIn_zero_succ]
      have hrest := ih hs ⟨(List.nodup_cons.1 (List.map_cons ▸ ha.nodup)).2,
        fun c' hc' => ha.free c' (List.mem_cons_of_mem _ hc')⟩
      rw [Nat.sub_eq_zero_of_le hle] at hrest
      exact congrArg _ hrest

/-- A breaker that has cooled down lets in as many of them as its budget. -/
theorem replies_of_cooled {calls : List (Instant × String)} (hs : s.breaker.state = .opened)
    (hc : ∀ c ∈ calls.head?, s.breaker.cooled c.1 = true)
    (hb : 0 < s.breaker.probeBudget.toNat) (ha : s.Apart calls) :
    (s.answers (starts calls : List (Instant × Op ε α))).map (·.reply) =
      firstLetIn s.breaker.probeBudget.toNat calls.length := by
  cases calls with
  | nil => simp [starts, answers, firstLetIn]
  | cons c calls =>
    have hl : s.live.get? c.2 = none := ha.free c List.mem_cons_self
    obtain ⟨hr, hbreaker, hlive⟩ :=
      start_of_admitted (ε := ε) (α := α) hl (enter_of_cooled hs (hc c rfl))
    have hrest := replies_of_halfOpen (ε := ε) (α := α) (by rw [hbreaker]) (ha.tail hlive)
    rw [hbreaker] at hrest
    obtain ⟨k, hk⟩ := Nat.exists_eq_add_one_of_ne_zero hb.ne'
    rw [starts, List.map_cons, answers, List.map_cons, List.length_cons, hr, hk,
      firstLetIn_succ_succ]
    refine congrArg _ (hrest.trans ?_)
    congr 1
    show s.breaker.probeBudget.toNat - 1 = k
    omega

end Session

end Breaker

/-! ### Registries -/

namespace Registry

open Breaker

variable {ε α : Type}

theorem named_ofConfig (c : Config) : (ofConfig c).Named := by
  intro name s hs
  cases hs

/-- Whoever asks for a breaker gets the one built for the name, after its share of what was done. -/
theorem current_ofConfig (c : Config) (uses : List (Instant × Use ε α)) (name : String) :
    ((ofConfig c).run uses).1.current name =
      ((Session.ofSettings name (c.breaker name)).run (share name uses)).1 := by
  rw [current, (run_absent (named_ofConfig c) rfl uses).1]
  cases hc : created name uses with
  | true => rfl
  | false =>
    simp only [Bool.false_eq_true, if_false, Option.getD_none, fresh, settings_run,
      share_eq_nil hc]
    rfl

/-- What is done to a breaker is done by a use of the registry. -/
theorem mem_share {name : String} {uses : List (Instant × Use ε α)} {o : Instant × Op ε α}
    (ho : o ∈ share name uses) :
    (o.1, Use.operate name o.2) ∈ uses ∨ (o.2 = .reset ∧ (o.1, Use.resetAll) ∈ uses) := by
  obtain ⟨u, hdropped, ho⟩ := List.mem_filterMap.1 ho
  have hu : u ∈ uses := (List.dropWhile_suffix _).subset hdropped
  obtain ⟨now, use⟩ := u
  cases use with
  | operate n op =>
    by_cases hn : n = name
    · subst hn
      simp only [Use.own?, if_true, Option.map_some, Option.some_inj] at ho
      subst ho
      exact .inl hu
    · simp [Use.own?, hn] at ho
  | resetAll =>
    simp only [Use.own?, Option.map_some, Option.some_inj] at ho
    subst ho
    exact .inr ⟨rfl, hu⟩
  | _ => cases ho

end Registry

/-! ### Settings in force -/

namespace Config

open Breaker Retry

/-- Settings hold for the breakers and the plans that are made with them. -/
structure InForce (ε α : Type) (c : Config) : Prop where
  /-- A breaker that is built for a name has the settings of the name. -/
  built : ∀ name, (Breaker.ofSettings name (c.breaker name)).Has name (c.breaker name)
  /-- Who asks a registry for one first gets it as it is built, whatever was done before. -/
  first : ∀ (uses : List (Instant × Registry.Use ε α)) now name,
    Registry.created name uses = false →
      (((Registry.ofConfig c).run uses).1.obtain now name).2.1 =
        Session.ofSettings name (c.breaker name)
  /-- Others get it after what was done to it, -/
  later : ∀ (uses : List (Instant × Registry.Use ε α)) now name,
    (((Registry.ofConfig c).run uses).1.obtain now name).2.1 =
      ((Session.ofSettings name (c.breaker name)).run (Registry.share name uses)).1
  /-- with the same settings, unless someone has set the budget. -/
  kept : ∀ (uses : List (Instant × Registry.Use ε α)) now name,
    (∀ u ∈ uses, ∀ n, u.2 ≠ .operate name (.setProbeBudget n)) →
      (((Registry.ofConfig c).run uses).1.obtain now name).2.1.breaker.Has name (c.breaker name)
  /-- It opens at the failure that makes the number of failures in a row the one that is set. -/
  opened_iff : ∀ name (ops : List (Instant × Op ε α)) h m,
    h ++ [m] <+: (Session.ofSettings name (c.breaker name)).history ops →
      m.before.state = .closed → m.act ≠ .trip →
        (m.after.state = .opened ↔
          m.fails ∧ failuresInRow (h ++ [m]) = (c.breaker name).maxFailures.toNat)
  /-- Of calls that are started once it has cooled down the number that is set is let in. -/
  probes : ∀ name (ops : List (Instant × Op ε α)) (calls : List (Instant × String)),
    (∀ o ∈ ops, ∀ n, o.2 ≠ .setProbeBudget n) →
      let s := ((Session.ofSettings name (c.breaker name)).run ops).1
      s.breaker.state = .opened → (∀ call ∈ calls.head?, s.breaker.cooled call.1 = true) →
        s.Apart calls →
          (s.answers (Session.starts calls : List (Instant × Op ε α))).map (·.reply) =
            Session.firstLetIn (c.breaker name).halfOpenRequests.toNat calls.length
  /-- Whatever else is done, it refuses a probe just if that number is in flight. -/
  refused_iff : ∀ name (ops : List (Instant × Op ε α)) h m,
    h ++ [m] <+: (Session.ofSettings name (c.breaker name)).history ops →
      (∀ m' ∈ h, m'.setsBudget = false) → windows h < UInt64.size →
        m.asks → m.before.state = .halfOpen →
          (m.act = .refusal .probesUsed ↔
            (c.breaker name).halfOpenRequests.toNat ≤ (probesInFlight h).card)
  /-- A plan has the number of attempts that is set, and its delays are in milliseconds. -/
  plan : (Plan.ofSettings c.retry).attempts = c.retry.maxAttempts.toNat ∧
    (Plan.ofSettings c.retry).initial.nanos = c.retry.initialDelayMs.toNat * 1000000 ∧
    (Plan.ofSettings c.retry).cap.nanos = c.retry.maxDelayMs.toNat * 1000000 ∧
    (Plan.ofSettings c.retry).multiplier = c.retry.multiplier ∧
    (Plan.ofSettings c.retry).factor = c.retry.randomizeFactor
  /-- No run makes more attempts, -/
  attempts_le : ∀ pick cls (op : Operation ε α) scope now,
    ((Plan.ofSettings c.retry).run pick cls op scope now).count ≤ c.retry.maxAttempts.toNat
  /-- and one whose attempts all fail, each with an error worth another, makes them all. -/
  attempts_eq : ∀ pick cls (op : Operation ε α) scope now,
    (∀ k < c.retry.maxAttempts.toNat,
      ((Plan.ofSettings c.retry).series pick cls op scope now).LiveAt k ∧
        ((Plan.ofSettings c.retry).series pick cls op scope now).Retried cls k) →
      ((Plan.ofSettings c.retry).run pick cls op scope now).count = c.retry.maxAttempts.toNat ∧
        ∃ e, ((Plan.ofSettings c.retry).run pick cls op scope now).result =
          .error (.exhausted c.retry.maxAttempts.toNat e)

theorem Valid.breaker {c : Config} (h : c.Valid) (name : String) : (c.breaker name).Valid := by
  unfold Config.breaker
  cases hs : c.breakers.get? name with
  | none => exact h.defaults
  | some s => exact h.breakers name s hs

theorem valid_of_parse {content : String} {c : Config} (h : parse content = .ok c) : c.Valid := by
  obtain ⟨tree, -, -, hv⟩ := exists_of_parse h
  exact (violations_eq_nil_iff c).1 hv

theorem attempts_ofSettings {s : RetrySettings} (h : 0 < s.maxAttempts) :
    (Plan.ofSettings s).attempts = s.maxAttempts.toNat :=
  Nat.max_eq_right (UInt32.lt_iff_toNat_lt.1 h)

/-- The settings that a text gives are in force, whatever is done and in whatever order. -/
theorem inForce_of_parse (ε α : Type) {content : String} {c : Config}
    (h : parse content = .ok c) : c.InForce ε α := by
  have hv := valid_of_parse h
  have built (name : String) := has_ofSettings (hv.breaker name) name
  have attempts := attempts_ofSettings hv.maxAttempts_pos
  -- a use of the registry that sets no budget of a breaker does not do so in its share
  have unset {name : String} {uses : List (Instant × Registry.Use ε α)}
      (hu : ∀ u ∈ uses, ∀ n, u.2 ≠ .operate name (.setProbeBudget n)) :
      ∀ o ∈ Registry.share name uses, ∀ n, o.2 ≠ .setProbeBudget n := by
    intro o ho n he
    rcases Registry.mem_share ho with hm | ⟨hr, -⟩
    · exact hu _ hm n (by rw [he])
    · cases hr.symm.trans he
  have kept (name : String) {ops : List (Instant × Op ε α)}
      (hops : ∀ o ∈ ops, ∀ n, o.2 ≠ .setProbeBudget n) :
      ((Session.ofSettings name (c.breaker name)).run ops).1.breaker.Has name (c.breaker name) :=
    (Session.course_of_empty rfl ops).has (built name) (Session.setsBudget_of_mem_history hops)
  constructor
  case built => exact built
  case first =>
    intro uses now name hc
    rw [Registry.obtain_snd, Registry.current_ofConfig, Registry.share_eq_nil hc]
    rfl
  case later =>
    intro uses now name
    rw [Registry.obtain_snd, Registry.current_ofConfig]
  case kept =>
    intro uses now name hu
    rw [Registry.obtain_snd, Registry.current_ofConfig]
    exact kept name (unset hu)
  case opened_iff =>
    intro name ops h m hp hs ht
    obtain ⟨live, live', hc, hn⟩ := Session.next_upTo_of_empty rfl hp
    have hi := hc.failuresCounted_of (failuresCounted_ofSettings name (c.breaker name))
    rw [hi.opened_iff hn hs ht, hc.settings.2.1]
    exact (built name).maxFailures ▸ Iff.rfl
  case probes =>
    intro name ops calls hops s hs hc ha
    have hb := (kept name hops).probeBudget
    have hpos : 0 < s.breaker.probeBudget.toNat := by
      rw [hb]
      exact UInt32.lt_iff_toNat_lt.1 (hv.breaker name).halfOpenRequests_pos
    rw [Session.replies_of_cooled hs hc hpos ha, hb]
  case refused_iff =>
    intro name ops h m hp hb few ha hs
    obtain ⟨live, live', hc, hn⟩ := Session.next_upTo_of_empty rfl hp
    have hi := hc.slotsCounted_of (slotsCounted_ofSettings name (c.breaker name)) few
    rw [hi.refused_iff hn ha hs, (hc.has (built name) hb).probeBudget]
  case plan => exact ⟨attempts, rfl, rfl, rfl, rfl⟩
  case attempts_le =>
    intro pick cls op scope now
    rw [← attempts]
    exact Plan.count_le_attempts (s := Plan.series _ pick cls op scope now) rfl
      (Plan.run_loop _ pick cls op scope now)
  case attempts_eq =>
    intro pick cls op scope now hk
    rw [← attempts] at hk ⊢
    obtain ⟨n, hn⟩ := Plan.settles (s := Plan.series _ pick cls op scope now) rfl
      (Plan.run_loop _ pick cls op scope now) fun k hlt _ => (hk k hlt).1
    have hlast := Nat.sub_one_lt_of_lt (Plan.attempts_pos (Plan.ofSettings c.retry))
    obtain ⟨e, he, -⟩ := (hk _ hlast).2
    obtain ⟨count, result⟩ := Plan.exhausted_of_settled rfl hn (fun i hi => (hk i hi).2) he
    exact ⟨count, e, result⟩

/-- The longest cool-down that a text can hold, and the lowest numbers that are valid. -/
def slowToReset : Config where
  retry := { maxAttempts := 1 }
  breakers := .ofList [("payment", ⟨1, 0x7FFFFFFFFFFFFFFF, 1⟩)]

def slowToResetText : String :=
  "[retry]\nmax_attempts = 1\n" ++
    "[breakers.payment]\nmax_failures = 1\nreset_timeout_ms = 9223372036854775807\n"

theorem inForce_of_parse_slow_to_reset :
    parse slowToResetText = .ok slowToReset ∧ slowToReset.InForce Unit Unit := by
  have hparse : parse slowToResetText = .ok slowToReset := by decide +kernel
  exact ⟨hparse, inForce_of_parse Unit Unit hparse⟩

end Config

end CallGuard
