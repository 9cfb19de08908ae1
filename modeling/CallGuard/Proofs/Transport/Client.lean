import CallGuard.Proofs.Guard
import CallGuard.Proofs.Registry
import CallGuard.Proofs.Transport.Exchange

/-! Messages that a client sends one after the other. A message with a bad address is nobody's
business. Any other is one call of the breaker of its dependency and nothing to the other
breakers: if the call is refused there is no exchange, and if not the exchanges end with the
first final answer or the last of the plan, and the breaker records one outcome, however many
there were (`accounted`). So each breaker is as if it had been called by itself (`current_after`). -/

namespace CallGuard

open Breaker Transport

/-- A message to be sent at an instant, in a scope, with the jitter of its waits. -/
structure Message where
  pick : Nat → Backoff.Sampler
  scope : Scope
  now : Instant
  address : String
  body : Json

namespace Target

/-- Whether an address leads nowhere: it cannot be read, or has no host, or no port. -/
def Nowhere (address : String) : Prop :=
  (∃ e, Net.Url.read address = .error e) ∨ Net.Url.read address = .ok .hostless ∨
    ∃ url, Net.Url.read address = .ok (.hosted url) ∧ url.effectivePort? = none

theorem read_of_nowhere {address : String} (h : Nowhere address) :
    ∃ reason, read address = .error (.invalidUrl address reason) := by
  rcases h with ⟨e, he⟩ | he | ⟨url, he, hp⟩
  · exact ⟨_, by rw [read, he]⟩
  · exact ⟨_, by rw [read, he]⟩
  · exact ⟨"missing port", by simp only [read, he, hp]⟩

end Target

namespace Registry

variable {r : Registry} {name other : String} {now : Instant}

theorem settings_obtain (r : Registry) (now : Instant) (name other : String) :
    (r.obtain now name).1.settings other = r.settings other := by
  cases h : r.get? name <;> simp [obtain, h, put, settings]

theorem current_put_self (r : Registry) (name : String) (s : Session) :
    (r.put name s).current name = s := by
  rw [current, get?_put_self, Option.getD_some]

/-- What is done to one breaker changes no other. -/
theorem current_put_of_ne (h : other ≠ name) (r : Registry) (now : Instant) (s : Session) :
    ((r.obtain now name).1.put name s).current other = r.current other := by
  have hs : ((r.obtain now name).1.put name s).settings other = r.settings other :=
    settings_obtain r now name other
  rw [current, get?_put_of_ne h, get?_obtain_of_ne h, current, fresh, fresh, hs]

/-- A breaker that refuses a call is there already. -/
theorem get?_of_refused {why : Refusal}
    (he : (r.current name).breaker.enter now = .refused why) :
    r.get? name = some (r.current name) := by
  cases hs : r.get? name with
  | some s => rw [current, hs, Option.getD_some]
  | none =>
    have hc : (r.current name).breaker.state = .closed := by
      rw [current, hs]
      rfl
    cases (enter_of_closed hc now).symm.trans he

end Registry

namespace Client

/-- Sends a message. -/
def post (network : Network) (c : Client) (m : Message) : Sent :=
  c.send network m.pick m.scope m.now m.address m.body

/-- A client after messages. -/
def after (network : Network) (c : Client) : List Message → Client
  | [] => c
  | m :: ms => after network (c.post network m).client ms

/-- A message to a target as a call of the breaker. -/
def guarded (network : Network) (c : Client) (target : Target) (m : Message) :
    Guarded TransportError Json :=
  (c.registry.current target.dependency).guard
    (c.plan.run m.pick classifier (exchange network c.exchanges target m.body)) m.scope m.now

/-- What a message does to the breaker of a name. -/
def calls (network : Network) (c : Client) (name : String) (m : Message) :
    List (Instant × Op (RetryError TransportError) Json) :=
  match Target.read m.address with
  | .error _ => []
  | .ok target =>
    if target.dependency = name then (c.guarded network target m).calls m.now else []

/-- What messages do to the breaker of a name. -/
def share (network : Network) (c : Client) (name : String) :
    List Message → List (Instant × Op (RetryError TransportError) Json)
  | [] => []
  | m :: ms => c.calls network name m ++ share network (c.post network m).client name ms

variable {network : Network} {c : Client} {m : Message} {target : Target} {name : String}
  {b : Breaker} {permit : Permit} {change : Option Change}

/-! ### One message -/

theorem post_of_error {e : TransportError} (h : Target.read m.address = .error e) :
    c.post network m = ⟨c, .error (.failed (.terminal e)), m.now, []⟩ := by
  rw [post, send, h]

theorem post_of_ok (network : Network) (c : Client) (h : Target.read m.address = .ok target) :
    let g := c.guarded network target m
    (c.post network m).client =
        { c with
          registry := (c.registry.obtain m.now target.dependency).1.put target.dependency g.session
          exchanges := c.exchanges + g.run.elim 0 Retry.Run.count } ∧
      (c.post network m).result = g.result ∧
      (c.post network m).now = g.run.elim m.now (·.now) := by
  have hs := congrArg Prod.fst (Registry.obtain_snd c.registry m.now target.dependency)
  simp only at hs
  simp only [post, send, h, guarded, ← hs]
  exact ⟨trivial, trivial, trivial⟩

/-- A client with no message under way: no call of a breaker is in flight. -/
def Idle (c : Client) : Prop := ∀ name, (c.registry.current name).live = .empty

theorem calls_of_error {e : TransportError} (h : Target.read m.address = .error e)
    (name : String) : c.calls network name m = [] := by
  rw [calls, h]

theorem calls_of_dependency (h : Target.read m.address = .ok target) :
    c.calls network target.dependency m = (c.guarded network target m).calls m.now := by
  simp only [calls, h, if_true]

theorem calls_of_ne (h : Target.read m.address = .ok target) (hn : name ≠ target.dependency) :
    c.calls network name m = [] := by
  simp only [calls, h, if_neg hn.symm]

/-- To each breaker a message is what it does to it, and nothing else. -/
theorem current_post (idle : c.Idle) (m : Message) (name : String) :
    (c.post network m).client.registry.current name =
      ((c.registry.current name).run (c.calls network name m)).1 := by
  cases h : Target.read m.address with
  | error e =>
    rw [post_of_error h, calls_of_error h]
    rfl
  | ok target =>
    rw [(post_of_ok network c h).1]
    by_cases hn : name = target.dependency
    · subst hn
      rw [Registry.current_put_self, calls_of_dependency h, guarded,
        Session.run_calls (idle target.dependency)]
    · rw [Registry.current_put_of_ne hn, calls_of_ne h hn]
      rfl

/-- It makes the breaker that it calls, if there is none. -/
theorem isSome_post (network : Network) (c : Client) (m : Message) (name : String) :
    ((c.post network m).client.registry.get? name).isSome = true ↔
      (c.registry.get? name).isSome = true ∨ c.calls network name m ≠ [] := by
  cases h : Target.read m.address with
  | error e => simp [post_of_error h, calls_of_error h]
  | ok target =>
    rw [(post_of_ok network c h).1]
    by_cases hn : name = target.dependency
    · subst hn
      simp [calls_of_dependency h, Guarded.calls]
    · simp [Registry.get?_put_of_ne hn, Registry.get?_obtain_of_ne hn, calls_of_ne h hn]

theorem plan_post (network : Network) (c : Client) (m : Message) :
    (c.post network m).client.plan = c.plan := by
  cases h : Target.read m.address with
  | error e => rw [post_of_error h]
  | ok target => rw [(post_of_ok network c h).1]

theorem Idle.post (idle : c.Idle) (m : Message) : (c.post network m).client.Idle := by
  intro name
  cases h : Target.read m.address with
  | error e =>
    rw [post_of_error h]
    exact idle name
  | ok target =>
    rw [(post_of_ok network c h).1]
    by_cases hn : name = target.dependency
    · subst hn
      rw [Registry.current_put_self, guarded, Session.guard_live]
      exact idle target.dependency
    · rw [Registry.current_put_of_ne hn]
      exact idle name

/-- For a message that is refused nothing is done. -/
theorem post_of_refused {why : Refusal} (h : Target.read m.address = .ok target)
    (he : (c.registry.current target.dependency).breaker.enter m.now = .refused why) :
    (c.post network m).result = .error (.refused why) ∧
      (c.post network m).client.exchanges = c.exchanges ∧
      ∀ name, (c.post network m).client.registry.get? name = c.registry.get? name := by
  obtain ⟨hs, hresult, hrun⟩ := Session.guard_of_refused
    (c.plan.run m.pick classifier (exchange network c.exchanges target m.body)) m.scope he
  obtain ⟨hc, hr, -⟩ := post_of_ok network c h
  rw [hc, hr]
  refine ⟨hresult, ?_, ?_⟩
  · rw [guarded, hrun]
    rfl
  · intro name
    by_cases hn : name = target.dependency
    · subst hn
      rw [Registry.get?_put_self, guarded, hs, Registry.get?_of_refused he]
    · rw [Registry.get?_put_of_ne hn, Registry.get?_obtain_of_ne hn]

/-- For one that is let in, the exchanges of a run of the plan are made. -/
theorem post_of_admitted (network : Network) (h : Target.read m.address = .ok target)
    (he : (c.registry.current target.dependency).breaker.enter m.now =
      .admitted b permit change) :
    let r := c.plan.run m.pick classifier (exchange network c.exchanges target m.body) m.scope m.now
    (c.post network m).client.exchanges = c.exchanges + r.count ∧
      (c.post network m).result = r.result.mapError .failed ∧
      (c.post network m).now = r.now := by
  obtain ⟨-, hresult, hrun⟩ := Session.guard_of_admitted
    (c.plan.run m.pick classifier (exchange network c.exchanges target m.body)) m.scope he
  obtain ⟨hc, hr, hnow⟩ := post_of_ok network c h
  rw [hc, hr, hnow, guarded, hrun]
  exact ⟨rfl, hresult, rfl⟩

/-! ### Any number of messages -/

theorem idle_after (idle : c.Idle) (ms : List Message) : (c.after network ms).Idle := by
  induction ms generalizing c with
  | nil => exact idle
  | cons m ms ih => exact ih (idle.post m)

theorem plan_after (network : Network) (c : Client) (ms : List Message) :
    (c.after network ms).plan = c.plan := by
  induction ms generalizing c with
  | nil => rfl
  | cons m ms ih => exact (ih _).trans (plan_post network c m)

/-- Each breaker is as if it had been called by itself. -/
theorem current_after (network : Network) (idle : c.Idle) (ms : List Message) (name : String) :
    (c.after network ms).registry.current name =
      ((c.registry.current name).run (c.share network name ms)).1 := by
  induction ms generalizing c with
  | nil => rfl
  | cons m ms ih =>
    rw [after, ih (idle.post m), current_post idle, share, Session.run_append]

theorem isSome_after (network : Network) (c : Client) (ms : List Message) (name : String) :
    ((c.after network ms).registry.get? name).isSome = true ↔
      (c.registry.get? name).isSome = true ∨ c.share network name ms ≠ [] := by
  induction ms generalizing c with
  | nil => simp [after, share]
  | cons m ms ih =>
    rw [after, ih, isSome_post, share, ne_eq, ne_eq, ne_eq, List.append_eq_nil_iff, or_assoc,
      not_and_or]

/-! ### What becomes of messages -/

/-- What becomes of messages that a client of a configuration sends one after the other. -/
structure Accounted (config : Config) (network : Network) (ms : List Message) : Prop where
  /-- A message to nowhere changes nothing, and its sender is told why. -/
  nowhere : ∀ past m rest, ms = past ++ m :: rest → Target.Nowhere m.address →
    let c := (ofConfig config).after network past
    (c.post network m).client = c ∧
      ∃ reason, (c.post network m).result =
        .error (.failed (.terminal (.invalidUrl m.address reason)))
  /-- For one that its breaker refuses there is no exchange, and no breaker changes. -/
  refused : ∀ past m rest target why, ms = past ++ m :: rest →
    Target.read m.address = .ok target →
      let c := (ofConfig config).after network past
      (c.registry.current target.dependency).breaker.enter m.now = .refused why →
        (c.post network m).result = .error (.refused why) ∧
          (c.post network m).client.exchanges = c.exchanges ∧
          ∀ name, (c.post network m).client.registry.get? name = c.registry.get? name
  /-- For one that is let in the exchanges end with the first final answer, or the last of the
  plan, if the scope is not over by then; in no scope are there more. -/
  exchanged : ∀ past m rest target b permit change, ms = past ++ m :: rest →
    Target.read m.address = .ok target →
      let c := (ofConfig config).after network past
      (c.registry.current target.dependency).breaker.enter m.now = .admitted b permit change →
        ∃ count ≤ max 1 config.retry.maxAttempts.toNat,
          (c.post network m).client.exchanges = c.exchanges + count ∧
          (m.scope.error? (c.post network m).now = none →
            Reaches (fun i => (network (c.exchanges + i) target m.body).1) target.url.text
              (max 1 config.retry.maxAttempts.toNat) count (c.post network m).result)
  /-- Whatever their number, its breaker records one outcome when it is done. -/
  recorded : ∀ past m rest target b permit change, ms = past ++ m :: rest →
    Target.read m.address = .ok target →
      let c := (ofConfig config).after network past
      let s := c.registry.current target.dependency
      s.breaker.enter m.now = .admitted b permit change →
        s.history (c.calls network target.dependency m) =
          [⟨m.now, .admission (some "") permit, s.breaker, b⟩,
            .ofOutcome b (c.post network m).now (some "") (c.post network m).result.toBool]
  /-- Nothing else is done to any breaker. -/
  breakers : ∀ name,
    ((ofConfig config).after network ms).registry.get? name =
      if (ofConfig config).share network name ms = [] then none
      else some ((Session.ofSettings name ((ofConfig config).registry.settings name)).run
        ((ofConfig config).share network name ms)).1

theorem idle_ofConfig (config : Config) : (ofConfig config).Idle := fun _ => rfl

theorem toBool_mapError {ε ε' α : Type} (f : ε → ε') (x : Except ε α) :
    (x.mapError f).toBool = x.toBool := by
  cases x <;> rfl

theorem attempts_after (config : Config) (network : Network) (past : List Message) :
    ((ofConfig config).after network past).plan.attempts =
      max 1 config.retry.maxAttempts.toNat := by
  rw [plan_after]
  rfl

/-- Of all messages so much becomes, whatever the configuration and the network. -/
theorem accounted (config : Config) (network : Network) (ms : List Message) :
    Accounted config network ms := by
  have idle (past : List Message) : ((ofConfig config).after network past).Idle :=
    idle_after (idle_ofConfig config) past
  constructor
  case nowhere =>
    intro past m rest _ h c
    obtain ⟨reason, hr⟩ := Target.read_of_nowhere h
    rw [post_of_error hr]
    exact ⟨rfl, reason, rfl⟩
  case refused =>
    intro past m rest target why _ h c he
    exact post_of_refused h he
  case exchanged =>
    intro past m rest target b permit change _ h c he
    obtain ⟨hcount, hresult, hnow⟩ := post_of_admitted network h he
    rw [← attempts_after config network past, hresult, hnow]
    refine ⟨_, count_run_le .., hcount, ?_⟩
    intro live
    exact reaches_of_live live
  case recorded =>
    intro past m rest target b permit change _ h c s he
    obtain ⟨-, hresult, hnow⟩ := post_of_admitted network h he
    rw [calls_of_dependency h, hresult, hnow, toBool_mapError]
    exact Session.history_calls (idle past target.dependency) he
  case breakers =>
    intro name
    have hc := current_after network (idle_ofConfig config) ms name
    -- there is a breaker of the name just if a message went to it
    have hs := isSome_after network (ofConfig config) ms name
    cases h : ((ofConfig config).after network ms).registry.get? name with
    | none =>
      have hshare : (ofConfig config).share network name ms = [] := by
        rw [h] at hs
        by_contra hne
        cases hs.2 (.inr hne)
      rw [if_pos hshare]
    | some s =>
      rw [h] at hs
      have hne : (ofConfig config).share network name ms ≠ [] := by
        rcases hs.1 rfl with hmade | hne
        · cases hmade
        · exact hne
      rw [Registry.current, h, Option.getD_some] at hc
      rw [if_neg hne, hc]
      rfl

/-- A message that is answered at the second exchange, one that is not answered at all, one that
the breaker refuses after that, and one to nowhere. -/
theorem accounted_in_outage :
    let config : Config := { breakerDefaults := { maxFailures := 1 } }
    let network : Network := fun k _ _ =>
      (if k = 1 then .full 200 [] else .full 502 [], .ofNanos 5000)
    let message (now : Instant) (address : String) : Message :=
      ⟨fun _ => Backoff.Band.middle, ⟨none, none⟩, now, address, .null⟩
    let ms := [message 0 "agent://a:1", message 1000000000 "agent://a:1",
      message 2000000000 "agent://a:1", message 3000000000 "agent:a"]
    ms.inits.map (fun past => ((ofConfig config).after network past).exchanges) = [0, 2, 5, 5, 5] ∧
      (((ofConfig config).after network ms).registry.current "a:1").breaker.state = .opened ∧
      Accounted config network ms :=
  ⟨by decide +kernel, by decide +kernel, accounted _ _ _⟩

end Client

end CallGuard
