import CallGuard.Journal.Counter
import CallGuard.Journal.Event
import Mathlib.Data.List.Basic

/-! Journals about one breaker. Whatever else is in them, their counters of changes and their
log events of changes are views of the changes they tell of: `count_transition` and
`events_changed`. -/

namespace CallGuard

/-- The breaker that a signal is about, if it is about one. -/
def Signal.breaker? : Signal → Option String
  | .registered breaker _ | .resetByHand breaker | .trippedByHand breaker | .changed breaker _
  | .refused breaker _ => some breaker
  | _ => none

/-- The log event of a change. -/
def LogEvent.ofChange (breaker : String) (c : Breaker.Change) : LogEvent where
  level := if c.target = .opened then .warn else .info
  target := "agent_resilience::resilience::circuit_breaker"
  message := "Circuit breaker state changed"
  fields := [("breaker", .bare breaker), ("from", .bare c.source.text), ("to", .bare c.target.text)]

theorem Breaker.State.text_injective : Function.Injective Breaker.State.text := by
  intro s t h
  cases s <;> cases t <;> simp [State.text] at h ⊢

theorem Counter.transition_inj {breaker breaker' : String} {c c' : Breaker.Change} :
    transition breaker c = transition breaker' c' ↔ breaker = breaker' ∧ c = c' := by
  cases c
  cases c'
  simp [transition, Breaker.State.text_injective.eq_iff]

/-- A counter that is labelled with a breaker counts signals about it. -/
theorem Signal.breaker?_of_counter? {s : Signal} {c : Counter} {name : String}
    (hc : s.counter? = some c) (hl : ("breaker", name) ∈ c.labels) : s.breaker? = some name := by
  cases s with
  | changed breaker change =>
    cases hc
    simpa [Counter.transition, breaker?, eq_comm] using hl
  | refused breaker why =>
    cases hc
    simpa [Counter.rejection, breaker?, eq_comm] using hl
  | succeeded => cases hc; simp [Counter.attempt] at hl
  | failed => cases hc; simp [Counter.attempt] at hl
  | exhausted n error => cases hc; simp [Counter.exhaustion] at hl
  | _ => cases hc

namespace Journal

variable {j j' : Journal} {breaker : String} {now : Instant}

/-- Whether a journal is about one breaker only. -/
def Of (j : Journal) (breaker : String) : Prop := ∀ e ∈ j, e.signal.breaker? = some breaker

theorem Of.nil (breaker : String) : Of [] breaker := by simp [Of]

theorem Of.append (hj : j.Of breaker) (hj' : j'.Of breaker) : Of (j ++ j') breaker := by
  intro e he
  rcases List.mem_append.1 he with he | he
  · exact hj e he
  · exact hj' e he

theorem Of.stamp (now : Instant) {s : Signal} (hs : s.breaker? = some breaker) :
    Of (stamp now [s]) breaker := by
  simpa [Of, Journal.stamp] using hs

theorem Of.ofChange (now : Instant) (breaker : String) (change : Option Breaker.Change) :
    Of (ofChange now breaker change) breaker := by
  cases change with
  | none => exact .nil breaker
  | some c => exact .stamp now rfl

@[simp] theorem changes_append (j j' : Journal) : changes (j ++ j') = j.changes ++ j'.changes :=
  List.filterMap_append

@[simp] theorem changes_nil : changes [] = [] := rfl

@[simp] theorem changes_stamp (now : Instant) (s : Signal) :
    (stamp now [s]).changes = s.change?.toList := by
  cases hc : s.change? <;> simp [changes, stamp, hc]

@[simp] theorem changes_ofChange (now : Instant) (breaker : String)
    (change : Option Breaker.Change) : (ofChange now breaker change).changes = change.toList := by
  cases change <;> rfl

@[simp] theorem count_append (j j' : Journal) (c : Counter) :
    count (j ++ j') c = j.count c + j'.count c := by
  simp [count, List.filterMap_append, List.count_append]

/-- A signal counts its own counter up, and no other. -/
theorem count_stamp (now : Instant) (s : Signal) (c : Counter) :
    (stamp now [s]).count c = if s.counter? = some c then 1 else 0 := by
  rw [count, stamp, List.map_singleton, List.filterMap_cons, List.filterMap_nil]
  cases s.counter? with
  | none => rfl
  | some c' => simp [List.count_singleton]

/-- The counters of changes tell how often each was made. -/
theorem count_transition (hj : j.Of breaker) (c : Breaker.Change) :
    j.count (.transition breaker c) = j.changes.count c := by
  simp only [count, changes, List.count, List.countP_filterMap]
  refine List.countP_congr fun e he => ?_
  have hb := hj e he
  cases hs : e.signal with
  | changed breaker' c' =>
    rw [hs] at hb
    cases hb
    simp [Signal.counter?, Signal.change?, Counter.transition_inj]
  | _ =>
    simp [Signal.counter?, Signal.change?, Counter.transition, Counter.rejection, Counter.attempt,
      Counter.exhaustion]

/-- Each change has one log event of its own, and no other event looks like one. -/
theorem events_changed (hj : j.Of breaker) :
    j.events.filter (·.message = "Circuit breaker state changed") =
      j.changes.map (LogEvent.ofChange breaker) := by
  rw [events, changes, List.filter_filterMap, List.map_filterMap]
  refine List.filterMap_congr fun e he => ?_
  have hb := hj e he
  cases hs : e.signal with
  | changed breaker' c' =>
    rw [hs] at hb
    cases hb
    simp [Signal.event?, Signal.change?, LogEvent.ofChange, Signal.event?.circuit]
  | _ => simp [Signal.event?, Signal.change?]

end Journal

end CallGuard
