import CallGuard.Proofs.Breaker.History
import Mathlib.Data.Finset.Card

/-! The slots of the half-open state. The breaker only counts: a window begins with one
probe, a probe let in adds one, and one that ends without an outcome takes one off if its
permit names the window. Proved: as long as the windows have numbers, the count is the
number of probes of the present window in flight (`SlotsKept`), whatever calls of other
times end meanwhile. The invariant is that no permit in flight names a window yet to come;
an outcome needs no bookkeeping, for it ends the window. -/

namespace CallGuard.Breaker

namespace Moment

/-- Whether the half-open state is entered, with which a window begins. -/
def opensWindow (m : Moment) : Bool := m.before.state ≠ .halfOpen && m.after.state = .halfOpen

end Moment

/-- The number of windows begun so far. -/
def windows (h : List Moment) : Nat := h.countP Moment.opensWindow

/-- The probes in flight after one more moment. A window has none when it begins; a call
that is let in and leaves the breaker half open is one; a call that ends is one no longer. -/
def probesThen (calls : Finset Call) (m : Moment) : Finset Call :=
  let kept := if m.opensWindow then ∅ else calls
  match m.act with
  | .admission c _ => if m.after.state = .halfOpen then insert c kept else kept
  | .outcome c _ | .loss c _ => kept.erase c
  | _ => kept

/-- The calls in flight that were let in as probes of the latest window. -/
def probesInFlight (h : List Moment) : Finset Call := h.foldl probesThen ∅

variable {b : Breaker} {h : List Moment} {m : Moment} {live live' : Call → Option Permit}

@[simp] theorem probesInFlight_concat (h : List Moment) (m : Moment) :
    probesInFlight (h ++ [m]) = probesThen (probesInFlight h) m :=
  List.foldl_concat ..

theorem windows_concat (h : List Moment) (m : Moment) :
    windows (h ++ [m]) = windows h + if m.opensWindow then 1 else 0 := by
  simp [windows, List.countP_append, List.countP_singleton]

theorem windows_mono {h' : List Moment} (hp : h' <+: h) : windows h' ≤ windows h :=
  hp.sublist.countP_le

/-! ### The invariant -/

/-- The number of the next window, if there is one. -/
theorem toNat_next {w : UInt64} (room : w.toNat + 1 < UInt64.size) :
    (w + 1).toNat = w.toNat + 1 := by
  rw [UInt64.toNat_add]
  exact Nat.mod_eq_of_lt room

/-- No permit in flight names a window beyond a number. -/
def PermitsKnown (n : Nat) (live : Call → Option Permit) : Prop :=
  ∀ c permit w, live c = some permit → permit.window = some w → w.toNat ≤ n

namespace PermitsKnown

variable {n n' : Nat} {c : Call} {permit : Permit}

theorem insert (hk : PermitsKnown n live) (hn : n ≤ n')
    (hp : ∀ w, permit.window = some w → w.toNat ≤ n') :
    PermitsKnown n' (Function.update live c (some permit)) := by
  intro c' permit' w hl hw
  by_cases hc : c' = c
  · subst hc
    rw [Function.update_self] at hl
    cases hl
    exact hp w hw
  · rw [Function.update_of_ne hc] at hl
    exact (hk c' permit' w hl hw).trans hn

theorem erase (hk : PermitsKnown n live) (c : Call) :
    PermitsKnown n (Function.update live c none) := by
  intro c' permit' w hl hw
  by_cases hc : c' = c
  · subst hc
    simp at hl
  · rw [Function.update_of_ne hc] at hl
    exact hk c' permit' w hl hw

/-- No permit in flight names the next window. -/
theorem ne_next {w : UInt64} (hk : PermitsKnown w.toNat live)
    (room : w.toNat + 1 < UInt64.size) (hl : live c = some permit) :
    permit.window ≠ some (w + 1) := by
  intro hw
  have hle : (w + 1).toNat ≤ w.toNat := hk c permit _ hl hw
  have hn := toNat_next room
  omega

end PermitsKnown

/-- What holds of the slots at the end of a history, with certain calls in flight. -/
structure SlotsCounted (h : List Moment) (b : Breaker) (live : Call → Option Permit) : Prop where
  window : b.window.toNat = windows h
  known : PermitsKnown (windows h) live
  budget_pos : 0 < b.probeBudget.toNat
  mem_iff : b.state = .halfOpen →
    ∀ c, c ∈ probesInFlight h ↔ ∃ permit, live c = some permit ∧ permit.window = some b.window
  count : b.state = .halfOpen → b.probes = (probesInFlight h).card

namespace SlotsCounted

theorem start (name : String) (k : UInt32) (d : Duration) :
    SlotsCounted [] (.new name k d) fun _ => none where
  window := rfl
  known _ _ _ hc := by cases hc
  budget_pos := Nat.one_pos
  mem_iff hs := by cases hs
  count hs := by cases hs

/-- Outside the half-open state there is nothing to count. -/
theorem outside (hi : SlotsCounted h m.before live) (hs : m.after.state ≠ .halfOpen)
    (hw : m.after.window = m.before.window) (hb : m.after.probeBudget = m.before.probeBudget)
    (hk : PermitsKnown (windows h) live') : SlotsCounted (h ++ [m]) m.after live' := by
  have hn : windows (h ++ [m]) = windows h := by
    simp [windows_concat, Moment.opensWindow, hs]
  exact {
    window := by rw [hn, hw, hi.window]
    known := hn ▸ hk
    budget_pos := hb ▸ hi.budget_pos
    mem_iff := fun h' => absurd h' hs
    count := fun h' => absurd h' hs }

/-- The state, the window and its probes in flight stay what they are. -/
theorem unmoved (hi : SlotsCounted h m.before live) (hs : m.after.state = m.before.state)
    (hw : m.after.window = m.before.window) (hc : m.after.probes = m.before.probes)
    (hb : 0 < m.after.probeBudget.toNat) (hp : probesInFlight (h ++ [m]) = probesInFlight h)
    (hk : PermitsKnown (windows h) live')
    (hl : m.before.state = .halfOpen → ∀ c permit, permit.window = some m.before.window →
      (live' c = some permit ↔ live c = some permit)) : SlotsCounted (h ++ [m]) m.after live' := by
  have hn : windows (h ++ [m]) = windows h := by
    simp [windows_concat, Moment.opensWindow, hs]
  constructor
  case window => rw [hn, hw, hi.window]
  case known => rw [hn]; exact hk
  case budget_pos => exact hb
  case mem_iff =>
    intro ha c
    rw [hs] at ha
    rw [hp, hw, hi.mem_iff ha c]
    exact exists_congr fun permit => and_congr_left fun h' => (hl ha c permit h').symm
  case count =>
    intro ha
    rw [hp, hc, hi.count (hs ▸ ha)]

variable {c : Call}

/-- The first probe of a new window is the only one: no older permit names the window. -/
theorem first (hi : SlotsCounted h m.before live) (few : windows h + 1 < UInt64.size)
    (hact : m.act = .admission c ⟨some (m.before.window + 1)⟩) (hs : m.before.state = .opened)
    (ha : m.after =
      { m.before with state := .halfOpen, probes := 1, window := m.before.window + 1 }) :
    SlotsCounted (h ++ [m]) m.after
      (Function.update live c (some ⟨some (m.before.window + 1)⟩)) := by
  have ho : m.opensWindow = true := by simp [Moment.opensWindow, hs, ha]
  have hn : windows (h ++ [m]) = windows h + 1 := by simp [windows_concat, ho]
  have hp : probesInFlight (h ++ [m]) = {c} := by simp [probesThen, hact, ho, ha]
  have room : m.before.window.toNat + 1 < UInt64.size := by rwa [hi.window]
  have hw : (m.before.window + 1).toNat = windows h + 1 := by rw [toNat_next room, hi.window]
  have hk : PermitsKnown m.before.window.toNat live := by
    rw [hi.window]
    exact hi.known
  constructor
  case window => rw [hn, ← hw, ha]
  case known =>
    rw [hn]
    refine hi.known.insert (Nat.le_succ _) ?_
    rintro w ⟨⟩
    exact hw.le
  case budget_pos => rw [ha]; exact hi.budget_pos
  case mem_iff =>
    intro _ c'
    rw [hp, ha, Finset.mem_singleton]
    by_cases hc : c' = c
    · subst hc; simp
    · rw [Function.update_of_ne hc]
      refine ⟨fun h' => absurd h' hc, ?_⟩
      rintro ⟨permit, hl, hpw⟩
      exact absurd hpw (hk.ne_next room hl)
  case count => intro _; rw [hp, ha, Finset.card_singleton]

/-- One more probe of the window. -/
theorem further (hi : SlotsCounted h m.before live) (free : live c = none)
    (hact : m.act = .admission c ⟨some m.before.window⟩) (hs : m.before.state = .halfOpen)
    (ha : m.after = { m.before with probes := m.before.probes + 1 }) :
    SlotsCounted (h ++ [m]) m.after (Function.update live c (some ⟨some m.before.window⟩)) := by
  have ho : m.opensWindow = false := by simp [Moment.opensWindow, hs]
  have hn : windows (h ++ [m]) = windows h := by simp [windows_concat, ho]
  have hp : probesInFlight (h ++ [m]) = insert c (probesInFlight h) := by
    simp [probesThen, hact, ho, ha, hs]
  have hc : c ∉ probesInFlight h := by
    rw [hi.mem_iff hs c, free]
    simp
  constructor
  case window => rw [hn, ← hi.window, ha]
  case known =>
    rw [hn]
    refine hi.known.insert le_rfl ?_
    rintro w ⟨⟩
    exact hi.window.le
  case budget_pos => rw [ha]; exact hi.budget_pos
  case mem_iff =>
    intro _ c'
    rw [hp, ha, Finset.mem_insert]
    by_cases hcc : c' = c
    · subst hcc; simp
    · rw [Function.update_of_ne hcc, or_iff_right hcc]
      exact hi.mem_iff hs c'
  case count =>
    intro _
    rw [hp, ha, Finset.card_insert_of_notMem hc, ← hi.count hs]

/-- A probe of the window is lost. -/
theorem lost (hi : SlotsCounted h m.before live) (hc : c ∈ probesInFlight h) {permit : Permit}
    (hact : m.act = .loss c permit) (hs : m.before.state = .halfOpen)
    (ha : m.after = { m.before with probes := m.before.probes - 1 }) :
    SlotsCounted (h ++ [m]) m.after (Function.update live c none) := by
  have ho : m.opensWindow = false := by simp [Moment.opensWindow, hs]
  have hn : windows (h ++ [m]) = windows h := by simp [windows_concat, ho]
  have hp : probesInFlight (h ++ [m]) = (probesInFlight h).erase c := by
    simp [probesThen, hact, ho]
  constructor
  case window => rw [hn, ← hi.window, ha]
  case known => rw [hn]; exact hi.known.erase c
  case budget_pos => rw [ha]; exact hi.budget_pos
  case mem_iff =>
    intro _ c'
    rw [hp, ha, Finset.mem_erase]
    by_cases hcc : c' = c
    · subst hcc; simp
    · rw [Function.update_of_ne hcc, and_iff_right hcc]
      exact hi.mem_iff hs c'
  case count =>
    intro _
    rw [hp, ha, Finset.card_erase_of_mem hc, ← hi.count hs]

/-- A call is lost that is no probe of the window. -/
theorem lost_elsewhere (hi : SlotsCounted h m.before live) {permit : Permit}
    (hl : live c = some permit) (hact : m.act = .loss c permit) (ha : m.after = m.before)
    (hs : m.before.state = .halfOpen) (hp : permit.window ≠ some m.before.window) :
    SlotsCounted (h ++ [m]) m.after (Function.update live c none) := by
  have hc : c ∉ probesInFlight h := by
    rw [hi.mem_iff hs c, hl]
    rintro ⟨permit', h', hw⟩
    cases h'
    exact hp hw
  refine hi.unmoved (by rw [ha]) (by rw [ha]) (by rw [ha]) (by rw [ha]; exact hi.budget_pos) ?_
    (hi.known.erase c) ?_
  · simp [probesThen, hact, Moment.opensWindow, hs, Finset.erase_eq_of_notMem hc]
  · intro _ c' permit' hw
    by_cases hcc : c' = c
    · subst hcc
      rw [Function.update_self, hl]
      constructor
      · rintro ⟨⟩
      · rintro ⟨⟩
        exact absurd hw hp
    · rw [Function.update_of_ne hcc]

theorem next (hi : SlotsCounted h m.before live) (hn : Next live m live')
    (few : windows (h ++ [m]) < UInt64.size) : SlotsCounted (h ++ [m]) m.after live' := by
  cases hn with
  | admission free entered =>
    rcases admitted_cases entered with ⟨hs, rfl, rfl, -⟩ | ⟨hs, -, rfl, rfl, -⟩ |
      ⟨hs, -, rfl, rfl, -⟩
    · exact hi.outside (by simp [hs]) rfl rfl (hi.known.insert le_rfl (by rintro w ⟨⟩))
    · rw [windows_concat] at few
      exact hi.first (by simpa [Moment.opensWindow, hs] using few) rfl hs rfl
    · exact hi.further free rfl hs rfl
  | refusal entered =>
    exact hi.unmoved rfl rfl rfl hi.budget_pos
      (by simp [probesThen, Moment.opensWindow]) hi.known fun _ _ _ _ => Iff.rfl
  | @outcome c _ b now succeeded inFlight =>
    -- whoever it comes from, the count means nothing any more
    obtain ⟨hs, hw, hb⟩ := settle_frame b now succeeded
    exact hi.outside hs hw hb (hi.known.erase c)
  | @loss c permit b now inFlight =>
    rcases release_cases b permit with ⟨hs, hp, he⟩ | ⟨hp, he⟩
    · exact hi.lost ((hi.mem_iff hs c).2 ⟨permit, inFlight, hp⟩) rfl hs he
    · by_cases hs : b.state = .halfOpen
      · exact hi.lost_elsewhere inFlight rfl he hs fun hw => hp ⟨hs, hw⟩
      · have hb : (Moment.ofLoss b now c permit).after = b := he
        exact hi.outside (by rwa [hb]) (by rw [hb]; rfl) (by rw [hb]; rfl) (hi.known.erase c)
  | reset b now =>
    exact hi.outside (by simp [reset_fst]) (by simp [reset_fst]) (by simp [reset_fst]) hi.known
  | trip b now =>
    exact hi.outside (by simp [trip_fst]) (by simp [trip_fst]) (by simp [trip_fst]) hi.known
  | budget b now n =>
    exact hi.unmoved rfl rfl rfl (setProbeBudget_pos b n)
      (by simp [probesThen, Moment.opensWindow, setProbeBudget]) hi.known fun _ _ _ _ => Iff.rfl

end SlotsCounted

theorem Course.slotsCounted_of {b₀ : Breaker} (start : SlotsCounted [] b₀ fun _ => none)
    (hc : Course b₀ h b live) (few : windows h < UInt64.size) : SlotsCounted h b live := by
  induction hc with
  | start => exact start
  | next course hn ih =>
    -- there were no more windows earlier on
    exact (ih ((windows_mono (List.prefix_append ..)).trans_lt few)).next hn few

theorem Course.slotsCounted {name : String} {k : UInt32} {d : Duration}
    (hc : Course (.new name k d) h b live) (few : windows h < UInt64.size) :
    SlotsCounted h b live :=
  hc.slotsCounted_of (.start name k d) few

/-! ### Every run keeps its slots -/

variable {ε α : Type}

/-- How a run keeps the slots of its windows. -/
structure SlotsKept (s₀ : Session) (ops : List (Instant × Op ε α)) : Prop where
  /-- A half-open breaker counts the probes of the window in flight. -/
  count : ∀ h, h <+: s₀.history ops → (breakerAfter s₀.breaker h).state = .halfOpen →
    (breakerAfter s₀.breaker h).probes = (probesInFlight h).card
  /-- Those probes are calls of the session. -/
  in_flight : ∀ past rest, ops = past ++ rest → (s₀.run past).1.breaker.state = .halfOpen →
    ∀ c ∈ probesInFlight (s₀.history past), (permits (s₀.run past).1.live c).isSome
  /-- It refuses a call just if the budget of the moment is in flight. -/
  refused_iff : ∀ h m, h ++ [m] <+: s₀.history ops → m.asks → m.before.state = .halfOpen →
    (m.act = .refusal .probesUsed ↔ m.before.probeBudget.toNat ≤ (probesInFlight h).card)
  /-- Whoever asks is told so. -/
  told : ∀ past now op rest, ops = past ++ (now, op) :: rest →
    (((s₀.run past).1.step now op).reply = .result (.error (.refused .probesUsed)) ↔
      ∃ m ∈ (s₀.run past).1.moments now op, m.act = .refusal .probesUsed)
  /-- Whoever is let in leaves no more probes in flight than the budget allows. -/
  within_budget : ∀ h m, h ++ [m] <+: s₀.history ops → m.admits → m.after.state = .halfOpen →
    (probesInFlight (h ++ [m])).card ≤ m.after.probeBudget.toNat
  /-- The count stays within a word. -/
  count_lt : ∀ h m, h ++ [m] <+: s₀.history ops → m.admits → m.before.state = .halfOpen →
    m.before.probes + 1 < UInt32.size
  /-- The permits that name the window are those of its probes. -/
  window_iff : ∀ h m c permit, h ++ [m] <+: s₀.history ops → m.act = .loss c permit →
    m.before.state = .halfOpen → (permit.window = some m.before.window ↔ c ∈ probesInFlight h)
  /-- A probe that is lost frees one slot, and there is one to free. -/
  freed : ∀ h m c permit, h ++ [m] <+: s₀.history ops → m.act = .loss c permit →
    m.before.state = .halfOpen → c ∈ probesInFlight h → m.before.probes = m.after.probes + 1
  /-- Any other call that is lost leaves the breaker as it is. -/
  unmoved : ∀ h m c permit, h ++ [m] <+: s₀.history ops → m.act = .loss c permit →
    ¬(m.before.state = .halfOpen ∧ c ∈ probesInFlight h) → m.after = m.before

namespace SlotsCounted

theorem refused_iff (hi : SlotsCounted h m.before live) (hn : Next live m live') (ha : m.asks)
    (hs : m.before.state = .halfOpen) :
    m.act = .refusal .probesUsed ↔ m.before.probeBudget.toNat ≤ (probesInFlight h).card := by
  rw [← hi.count hs]
  cases hn with
  | admission free entered =>
    rcases admitted_cases entered with ⟨hs', -⟩ | ⟨hs', -⟩ | ⟨-, hlt, -⟩
    · cases hs'.symm.trans hs
    · cases hs'.symm.trans hs
    · simpa using hlt
  | refusal entered =>
    rcases refused_cases entered with ⟨hs', -⟩ | ⟨-, hle, rfl⟩
    · cases hs'.symm.trans hs
    · simpa using hle
  | _ => cases ha

theorem within_budget (hi : SlotsCounted h m.before live)
    (hi' : SlotsCounted (h ++ [m]) m.after live') (hn : Next live m live') (ha : m.admits)
    (hs : m.after.state = .halfOpen) :
    (probesInFlight (h ++ [m])).card ≤ m.after.probeBudget.toNat := by
  rw [← hi'.count hs]
  cases hn with
  | admission free entered =>
    rcases admitted_cases entered with ⟨hs', rfl, -⟩ | ⟨-, -, rfl, -⟩ | ⟨-, hlt, rfl, -⟩
    · cases hs'.symm.trans hs
    · exact hi.budget_pos
    · exact hlt
  | _ => cases ha

theorem window_iff (hi : SlotsCounted h m.before live) (hn : Next live m live') {c : Call}
    {permit : Permit} (ha : m.act = .loss c permit) (hs : m.before.state = .halfOpen) :
    permit.window = some m.before.window ↔ c ∈ probesInFlight h := by
  rw [hi.mem_iff hs c]
  cases hn with
  | loss b now inFlight =>
    cases ha
    simp [inFlight]
  | _ => cases ha

theorem freed (hi : SlotsCounted h m.before live) (hn : Next live m live') {c : Call}
    {permit : Permit} (ha : m.act = .loss c permit) (hs : m.before.state = .halfOpen)
    (hc : c ∈ probesInFlight h) : m.before.probes = m.after.probes + 1 := by
  have hpos : 0 < m.before.probes := by
    rw [hi.count hs]
    exact Finset.card_pos.2 ⟨c, hc⟩
  have hw := (hi.window_iff hn ha hs).2 hc
  cases hn with
  | loss b now inFlight =>
    cases ha
    rcases release_cases b permit with ⟨-, -, he⟩ | ⟨hne, -⟩
    · have hb : (Moment.ofLoss b now c permit).after.probes = b.probes - 1 := congrArg probes he
      have hp : 0 < b.probes := hpos
      show b.probes = _
      omega
    · exact absurd ⟨hs, hw⟩ hne
  | _ => cases ha

theorem unmoved_of_loss (hi : SlotsCounted h m.before live) (hn : Next live m live') {c : Call}
    {permit : Permit} (ha : m.act = .loss c permit)
    (hc : ¬(m.before.state = .halfOpen ∧ c ∈ probesInFlight h)) : m.after = m.before := by
  have hw := hi.window_iff hn ha
  cases hn with
  | loss b now inFlight =>
    cases ha
    rcases release_cases b permit with ⟨hs, hp, -⟩ | ⟨-, he⟩
    · exact absurd ⟨hs, (hw hs).1 hp⟩ hc
    · exact he
  | _ => cases ha

end SlotsCounted

/-- A half-open breaker that lets a call in has a number of probes below its budget. -/
theorem Next.probes_lt (hn : Next live m live') (ha : m.admits) (hs : m.before.state = .halfOpen) :
    m.before.probes + 1 < UInt32.size := by
  cases hn with
  | @admission b _ _ _ _ _ free entered =>
    rcases admitted_cases entered with ⟨hs', -⟩ | ⟨hs', -⟩ | ⟨-, hlt, -⟩
    · cases hs'.symm.trans hs
    · cases hs'.symm.trans hs
    · have hb : b.probeBudget.toNat < UInt32.size := b.probeBudget.toNat_lt_size
      show b.probes + 1 < UInt32.size
      omega
  | _ => cases ha

/-- In every run with fewer than `UInt64.size` windows the slots are kept. -/
theorem slotsKept (name : String) (k : UInt32) (d : Duration) (ops : List (Instant × Op ε α))
    (few : windows ((Session.new name k d).history ops) < UInt64.size) :
    SlotsKept (Session.new name k d) ops := by
  have counted {h : List Moment} (hp : h <+: (Session.new name k d).history ops) :
      ∃ live, SlotsCounted h (breakerAfter (.new name k d) h) live := by
    obtain ⟨live, hc⟩ := Session.course_upTo name k d hp
    exact ⟨live, hc.slotsCounted ((windows_mono hp).trans_lt few)⟩
  have next {h : List Moment} {m : Moment} (hp : h ++ [m] <+: (Session.new name k d).history ops) :
      ∃ live live', SlotsCounted h m.before live ∧ SlotsCounted (h ++ [m]) m.after live' ∧
        Next live m live' := by
    obtain ⟨live, live', hc, hn⟩ := Session.next_upTo name k d hp
    have hlt := (windows_mono hp).trans_lt few
    exact ⟨live, live', hc.slotsCounted ((windows_mono (List.prefix_append ..)).trans_lt hlt),
      (Course.next hc hn).slotsCounted hlt, hn⟩
  constructor
  case count =>
    intro h hp hs
    obtain ⟨live, hi⟩ := counted hp
    exact hi.count hs
  case in_flight =>
    intro past rest ho hs c hc
    have hp : (Session.new name k d).history past <+: (Session.new name k d).history ops := by
      rw [ho, Session.history_append]
      exact List.prefix_append ..
    have hi := (Session.course_history name k d past).slotsCounted
      ((windows_mono hp).trans_lt few)
    obtain ⟨permit, hl, -⟩ := (hi.mem_iff hs c).1 hc
    exact Option.isSome_iff_exists.2 ⟨permit, hl⟩
  case refused_iff =>
    intro h m hp ha hs
    obtain ⟨live, live', hi, -, hn⟩ := next hp
    exact hi.refused_iff hn ha hs
  case told =>
    intro past now op rest _
    exact Session.reply_refused_iff _ now op .probesUsed
  case within_budget =>
    intro h m hp ha hs
    obtain ⟨live, live', hi, hi', hn⟩ := next hp
    exact hi.within_budget hi' hn ha hs
  case count_lt =>
    intro h m hp ha hs
    obtain ⟨live, live', -, -, hn⟩ := next hp
    exact hn.probes_lt ha hs
  case window_iff =>
    intro h m c permit hp ha hs
    obtain ⟨live, live', hi, -, hn⟩ := next hp
    exact hi.window_iff hn ha hs
  case freed =>
    intro h m c permit hp ha hs hc
    obtain ⟨live, live', hi, -, hn⟩ := next hp
    exact hi.freed hn ha hs hc
  case unmoved =>
    intro h m c permit hp ha hc
    obtain ⟨live, live', hi, -, hn⟩ := next hp
    exact hi.unmoved_of_loss hn ha hc

/-- Two probes in flight, one lost and one let in after it, beside a call of before the window. -/
theorem slotsKept_two_probes :
    let ops : List (Instant × Op Unit Unit) := [(0, .start "early"), (0, .setProbeBudget 2),
      (1, .trip), (3, .start "a"), (3, .start "b"), (4, .abandon "early"), (4, .abandon "a"),
      (5, .start "c"), (5, .start "d")]
    windows ((Session.new "agent" 1 (.ofNanos 1)).history ops) < UInt64.size ∧
      SlotsKept (Session.new "agent" 1 (.ofNanos 1)) ops :=
  ⟨by decide, slotsKept _ _ _ _ (by decide)⟩

end CallGuard.Breaker
