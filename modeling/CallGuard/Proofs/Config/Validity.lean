import CallGuard.Config.Validation
import CallGuard.Proofs.Binary64.Value
import CallGuard.Proofs.NameMap
import Mathlib.Data.List.Nodup

/-! What is wrong with settings. A rule speaks of one setting, has a path of its own and a place in
the order of reports; `violations` has one entry for each broken rule, in that order, and none just
if the settings are valid (`checked`). A name without a visible character stands for all rules on
its breaker, and only such names share a path. -/

namespace CallGuard

open Text

/-! ### Valid settings -/

/-- Whether a name has nothing to be seen. -/
def Blank (name : String) : Prop := ∀ c ∈ name.toList, blank.has c = true

theorem isBlank_iff (name : String) : isBlank name = true ↔ Blank name := List.all_eq_true

/-- What the settings of a breaker have to meet. -/
structure BreakerSettings.Valid (s : BreakerSettings) : Prop where
  maxFailures_pos : 0 < s.maxFailures
  halfOpenRequests_pos : 0 < s.halfOpenRequests

/-- What settings have to meet beyond their types. -/
structure Config.Valid (c : Config) : Prop where
  maxAttempts_pos : 0 < c.retry.maxAttempts
  multiplier : ∃ q, c.retry.multiplier.value? = some q ∧ 0 < q
  randomizeFactor : ∃ q, c.retry.randomizeFactor.value? = some q ∧ 0 ≤ q ∧ q ≤ 1
  delays : c.retry.initialDelayMs ≤ c.retry.maxDelayMs
  requestTimeout_pos : 0 < c.client.requestTimeoutMs
  connectTimeout_pos : 0 < c.client.connectTimeoutMs
  metricsAddress : c.observability.metricsEnabled = true →
    ∃ a, Net.SocketAddress.read? c.observability.metricsAddress = some a
  defaults : c.breakerDefaults.Valid
  breakers : ∀ name s, c.breakers.get? name = some s → s.Valid
  names : ∀ name ∈ c.breakers.names, ∃ ch ∈ name.toList, blank.has ch = false

/-! ### Rules -/

/-- A rule, by the setting it is about. Settings of a breaker are those of a name, or the default
ones. -/
inductive Rule
  | maxAttempts
  | multiplier
  | randomizeFactor
  | initialDelay
  | requestTimeout
  | connectTimeout
  | metricsAddress
  | maxFailures (breaker : Option String)
  | halfOpenRequests (breaker : Option String)
  | breakerName (name : String)

/-- The settings of a breaker that rules are about; a blank name is a rule of its own. -/
def Config.SettingsOf (c : Config) (s : BreakerSettings) : Option String → Prop
  | none => s = c.breakerDefaults
  | some name => c.breakers.get? name = some s ∧ ¬Blank name

namespace Rule

/-- Whether settings break a rule. -/
def Broken (c : Config) : Rule → Prop
  | maxAttempts => c.retry.maxAttempts = 0
  | multiplier => ¬∃ q, c.retry.multiplier.value? = some q ∧ 0 < q
  | randomizeFactor => ¬∃ q, c.retry.randomizeFactor.value? = some q ∧ 0 ≤ q ∧ q ≤ 1
  | initialDelay => c.retry.maxDelayMs < c.retry.initialDelayMs
  | requestTimeout => c.client.requestTimeoutMs = 0
  | connectTimeout => c.client.connectTimeoutMs = 0
  | metricsAddress => c.observability.metricsEnabled = true ∧
      ¬∃ a, Net.SocketAddress.read? c.observability.metricsAddress = some a
  | maxFailures b => ∃ s, c.SettingsOf s b ∧ s.maxFailures = 0
  | halfOpenRequests b => ∃ s, c.SettingsOf s b ∧ s.halfOpenRequests = 0
  | breakerName name => name ∈ c.breakers.names ∧ Blank name

/-- The path of the settings of a breaker. -/
def breakerPath : Option String → String
  | none => "breaker_defaults"
  | some name => "breakers." ++ name

/-- The path of the setting. -/
def path : Rule → String
  | maxAttempts => "retry.max_attempts"
  | multiplier => "retry.multiplier"
  | randomizeFactor => "retry.randomize_factor"
  | initialDelay => "retry.initial_delay_ms"
  | requestTimeout => "client.request_timeout_ms"
  | connectTimeout => "client.connect_timeout_ms"
  | metricsAddress => "observability.metrics_address"
  | maxFailures b => breakerPath b ++ ".max_failures"
  | halfOpenRequests b => breakerPath b ++ ".half_open_requests"
  | breakerName _ => "breakers"

/-- What is said of settings that break a rule. -/
def message (c : Config) : Rule → String
  | multiplier => "must be a positive number"
  | randomizeFactor => "must be within [0, 1]"
  | initialDelay =>
    "must not exceed max_delay_ms (" ++ Numeral.decimal c.retry.maxDelayMs.toNat ++ ")"
  | metricsAddress => "'" ++ c.observability.metricsAddress ++ "' is not a socket address"
  | breakerName _ => "breaker names must not be empty"
  | _ => "must be greater than 0"

/-- The report of a broken rule. -/
def report (c : Config) (r : Rule) : Violation := ⟨r.path, r.message c⟩

/-- The place of a rule among the settings; those on named breakers share the last one. -/
def place : Rule → Nat
  | maxAttempts => 0
  | multiplier => 1
  | randomizeFactor => 2
  | initialDelay => 3
  | requestTimeout => 4
  | connectTimeout => 5
  | metricsAddress => 6
  | maxFailures none => 7
  | halfOpenRequests none => 8
  | maxFailures (some _) | halfOpenRequests (some _) | breakerName _ => 9

/-- The name of the breaker that a rule is about, if it is about a named one. -/
def name : Rule → String
  | maxFailures (some name) | halfOpenRequests (some name) | breakerName name => name
  | _ => ""

/-- The place of a rule among those on one named breaker. -/
def part : Rule → Nat
  | maxFailures (some _) => 1
  | halfOpenRequests (some _) => 2
  | _ => 0

/-- Whether a rule is reported before another: by place, then by the bytes of the names, then by
the setting. -/
def Before (r r' : Rule) : Prop :=
  r.place < r'.place ∨ r.place = r'.place ∧
    (bytes r.name < bytes r'.name ∨ r.name = r'.name ∧ r.part < r'.part)

/-- The rules on all settings but those of named breakers. -/
def unnamed : List Rule :=
  [maxAttempts, multiplier, randomizeFactor, initialDelay, requestTimeout, connectTimeout,
    metricsAddress, maxFailures none, halfOpenRequests none]

/-- The rules on the breaker of a name. -/
def named (name : String) : List Rule :=
  [breakerName name, maxFailures (some name), halfOpenRequests (some name)]

end Rule

/-- All rules on settings, in the order of reports. -/
def Config.rules (c : Config) : List Rule := Rule.unnamed ++ c.breakers.names.flatMap Rule.named

/-! ### The order of reports -/

namespace Rule

variable {r r' : Rule} {name : String}

theorem Before.ne (h : r.Before r') : r ≠ r' := by
  rintro rfl
  rcases h with h | ⟨-, h | ⟨-, h⟩⟩
  · exact Nat.lt_irrefl _ h
  · exact List.lt_irrefl _ h
  · exact Nat.lt_irrefl _ h

theorem pairwise_unnamed : unnamed.Pairwise Before := by
  have hplace : (unnamed.map place).Pairwise (· < ·) := by decide
  exact (List.pairwise_map.1 hplace).imp .inl

theorem place_of_unnamed (h : r ∈ unnamed) : r.place < 9 := by
  have hall : ∀ r ∈ unnamed, r.place < 9 := by simp [unnamed, place]
  exact hall r h

theorem place_of_named (h : r ∈ named name) : r.place = 9 ∧ r.name = name := by
  simp only [named, List.mem_cons, List.not_mem_nil, or_false] at h
  rcases h with rfl | rfl | rfl <;> exact ⟨rfl, rfl⟩

theorem pairwise_rules (c : Config) : c.rules.Pairwise Before := by
  refine List.pairwise_append.2 ⟨pairwise_unnamed, List.pairwise_flatMap.2 ⟨fun name _ => ?_, ?_⟩,
    fun r hr r' hr' => ?_⟩
  · simp [named, Before, place, Rule.name, part]
  · refine (NameMap.pairwise_bytes_names c.breakers).imp fun {n m} hlt r hr r' hr' => ?_
    obtain ⟨hp, rfl⟩ := place_of_named hr
    obtain ⟨hp', rfl⟩ := place_of_named hr'
    exact .inr ⟨hp.trans hp'.symm, .inl hlt⟩
  · obtain ⟨n, -, hn⟩ := List.mem_flatMap.1 hr'
    exact .inl ((place_of_named hn).1 ▸ place_of_unnamed hr)

end Rule

/-! ### Each rule against its check -/

variable {c : Config} {r : Rule} {check : Bool}

theorem RetrySettings.multiplierOk_iff (s : RetrySettings) :
    s.multiplierOk = true ↔ ∃ q, s.multiplier.value? = some q ∧ 0 < q := by
  rw [multiplierOk, Bool.and_eq_true, Binary64.isFinite_iff]
  constructor
  · rintro ⟨⟨q, hq⟩, hlt⟩
    exact ⟨q, hq, (Binary64.lt_iff Binary64.value?_zero hq).1 hlt⟩
  · rintro ⟨q, hq, hpos⟩
    exact ⟨⟨q, hq⟩, (Binary64.lt_iff Binary64.value?_zero hq).2 hpos⟩

theorem RetrySettings.factorOk_iff (s : RetrySettings) :
    s.factorOk = true ↔ ∃ q, s.randomizeFactor.value? = some q ∧ 0 ≤ q ∧ q ≤ 1 :=
  Binary64.between_iff Binary64.value?_zero Binary64.value?_one

theorem ObservabilitySettings.addressOk_iff (s : ObservabilitySettings) :
    s.addressOk = true ↔
      (s.metricsEnabled = true → ∃ a, Net.SocketAddress.read? s.metricsAddress = some a) := by
  rw [addressOk, Bool.or_eq_true, Bool.not_eq_true', Option.isSome_iff_exists]
  cases s.metricsEnabled <;> simp

namespace Rule

open Classical in
/-- What is reported of a rule. -/
noncomputable def reports (c : Config) (r : Rule) : List Violation :=
  if r.Broken c then [r.report c] else []

theorem reports_eq (h : check = true ↔ r.Broken c) :
    r.reports c = violationIf check r.path (r.message c) := by
  cases check with
  | true => exact if_pos (h.1 rfl)
  | false => exact if_neg fun hb => Bool.false_ne_true (h.2 hb)

theorem reports_of_not_broken (h : ¬r.Broken c) : r.reports c = [] := if_neg h

theorem settingsOf_some_iff {s : BreakerSettings} {name : String}
    (h : c.breakers.get? name = some s) (s' : BreakerSettings) :
    c.SettingsOf s' (some name) ↔ s' = s ∧ ¬Blank name := by
  rw [Config.SettingsOf, h, Option.some_inj, eq_comm]

theorem not_iff {p : Prop} (h : check = true ↔ p) : (!check) = true ↔ ¬p := by
  rw [Bool.not_eq_true', ← Bool.not_eq_true, h]

theorem reports_retry (c : Config) :
    [maxAttempts, multiplier, randomizeFactor, initialDelay].flatMap (reports c) =
      c.retry.violations := by
  have hattempts := reports_eq (c := c) (r := maxAttempts)
    (decide_eq_true_iff (p := c.retry.maxAttempts = 0))
  have hmultiplier := reports_eq (r := multiplier) (not_iff c.retry.multiplierOk_iff)
  have hfactor := reports_eq (r := randomizeFactor) (not_iff c.retry.factorOk_iff)
  have hdelay := reports_eq (c := c) (r := initialDelay)
    (decide_eq_true_iff (p := c.retry.maxDelayMs < c.retry.initialDelayMs))
  simp only [List.flatMap_cons, List.flatMap_nil, List.append_nil, hattempts, hmultiplier, hfactor,
    hdelay, RetrySettings.violations, List.append_assoc]
  rfl

theorem reports_client (c : Config) :
    [requestTimeout, connectTimeout].flatMap (reports c) = c.client.violations := by
  have hrequest := reports_eq (c := c) (r := requestTimeout)
    (decide_eq_true_iff (p := c.client.requestTimeoutMs = 0))
  have hconnect := reports_eq (c := c) (r := connectTimeout)
    (decide_eq_true_iff (p := c.client.connectTimeoutMs = 0))
  simp only [List.flatMap_cons, List.flatMap_nil, List.append_nil, hrequest, hconnect]
  rfl

theorem reports_observability (c : Config) :
    [metricsAddress].flatMap (reports c) = c.observability.violations := by
  have haddress : (!c.observability.addressOk) = true ↔ metricsAddress.Broken c := by
    rw [not_iff c.observability.addressOk_iff, Classical.not_imp]
    rfl
  simp only [List.flatMap_cons, List.flatMap_nil, List.append_nil, reports_eq haddress]
  rfl

theorem reports_breaker {b : Option String} {s : BreakerSettings}
    (h : ∀ s', c.SettingsOf s' b ↔ s' = s) :
    [maxFailures b, halfOpenRequests b].flatMap (reports c) = s.violations (breakerPath b) := by
  have hfailures : decide (s.maxFailures = 0) = true ↔ (maxFailures b).Broken c := by
    simp [Broken, h]
  have hrequests : decide (s.halfOpenRequests = 0) = true ↔ (halfOpenRequests b).Broken c := by
    simp [Broken, h]
  simp only [List.flatMap_cons, List.flatMap_nil, List.append_nil, reports_eq hfailures,
    reports_eq hrequests]
  rfl

/-- Of a named breaker its name is reported or its settings are. -/
theorem reports_named {name : String} {s : BreakerSettings} (h : c.breakers.get? name = some s) :
    (named name).flatMap (reports c) = namedBreakerViolations name s := by
  have hmem : name ∈ c.breakers.names := NameMap.mem_names_iff.2 (by rw [h]; rfl)
  rw [named, List.flatMap_cons, namedBreakerViolations]
  by_cases hb : Blank name
  · have hnone (s' : BreakerSettings) : ¬c.SettingsOf s' (some name) := fun hs => hs.2 hb
    rw [if_pos ((isBlank_iff name).2 hb), reports, if_pos ⟨hmem, hb⟩, List.flatMap_cons,
      List.flatMap_cons, reports_of_not_broken (by simp [Broken, hnone]),
      reports_of_not_broken (by simp [Broken, hnone])]
    rfl
  · have hname : ¬(breakerName name).Broken c := fun hbroken => hb hbroken.2
    rw [if_neg (mt (isBlank_iff name).1 hb), reports_of_not_broken hname, List.nil_append]
    exact reports_breaker fun s' => (settingsOf_some_iff h s').trans (and_iff_left hb)

/-- Everything that is wrong, rule by rule. -/
theorem violations_eq_reports (c : Config) : c.violations = c.rules.flatMap (reports c) := by
  have hnamed : (c.breakers.names.flatMap named).flatMap (reports c) =
      c.breakers.entries.flatMap fun e => namedBreakerViolations e.1 e.2 := by
    rw [List.flatMap_assoc, NameMap.names, List.flatMap_map]
    refine List.flatMap_congr fun e he => ?_
    exact reports_named (NameMap.mem_entries_iff.1 he)
  have hunnamed : unnamed.flatMap (reports c) = c.retry.violations ++ c.client.violations ++
      c.observability.violations ++ c.breakerDefaults.violations "breaker_defaults" := by
    have hsplit : unnamed = [maxAttempts, multiplier, randomizeFactor, initialDelay,
        requestTimeout, connectTimeout, metricsAddress] ++
          [maxFailures none, halfOpenRequests none] := rfl
    rw [hsplit, List.flatMap_append, reports_breaker fun _ => Iff.rfl, ← reports_retry,
      ← reports_client, ← reports_observability, ← List.flatMap_append, ← List.flatMap_append]
    rfl
  rw [Config.rules, List.flatMap_append, hunnamed, hnamed]
  rfl

theorem mem_rules_of_broken (h : r.Broken c) : r ∈ c.rules := by
  have mem {name : String} (hname : name ∈ c.breakers.names) (hr : r ∈ named name) : r ∈ c.rules :=
    List.mem_append_right _ (List.mem_flatMap.2 ⟨name, hname, hr⟩)
  have known {name : String} {s : BreakerSettings} (hs : c.SettingsOf s (some name)) :
      name ∈ c.breakers.names := NameMap.mem_names_iff.2 (by rw [hs.1]; rfl)
  cases r with
  | breakerName name => exact mem h.1 (by simp [named])
  | maxFailures b =>
    cases b with
    | none => exact List.mem_append_left _ (by simp [unnamed])
    | some name =>
      obtain ⟨s, hs, -⟩ := h
      exact mem (known hs) (by simp [named])
  | halfOpenRequests b =>
    cases b with
    | none => exact List.mem_append_left _ (by simp [unnamed])
    | some name =>
      obtain ⟨s, hs, -⟩ := h
      exact mem (known hs) (by simp [named])
  | _ => exact List.mem_append_left _ (by simp [unnamed])

open Classical in
/-- The rules that settings break, in the order of reports. -/
noncomputable def broken (c : Config) : List Rule := c.rules.filter fun r => r.Broken c

theorem mem_broken_iff : r ∈ broken c ↔ r.Broken c := by
  simpa [broken] using mem_rules_of_broken

theorem pairwise_broken (c : Config) : (broken c).Pairwise Before := (pairwise_rules c).filter _

theorem violations_eq (c : Config) : c.violations = (broken c).map (report c) := by
  rw [violations_eq_reports, broken]
  induction c.rules with
  | nil => rfl
  | cons r rules ih =>
    rw [List.flatMap_cons, ih, reports, List.filter_cons]
    split
    next h => simp [h]
    next h => simp [h]

/-! ### Paths -/

theorem mem_unnamed_or_named (r : Rule) : r ∈ unnamed ∨ ∃ name, r ∈ named name := by
  cases r with
  | maxFailures b => cases b <;> simp [unnamed, named]
  | halfOpenRequests b => cases b <;> simp [unnamed, named]
  | breakerName name => exact .inr ⟨name, List.mem_cons_self⟩
  | _ => simp [unnamed]

theorem path_inj_of_unnamed (h : r ∈ unnamed) (h' : r' ∈ unnamed) (hp : r.path = r'.path) :
    r = r' := by
  have hnodup : (unnamed.map path).Nodup := by decide
  exact List.inj_on_of_nodup_map hnodup h h' hp

theorem toList_path_maxFailures (n : String) : (maxFailures (some n)).path.toList =
    "breakers.".toList ++ (n.toList ++ ".max_failures".toList) := by
  simp [path, breakerPath]

theorem toList_path_halfOpenRequests (n : String) : (halfOpenRequests (some n)).path.toList =
    "breakers.".toList ++ (n.toList ++ ".half_open_requests".toList) := by
  simp [path, breakerPath]

/-- A path of the settings of a named breaker is like no other. -/
theorem not_prefix_of_unnamed (h : r ∈ unnamed) : ¬"breakers".toList <+: r.path.toList := by
  have hall : ∀ p ∈ unnamed.map path, ¬"breakers".toList <+: p.toList := by decide
  exact hall _ (List.mem_map_of_mem h)

theorem prefix_of_named {n : String} (h : r ∈ named n) : "breakers".toList <+: r.path.toList := by
  simp only [named, List.mem_cons, List.not_mem_nil, or_false] at h
  rcases h with rfl | rfl | rfl
  · exact List.prefix_rfl
  · exact ⟨_, (toList_path_maxFailures n).symm⟩
  · exact ⟨_, (toList_path_halfOpenRequests n).symm⟩

theorem path_maxFailures_ne (n m : String) :
    (maxFailures (some n)).path ≠ (halfOpenRequests (some m)).path := by
  intro h
  have hl := congrArg String.toList h
  rw [toList_path_maxFailures, toList_path_halfOpenRequests] at hl
  -- one ending would be the end of the other
  have hsuffix := List.suffix_of_suffix_length_le
    (List.append_cancel_left hl ▸ List.suffix_append n.toList _) (List.suffix_append m.toList _)
    (by decide)
  revert hsuffix
  decide

theorem path_inj_of_named {n m : String} (h : r ∈ named n) (h' : r' ∈ named m)
    (hp : r.path = r'.path) (hb : r.path ≠ "breakers") : r = r' := by
  simp only [named, List.mem_cons, List.not_mem_nil, or_false] at h h'
  have hl := congrArg String.toList hp
  rcases h with rfl | rfl | rfl
  · exact absurd rfl hb
  · rcases h' with rfl | rfl | rfl
    · exact absurd hp hb
    · rw [toList_path_maxFailures, toList_path_maxFailures] at hl
      rw [String.toList_inj.1 (List.append_cancel_right (List.append_cancel_left hl))]
    · exact absurd hp (path_maxFailures_ne n m)
  · rcases h' with rfl | rfl | rfl
    · exact absurd hp hb
    · exact absurd hp.symm (path_maxFailures_ne m n)
    · rw [toList_path_halfOpenRequests, toList_path_halfOpenRequests] at hl
      rw [String.toList_inj.1 (List.append_cancel_right (List.append_cancel_left hl))]

/-- Rules have paths of their own, but for those on names. -/
theorem path_inj (hp : r.path = r'.path) (hb : r.path ≠ "breakers") : r = r' := by
  rcases mem_unnamed_or_named r with h | ⟨n, h⟩
  · rcases mem_unnamed_or_named r' with h' | ⟨m, h'⟩
    · exact path_inj_of_unnamed h h' hp
    · exact absurd (hp ▸ prefix_of_named h') (not_prefix_of_unnamed h)
  · rcases mem_unnamed_or_named r' with h' | ⟨m, h'⟩
    · exact absurd (hp ▸ prefix_of_named h) (not_prefix_of_unnamed h')
    · exact path_inj_of_named h h' hp hb

end Rule

/-! ### Settings are checked by the rules -/

namespace Config

theorem not_blank_iff (name : String) :
    ¬Blank name ↔ ∃ ch ∈ name.toList, blank.has ch = false := by
  simp [Blank]

theorem Valid.not_broken {c : Config} (h : c.Valid) (r : Rule) : ¬r.Broken c := by
  have settings {s : BreakerSettings} {b : Option String} (hs : c.SettingsOf s b) : s.Valid := by
    cases b with
    | none => exact hs ▸ h.defaults
    | some name => exact h.breakers name s hs.1
  intro hr
  cases r with
  | maxAttempts => exact UInt32.pos_iff_ne_zero.1 h.maxAttempts_pos hr
  | multiplier => exact hr h.multiplier
  | randomizeFactor => exact hr h.randomizeFactor
  | initialDelay => exact UInt64.not_lt.2 h.delays hr
  | requestTimeout => exact UInt64.pos_iff_ne_zero.1 h.requestTimeout_pos hr
  | connectTimeout => exact UInt64.pos_iff_ne_zero.1 h.connectTimeout_pos hr
  | metricsAddress => exact hr.2 (h.metricsAddress hr.1)
  | maxFailures b =>
    obtain ⟨s, hs, hz⟩ := hr
    exact UInt32.pos_iff_ne_zero.1 (settings hs).maxFailures_pos hz
  | halfOpenRequests b =>
    obtain ⟨s, hs, hz⟩ := hr
    exact UInt32.pos_iff_ne_zero.1 (settings hs).halfOpenRequests_pos hz
  | breakerName name => exact (not_blank_iff name).2 (h.names name hr.1) hr.2

theorem valid_of_not_broken {c : Config} (h : ∀ r : Rule, ¬r.Broken c) : c.Valid := by
  have settings {s : BreakerSettings} {b : Option String} (hs : c.SettingsOf s b) : s.Valid :=
    ⟨UInt32.pos_iff_ne_zero.2 fun hz => h (.maxFailures b) ⟨s, hs, hz⟩,
      UInt32.pos_iff_ne_zero.2 fun hz => h (.halfOpenRequests b) ⟨s, hs, hz⟩⟩
  have named (name : String) (hn : name ∈ c.breakers.names) : ¬Blank name :=
    fun hb => h (.breakerName name) ⟨hn, hb⟩
  exact {
    maxAttempts_pos := UInt32.pos_iff_ne_zero.2 (h .maxAttempts)
    multiplier := not_not.1 (h .multiplier)
    randomizeFactor := not_not.1 (h .randomizeFactor)
    delays := UInt64.not_lt.1 (h .initialDelay)
    requestTimeout_pos := UInt64.pos_iff_ne_zero.2 (h .requestTimeout)
    connectTimeout_pos := UInt64.pos_iff_ne_zero.2 (h .connectTimeout)
    metricsAddress := fun he => not_not.1 fun ha => h .metricsAddress ⟨he, ha⟩
    defaults := settings (b := none) rfl
    breakers := fun name s hs =>
      settings (b := some name) ⟨hs, named name (NameMap.mem_names_iff.2 (by rw [hs]; rfl))⟩
    names := fun name hn => (not_blank_iff name).1 (named name hn) }

/-- Settings are valid just if they break no rule. -/
theorem valid_iff (c : Config) : c.Valid ↔ ∀ r : Rule, ¬r.Broken c :=
  ⟨fun h => h.not_broken, valid_of_not_broken⟩

/-- Settings are valid just if nothing is wrong with them. -/
theorem violations_eq_nil_iff (c : Config) : c.violations = [] ↔ c.Valid := by
  rw [Rule.violations_eq, List.map_eq_nil_iff, List.eq_nil_iff_forall_not_mem, valid_iff]
  exact forall_congr' fun r => not_congr Rule.mem_broken_iff

/-- How settings are checked. -/
structure Checked (c : Config) : Prop where
  /-- Nothing is wrong just with valid settings. -/
  accepted_iff : c.violations = [] ↔ c.Valid
  /-- Each broken rule is reported, once and in its place, and nothing else is. -/
  reported : ∃ rules : List Rule, (∀ r, r ∈ rules ↔ r.Broken c) ∧ rules.Pairwise Rule.Before ∧
    rules.Nodup ∧ c.violations = rules.map (Rule.report c)
  /-- No setting is reported twice; one entry for each blank name has the path of them all. -/
  fields_nodup : ((c.violations.map (·.field)).filter (· ≠ "breakers")).Nodup

/-- All settings are checked so. -/
theorem checked (c : Config) : Checked c where
  accepted_iff := c.violations_eq_nil_iff
  reported := ⟨Rule.broken c, fun _ => Rule.mem_broken_iff, Rule.pairwise_broken c,
    (Rule.pairwise_broken c).imp Rule.Before.ne, Rule.violations_eq c⟩
  fields_nodup := by
    have hpaths : c.violations.map (·.field) = (Rule.broken c).map Rule.path := by
      rw [Rule.violations_eq, List.map_map]
      rfl
    rw [hpaths, List.filter_map]
    refine List.Nodup.map_on ?_ (((Rule.pairwise_broken c).imp Rule.Before.ne).filter _)
    intro r hr r' _ hp
    have hb : r.path ≠ "breakers" := by simpa using (List.mem_filter.1 hr).2
    exact Rule.path_inj hp hb

/-- A negative zero is a part of a delay, and `nan` is no multiplier. -/
example : ({ retry := { multiplier := .nan, randomizeFactor := .finite true 0 (by decide +kernel) }
             breakerDefaults := { halfOpenRequests := 0 }
             breakers := .ofList [("b", ⟨0, 1, 0⟩), (" ", ⟨0, 1, 0⟩)] } : Config).violations.map
               (·.field) =
    ["retry.multiplier", "breaker_defaults.half_open_requests", "breakers",
      "breakers.b.max_failures", "breakers.b.half_open_requests"] := by decide +kernel

end Config

end CallGuard
