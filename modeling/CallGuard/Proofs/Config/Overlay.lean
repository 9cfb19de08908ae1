import CallGuard.Proofs.Config.Parts

/-! Settings are laid over their defaults. Each part of the configuration is what the value of its
own key means, or the default of its own structure (`ofEntries_eq_ok_iff`), so that only what is
found under the known keys matters. Hence the order of keys and tables is no matter anywhere in a
document, and neither is a key that no structure knows (`Harmless`): every document that comes of
such changes gives the same configuration (`overlay_of_parse`). -/

namespace CallGuard

open Toml

/-! ### What values mean -/

def IsWord32 (v : Value) (n : UInt32) : Prop := v = .integer n.toNat

def IsWord64 (v : Value) (n : UInt64) : Prop := v = .integer n.toNat

/-- A number is written with or without a fraction. -/
def IsNumber (v : Value) (x : Binary64) : Prop := v = .float x ∨ ∃ n, v = .integer n ∧ x = .ofInt n

def IsText (v : Value) (s : String) : Prop := v = .string s

def IsBoolean (v : Value) (b : Bool) : Prop := v = .boolean b

def observabilityParts : List (Part ObservabilitySettings) := [
  ⟨"log_level", IsText, (·.logLevel), fun s x => { s with logLevel := x }⟩,
  ⟨"metrics_enabled", IsBoolean, (·.metricsEnabled), fun s x => { s with metricsEnabled := x }⟩,
  ⟨"metrics_address", IsText, (·.metricsAddress), fun s x => { s with metricsAddress := x }⟩]

def retryParts : List (Part RetrySettings) := [
  ⟨"max_attempts", IsWord32, (·.maxAttempts), fun s x => { s with maxAttempts := x }⟩,
  ⟨"initial_delay_ms", IsWord64, (·.initialDelayMs), fun s x => { s with initialDelayMs := x }⟩,
  ⟨"max_delay_ms", IsWord64, (·.maxDelayMs), fun s x => { s with maxDelayMs := x }⟩,
  ⟨"multiplier", IsNumber, (·.multiplier), fun s x => { s with multiplier := x }⟩,
  ⟨"randomize_factor", IsNumber, (·.randomizeFactor), fun s x => { s with randomizeFactor := x }⟩]

def clientParts : List (Part ClientSettings) := [
  ⟨"request_timeout_ms", IsWord64, (·.requestTimeoutMs),
    fun s x => { s with requestTimeoutMs := x }⟩,
  ⟨"connect_timeout_ms", IsWord64, (·.connectTimeoutMs),
    fun s x => { s with connectTimeoutMs := x }⟩]

def breakerParts : List (Part BreakerSettings) := [
  ⟨"max_failures", IsWord32, (·.maxFailures), fun s x => { s with maxFailures := x }⟩,
  ⟨"reset_timeout_ms", IsWord64, (·.resetTimeoutMs), fun s x => { s with resetTimeoutMs := x }⟩,
  ⟨"half_open_requests", IsWord32, (·.halfOpenRequests),
    fun s x => { s with halfOpenRequests := x }⟩]

/-- A map of breakers has the names of a table and no others, each with its settings over the
defaults of the structure. -/
def IsBreakers (v : Value) (m : NameMap BreakerSettings) : Prop :=
  ∃ entries, v = .table entries ∧
    ∀ name, Option.Rel (Overlays breakerParts {}) (entries.lookup name) (m.get? name)

def configParts : List (Part Config) := [
  ⟨"observability", Overlays observabilityParts {}, (·.observability),
    fun c x => { c with observability := x }⟩,
  ⟨"retry", Overlays retryParts {}, (·.retry), fun c x => { c with retry := x }⟩,
  ⟨"client", Overlays clientParts {}, (·.client), fun c x => { c with client := x }⟩,
  ⟨"breaker_defaults", Overlays breakerParts {}, (·.breakerDefaults),
    fun c x => { c with breakerDefaults := x }⟩,
  ⟨"breakers", IsBreakers, (·.breakers), fun c x => { c with breakers := x }⟩]

/-! ### Readers of values -/

namespace Decode

theorem natural_eq_ok_iff {bound n : Nat} {expected : String} {v : Value} :
    natural bound expected v = .ok n ↔ v = .integer n ∧ n < bound := by
  constructor
  · intro h
    unfold natural at h
    split at h
    next i =>
      split at h
      next hi =>
        obtain ⟨k, rfl⟩ := Int.eq_ofNat_of_zero_le hi.1
        cases h
        exact ⟨rfl, Int.ofNat_lt.1 hi.2⟩
      next => cases h
    next => cases h
  · rintro ⟨rfl, hn⟩
    exact natural_integer hn expected

theorem word32_eq_ok_iff (v : Value) (n : UInt32) : word32 v = .ok n ↔ IsWord32 v n := by
  constructor
  · intro h
    obtain ⟨k, hk, rfl⟩ := map_eq_ok_iff.1 h
    obtain ⟨rfl, hlt⟩ := natural_eq_ok_iff.1 hk
    rw [IsWord32, UInt32.toNat_ofNat_of_lt' hlt]
  · rintro rfl
    exact word32_integer n

theorem word64_eq_ok_iff (v : Value) (n : UInt64) : word64 v = .ok n ↔ IsWord64 v n := by
  constructor
  · intro h
    obtain ⟨k, hk, rfl⟩ := map_eq_ok_iff.1 h
    obtain ⟨rfl, hlt⟩ := natural_eq_ok_iff.1 hk
    rw [IsWord64, UInt64.toNat_ofNat_of_lt' hlt]
  · rintro rfl
    exact word64_integer n

theorem number_eq_ok_iff (v : Value) (x : Binary64) : number v = .ok x ↔ IsNumber v x := by
  cases v <;> simp [number, IsNumber, wrong, eq_comm]

theorem text_eq_ok_iff (v : Value) (s : String) : text v = .ok s ↔ IsText v s := by
  cases v <;> simp [text, IsText, wrong]

theorem boolean_eq_ok_iff (v : Value) (b : Bool) : boolean v = .ok b ↔ IsBoolean v b := by
  cases v <;> simp [boolean, IsBoolean, wrong]

/-! ### Settings -/

theorem readBy_of {α : Type} {p : Part α} {read : Value → Result p.β}
    (h : ∀ v x, read v = .ok x ↔ p.means v x) : p.ReadBy (.of p.key read p.set) :=
  ⟨read, rfl, fun v _ x => h v x⟩

theorem whole_observability : Whole observabilityParts where
  keys := by decide
  get_set := by simp [observabilityParts]
  apart := by simp [observabilityParts]
  ext := by
    rintro ⟨⟩ ⟨⟩ h
    simpa [observabilityParts] using h

theorem observability_eq_ok_iff {v : Value} (hv : v.Keyed) (s : ObservabilitySettings) :
    observability v = .ok s ↔ Overlays observabilityParts {} v s :=
  structureOf_eq_ok_iff whole_observability
    (.cons (readBy_of text_eq_ok_iff) <| .cons (readBy_of boolean_eq_ok_iff) <|
      .cons (readBy_of text_eq_ok_iff) .nil) _ hv {} s

theorem whole_retry : Whole retryParts where
  keys := by decide
  get_set := by simp [retryParts]
  apart := by simp [retryParts]
  ext := by
    rintro ⟨⟩ ⟨⟩ h
    simpa [retryParts] using h

theorem retry_eq_ok_iff {v : Value} (hv : v.Keyed) (s : RetrySettings) :
    retry v = .ok s ↔ Overlays retryParts {} v s :=
  structureOf_eq_ok_iff whole_retry
    (.cons (readBy_of word32_eq_ok_iff) <| .cons (readBy_of word64_eq_ok_iff) <|
      .cons (readBy_of word64_eq_ok_iff) <| .cons (readBy_of number_eq_ok_iff) <|
      .cons (readBy_of number_eq_ok_iff) .nil) _ hv {} s

theorem whole_client : Whole clientParts where
  keys := by decide
  get_set := by simp [clientParts]
  apart := by simp [clientParts]
  ext := by
    rintro ⟨⟩ ⟨⟩ h
    simpa [clientParts] using h

theorem client_eq_ok_iff {v : Value} (hv : v.Keyed) (s : ClientSettings) :
    client v = .ok s ↔ Overlays clientParts {} v s :=
  structureOf_eq_ok_iff whole_client
    (.cons (readBy_of word64_eq_ok_iff) <| .cons (readBy_of word64_eq_ok_iff) .nil) _ hv {} s

theorem whole_breaker : Whole breakerParts where
  keys := by decide
  get_set := by simp [breakerParts]
  apart := by simp [breakerParts]
  ext := by
    rintro ⟨⟩ ⟨⟩ h
    simpa [breakerParts] using h

theorem breaker_eq_ok_iff {v : Value} (hv : v.Keyed) (s : BreakerSettings) :
    breaker v = .ok s ↔ Overlays breakerParts {} v s :=
  structureOf_eq_ok_iff whole_breaker
    (.cons (readBy_of word32_eq_ok_iff) <| .cons (readBy_of word64_eq_ok_iff) <|
      .cons (readBy_of word32_eq_ok_iff) .nil) _ hv {} s

/-! ### Breakers by name -/

/-- A map binds the names of a table to what their values mean, and the others as another does. -/
def BoundOver (m₀ : NameMap BreakerSettings) (entries : Entries) (m : NameMap BreakerSettings) :
    Prop :=
  ∀ name, match entries.lookup name with
    | some v => ∃ s, m.get? name = some s ∧ Overlays breakerParts {} v s
    | none => m.get? name = m₀.get? name

theorem boundOver_cons {m₀ m : NameMap BreakerSettings} {e : String × Value} {entries : Entries}
    (hnew : e.1 ∉ entries.map Prod.fst) :
    BoundOver m₀ (e :: entries) m ↔
      ∃ s, Overlays breakerParts {} e.2 s ∧ BoundOver (m₀.insert e.1 s) entries m := by
  have found : (e :: entries).lookup e.1 = some e.2 := lookup_cons_of_eq rfl
  have missing : entries.lookup e.1 = none := lookup_eq_none_iff.2 hnew
  constructor
  · intro h
    have he := h e.1
    rw [found] at he
    obtain ⟨s, hs, hv⟩ := he
    refine ⟨s, hv, fun name => ?_⟩
    by_cases hname : name = e.1
    · subst hname
      rw [missing]
      exact hs.trans (NameMap.get?_insert_self ..).symm
    · have hother := h name
      rwa [lookup_cons_of_ne hname, ← NameMap.get?_insert_of_ne hname m₀ s] at hother
  · rintro ⟨s, hv, h⟩ name
    by_cases hname : name = e.1
    · subst hname
      have hs := h e.1
      rw [missing] at hs
      rw [found]
      exact ⟨s, hs.trans (NameMap.get?_insert_self ..), hv⟩
    · rw [lookup_cons_of_ne hname, ← NameMap.get?_insert_of_ne hname m₀ s]
      exact h name

theorem foldlM_breaker_eq_ok_iff {entries : Entries} (hn : (entries.map Prod.fst).Nodup)
    (hk : ∀ e ∈ entries, e.2.Keyed) (m₀ m : NameMap BreakerSettings) :
    entries.foldlM (fun m e => (breaker e.2).map (m.insert e.1)) m₀ = .ok m ↔
      BoundOver m₀ entries m := by
  induction entries generalizing m₀ with
  | nil =>
    constructor
    · rintro ⟨⟩ name
      rfl
    · intro h
      exact congrArg Except.ok (NameMap.ext_get? fun name => (h name).symm)
  | cons e entries ih =>
    obtain ⟨hnew, hn⟩ := List.nodup_cons.1 hn
    obtain ⟨he, hk⟩ := List.forall_mem_cons.1 hk
    rw [boundOver_cons hnew]
    constructor
    · intro h
      obtain ⟨m', hm', h⟩ := bind_eq_ok_iff.1 (List.foldlM_cons.symm.trans h)
      obtain ⟨s, hs, rfl⟩ := map_eq_ok_iff.1 hm'
      exact ⟨s, (breaker_eq_ok_iff he s).1 hs, (ih hn hk _).1 h⟩
    · rintro ⟨s, hs, h⟩
      refine List.foldlM_cons.trans (bind_eq_ok_iff.2 ⟨m₀.insert e.1 s, ?_, (ih hn hk _).2 h⟩)
      exact map_eq_ok_iff.2 ⟨s, (breaker_eq_ok_iff he s).2 hs, rfl⟩

theorem boundOver_empty {entries : Entries} {m : NameMap BreakerSettings} :
    BoundOver .empty entries m ↔
      ∀ name, Option.Rel (Overlays breakerParts {}) (entries.lookup name) (m.get? name) := by
  refine forall_congr' fun name => ?_
  cases entries.lookup name with
  | none => cases m.get? name <;> simp
  | some v => cases m.get? name <;> simp

theorem breakers_eq_ok_iff {v : Value} (hv : v.Keyed) (m : NameMap BreakerSettings) :
    breakers v = .ok m ↔ IsBreakers v m := by
  cases hv with
  | @table entries nodup inside =>
    refine (foldlM_breaker_eq_ok_iff nodup inside .empty m).trans ?_
    rw [boundOver_empty]
    exact ⟨fun h => ⟨entries, rfl, h⟩, fun ⟨_, he, h⟩ => by cases he; exact h⟩
  | _ =>
    constructor
    · rintro ⟨⟩
    · rintro ⟨_, ⟨⟩, _⟩

theorem whole_config : Whole configParts where
  keys := by decide
  get_set := by simp [configParts]
  apart := by simp [configParts]
  ext := by
    rintro ⟨⟩ ⟨⟩ h
    simpa [configParts] using h

/-- A document gives the configuration that it lays over the defaults. -/
theorem ofEntries_eq_ok_iff {tree : Entries} (ht : (Value.table tree).Keyed) (c : Config) :
    Config.ofEntries tree = .ok c ↔ Overlaid configParts {} tree c := by
  cases ht with
  | table nodup inside =>
    exact setEntries_eq_ok_iff whole_config
      (.cons ⟨observability, rfl, fun _ => observability_eq_ok_iff⟩ <|
        .cons ⟨retry, rfl, fun _ => retry_eq_ok_iff⟩ <|
        .cons ⟨client, rfl, fun _ => client_eq_ok_iff⟩ <|
        .cons ⟨breaker, rfl, fun _ => breaker_eq_ok_iff⟩ <|
        .cons ⟨breakers, rfl, fun _ => breakers_eq_ok_iff⟩ .nil) nodup inside {} c

end Decode

/-! ### Changes that are no matter -/

/-- The keys that each structure of settings knows. -/
def settingsKeys : List (String × List String) := [
  ("observability", observabilityParts.map Part.key), ("retry", retryParts.map Part.key),
  ("client", clientParts.map Part.key), ("breaker_defaults", breakerParts.map Part.key)]

/-- One change of a document that is no matter: of the order of its tables and keys, at any depth,
or a key more that is unknown where it stands, with any value. The changed table stands in front,
which is one of the orders. -/
inductive Harmless : Entries → Entries → Prop
  | order {tree tree' : Entries} (moved : Value.Reordered (.table tree) (.table tree')) :
      Harmless tree tree'
  | top {tree : Entries} {key : String} {v : Value} (keyed : v.Keyed)
      (new : key ∉ tree.map Prod.fst) (unknown : key ∉ configParts.map Part.key) :
      Harmless tree ((key, v) :: tree)
  | settings {tree entries : Entries} {name key : String} {keys : List String} {v : Value}
      (known : (name, keys) ∈ settingsKeys) (keyed : v.Keyed) (new : key ∉ entries.map Prod.fst)
      (unknown : key ∉ keys) :
      Harmless ((name, .table entries) :: tree) ((name, .table ((key, v) :: entries)) :: tree)
  | breaker {tree tables entries : Entries} {name key : String} {v : Value} (keyed : v.Keyed)
      (new : key ∉ entries.map Prod.fst) (unknown : key ∉ breakerParts.map Part.key) :
      Harmless (("breakers", .table ((name, .table entries) :: tables)) :: tree)
        (("breakers", .table ((name, .table ((key, v) :: entries)) :: tables)) :: tree)

section

variable {α : Type} {parts : List (Part α)} {p : Part α} {d a : α} {v v' : Value}
  {entries tree tree' : Entries} {key name : String}

/-- No value of the part is made of others. -/
def Part.Plain (p : Part α) : Prop := ∀ v x, p.means v x → v.nests = false

theorem Part.Plain.means_iff (hp : p.Plain) (h : v.Alike v') (x : p.β) :
    p.means v x ↔ p.means v' x := by
  rcases h with rfl | ⟨hv, hv'⟩
  · exact Iff.rfl
  · have none {w : Value} (hw : w.nests = true) : ¬p.means w x :=
      fun hx => Bool.false_ne_true ((hp w x hx).symm.trans hw)
    exact iff_of_false (none hv) (none hv')

theorem IsWord32.plain {n : UInt32} (h : IsWord32 v n) : v.nests = false := by rw [h]; rfl

theorem IsWord64.plain {n : UInt64} (h : IsWord64 v n) : v.nests = false := by rw [h]; rfl

theorem IsNumber.plain {x : Binary64} (h : IsNumber v x) : v.nests = false := by
  rcases h with rfl | ⟨n, rfl, -⟩ <;> rfl

theorem IsText.plain {s : String} (h : IsText v s) : v.nests = false := by rw [h]; rfl

theorem IsBoolean.plain {b : Bool} (h : IsBoolean v b) : v.nests = false := by rw [h]; rfl

theorem plain_observability : ∀ p ∈ observabilityParts, p.Plain := by
  simp only [observabilityParts, List.forall_mem_cons, List.not_mem_nil, false_imp_iff,
    implies_true, and_true]
  exact ⟨fun _ _ => IsText.plain, fun _ _ => IsBoolean.plain, fun _ _ => IsText.plain⟩

theorem plain_retry : ∀ p ∈ retryParts, p.Plain := by
  simp only [retryParts, List.forall_mem_cons, List.not_mem_nil, false_imp_iff, implies_true,
    and_true]
  exact ⟨fun _ _ => IsWord32.plain, fun _ _ => IsWord64.plain, fun _ _ => IsWord64.plain,
    fun _ _ => IsNumber.plain, fun _ _ => IsNumber.plain⟩

theorem plain_client : ∀ p ∈ clientParts, p.Plain := by
  simp only [clientParts, List.forall_mem_cons, List.not_mem_nil, false_imp_iff, implies_true,
    and_true]
  exact ⟨fun _ _ => IsWord64.plain, fun _ _ => IsWord64.plain⟩

theorem plain_breaker : ∀ p ∈ breakerParts, p.Plain := by
  simp only [breakerParts, List.forall_mem_cons, List.not_mem_nil, false_imp_iff, implies_true,
    and_true]
  exact ⟨fun _ _ => IsWord32.plain, fun _ _ => IsWord64.plain, fun _ _ => IsWord32.plain⟩

/-- The order is no matter for settings. -/
theorem overlays_iff_of_reordered (plain : ∀ p ∈ parts, p.Plain) (hv : v.Keyed)
    (h : v.Reordered v') (d a : α) : Overlays parts d v a ↔ Overlays parts d v' a := by
  obtain ⟨es, es', he, he', halike⟩ := h.entries?_alike hv (parts.map Part.key)
  have hcongr : Overlaid parts d es a ↔ Overlaid parts d es' a :=
    overlaid_congr (fun p hp => rel_mono (fun _ _ => (plain p hp).means_iff) (halike p.key)) d a
  simp only [Overlays, he, he', Option.some_inj, exists_eq_left', hcongr]

/-- A key that is unknown to settings is no matter for them. -/
theorem overlays_cons_of_unknown (h : key ∉ parts.map Part.key) (v : Value) (entries : Entries) :
    Overlays parts d (.table entries) a ↔ Overlays parts d (.table ((key, v) :: entries)) a := by
  have hcons : Overlaid parts d ((key, v) :: entries) a ↔ Overlaid parts d entries a :=
    overlaid_cons_of_unknown h
  simp only [Overlays, Value.entries?, Option.some_inj, exists_eq_left', hcons]

theorem Toml.Value.Keyed.lookup (h : (Value.table entries).Keyed)
    (hl : entries.lookup key = some v) : v.Keyed := by
  cases h with
  | table nodup inside => exact inside (key, v) ((lookup_eq_some_iff nodup).1 hl)

/-! ### Breakers and documents -/

theorem rel_iff {β : Type} {R : Value → β → Prop} {o o' : Option Value} {q : Option β}
    (h : Option.Rel (fun v v' => ∀ x, R v x ↔ R v' x) o o') :
    Option.Rel R o q ↔ Option.Rel R o' q := by
  cases h with
  | none => exact Iff.rfl
  | some hv =>
    cases q with
    | none => exact iff_of_false (by simp) (by simp)
    | some x => simpa using hv x

theorem isBreakers_of_reordered {m : NameMap BreakerSettings} (hv : v.Keyed) (h : v.Reordered v')
    (hm : IsBreakers v m) : IsBreakers v' m := by
  obtain ⟨entries, rfl, hm⟩ := hm
  cases v' with
  | table entries' =>
    refine ⟨entries', rfl, fun name => (rel_iff ?_).1 (hm name)⟩
    have hrel := h.rel_lookup (by cases hv; assumption) name
    generalize ho : entries.lookup name = found, entries'.lookup name = found' at hrel ⊢
    cases hrel with
    | none => exact .none
    | some hmoved =>
      refine .some fun s => ?_
      cases hmoved with
      | refl => exact Iff.rfl
      | single hmoved => exact overlays_iff_of_reordered plain_breaker (hv.lookup ho) hmoved {} s
  | _ => cases h

theorem isBreakers_cons {tables : Entries} {m : NameMap BreakerSettings}
    (h : ∀ s, Overlays breakerParts {} v s ↔ Overlays breakerParts {} v' s) :
    IsBreakers (.table ((name, v) :: tables)) m ↔ IsBreakers (.table ((name, v') :: tables)) m := by
  simp only [IsBreakers, Value.table.injEq, exists_eq_left']
  refine forall_congr' fun other => rel_iff ?_
  by_cases hn : other = name
  · rw [lookup_cons_of_eq hn, lookup_cons_of_eq hn]
    exact .some h
  · rw [lookup_cons_of_ne hn, lookup_cons_of_ne hn]
    cases tables.lookup other with
    | none => exact .none
    | some w => exact .some fun _ => Iff.rfl

/-- The order is no matter for any part of the configuration. -/
theorem means_iff_of_reordered {p : Part Config} (hp : p ∈ configParts) (hv : v.Keyed)
    (h : v.Reordered v') (x : p.β) : p.means v x ↔ p.means v' x := by
  simp only [configParts, List.mem_cons, List.not_mem_nil, or_false] at hp
  rcases hp with rfl | rfl | rfl | rfl | rfl
  · exact overlays_iff_of_reordered plain_observability hv h {} x
  · exact overlays_iff_of_reordered plain_retry hv h {} x
  · exact overlays_iff_of_reordered plain_client hv h {} x
  · exact overlays_iff_of_reordered plain_breaker hv h {} x
  · exact ⟨isBreakers_of_reordered hv h, isBreakers_of_reordered (h.keyed hv) h.symm⟩

/-- A table in front that means the same to its part. -/
theorem overlaid_cons_congr (h : ∀ p ∈ parts, p.key = name → ∀ x, p.means v x ↔ p.means v' x)
    (d a : α) :
    Overlaid parts d ((name, v) :: tree) a ↔ Overlaid parts d ((name, v') :: tree) a := by
  refine overlaid_congr (fun p hp => ?_) d a
  by_cases hk : p.key = name
  · rw [lookup_cons_of_eq hk, lookup_cons_of_eq hk]
    exact .some (h p hp hk)
  · rw [lookup_cons_of_ne hk, lookup_cons_of_ne hk]
    cases tree.lookup p.key with
    | none => exact .none
    | some w => exact .some fun _ => Iff.rfl

/-- Settings by name are parts of the configuration, and do not mind an unknown key. -/
theorem exists_settings {keys : List String} (known : (name, keys) ∈ settingsKeys)
    (unknown : key ∉ keys) (v : Value) (entries : Entries) :
    ∃ p ∈ configParts, p.key = name ∧
      ∀ x, p.means (.table entries) x ↔ p.means (.table ((key, v) :: entries)) x := by
  simp only [settingsKeys, List.mem_cons, List.not_mem_nil, or_false, Prod.mk.injEq] at known
  rcases known with ⟨rfl, rfl⟩ | ⟨rfl, rfl⟩ | ⟨rfl, rfl⟩ | ⟨rfl, rfl⟩
  · exact ⟨configParts.get ⟨0, by decide⟩, List.get_mem _ _, rfl,
      fun x => overlays_cons_of_unknown unknown v entries⟩
  · exact ⟨configParts.get ⟨1, by decide⟩, List.get_mem _ _, rfl,
      fun x => overlays_cons_of_unknown unknown v entries⟩
  · exact ⟨configParts.get ⟨2, by decide⟩, List.get_mem _ _, rfl,
      fun x => overlays_cons_of_unknown unknown v entries⟩
  · exact ⟨configParts.get ⟨3, by decide⟩, List.get_mem _ _, rfl,
      fun x => overlays_cons_of_unknown unknown v entries⟩

namespace Harmless

/-- After a change each key is still there once, and before it was. -/
theorem keyed_iff (h : Harmless tree tree') :
    (Value.table tree).Keyed ↔ (Value.table tree').Keyed := by
  cases h with
  | order moved => exact moved.keyed_iff
  | top keyed new unknown => simp [Value.keyed_table_cons, keyed, new]
  | settings known keyed new unknown => simp [Value.keyed_table_cons, keyed, new]
  | breaker keyed new unknown => simp [Value.keyed_table_cons, keyed, new]

/-- A change is no matter for the configuration. -/
theorem overlaid_iff (h : Harmless tree tree') (ht : (Value.table tree).Keyed) (c : Config) :
    Overlaid configParts {} tree c ↔ Overlaid configParts {} tree' c := by
  cases h with
  | order moved =>
    refine overlaid_congr (fun p hp => ?_) {} c
    have hrel := moved.rel_lookup (by cases ht; assumption) p.key
    generalize ho : tree.lookup p.key = found, tree'.lookup p.key = found' at hrel ⊢
    cases hrel with
    | none => exact .none
    | some hmoved =>
      refine .some fun x => ?_
      cases hmoved with
      | refl => exact Iff.rfl
      | single hmoved => exact means_iff_of_reordered hp (ht.lookup ho) hmoved x
  | top keyed new unknown => exact (overlaid_cons_of_unknown unknown).symm
  | @settings tree entries name key keys v known keyed new unknown =>
    obtain ⟨q, hq, hname, hmeans⟩ := exists_settings known unknown v entries
    refine overlaid_cons_congr (fun p hp hk => ?_) {} c
    obtain rfl := Decode.whole_config.eq_of_key hp hq (hk.trans hname.symm)
    exact hmeans
  | @breaker tree tables entries name key v keyed new unknown =>
    have hbreakers : configParts.get ⟨4, by decide⟩ ∈ configParts := List.get_mem _ _
    refine overlaid_cons_congr (fun p hp hk => ?_) {} c
    obtain rfl := Decode.whole_config.eq_of_key hp hbreakers hk
    exact fun m => isBreakers_cons fun s => overlays_cons_of_unknown unknown v entries

/-- Nor are any number of changes, made or undone. -/
theorem overlaid_iff_of_eqvGen (h : Relation.EqvGen Harmless tree tree') :
    ((Value.table tree).Keyed ↔ (Value.table tree').Keyed) ∧
      ((Value.table tree).Keyed → ∀ c,
        Overlaid configParts {} tree c ↔ Overlaid configParts {} tree' c) := by
  induction h with
  | rel tree tree' h => exact ⟨h.keyed_iff, h.overlaid_iff⟩
  | refl tree => exact ⟨Iff.rfl, fun _ _ => Iff.rfl⟩
  | symm tree tree' _ ih => exact ⟨ih.1.symm, fun ht c => (ih.2 (ih.1.2 ht) c).symm⟩
  | trans tree tree' tree'' _ _ ih ih' =>
    exact ⟨ih.1.trans ih'.1, fun ht c => (ih.2 ht c).trans (ih'.2 (ih.1.1 ht) c)⟩

end Harmless

end

/-! ### Configurations of texts -/

namespace Config

/-- A configuration is laid over the defaults by a document. -/
structure OverlaidBy (tree : Entries) (c : Config) : Prop where
  /-- The document is a tree of tables that have each key once. -/
  keyed : (Value.table tree).Keyed
  /-- Every part is what the value of its key means, or the default of its own structure, -/
  overlaid : Overlaid configParts {} tree c
  /-- and no other configuration is. -/
  only : ∀ d, Overlaid configParts {} tree d → d = c
  /-- There are breakers just of the names in the document. -/
  names : ∀ name, name ∈ c.breakers.names ↔
    ∃ tables, tree.lookup "breakers" = some (.table tables) ∧ name ∈ tables.map Prod.fst
  /-- Documents that only differ in order and unknown keys give the same configuration, -/
  harmless : ∀ tree', Relation.EqvGen Harmless tree tree' → ofEntries tree' = .ok c
  /-- and so do their texts. -/
  texts : ∀ text tree', read? text.toList = some tree' → Relation.EqvGen Harmless tree tree' →
    parse text = .ok c

theorem mem_names_of_overlaid {tree : Entries} {c : Config}
    (h : Overlaid configParts {} tree c) (name : String) :
    name ∈ c.breakers.names ↔
      ∃ tables, tree.lookup "breakers" = some (.table tables) ∧ name ∈ tables.map Prod.fst := by
  have hbreakers := h (configParts.get ⟨4, by decide⟩) (List.get_mem _ _)
  rw [show (configParts.get ⟨4, by decide⟩).key = "breakers" from rfl] at hbreakers
  rw [NameMap.mem_names_iff]
  cases ho : tree.lookup "breakers" with
  | none =>
    rw [ho] at hbreakers
    have hempty : c.breakers = .empty := hbreakers
    simp [hempty]
  | some v =>
    rw [ho] at hbreakers
    obtain ⟨tables, rfl, hm⟩ := hbreakers
    have hname : Option.Rel (Overlays breakerParts {}) (tables.lookup name)
      (c.breakers.get? name) := hm name
    simp only [Option.some_inj, Value.table.injEq, exists_eq_left', ← lookup_isSome_iff]
    generalize tables.lookup name = found, c.breakers.get? name = bound at hname
    cases hname <;> simp

theorem overlay_of_parse {text : String} {c : Config} (h : parse text = .ok c) :
    ∃ tree, read? text.toList = some tree ∧ c.OverlaidBy tree := by
  obtain ⟨tree, hread, hc, hv⟩ := exists_of_parse h
  have hk := keyed_of_read? hread
  have hover := (Decode.ofEntries_eq_ok_iff hk c).1 hc
  have harmless {tree' : Entries} (ht : Relation.EqvGen Harmless tree tree') :
      ofEntries tree' = .ok c := by
    obtain ⟨hkeyed, hiff⟩ := Harmless.overlaid_iff_of_eqvGen ht
    exact (Decode.ofEntries_eq_ok_iff (hkeyed.1 hk) c).2 ((hiff hk c).1 hover)
  refine ⟨tree, hread, ?_⟩
  constructor
  case keyed => exact hk
  case overlaid => exact hover
  case only =>
    intro d hd
    have := (Decode.ofEntries_eq_ok_iff hk d).2 hd
    cases this.symm.trans hc
    rfl
  case names => exact mem_names_of_overlaid hover
  case harmless =>
    intro tree' ht
    exact harmless ht
  case texts =>
    intro text' tree' hread' ht
    rw [parse_of_read? hread' (harmless ht), if_pos hv]

/-- Settings of retries and of one breaker, and defaults besides. -/
def sparse : Config where
  retry := { maxAttempts := 5 }
  breakers := .ofList [("payment", { maxFailures := 2, resetTimeoutMs := 1500 })]

def sparseText : String :=
  "[retry]\nmax_attempts = 5\n" ++
    "[breakers.payment]\nmax_failures = 2\nreset_timeout_ms = 1500\n"

theorem overlay_of_parse_sparse :
    parse sparseText = .ok sparse ∧
      ∃ tree, read? sparseText.toList = some tree ∧ sparse.OverlaidBy tree := by
  have hparse : parse sparseText = .ok sparse := by decide +kernel
  exact ⟨hparse, overlay_of_parse hparse⟩

/-- The same in another order, with keys that nobody knows. -/
example : parse ("owner = [1]\n[breakers]\n" ++
    "payment = \x7b reset_timeout_ms = 1500, color = 'red', max_failures = 2 \x7d\n" ++
    "[extra]\nmax_attempts = 9\n[retry]\nlimit = 7\nmax_attempts = 5\n") = .ok sparse := by
  decide +kernel

end Config

end CallGuard
