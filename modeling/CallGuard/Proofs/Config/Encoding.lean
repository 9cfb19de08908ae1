import CallGuard.Config.Encode
import CallGuard.Proofs.Toml.Document
import CallGuard.Proofs.Toml.Tree

/-! Sections of a written configuration and the tables they are read as. A section shows the
entries of its settings line by line (`Section.Shows`), and sections under one another are read as
the statements of their tables (`reads_layout`). Settings have their sections just if their
integers fit (`exists_sections`, `sections?_eq_none`). -/

namespace CallGuard

open Text Toml

/-! ### Entries -/

def ObservabilitySettings.entries (s : ObservabilitySettings) : Entries :=
  [("log_level", .string s.logLevel), ("metrics_enabled", .boolean s.metricsEnabled),
    ("metrics_address", .string s.metricsAddress)]

def RetrySettings.entries (s : RetrySettings) : Entries :=
  [("max_attempts", .integer s.maxAttempts.toNat),
    ("initial_delay_ms", .integer s.initialDelayMs.toNat),
    ("max_delay_ms", .integer s.maxDelayMs.toNat), ("multiplier", .float s.multiplier),
    ("randomize_factor", .float s.randomizeFactor)]

def ClientSettings.entries (s : ClientSettings) : Entries :=
  [("request_timeout_ms", .integer s.requestTimeoutMs.toNat),
    ("connect_timeout_ms", .integer s.connectTimeoutMs.toNat)]

def BreakerSettings.entries (s : BreakerSettings) : Entries :=
  [("max_failures", .integer s.maxFailures.toNat),
    ("reset_timeout_ms", .integer s.resetTimeoutMs.toNat),
    ("half_open_requests", .integer s.halfOpenRequests.toNat)]

namespace Config

/-- The tables of the settings that are always there. -/
def tables (c : Config) : Tables :=
  [("observability", c.observability.entries), ("retry", c.retry.entries),
    ("client", c.client.entries), ("breaker_defaults", c.breakerDefaults.entries)]

/-- The tables of the named breakers. -/
def breakerTables (c : Config) : Tables := c.breakers.entries.map fun e => (e.1, e.2.entries)

/-- The document of a configuration, in which there is a table of breakers even if no breaker is
named. -/
def document (c : Config) : Entries :=
  ofTables c.tables ++ [("breakers", .table (ofTables c.breakerTables))]

/-- The integers that a document may be too small for. -/
def longs (c : Config) : List UInt64 :=
  [c.retry.initialDelayMs, c.retry.maxDelayMs, c.client.requestTimeoutMs,
    c.client.connectTimeoutMs, c.breakerDefaults.resetTimeoutMs] ++
    c.breakers.entries.map fun e => e.2.resetTimeoutMs

end Config

namespace Encode

/-! ### Values -/

/-- Whether an integer is within the range of a document. -/
def Fits (n : UInt64) : Prop := (n.toNat : Int) ≤ maxInteger

theorem word64?_of_fits {n : UInt64} (h : Fits n) :
    word64? n = some (Numeral.render 10 n.toNat) := if_pos h

theorem word64?_of_not_fits {n : UInt64} (h : ¬Fits n) : word64? n = none := if_neg h

theorem written_natural {n : Nat} (h : (n : Int) ≤ maxInteger) :
    Written (Numeral.render 10 n) (.integer n) := by
  have hread (rest : Chars) := scalar?_integer h rest
  obtain ⟨c, cs, he, hc⟩ := (Numeral.plain_render n).exists_cons
  rw [he] at hread ⊢
  exact written_scalar (not_mem_of_any hc rfl) hread

theorem written_word32 (n : UInt32) : Written (word32 n) (.integer n.toNat) := by
  refine written_natural ?_
  have hlt := n.toNat_lt
  unfold maxInteger
  omega

theorem written_text (s : String) : Written (string s) (.string s) := by
  have hw := written_string s.toList
  rwa [String.ofList_toList] at hw

theorem written_boolean (b : Bool) : Written (boolean b) (.boolean b) := by
  cases b with
  | false =>
    have he : boolean false = ['f', 'a', 'l', 's', 'e'] := by simp [boolean, boolText]
    rw [he]
    exact written_scalar (by decide) fun _ => scalar?_false _
  | true =>
    have he : boolean true = ['t', 'r', 'u', 'e'] := by simp [boolean, boolText]
    rw [he]
    exact written_scalar (by decide) fun _ => scalar?_true _

theorem toList_sign (negative : Bool) :
    (if negative then "-" else "").toList = signOf negative := by
  cases negative with
  | false => simp [signOf]
  | true => simp [signOf]

/-- A numeral with a point, after its sign. -/
theorem written_pointed {whole fraction : List Char} (h : Binary64.Pointed whole fraction)
    (negative : Bool) {x : Binary64}
    (hx : Binary64.readUnsigned? negative (whole ++ '.' :: fraction) = some x)
    (hf : x ≠ .infinite false) :
    Written (signOf negative ++ whole ++ '.' :: fraction) (.float x) := by
  have hread (rest : Chars) := scalar?_pointed h negative hx hf rest
  cases negative with
  | true => exact written_scalar (by decide) hread
  | false =>
    obtain ⟨c, cs, rfl, hc⟩ := h.plain.exists_cons
    exact written_scalar (not_mem_of_any hc rfl) hread

theorem written_number {x : Binary64} (hx : x ≠ .nan) : Written (number x) (.float x) := by
  cases x with
  | nan => exact absurd rfl hx
  | infinite negative =>
    cases negative with
    | false =>
      have he : number (.infinite false) = ['i', 'n', 'f'] := by
        simp [number, Binary64.render, numberNotation]
      rw [he]
      exact written_scalar (by decide) fun _ => scalar?_infinite _
    | true =>
      have he : number (.infinite true) = ['-', 'i', 'n', 'f'] := by
        simp [number, Binary64.render, numberNotation]
      rw [he]
      exact written_scalar (by decide) fun _ => scalar?_negative_infinite _
  | finite negative units hr =>
    have hf : Binary64.finite negative units hr ≠ .infinite false := fun h => by cases h
    by_cases hz : units = 0
    · -- zero has no shortest digits
      subst hz
      have he : number (.finite negative 0 hr) = signOf negative ++ ['0'] ++ '.' :: ['0'] := by
        simp [number, Binary64.render, numberNotation, toList_sign]
      rw [he]
      exact written_pointed Binary64.pointed_zero negative (Binary64.readUnsigned?_zero hr negative) hf
    · have hpos := Nat.pos_of_ne_zero hz
      have hnear := Binary64.near_shortest hr.2 hpos
      obtain ⟨whole, fraction, h⟩ :=
        Binary64.exists_shows (Binary64.coefficient_ne_zero hnear hr.2 hpos)
      have he : number (.finite negative units hr) =
          signOf negative ++ whole ++ '.' :: fraction := by
        simp [number, Binary64.render, numberNotation, hz, toList_sign, h.text]
      rw [he]
      exact written_pointed h.pointed negative (h.read hr hpos negative) hf

/-! ### Sections -/

variable {rest : Chars} {ss : List Statement}

/-- A line that shows an entry. -/
structure Line.Shows (l : Line) (e : String × Value) : Prop where
  key : l.1 = e.1
  written : Written l.2 e.2

/-- A section that shows the table at a path. -/
structure Section.Shows (s : Section) (path : Path) (entries : Entries) : Prop where
  keys : s.path = path.parents ++ [path.key]
  short : path.parents.length < maxDepth
  lines : List.Forall₂ Line.Shows s.lines entries

theorem reads_lines {lines : List Line} {entries : Entries}
    (h : List.Forall₂ Line.Shows lines entries) (hr : Reads rest ss) :
    Reads (lines.flatMap Line.render ++ rest)
      ((entries.map fun e => .assign ⟨[], e.1⟩ e.2) ++ ss) := by
  induction h with
  | nil => exact hr
  | @cons l e lines entries hl _ ih =>
    have hread := ih.assign l.1 hl.written
    simp only [List.append_assoc, List.cons_append, List.nil_append] at hread
    rw [List.flatMap_cons, List.map_cons, ← hl.key]
    simpa [Line.render] using hread

theorem toPath_append (first : String) (keys : List String) (key : String) :
    toPath first (keys ++ [key]) = ⟨first :: keys, key⟩ := by
  induction keys generalizing first with
  | nil => rfl
  | cons next keys ih => simp [toPath, ih]

theorem intercalate_keys (first : String) (keys : List String) :
    ['.'].intercalate (writeKey first.toList :: keys.map fun key => writeKey key.toList) =
      writeKey first.toList ++ dotted keys := by
  induction keys generalizing first with
  | nil => simp [dotted]
  | cons key keys ih =>
    rw [List.map_cons, List.intercalate_cons_cons, ih]
    simp [dotted]

theorem header_cons (first : String) (keys : List String) :
    header (first :: keys) = '[' :: (writeKey first.toList ++ dotted keys ++ [']']) ++ ['\n'] := by
  simp [header, intercalate_keys]

/-- The statements of a section. -/
theorem Section.Shows.reads {s : Section} {path : Path} {entries : Entries}
    (h : s.Shows path entries) (hr : Reads rest ss) :
    Reads (s.render ++ rest) (opened path entries ++ ss) := by
  have hlines := reads_lines h.lines hr
  obtain ⟨parents, key⟩ := path
  have hkeys := h.keys
  have hshort := h.short
  have hread : Reads (header s.path ++ (s.lines.flatMap Line.render ++ rest))
      (.openTable ⟨parents, key⟩ :: ((entries.map fun e => .assign ⟨[], e.1⟩ e.2) ++ ss)) := by
    cases parents with
    | nil =>
      have hopen := hlines.open key [] (by decide)
      rw [hkeys, List.nil_append, header_cons]
      simpa [toPath] using hopen
    | cons first parents =>
      have hopen := hlines.open first (parents ++ [key]) (by simpa using hshort)
      rw [hkeys, List.cons_append, header_cons]
      rw [toPath_append] at hopen
      simpa using hopen
  simpa [Section.render, opened] using hread

/-- Sections that show tables at their paths. -/
abbrev Show (sections : List Section) (tables : List (Path × Entries)) : Prop :=
  List.Forall₂ (fun s t => Section.Shows s t.1 t.2) sections tables

theorem layout_cons_cons (s next : Section) (sections : List Section) :
    layout (s :: next :: sections) = s.render ++ '\n' :: layout (next :: sections) := by
  simp [layout, List.intercalate_cons_cons]

/-- Sections under one another show their tables in order. -/
theorem reads_layout {sections : List Section} {tables : List (Path × Entries)}
    (h : Show sections tables) : Reads (layout sections) (statements tables) := by
  -- only between two sections is there an empty line
  induction h with
  | nil => exact reads_nil
  | @cons s t sections tables hs htail ih =>
    cases htail with
    | nil =>
      have hread := hs.reads reads_nil
      simpa [layout, statements] using hread
    | cons hnext htail =>
      rw [layout_cons_cons]
      exact hs.reads ih.newline

theorem afterMark_layout (s : Section) (sections : List Section) :
    afterMark (layout (s :: sections)) = layout (s :: sections) := by
  cases sections with
  | nil => rfl
  | cons next sections => rfl

/-! ### Settings -/

theorem observability_shows (s : ObservabilitySettings) :
    (observability s).Shows ⟨[], "observability"⟩ s.entries :=
  ⟨rfl, by decide, .cons ⟨rfl, written_text _⟩
    (.cons ⟨rfl, written_boolean _⟩ (.cons ⟨rfl, written_text _⟩ .nil))⟩

theorem exists_retry {s : RetrySettings} (hinitial : Fits s.initialDelayMs)
    (hmax : Fits s.maxDelayMs) (hmultiplier : s.multiplier ≠ .nan)
    (hfactor : s.randomizeFactor ≠ .nan) :
    ∃ sec, retry? s = some sec ∧ sec.Shows ⟨[], "retry"⟩ s.entries := by
  refine ⟨_, by simp only [word64?_of_fits hinitial, word64?_of_fits hmax, retry?]; rfl, rfl,
    by decide, ?_⟩
  exact .cons ⟨rfl, written_word32 _⟩ (.cons ⟨rfl, written_natural hinitial⟩
    (.cons ⟨rfl, written_natural hmax⟩ (.cons ⟨rfl, written_number hmultiplier⟩
      (.cons ⟨rfl, written_number hfactor⟩ .nil))))

theorem exists_client {s : ClientSettings} (hrequest : Fits s.requestTimeoutMs)
    (hconnect : Fits s.connectTimeoutMs) :
    ∃ sec, client? s = some sec ∧ sec.Shows ⟨[], "client"⟩ s.entries := by
  refine ⟨_, by simp only [client?, word64?_of_fits hrequest, word64?_of_fits hconnect]; rfl, rfl,
    by decide, ?_⟩
  exact .cons ⟨rfl, written_natural hrequest⟩ (.cons ⟨rfl, written_natural hconnect⟩ .nil)

theorem exists_breaker {s : BreakerSettings} (h : Fits s.resetTimeoutMs) (path : Path)
    (hp : path.parents.length < maxDepth) :
    ∃ sec, breaker? (path.parents ++ [path.key]) s = some sec ∧ sec.Shows path s.entries := by
  refine ⟨_, by simp only [breaker?, word64?_of_fits h]; rfl, rfl, hp, ?_⟩
  exact .cons ⟨rfl, written_word32 _⟩ (.cons ⟨rfl, written_natural h⟩
    (.cons ⟨rfl, written_word32 _⟩ .nil))

theorem exists_mapM_breaker {entries : List (String × BreakerSettings)}
    (h : ∀ e ∈ entries, Fits e.2.resetTimeoutMs) :
    ∃ sections, entries.mapM (fun e => breaker? ["breakers", e.1] e.2) = some sections ∧
      Show sections (placed ["breakers"] (entries.map fun e => (e.1, e.2.entries))) := by
  induction entries with
  | nil => exact ⟨[], rfl, .nil⟩
  | cons e entries ih =>
    obtain ⟨he, hentries⟩ := List.forall_mem_cons.1 h
    obtain ⟨s, hs, hshows⟩ := exists_breaker he ⟨["breakers"], e.1⟩
      (show 1 < maxDepth by decide)
    obtain ⟨sections, hsections, hshow⟩ := ih hentries
    refine ⟨s :: sections, ?_, .cons hshows hshow⟩
    rw [List.cons_append, List.nil_append] at hs
    simp [List.mapM_cons, hs, hsections]

/-- The sections of the named breakers, of which one is a bare header if there are none. -/
theorem exists_breakers {m : NameMap BreakerSettings}
    (h : ∀ e ∈ m.entries, Fits e.2.resetTimeoutMs) :
    ∃ sections, breakers? m = some sections ∧
      Show sections (nested "breakers" (m.entries.map fun e => (e.1, e.2.entries))) := by
  obtain ⟨sections, hs, hshow⟩ := exists_mapM_breaker h
  unfold breakers?
  split
  next hm =>
    rw [hm]
    exact ⟨_, rfl, .cons ⟨rfl, by decide, .nil⟩ .nil⟩
  next hm =>
    refine ⟨sections, hs, ?_⟩
    cases he : m.entries with
    | nil => exact absurd he hm
    | cons e entries =>
      rw [he] at hshow
      exact hshow

/-! ### Integers beyond the range -/

theorem retry?_eq_none {s : RetrySettings} (h : ¬Fits s.initialDelayMs ∨ ¬Fits s.maxDelayMs) :
    retry? s = none := by
  rcases h with h | h
  · simp [word64?_of_not_fits h, retry?]
  · simp [word64?_of_not_fits h, retry?]

theorem client?_eq_none {s : ClientSettings}
    (h : ¬Fits s.requestTimeoutMs ∨ ¬Fits s.connectTimeoutMs) : client? s = none := by
  rcases h with h | h
  · simp [client?, word64?_of_not_fits h]
  · simp [client?, word64?_of_not_fits h]

theorem breaker?_eq_none {s : BreakerSettings} (h : ¬Fits s.resetTimeoutMs) (path : List String) :
    breaker? path s = none := by
  simp [breaker?, word64?_of_not_fits h]

theorem mapM_breaker_eq_none {e : String × BreakerSettings}
    {entries : List (String × BreakerSettings)} (he : e ∈ entries)
    (h : ¬Fits e.2.resetTimeoutMs) :
    entries.mapM (fun e => breaker? ["breakers", e.1] e.2) = none := by
  induction entries with
  | nil => cases he
  | cons e' entries ih =>
    rw [List.mapM_cons]
    rcases List.mem_cons.1 he with rfl | he
    · rw [breaker?_eq_none h]
      rfl
    · simp [ih he]

theorem breakers?_eq_none {m : NameMap BreakerSettings} {e : String × BreakerSettings}
    (he : e ∈ m.entries) (h : ¬Fits e.2.resetTimeoutMs) : breakers? m = none := by
  unfold breakers?
  split
  next hm =>
    rw [hm] at he
    cases he
  next hm => exact mapM_breaker_eq_none he h

end Encode

/-! ### Whole configurations -/

namespace Config

open Encode

variable {c : Config}

/-- The tables of a configuration at their paths. -/
def places (c : Config) : List (Path × Entries) :=
  placed [] c.tables ++ nested "breakers" c.breakerTables

theorem exists_sections (h : ∀ n ∈ c.longs, Fits n) (hmultiplier : c.retry.multiplier ≠ .nan)
    (hfactor : c.retry.randomizeFactor ≠ .nan) :
    ∃ s sections, sections? c = some (s :: sections) ∧ Show (s :: sections) c.places := by
  simp only [longs, List.cons_append, List.nil_append, List.forall_mem_cons,
    List.forall_mem_map] at h
  obtain ⟨hinitial, hmax, hrequest, hconnect, hdefaults, hnamed⟩ := h
  obtain ⟨retry, hretry, retryShows⟩ := exists_retry hinitial hmax hmultiplier hfactor
  obtain ⟨client, hclient, clientShows⟩ := exists_client hrequest hconnect
  obtain ⟨defaults, hdefaults, defaultsShows⟩ :=
    exists_breaker hdefaults ⟨[], "breaker_defaults"⟩ (by decide)
  obtain ⟨named, hnamed, namedShow⟩ := exists_breakers hnamed
  refine ⟨Encode.observability c.observability, retry :: client :: defaults :: named, ?_, ?_⟩
  · rw [List.nil_append] at hdefaults
    simp [sections?, hretry, hclient, hdefaults, hnamed]
  · exact .cons (observability_shows _) (.cons retryShows (.cons clientShows
      (.cons defaultsShows namedShow)))

theorem sections?_eq_none {n : UInt64} (hn : n ∈ c.longs) (h : ¬Fits n) : sections? c = none := by
  simp only [longs, List.cons_append, List.nil_append, List.mem_cons, List.mem_map] at hn
  rcases hn with rfl | rfl | rfl | rfl | rfl | ⟨e, he, rfl⟩
  · simp [sections?, retry?_eq_none (.inl h)]
  · simp [sections?, retry?_eq_none (.inr h)]
  · simp [sections?, client?_eq_none (.inl h)]
  · simp [sections?, client?_eq_none (.inr h)]
  · simp [sections?, breaker?_eq_none h]
  · simp [sections?, breakers?_eq_none he h]

theorem distinct_tables (c : Config) : Distinct (c.tables ++ [("breakers", [])]) := by
  constructor
  · show ["observability", "retry", "client", "breaker_defaults", "breakers"].Nodup
    decide
  · intro t ht
    simp only [tables, List.cons_append, List.nil_append, List.mem_cons, List.not_mem_nil,
      or_false] at ht
    rcases ht with rfl | rfl | rfl | rfl | rfl
    · show ["log_level", "metrics_enabled", "metrics_address"].Nodup
      decide
    · show ["max_attempts", "initial_delay_ms", "max_delay_ms", "multiplier",
        "randomize_factor"].Nodup
      decide
    · show ["request_timeout_ms", "connect_timeout_ms"].Nodup
      decide
    · show ["max_failures", "reset_timeout_ms", "half_open_requests"].Nodup
      decide
    · exact List.nodup_nil

theorem distinct_breakerTables (c : Config) : Distinct c.breakerTables := by
  constructor
  · have hnames : c.breakerTables.map Prod.fst = c.breakers.entries.map Prod.fst := by
      simp [breakerTables]
    rw [hnames, List.Nodup, List.pairwise_map]
    exact c.breakers.rising.imp fun h => String.ne_of_lt h
  · intro t ht
    obtain ⟨e, -, rfl⟩ := List.mem_map.1 ht
    show ["max_failures", "reset_timeout_ms", "half_open_requests"].Nodup
    decide

/-- The written text of a configuration is read as its document. -/
theorem exists_write (h : ∀ n ∈ c.longs, Fits n) (hmultiplier : c.retry.multiplier ≠ .nan)
    (hfactor : c.retry.randomizeFactor ≠ .nan) :
    ∃ text, c.write? = some text ∧ read? text.toList = some c.document := by
  obtain ⟨s, sections, hs, hshow⟩ := exists_sections h hmultiplier hfactor
  refine ⟨String.ofList (layout (s :: sections)), by rw [write?, hs]; rfl, ?_⟩
  rw [String.toList_ofList, (reads_layout hshow).read (afterMark_layout s sections)]
  exact tree?_nested _ c.distinct_tables c.distinct_breakerTables

end Config

end CallGuard
