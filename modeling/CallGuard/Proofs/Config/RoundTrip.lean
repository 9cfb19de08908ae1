import CallGuard.Config.Decode
import CallGuard.Proofs.Config.Encoding
import CallGuard.Proofs.NameMap

/-! A configuration that can be written is read back as it was. Every table of its document gives
the settings it was made of, whatever the defaults are, and the table of breakers gives the map. -/

namespace CallGuard

open Toml

namespace Decode

/-! ### Single values -/

theorem natural_integer {bound n : Nat} (h : n < bound) (expected : String) :
    natural bound expected (.integer n) = .ok n := by
  have hlt : (n : Int) < bound := by omega
  simp [natural, hlt]

theorem word32_integer (n : UInt32) : word32 (.integer n.toNat) = .ok n := by
  rw [word32, natural_integer n.toNat_lt]
  simp [Except.map]

theorem word64_integer (n : UInt64) : word64 (.integer n.toNat) = .ok n := by
  rw [word64, natural_integer n.toNat_lt]
  simp [Except.map]

/-! ### Settings -/

theorem find?_field {fields : List (Field α)} (hn : (fields.map Field.key).Nodup) {f : Field α}
    (hf : f ∈ fields) : fields.find? (fun g => g.key = f.key) = some f := by
  induction fields with
  | nil => cases hf
  | cons first fields ih =>
    obtain ⟨hfirst, hrest⟩ := List.nodup_cons.1 hn
    rcases List.mem_cons.1 hf with rfl | hf
    · simp
    · have hne : first.key ≠ f.key := fun h => hfirst (h ▸ List.mem_map_of_mem hf)
      rw [List.find?_cons_of_neg (by simpa using hne)]
      exact ih hrest hf

theorem setEntries_cons (fields : List (Field α)) (a : α) (e : String × Value) (entries : Entries) :
    setEntries fields a (e :: entries) =
      (setEntry fields a e).bind fun a => setEntries fields a entries := List.foldlM_cons

/-- A list is read as a table that has its items under the first keys. -/
theorem setItems_eq_setEntries {all fields : List (Field α)}
    (hf : ∀ f ∈ fields, all.find? (fun g => g.key = f.key) = some f) (items : List Value) (a : α) :
    setItems fields a items = setEntries all a ((fields.map Field.key).zip items) := by
  -- the fields still to come get shorter, the ones that are searched stay all of them
  induction fields generalizing a items with
  | nil => cases items <;> rfl
  | cons f fields ih =>
    obtain ⟨hfirst, hf⟩ := List.forall_mem_cons.1 hf
    cases items with
    | nil => rfl
    | cons v items =>
      have hset : setEntry all a (f.key, v) = f.set a v := by
        rw [setEntry, hfirst]
      rw [List.map_cons, List.zip_cons_cons, setEntries_cons, hset]
      exact congrArg _ (funext fun a => ih hf items a)

/-- A table with every key in its place is read as the list of its values. -/
theorem setEntries_eq_setItems {fields : List (Field α)} (hn : (fields.map Field.key).Nodup)
    {entries : Entries} (he : entries.map Prod.fst = fields.map Field.key) (a : α) :
    setEntries fields a entries = setItems fields a (entries.map Prod.snd) := by
  rw [setItems_eq_setEntries fun _ hf => find?_field hn hf, ← List.zip_of_prod he rfl]

theorem observability_entries (s : ObservabilitySettings) :
    observability (.table s.entries) = .ok s :=
  setEntries_eq_setItems (by decide) rfl _

theorem retry_entries (s : RetrySettings) : retry (.table s.entries) = .ok s := by
  refine (setEntries_eq_setItems (by decide) rfl _).trans ?_
  simp only [RetrySettings.entries, retryFields, List.map_cons, List.map_nil, setItems, Field.of,
    word32_integer, word64_integer, number]
  rfl

theorem client_entries (s : ClientSettings) : client (.table s.entries) = .ok s := by
  refine (setEntries_eq_setItems (by decide) rfl _).trans ?_
  simp only [ClientSettings.entries, clientFields, List.map_cons, List.map_nil, setItems, Field.of,
    word64_integer]
  rfl

theorem breaker_entries (s : BreakerSettings) : breaker (.table s.entries) = .ok s := by
  refine (setEntries_eq_setItems (by decide) rfl _).trans ?_
  simp only [BreakerSettings.entries, breakerFields, List.map_cons, List.map_nil, setItems,
    Field.of, word32_integer, word64_integer]
  rfl

/-- Names in rising order are bound one after another. -/
theorem foldlM_insert {entries : List (String × BreakerSettings)} {m : NameMap BreakerSettings}
    (hr : Rising (m.entries ++ entries)) :
    (entries.map fun e => (e.1, Value.table e.2.entries)).foldlM
      (fun m e => (breaker e.2).map (m.insert e.1)) m = .ok ⟨m.entries ++ entries, hr⟩ := by
  induction entries generalizing m with
  | nil =>
    exact congrArg Except.ok (NameMap.ext_entries (List.append_nil _).symm)
  | cons e entries ih =>
    have hlast : ∀ e' ∈ m.entries, e'.1 < e.1 :=
      fun e' he' => (List.pairwise_append.1 hr).2.2 e' he' e List.mem_cons_self
    have hins : (m.insert e.1 e.2).entries = m.entries ++ [e] := NameMap.put_last hlast e.2
    have hrest : Rising ((m.insert e.1 e.2).entries ++ entries) := by
      rw [hins, List.append_assoc]
      exact hr
    rw [List.map_cons, List.foldlM_cons, breaker_entries]
    refine (ih hrest).trans (congrArg Except.ok (NameMap.ext_entries ?_))
    show (m.insert e.1 e.2).entries ++ entries = m.entries ++ e :: entries
    rw [hins, List.append_assoc, List.singleton_append]

theorem breakers_tables (c : Config) :
    breakers (.table (ofTables c.breakerTables)) = .ok c.breakers := by
  have he : ofTables c.breakerTables =
      c.breakers.entries.map fun e => (e.1, Value.table e.2.entries) := by
    simp [ofTables, Config.breakerTables]
  rw [he]
  exact foldlM_insert (m := .empty) c.breakers.rising

/-- The document of a configuration gives the configuration. -/
theorem ofEntries_document (c : Config) : Config.ofEntries c.document = .ok c := by
  have hsettings : c.document.map Prod.snd =
      [.table c.observability.entries, .table c.retry.entries, .table c.client.entries,
        .table c.breakerDefaults.entries, .table (ofTables c.breakerTables)] := rfl
  refine (setEntries_eq_setItems (by decide) rfl _).trans ?_
  rw [hsettings]
  simp only [configFields, setItems, Field.of, observability_entries, retry_entries,
    client_entries, breaker_entries, breakers_tables]
  rfl

end Decode

/-! ### There and back -/

namespace Config

open Encode

/-- A text with a configuration in it gives that configuration if it keeps every rule, and the
broken rules in their order otherwise. -/
theorem parse_of_read? {c : Config} {entries : Entries} {text : String}
    (hread : read? text.toList = some entries) (hc : ofEntries entries = .ok c) :
    parse text = if c.violations = [] then .ok c else .error (.invalid c.violations) := by
  simp only [parse, hread, hc]
  cases c.violations with
  | nil => rfl
  | cons v vs => rfl

/-- A text that is accepted has a document in it that gives the configuration. -/
theorem exists_of_parse {text : String} {c : Config} (h : parse text = .ok c) :
    ∃ tree, read? text.toList = some tree ∧ ofEntries tree = .ok c ∧ c.violations = [] := by
  unfold parse at h
  split at h
  next => cases h
  next tree hread =>
    split at h
    next => cases h
    next hc =>
      split at h
      next hv =>
        cases h
        exact ⟨tree, hread, hc, hv⟩
      next => cases h

/-- A configuration without `nan` whose integers a document can hold is written as a text that is
read as the same configuration. With a greater integer it is not written at all. -/
theorem round_trip (c : Config) :
    ((∀ n ∈ c.longs, n.toNat ≤ 0x7FFFFFFFFFFFFFFF) →
      c.retry.multiplier ≠ .nan → c.retry.randomizeFactor ≠ .nan →
      ∃ text, c.write? = some text ∧ (read? text.toList).map ofEntries = some (.ok c) ∧
        parse text = if c.violations = [] then .ok c else .error (.invalid c.violations)) ∧
    ((∃ n ∈ c.longs, 0x7FFFFFFFFFFFFFFF < n.toNat) → c.write? = none) := by
  constructor
  · intro hlongs hmultiplier hfactor
    have hfits : ∀ n ∈ c.longs, Fits n := by
      intro n hn
      have hle := hlongs n hn
      unfold Fits maxInteger
      omega
    obtain ⟨text, hwrite, hread⟩ := exists_write hfits hmultiplier hfactor
    refine ⟨text, hwrite, ?_, parse_of_read? hread (Decode.ofEntries_document c)⟩
    rw [hread, Option.map_some, Decode.ofEntries_document]
  · rintro ⟨n, hn, hlt⟩
    have hfits : ¬Fits n := by
      unfold Fits maxInteger
      omega
    rw [write?, sections?_eq_none hn hfits]
    rfl

/-- Texts with every kind of character and names that no bare key can show, infinity, the negative
zero and the greatest integer. -/
def odd : Config where
  observability := ⟨"", true, "\"\"\"'''\\\n\r\t\x00\x7f≠"⟩
  retry := ⟨0, 0x7FFFFFFFFFFFFFFF, 0, .infinite false, .finite true 0 (by decide +kernel)⟩
  breakers := .ofList [("", {}), (" ", ⟨0, 1, 2⟩), ("a.b", {}), ("]\n[retry]", {}), ("'é\"\\", {})]

theorem round_trip_odd :
    (∃ text, odd.write? = some text ∧ (read? text.toList).map ofEntries = some (.ok odd) ∧
      parse text = .error (.invalid odd.violations)) ∧
    { odd with client := ⟨0x8000000000000000, 0⟩ }.write? = none := by
  have hbroken : odd.violations ≠ [] := by decide +kernel
  have hlongs : odd.longs.all (fun n => n.toNat ≤ 0x7FFFFFFFFFFFFFFF) = true := by decide +kernel
  have hfit : ∀ n ∈ odd.longs, n.toNat ≤ 0x7FFFFFFFFFFFFFFF :=
    fun n hn => of_decide_eq_true (List.all_eq_true.1 hlongs n hn)
  have hback := (round_trip odd).1 hfit (by decide +kernel) (by decide +kernel)
  rw [if_neg hbroken] at hback
  exact ⟨hback, (round_trip _).2 ⟨0x8000000000000000, by decide +kernel, by decide⟩⟩

end Config

end CallGuard
