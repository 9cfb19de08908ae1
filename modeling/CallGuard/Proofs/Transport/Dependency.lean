import CallGuard.Proofs.Net.Url
import CallGuard.Proofs.Transport.Client

/-! Which addresses are one dependency. The name of a dependency ends with a numeral, in which
there is no colon, so host and port are known from it whatever colons the host has
(`dependency_eq_iff`). An address in brackets shares a name with no other host, and the port of
the scheme makes no difference when it is given (`located`). A message to one dependency leaves
the breakers of all others alone. -/

namespace CallGuard

namespace Target

variable {raw raw' : String} {t t' : Target}

/-! ### Reading -/

theorem read_ok (h : read raw = .ok t) :
    Net.Url.read raw = .ok (.hosted t.url) ∧ t.url.effectivePort? = some t.port := by
  unfold read at h
  split at h
  next => cases h
  next => cases h
  next url hurl =>
    split at h
    next => cases h
    next port hport =>
      cases h
      exact ⟨hurl, hport⟩

/-- Just the texts of addresses that lead nowhere are rejected. -/
theorem nowhere_iff : (∃ e, read raw = .error e) ↔ Nowhere raw := by
  constructor
  · rintro ⟨e, he⟩
    unfold read at he
    split at he
    next e hurl => exact .inl ⟨e, hurl⟩
    next hurl => exact .inr (.inl hurl)
    next url hurl =>
      split at he
      next hport => exact .inr (.inr ⟨url, hurl, hport⟩)
      next => cases he
  · intro h
    obtain ⟨reason, hr⟩ := read_of_nowhere h
    exact ⟨_, hr⟩

/-! ### Names of dependencies -/

theorem append_cons_inj {c : Char} {xs xs' ds ds' : List Char} (hd : c ∉ ds) (hd' : c ∉ ds')
    (h : xs ++ c :: ds = xs' ++ c :: ds') : xs = xs' ∧ ds = ds' := by
  rcases List.append_eq_append_iff.1 h with ⟨more, rfl, hmore⟩ | ⟨more, rfl, hmore⟩
  · cases more with
    | nil => exact ⟨(List.append_nil xs).symm, (List.cons.inj hmore).2⟩
    | cons d more =>
      rw [(List.cons.inj hmore).2] at hd
      exact absurd (List.mem_append_right more List.mem_cons_self) hd
  · cases more with
    | nil => exact ⟨List.append_nil xs', (List.cons.inj hmore).2.symm⟩
    | cons d more =>
      rw [(List.cons.inj hmore).2] at hd'
      exact absurd (List.mem_append_right more List.mem_cons_self) hd'

theorem colon_not_mem_decimal (n : Nat) : ':' ∉ Text.Numeral.render 10 n := fun h =>
  absurd (Text.Numeral.digits_render n _ h) (by decide)

/-- Host and port are known from the name. -/
theorem dependency_eq_iff : t.dependency = t'.dependency ↔
    t.url.authority.host.text = t'.url.authority.host.text ∧ t.port = t'.port := by
  constructor
  · intro h
    have hchars : t.url.authority.host.text.toList ++ ':' :: Text.Numeral.render 10 t.port =
        t'.url.authority.host.text.toList ++ ':' :: Text.Numeral.render 10 t'.port := by
      simpa [dependency, Text.Numeral.decimal] using congrArg String.toList h
    obtain ⟨hhost, hport⟩ :=
      append_cons_inj (colon_not_mem_decimal _) (colon_not_mem_decimal _) hchars
    refine ⟨String.toList_inj.1 hhost, ?_⟩
    exact Net.render_inj (by decide) (by decide) hport
  · rintro ⟨hhost, hport⟩
    rw [dependency, dependency, hhost, hport]

/-- Two targets have the same text of their host and the same port in force. -/
def Same (t t' : Target) : Prop :=
  t.url.authority.host.text = t'.url.authority.host.text ∧
    t.url.effectivePort? = t'.url.effectivePort?

instance (t t' : Target) : Decidable (Same t t') := inferInstanceAs (Decidable (_ ∧ _))

theorem same_iff (h : read raw = .ok t) (h' : read raw' = .ok t') :
    t.dependency = t'.dependency ↔ t.Same t' := by
  rw [dependency_eq_iff, Same, (read_ok h).2, (read_ok h').2, Option.some.injEq]

/-- An address in brackets shares its dependency with no other host. -/
theorem literal_iff (h : read raw = .ok t) (h' : read raw' = .ok t') {a : Net.Ipv6}
    (ha : t.url.authority.host = .ipv6 a) :
    t.dependency = t'.dependency ↔ t'.url.authority.host = .ipv6 a ∧ t'.port = t.port := by
  have formed := Net.Url.formed_of_read (read_ok h).1
  have formed' := Net.Url.formed_of_read (read_ok h').1
  rw [ha] at formed
  rw [dependency_eq_iff, ha, Net.Host.text_eq_ipv6_iff formed formed', eq_comm,
    eq_comm (a := t.port)]

/-- A text that gives the port of its scheme has the target of one without. -/
theorem read_iff_of_spells (h : Net.Url.Spells raw raw') :
    read raw = .ok t ↔ read raw' = .ok t := by
  unfold read
  rw [Net.Url.read_eq_of_spells h]
  split
  next => exact iff_of_false (fun he => nomatch he) (fun he => nomatch he)
  next => exact iff_of_false (fun he => nomatch he) (fun he => nomatch he)
  next =>
    split
    next => exact iff_of_false (fun he => nomatch he) (fun he => nomatch he)
    next => exact Iff.rfl

/-! ### Breakers -/

/-- A message calls the breaker of its dependency and no other. -/
theorem get?_post (network : Network) (c : Client) (m : Message) (h : read m.address = .ok t)
    (h' : read raw' = .ok t') :
    (c.post network m).client.registry.get? t'.dependency =
      if t.Same t' then some (c.guarded network t m).session
      else c.registry.get? t'.dependency := by
  rw [(Client.post_of_ok network c h).1]
  split
  next hsame =>
    rw [← (same_iff h h').2 hsame]
    exact Registry.get?_put_self ..
  next hsame =>
    have hne : t'.dependency ≠ t.dependency := fun heq => hsame ((same_iff h h').1 heq.symm)
    rw [Registry.get?_put_of_ne hne, Registry.get?_obtain_of_ne hne]

/-- How two texts compare as addresses of messages. -/
structure Compared (raw raw' : String) : Prop where
  /-- A text that is rejected is told, with one of three reasons. -/
  rejected : ∀ e, read raw = .error e → ∃ reason, e = .invalidUrl raw reason
  rejected_iff : (∃ e, read raw = .error e) ↔ Nowhere raw
  /-- The port is the explicit one, or that of the scheme. -/
  port : ∀ t, read raw = .ok t →
    t.url.authority.port = some t.port ∨
      t.url.authority.port = none ∧ Net.Url.defaultPort? t.url.scheme = some t.port
  /-- Two addresses are one dependency just if they have the same text of their host and the same
  port, whatever else they are. -/
  same_iff : ∀ t t', read raw = .ok t → read raw' = .ok t' →
    (t.dependency = t'.dependency ↔
      t.url.authority.host.text = t'.url.authority.host.text ∧
        t.url.effectivePort? = t'.url.effectivePort?)
  /-- An address in brackets is one dependency only with itself. -/
  literal_iff : ∀ t t' a, read raw = .ok t → read raw' = .ok t' →
    t.url.authority.host = .ipv6 a →
      (t.dependency = t'.dependency ↔
        t'.url.authority.host = .ipv6 a ∧ t'.port = t.port)
  /-- With the port of the scheme a text has the same target as without. -/
  spelled : Net.Url.Spells raw raw' → ∀ t, read raw = .ok t ↔ read raw' = .ok t
  /-- A message to the one calls the breaker of the other just if they are the same; if not, that
  breaker is as before. -/
  breaker : ∀ network (c : Client) (m : Message) t t', m.address = raw → read raw = .ok t →
    read raw' = .ok t' →
      (c.post network m).client.registry.get? t'.dependency =
        if t.Same t' then some (c.guarded network t m).session
        else c.registry.get? t'.dependency

/-- All texts so compare. -/
theorem compared (raw raw' : String) : Compared raw raw' := by
  constructor
  case rejected =>
    intro e he
    obtain ⟨reason, hr⟩ := read_of_nowhere (nowhere_iff.1 ⟨e, he⟩)
    exact ⟨reason, Except.error.inj (he.symm.trans hr)⟩
  case rejected_iff => exact nowhere_iff
  case port =>
    intro t h
    have hport := (read_ok h).2
    unfold Net.Url.effectivePort? at hport
    split at hport
    next n hn => exact .inl (hn.trans hport)
    next hn => exact .inr ⟨hn, hport⟩
  case same_iff => exact fun t t' => same_iff
  case literal_iff => exact fun t t' a h h' ha => literal_iff h h' ha
  case spelled => exact fun h t => read_iff_of_spells h
  case breaker =>
    intro network c m t t' hm h h'
    subst hm
    exact get?_post network c m h h'

/-- The port of the scheme after credentials and an address in brackets, which other schemes and
other spellings have too, and a target with another port. -/
theorem compared_literals :
    Net.Url.Spells "http://u:p@[::1]:80/a" "http://u:p@[::1]/a" ∧
      Compared "http://u:p@[::1]:80/a" "http://u:p@[::1]/a" ∧
      ["http://u:p@[::1]:80/a", "http://u:p@[::1]/a", "ws://[0:0:0:0:0:0:0:1]?b#c",
        "http://[::1]:8080", "http://[::1]:99999", "agent://[::1]"].map
        (fun raw => (read raw).toOption.map dependency) =
        [some "[::1]:80", some "[::1]:80", some "[::1]:80", some "[::1]:8080", none, none] := by
  have port : Net.Url.Defaults "http" "80".toList := by
    constructor
    case digits => exact List.all_eq_true.1 (by decide)
    case port => rfl
    case value => exact fun _ => rfl
  have spells : Net.Url.Spells "http://u:p@[::1]:80/a" "http://u:p@[::1]/a" := by
    apply Net.Url.Spells.intro "http" "//".toList "u:p@[::1]".toList "80".toList "/a".toList
    case full => decide +kernel
    case short => decide +kernel
    case slash => simp
    case port => exact port
    case nonempty => decide
    case part => simp [Net.Url.endsAuthority]
    case bare => decide +kernel
    case ended => simp [Net.Url.endsAuthority]
  exact ⟨spells, compared _ _, by decide +kernel⟩

end Target

end CallGuard
