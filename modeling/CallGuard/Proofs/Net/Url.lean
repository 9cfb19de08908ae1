import CallGuard.Net.Url
import CallGuard.Proofs.Net.Host

/-! Addresses that are read. Their authority is read in steps, one for the user, one for the host
and one for the port (`readAuthority_eq`), so the host of an address is one that was read
(`formed_of_read`). Digits for the port of a scheme that is special are read as no port, and what
stands before them and after them is read as if they were not there: a text that gives the port
of its scheme and a text that gives none are the same address (`read_eq_of_spells`). -/

namespace CallGuard.Net

open Text

namespace Url

variable {scheme : String} {cs : List Char}

/-! ### Reading an authority in steps -/

/-- What an authority says of its user, if it does, and what follows that. -/
def splitUser (part : List Char) : Option (List Char) × List Char :=
  match splitLast '@' part with
  | none => (none, part)
  | some (user, part) => (some user, part)

/-- The host of a scheme that is special or not. -/
def readHost (special : Bool) (cs : List Char) : Except UrlError Host :=
  if special then Host.read cs else Host.readOpaque cs

/-- The authority of a user and a host, with the port that may stand after it. -/
def withPort (scheme : String) (user : Option (List Char)) (host : Host) (after rest : List Char) :
    Except UrlError (Option Authority × List Char) := do
  if host = .name "" && !after.isEmpty then throw .emptyHost
  let number ← readPort scheme ((after.drop 1).takeWhile (· ≠ '\\'))
  let (name, password) := credentials (user.getD [])
  if host = .name "" then
    if name.isEmpty && password.isNone then return (none, rest) else throw .emptyHost
  return (some ⟨name, password, host, number⟩, (after.drop 1).dropWhile (· ≠ '\\') ++ rest)

/-- The authority of a user and of what follows it. -/
def withHost (scheme : String) (user : Option (List Char)) (part rest : List Char) :
    Except UrlError (Option Authority × List Char) := do
  if user = some [] && part.isEmpty && !rest.isEmpty then throw .emptyHost
  let hostPart := part.take (hostLength false part)
  if isSpecial scheme && hostPart.isEmpty then throw .emptyHost
  let host ← readHost (isSpecial scheme) hostPart
  withPort scheme user host (part.drop (hostLength false part)) rest

theorem readAuthority_eq (scheme : String) (cs : List Char) :
    readAuthority scheme cs =
      let s := splitUser (cs.takeWhile fun c => !endsAuthority (isSpecial scheme) c)
      withHost scheme s.1 s.2 (cs.dropWhile fun c => !endsAuthority (isSpecial scheme) c) := by
  unfold readAuthority withHost readHost
  cases isSpecial scheme <;> rfl

/-! ### Hosts -/

theorem formed_of_readHost {special : Bool} {h : Host} (hr : readHost special cs = .ok h) :
    h.Formed := by
  cases special with
  | true => exact Host.formed_of_read hr
  | false => exact Host.formed_of_readOpaque hr

theorem host_of_withPort {user : Option (List Char)} {host : Host} {after rest rest' : List Char}
    {a : Authority} (h : withPort scheme user host after rest = .ok (some a, rest')) :
    a.host = host := by
  unfold withPort at h
  simp only [bind, Except.bind, pure, Except.pure, throw, throwThe, MonadExceptOf.throw] at h
  split at h
  next => cases h
  next =>
    split at h
    next => cases h
    next =>
      split at h
      next => split at h <;> cases h
      next =>
        cases h
        rfl

theorem formed_of_withHost {user : Option (List Char)} {part rest rest' : List Char}
    {a : Authority} (h : withHost scheme user part rest = .ok (some a, rest')) :
    a.host.Formed := by
  unfold withHost at h
  simp only [bind, Except.bind, throw, throwThe, MonadExceptOf.throw] at h
  split at h
  next => cases h
  next =>
    split at h
    next => cases h
    next =>
      split at h
      next => cases h
      next host hhost =>
        rw [host_of_withPort h]
        exact formed_of_readHost hhost

theorem formed_of_readAuthority {rest : List Char} {a : Authority}
    (h : readAuthority scheme cs = .ok (some a, rest)) : a.host.Formed := by
  rw [readAuthority_eq] at h
  exact formed_of_withHost h

theorem formed_of_file {u : Url} (h : file cs = .ok (.hosted u)) : u.authority.host.Formed := by
  unfold file at h
  simp only [bind, Except.bind, pure, Except.pure] at h
  split at h
  next =>
    split at h
    next =>
      split at h
      next => cases h
      next =>
        split at h
        next => cases h
        next host hhost =>
          split at h
          next => cases h
          next =>
            cases h
            exact Host.formed_of_read hhost
    next => cases h
  next => cases h

/-- The address of a scheme that is special, from its authority on. -/
def hosted (scheme : String) (rest : List Char) : Except UrlError Reading := do
  match ← readAuthority scheme rest with
  | (none, _) => return .hostless
  | (some a, rest) => return .hosted (withRest scheme a rest)

theorem formed_of_hosted {u : Url} (h : hosted scheme cs = .ok (.hosted u)) :
    u.authority.host.Formed := by
  unfold hosted at h
  simp only [bind, Except.bind, pure, Except.pure] at h
  split at h
  next => cases h
  next hr =>
    split at h
    next => cases h
    next =>
      cases h
      exact formed_of_readAuthority hr

/-- An address is that of a file, or it has an authority, or it names no host. -/
theorem read_cases (s : String) :
    (scheme? (cleaned s) = none ∧ read s = .error .relative) ∨
    (∃ rest, scheme? (cleaned s) = some ("file", rest) ∧ read s = file rest) ∨
    ∃ scheme rest, scheme? (cleaned s) = some (scheme, rest) ∧ scheme ≠ "file" ∧
      read s = if isSpecial scheme then hosted scheme (rest.dropWhile fun c => c = '/' || c = '\\')
        else match rest with
          | '/' :: '/' :: rest => hosted scheme rest
          | _ => .ok .hostless := by
  unfold read
  split
  next h => exact .inl ⟨h, rfl⟩
  next rest h => exact .inr (.inl ⟨rest, h, rfl⟩)
  next scheme rest hne h =>
    exact .inr (.inr ⟨scheme, rest, h, hne, rfl⟩)

/-- The host of an address that is read is one that is read. -/
theorem formed_of_read {s : String} {u : Url} (h : read s = .ok (.hosted u)) :
    u.authority.host.Formed := by
  rcases read_cases s with ⟨-, hr⟩ | ⟨rest, -, hr⟩ | ⟨scheme, rest, -, -, hr⟩
  · rw [h] at hr
    cases hr
  · exact formed_of_file (hr.symm.trans h)
  · rw [h] at hr
    split at hr
    next => exact formed_of_hosted hr.symm
    next =>
      split at hr
      next => exact formed_of_hosted hr.symm
      next => cases hr

/-! ### The port of the scheme -/

variable {port : Nat} {front digits rest : List Char}

/-- Digits for the port of a scheme, or none. -/
structure Defaults (scheme : String) (ds : List Char) : Prop where
  digits : ∀ c ∈ ds, Numeral.isDigit 10 c = true
  port : isSpecial scheme = true
  value : ds ≠ [] → defaultPort? scheme = some (Numeral.value 10 ds)

theorem defaultPort?_le (h : defaultPort? scheme = some port) : port ≤ 65535 := by
  unfold defaultPort? at h
  split at h <;> cases h <;> decide

theorem readPort_of_defaults (h : Defaults scheme digits) : readPort scheme digits = .ok none := by
  have hall : digits.all (Numeral.isDigit 10) = true := List.all_eq_true.2 h.digits
  unfold readPort
  rw [hall]
  cases digits with
  | nil => rfl
  | cons c cs =>
    have hv := h.value (List.cons_ne_nil _ _)
    have hle := defaultPort?_le hv
    simp [hv, Nat.not_lt.2 hle]

theorem withPort_of_defaults (h : Defaults scheme digits) {host : Host} (hh : host ≠ .name "")
    (user : Option (List Char)) (rest : List Char) :
    withPort scheme user host (':' :: digits) rest = withPort scheme user host [] rest := by
  have hbackslash : ∀ c ∈ digits, decide (c ≠ '\\') = true := by
    intro c hc
    refine decide_eq_true ?_
    rintro rfl
    exact absurd (h.digits _ hc) (by decide)
  have hempty : readPort scheme [] = .ok none := rfl
  unfold withPort
  rw [List.drop_succ_cons, List.drop_zero, List.drop_nil, List.takeWhile_eq_self_iff.2 hbackslash,
    List.dropWhile_eq_nil_iff.2 hbackslash, readPort_of_defaults h, List.takeWhile_nil,
    List.dropWhile_nil, hempty, decide_eq_false hh, Bool.false_and, Bool.false_and]

/-- A colon that ends a host does so whatever follows it, and without it the host ends there. -/
theorem hostLength_append {inside : Bool} {xs : List Char}
    (h : hostLength inside (xs ++ [':']) = xs.length) (ys : List Char) :
    hostLength inside (xs ++ ':' :: ys) = xs.length ∧ hostLength inside xs = xs.length := by
  induction xs generalizing inside with
  | nil =>
    cases inside with
    | false => exact ⟨rfl, rfl⟩
    | true => cases h
  | cons x xs ih =>
    simp only [List.cons_append, hostLength, List.length_cons] at h ⊢
    split at h
    next => cases h
    next hx =>
      obtain ⟨hys, hxs⟩ := ih (Nat.succ.inj h)
      rw [if_neg hx, if_neg hx, hys, hxs]
      exact ⟨rfl, rfl⟩

theorem withHost_of_defaults (h : Defaults scheme digits) {part : List Char}
    (bare : hostLength false (part ++ [':']) = part.length) (user : Option (List Char))
    (rest : List Char) :
    withHost scheme user (part ++ ':' :: digits) rest = withHost scheme user part rest := by
  obtain ⟨hfull, hbare⟩ := hostLength_append bare digits
  have hspecial := h.port
  unfold withHost
  dsimp only
  rw [hfull, hbare, List.take_left, List.drop_left, List.take_length, List.drop_length, hspecial]
  cases part with
  | nil =>
    -- without a host there is no authority
    simp only [List.isEmpty_nil, Bool.and_self, if_true, bind, Except.bind, throw, throwThe,
      MonadExceptOf.throw, ite_self]
  | cons c cs =>
    simp only [bind, Except.bind, throw, throwThe, MonadExceptOf.throw, List.cons_append,
      List.isEmpty_cons, Bool.and_false, Bool.false_and]
    cases hr : readHost true (c :: cs) with
    | error e => rfl
    | ok host =>
      dsimp only
      rw [withPort_of_defaults h (Host.ne_empty_of_read hr)]

/-- What follows the last of a character goes on to follow it. -/
theorem splitLast_append {c : Char} {ys : List Char} (h : c ∉ ys) (xs : List Char) :
    splitLast c (xs ++ ys) = (splitLast c xs).map fun s => (s.1, s.2 ++ ys) := by
  have hpass : ∀ y ∈ ys.reverse, decide (y ≠ c) = true := by
    intro y hy
    refine decide_eq_true ?_
    rintro rfl
    exact h (List.mem_reverse.1 hy)
  have hnone : ys.contains c = false := by simpa using h
  unfold splitLast
  rw [List.contains_append, hnone, Bool.or_false, List.reverse_append,
    List.takeWhile_append_of_pos hpass, List.reverse_append, List.reverse_reverse]
  split
  next =>
    simp only [Option.map_some, Option.some.injEq, Prod.mk.injEq, List.length_append, and_true]
    rw [List.take_append_of_le_length (by omega)]
    congr 1
    omega
  next => rfl

theorem splitUser_append {ys : List Char} (h : '@' ∉ ys) (part : List Char) :
    splitUser (part ++ ys) = ((splitUser part).1, (splitUser part).2 ++ ys) := by
  unfold splitUser
  rw [splitLast_append h]
  cases splitLast '@' part <;> rfl

/-- Characters of one kind end where there is one that is not. -/
theorem takeWhile_of_head? {p : Char → Bool} {xs ys : List Char} (hx : ∀ c ∈ xs, p c = true)
    (hy : ∀ c ∈ ys.head?, p c = false) :
    (xs ++ ys).takeWhile p = xs ∧ (xs ++ ys).dropWhile p = ys := by
  rw [List.takeWhile_append_of_pos hx, List.dropWhile_append_of_pos hx]
  cases ys with
  | nil => exact ⟨List.append_nil xs, rfl⟩
  | cons y ys =>
    have hpy : ¬p y = true := Bool.eq_false_iff.1 (hy y rfl)
    rw [List.takeWhile_cons_of_neg hpy, List.dropWhile_cons_of_neg hpy, List.append_nil]
    exact ⟨rfl, rfl⟩

/-- In an authority the port of the scheme counts for nothing, be there credentials or not. -/
theorem readAuthority_of_defaults (h : Defaults scheme digits)
    (part : ∀ c ∈ front, endsAuthority true c = false)
    (bare : hostLength false ((splitUser front).2 ++ [':']) = (splitUser front).2.length)
    (ended : ∀ c ∈ rest.head?, endsAuthority true c = true) :
    readAuthority scheme (front ++ ':' :: digits ++ rest) =
      readAuthority scheme (front ++ rest) := by
  have hport : ∀ c ∈ ':' :: digits, endsAuthority true c = false ∧ c ≠ '@' := by
    intro c hc
    rcases List.mem_cons.1 hc with rfl | hc
    · decide
    · have hd := h.digits c hc
      constructor
      · refine Bool.eq_false_iff.2 fun he => ?_
        simp only [endsAuthority, Bool.true_and, Bool.or_eq_true, decide_eq_true_eq] at he
        rcases he with ((rfl | rfl) | rfl) | rfl <;> exact absurd hd (by decide)
      · rintro rfl
        exact absurd hd (by decide)
  have hfront : ∀ c ∈ front, (!endsAuthority true c) = true := fun c hc => by rw [part c hc]; rfl
  have hfull : ∀ c ∈ front ++ ':' :: digits, (!endsAuthority true c) = true := by
    intro c hc
    rcases List.mem_append.1 hc with hc | hc
    · exact hfront c hc
    · rw [(hport c hc).1]
      rfl
  have hend : ∀ c ∈ rest.head?, (!endsAuthority true c) = false := fun c hc => by
    rw [ended c hc]
    rfl
  rw [readAuthority_eq, readAuthority_eq, h.port, (takeWhile_of_head? hfull hend).1,
    (takeWhile_of_head? hfull hend).2, (takeWhile_of_head? hfront hend).1,
    (takeWhile_of_head? hfront hend).2, splitUser_append fun hm => (hport '@' hm).2 rfl]
  exact withHost_of_defaults h bare _ rest

/-- The first text gives the port of its scheme after its host, or but the colon, where the second
gives none. -/
inductive Spells (full short : String) : Prop
  | intro (scheme : String) (slashes front digits rest : List Char)
      (full : scheme? (cleaned full) = some (scheme, slashes ++ (front ++ ':' :: digits ++ rest)))
      (short : scheme? (cleaned short) = some (scheme, slashes ++ (front ++ rest)))
      (slash : ∀ c ∈ slashes, c = '/' ∨ c = '\\')
      (port : Defaults scheme digits)
      (nonempty : front ≠ [])
      (part : ∀ c ∈ front, endsAuthority true c = false)
      (bare : hostLength false ((splitUser front).2 ++ [':']) = (splitUser front).2.length)
      (ended : ∀ c ∈ rest.head?, endsAuthority true c = true)

theorem read_of_special {s : String} (h : scheme? (cleaned s) = some (scheme, rest))
    (special : isSpecial scheme = true) :
    read s = hosted scheme (rest.dropWhile fun c => c = '/' || c = '\\') := by
  rcases read_cases s with ⟨hn, -⟩ | ⟨rest', hf, -⟩ | ⟨scheme', rest', hs, -, hr⟩
  · cases h.symm.trans hn
  · cases h.symm.trans hf
    cases special
  · cases h.symm.trans hs
    rw [hr, if_pos special]

/-- Both are read as the same address. -/
theorem read_eq_of_spells {full short : String} (h : Spells full short) :
    read full = read short := by
  obtain ⟨scheme, slashes, front, digits, rest, hfull, hshort, slash, port, nonempty, part, bare,
    ended⟩ := h
  have hslashes : ∀ c ∈ slashes, (decide (c = '/') || decide (c = '\\')) = true := by
    simpa using slash
  have hdrop (more : List Char) :
      (slashes ++ (front ++ more)).dropWhile (fun c => c = '/' || c = '\\') = front ++ more := by
    obtain ⟨c, cs, rfl⟩ := List.exists_cons_of_ne_nil nonempty
    have hc := part c List.mem_cons_self
    refine (takeWhile_of_head? hslashes fun d hd => ?_).2
    cases hd
    refine Bool.eq_false_iff.2 fun he => ?_
    simp only [Bool.or_eq_true, decide_eq_true_eq] at he
    rcases he with rfl | rfl <;> exact absurd hc (by decide)
  rw [read_of_special hfull port.port, read_of_special hshort port.port, List.append_assoc, hdrop,
    hdrop, hosted, hosted, ← List.append_assoc, readAuthority_of_defaults port part bare ended]

end Url

end CallGuard.Net
