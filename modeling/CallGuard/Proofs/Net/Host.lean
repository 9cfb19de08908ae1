import CallGuard.Net.Host
import CallGuard.Proofs.Net.Address

/-! Hosts as they are read. An address in brackets has eight groups and a text that begins with a
bracket, as no other host does that is read: no opaque one has the character, and the first label
of a domain is left as it is or begins with a letter. So the text of such an address is that of no
other host (`Host.text_eq_ipv6_iff`). -/

namespace CallGuard.Net

open Text

theorem intercalate_cons (sep l : List Char) (ls : List (List Char)) :
    ∃ rest, sep.intercalate (l :: ls) = l ++ rest ∧ (rest = [] ∨ ∃ more, rest = sep ++ more) := by
  cases ls with
  | nil => exact ⟨[], by simp, .inl rfl⟩
  | cons m ls =>
    refine ⟨sep ++ sep.intercalate (m :: ls), ?_, .inr ⟨_, rfl⟩⟩
    rw [List.intercalate_cons_cons, List.append_assoc]

/-- What begins parts with a separator begins the first of them, or is the separator. -/
theorem head?_intercalate {c sep : Char} {l : List Char} (hs : sep ≠ c) (hl : l.head? ≠ some c)
    (ls : List (List Char)) : ([sep].intercalate (l :: ls)).head? ≠ some c := by
  obtain ⟨rest, hrest, hsep⟩ := intercalate_cons [sep] l ls
  rw [hrest, List.head?_append]
  cases hc : l.head? with
  | some d => rwa [hc] at hl
  | none =>
    rcases hsep with rfl | ⟨more, rfl⟩
    · exact fun hn => nomatch hn
    · exact fun hn => hs (Option.some.inj hn)

namespace Host

/-- A host as it is read: a name does not begin as an address in brackets does, and such an
address has eight groups. -/
def Formed : Host → Prop
  | name s => s.toList.head? ≠ some '['
  | ipv4 _ => True
  | ipv6 a => a.groups.length = 8

theorem exists_of_bracketed? {cs : List Char} {h : Host} (hr : bracketed? cs = some h) :
    ∃ a, h = ipv6 a ∧ a.groups.length = 8 := by
  unfold bracketed? at hr
  split at hr
  next =>
    split at hr
    next a ha =>
      cases hr
      exact ⟨a, rfl, length_of_ipv6? ha⟩
    next => cases hr
  next => cases hr

/-- What begins an encoded text is plain, or it is a percent sign. -/
theorem head?_encode (plain : Char → Bool) {cs : List Char} (h : '[' ∉ cs) :
    (Percent.encode plain cs).head? ≠ some '[' := by
  induction cs with
  | nil => exact fun hn => nomatch hn
  | cons c cs ih =>
    rw [List.mem_cons, not_or] at h
    unfold Percent.encode
    rw [List.flatMap_cons]
    split
    next =>
      rw [List.singleton_append, List.head?_cons]
      exact fun hc => h.1 (Option.some.inj hc).symm
    next =>
      cases (String.singleton c).toUTF8.data.toList with
      | nil => exact ih h.2
      | cons b bs =>
        intro hb
        cases hb

theorem formed_of_readOpaque {cs : List Char} {h : Host} (hr : readOpaque cs = .ok h) :
    h.Formed := by
  unfold readOpaque at hr
  split at hr
  next rest =>
    cases hb : bracketed? rest with
    | none => rw [hb] at hr; cases hr
    | some host =>
      rw [hb] at hr
      cases hr
      obtain ⟨a, rfl, ha⟩ := exists_of_bracketed? hb
      exact ha
  next =>
    split at hr
    next => cases hr
    next hall =>
      cases hr
      change (String.ofList _).toList.head? ≠ _
      rw [String.toList_ofList]
      refine head?_encode _ fun hmem => hall ?_
      exact List.any_eq_true.2 ⟨'[', hmem, by decide⟩

/-- A label that needs no encoding is as it was. -/
theorem eq_of_plainLabel? {piece label : List Char} (h : Domain.plainLabel? piece = some label)
    (ascii : Domain.isAscii label = true) : label = piece := by
  unfold Domain.plainLabel? at h
  split at h
  next => exact (Option.some.inj h).symm
  next =>
    split at h
    next => cases h
    next =>
      simp only [Option.bind_eq_bind, Option.bind_eq_some_iff] at h
      obtain ⟨decoded, -, h⟩ := h
      split at h
      next => cases h
      next hkept =>
        cases h
        simp [ascii] at hkept

theorem head?_labelToAscii {piece label : List Char} (h : Domain.plainLabel? piece = some label)
    (hp : '[' ∉ piece) : (Domain.labelToAscii label).head? ≠ some '[' := by
  unfold Domain.labelToAscii
  split
  next ascii =>
    rw [eq_of_plainLabel? h ascii]
    exact fun hc => hp (List.mem_of_head? hc)
  next =>
    intro hc
    cases hc

theorem head?_of_toAscii? {bytes : List UInt8} {s : String} (h : Domain.toAscii? bytes = some s) :
    s.toList.head? ≠ some '[' := by
  unfold Domain.toAscii? at h
  simp only [Option.bind_eq_bind, Option.bind_eq_some_iff] at h
  obtain ⟨_, -, replaced, -, h⟩ := h
  generalize Composition.composed replaced = cs at h
  split at h
  next => cases h
  next hforbidden =>
    obtain ⟨labels, hlabels, h⟩ := Option.bind_eq_some_iff.1 h
    split at h
    next => cases h
    next =>
      cases h
      obtain ⟨piece, pieces, hpieces⟩ := List.exists_cons_of_ne_nil (List.splitOn_ne_nil '.' cs)
      have hmem : '[' ∉ piece := by
        intro hp
        refine hforbidden (List.any_eq_true.2 ⟨'[', ?_, by decide⟩)
        obtain ⟨rest, hrest, -⟩ := intercalate_cons ['.'] piece pieces
        have hcs : ['.'].intercalate (cs.splitOn '.') = cs := List.intercalate_splitOn '.'
        rw [hpieces, hrest] at hcs
        rw [← hcs]
        exact List.mem_append_left _ hp
      rw [hpieces, List.mapM_cons] at hlabels
      simp only [Option.bind_eq_bind, Option.bind_eq_some_iff] at hlabels
      obtain ⟨label, hlabel, labels', -, hcons⟩ := hlabels
      cases hcons
      rw [String.toList_ofList, List.map_cons]
      exact head?_intercalate (by decide) (head?_labelToAscii hlabel hmem) _

/-- A host under a special scheme is an address, or a name with some character. -/
theorem read_cases {cs : List Char} {h : Host} (hr : read cs = .ok h) :
    (∃ a, h = ipv6 a ∧ a.groups.length = 8) ∨ (∃ a, h = ipv4 a) ∨
      ∃ s, h = name s ∧ s.isEmpty = false ∧ s.toList.head? ≠ some '[' := by
  unfold read at hr
  split at hr
  next rest =>
    cases hb : bracketed? rest with
    | none => rw [hb] at hr; cases hr
    | some host =>
      rw [hb] at hr
      cases hr
      exact .inl (exists_of_bracketed? hb)
  next =>
    split at hr
    next => cases hr
    next domain hd =>
      split at hr
      next => cases hr
      next hempty =>
        split at hr
        next =>
          cases h4 : ipv4? domain.toList with
          | none => rw [h4] at hr; cases hr
          | some a =>
            rw [h4] at hr
            cases hr
            exact .inr (.inl ⟨a, rfl⟩)
        next =>
          cases hr
          exact .inr (.inr ⟨domain, rfl, Bool.eq_false_iff.2 hempty, head?_of_toAscii? hd⟩)

theorem formed_of_read {cs : List Char} {h : Host} (hr : read cs = .ok h) : h.Formed := by
  rcases read_cases hr with ⟨a, rfl, ha⟩ | ⟨a, rfl⟩ | ⟨s, rfl, -, hs⟩
  · exact ha
  · exact trivial
  · exact hs

theorem ne_empty_of_read {cs : List Char} {h : Host} (hr : read cs = .ok h) : h ≠ name "" := by
  rcases read_cases hr with ⟨a, rfl, -⟩ | ⟨a, rfl⟩ | ⟨s, rfl, hs, -⟩
  · exact fun hn => nomatch hn
  · exact fun hn => nomatch hn
  · intro hn
    cases hn
    cases hs

/-- Four octets begin with a digit. -/
theorem head?_text_ipv4 (address : Nat) : (ipv4 address).text.toList.head? ≠ some '[' := by
  have htext : (ipv4 address).text.toList =
      ['.'].intercalate ((octets address).map (Numeral.render 10)) := by
    simp [text, ipv4Text, Numeral.decimal, String.toList_intercalate, Function.comp_def]
  rw [htext]
  refine head?_intercalate (by decide) ?_ _
  obtain ⟨c, cs, hc, hdigit⟩ := (Numeral.plain_render (address / 0x1000000)).exists_cons
  rw [hc, List.head?_cons]
  intro heq
  rw [Option.some.inj heq] at hdigit
  exact absurd hdigit (by decide)

/-- The text of an address in brackets is that of no other host. -/
theorem text_eq_ipv6_iff {a : Ipv6} {h : Host} (ha : (ipv6 a).Formed) (hh : h.Formed) :
    (ipv6 a).text = h.text ↔ ipv6 a = h := by
  refine ⟨fun heq => ?_, congrArg text⟩
  have hhead : h.text.toList.head? = some '[' := by
    rw [← heq]
    simp [text]
  cases h with
  | name s => exact absurd hhead hh
  | ipv4 address => exact absurd hhead (head?_text_ipv4 address)
  | ipv6 b =>
    have htext : a.text = b.text := by
      simpa [text, String.ext_iff] using heq
    rw [Ipv6.text_inj ha hh htext]

end Host

end CallGuard.Net
