import CallGuard.Net.Address
import CallGuard.Proofs.Text.Numeral
import Mathlib.Data.List.TakeWhile

/-! Addresses of eight groups are told apart by their texts. The groups stand between colons, and
one empty place between them stands for a run of zeros (`Ipv6.splitOn_text`); of eight groups its
length is known (`expand_segments`), and eight are all that is ever read (`length_of_ipv6?`). -/

namespace CallGuard.Net

open Text

variable {ns ms : List Nat} {ls ls' : List (List Char)}

/-! ### Numerals between separators -/

theorem render_inj {base m n : Nat} (hb : 2 ≤ base) (hb' : base ≤ 16)
    (h : Numeral.render base m = Numeral.render base n) : m = n := by
  rw [← Numeral.value_render hb hb' m, h, Numeral.value_render hb hb']

theorem map_render_inj (h : ns.map (Numeral.render 16) = ms.map (Numeral.render 16)) : ns = ms :=
  (List.map_inj_right fun _ _ => render_inj (by decide) (by decide)).1 h

theorem colon_not_mem_numerals (ns : List Nat) : ∀ l ∈ ns.map (Numeral.render 16), ':' ∉ l := by
  intro l hl hc
  obtain ⟨n, -, rfl⟩ := List.mem_map.1 hl
  exact absurd (Numeral.isDigit_of_mem_render (by decide) (by decide) hc) (by decide)

theorem intercalate_append {sep : List Char} (h : ls ≠ []) (h' : ls' ≠ []) :
    sep.intercalate (ls ++ ls') = sep.intercalate ls ++ sep ++ sep.intercalate ls' := by
  induction ls with
  | nil => exact absurd rfl h
  | cons l ls ih =>
    cases ls with
    | nil =>
      obtain ⟨l', ls', rfl⟩ := List.exists_cons_of_ne_nil h'
      rw [List.singleton_append, List.intercalate_cons_cons, List.intercalate_singleton]
    | cons m ls =>
      rw [List.cons_append, List.cons_append, List.intercalate_cons_cons, ← List.cons_append,
        ih (List.cons_ne_nil _ _), List.intercalate_cons_cons]
      simp only [List.append_assoc]

theorem toList_groupsText (ns : List Nat) :
    (groupsText ns).toList = [':'].intercalate (ns.map (Numeral.render 16)) := by
  simp [groupsText, String.toList_intercalate, Function.comp_def]

/-! ### Runs of zeros -/

/-- The longest run begins where it says and is no longer than that. -/
theorem longestZeros_le (ns : List Nat) :
    (longestZeros ns).2 ≤ zerosAhead (ns.drop (longestZeros ns).1) := by
  unfold longestZeros
  refine List.foldlRecOn _ _
    (motive := fun best : Nat × Nat => best.2 ≤ zerosAhead (ns.drop best.1)) (Nat.zero_le _)
    fun best hbest i _ => ?_
  dsimp only
  split
  next => exact Nat.le_refl _
  next => exact hbest

theorem take_zeros {n : Nat} (h : n ≤ zerosAhead ns) : ns.take n = List.replicate n 0 := by
  induction ns generalizing n with
  | nil =>
    obtain rfl : n = 0 := Nat.le_zero.1 h
    rfl
  | cons m ns ih =>
    cases n with
    | zero => rfl
    | succ n =>
      unfold zerosAhead at h
      by_cases hm : m = 0
      · rw [List.takeWhile_cons_of_pos (by simpa using hm), List.length_cons] at h
        rw [List.take_succ_cons, ih (Nat.le_of_succ_le_succ h), hm, List.replicate_succ]
      · rw [List.takeWhile_cons_of_neg (by simpa using hm)] at h
        exact absurd h (Nat.not_succ_le_zero n)

/-- The groups about the run that is left out. -/
theorem groups_eq (ns : List Nat) :
    ns.take (longestZeros ns).1 ++ List.replicate (longestZeros ns).2 0 ++
      ns.drop ((longestZeros ns).1 + (longestZeros ns).2) = ns := by
  rw [← take_zeros (longestZeros_le ns), ← List.drop_drop, List.append_assoc,
    List.take_append_drop, List.take_append_drop]

/-! ### Texts of eight groups -/

/-- The numerals on one side of a run that is left out; with none there is an empty one. -/
def side (ns : List Nat) : List (List Char) :=
  if ns = [] then [[]] else ns.map (Numeral.render 16)

/-- What stands between the colons of a text. -/
def Ipv6.segments (a : Ipv6) : List (List Char) :=
  let (start, length) := longestZeros a.groups
  if length < 2 then a.groups.map (Numeral.render 16)
  else side (a.groups.take start) ++ [[]] ++ side (a.groups.drop (start + length))

theorem side_ne_nil (ns : List Nat) : side ns ≠ [] := by
  unfold side
  split
  next => exact List.cons_ne_nil _ _
  next h => exact fun hm => h (List.map_eq_nil_iff.1 hm)

theorem intercalate_side (ns : List Nat) :
    [':'].intercalate (side ns) = (groupsText ns).toList := by
  rw [toList_groupsText]
  unfold side
  split
  next h =>
    subst h
    rfl
  next => rfl

theorem Ipv6.toList_text (a : Ipv6) : a.text.toList = [':'].intercalate a.segments := by
  unfold Ipv6.text Ipv6.segments
  dsimp only
  split
  next => exact toList_groupsText _
  next =>
    rw [intercalate_append (by simp) (side_ne_nil _), intercalate_append (side_ne_nil _) (by simp),
      intercalate_side, intercalate_side]
    simp

theorem colon_not_mem_side (ns : List Nat) : ∀ l ∈ side ns, ':' ∉ l := by
  unfold side
  split
  next => simp
  next => exact colon_not_mem_numerals ns

theorem Ipv6.colon_not_mem_segments (a : Ipv6) : ∀ l ∈ a.segments, ':' ∉ l := by
  unfold Ipv6.segments
  dsimp only
  split
  next => exact colon_not_mem_numerals a.groups
  next =>
    intro l hl
    rcases List.mem_append.1 hl with hl | hl
    · rcases List.mem_append.1 hl with hl | hl
      · exact colon_not_mem_side _ l hl
      · rw [List.mem_singleton.1 hl]
        exact List.not_mem_nil
    · exact colon_not_mem_side _ l hl

/-- The segments are what the colons of the text separate. -/
theorem Ipv6.splitOn_text {a : Ipv6} (h : a.groups ≠ []) :
    a.text.toList.splitOn ':' = a.segments := by
  have hne : a.segments ≠ [] := by
    unfold Ipv6.segments
    dsimp only
    split
    next => exact fun hnil => h (List.map_eq_nil_iff.1 hnil)
    next => simp
  rw [a.toList_text, List.splitOn_intercalate ':' a.colon_not_mem_segments hne]

/-- The numerals that a row of segments stands for: zeros for the empty ones, as many as there are
too few for eight. -/
def expand (segments : List (List Char)) : List (List Char) :=
  let front := segments.takeWhile (· ≠ [])
  let back := (segments.dropWhile (· ≠ [])).filter (· ≠ [])
  front ++ List.replicate (8 - front.length - back.length) ['0'] ++ back

theorem map_render_ne_nil (ns : List Nat) :
    ∀ l ∈ ns.map (Numeral.render 16), decide (l ≠ []) = true := by
  intro l hl
  obtain ⟨n, -, rfl⟩ := List.mem_map.1 hl
  exact decide_eq_true (Numeral.render_ne_nil 16 n)

theorem takeWhile_side (ns : List Nat) (ls : List (List Char)) :
    (side ns ++ [[]] ++ ls).takeWhile (· ≠ []) = ns.map (Numeral.render 16) := by
  unfold side
  split
  next h =>
    subst h
    rfl
  next =>
    rw [List.append_assoc, List.takeWhile_append_of_pos (map_render_ne_nil ns)]
    exact List.append_nil _

theorem filter_side (ns : List Nat) :
    (side ns).filter (· ≠ []) = ns.map (Numeral.render 16) := by
  unfold side
  split
  next h =>
    subst h
    rfl
  next => exact List.filter_eq_self.2 (map_render_ne_nil ns)

theorem filter_dropWhile_side (ns ms : List Nat) :
    ((side ns ++ [[]] ++ side ms).dropWhile (· ≠ [])).filter (· ≠ []) =
      ms.map (Numeral.render 16) := by
  have hdrop : ((side ns ++ [[]] ++ side ms).dropWhile (· ≠ [])).filter (· ≠ []) =
      ([] :: side ms).filter (· ≠ []) := by
    unfold side
    split
    next h => rfl
    next =>
      rw [List.append_assoc, List.dropWhile_append_of_pos (map_render_ne_nil ns)]
      rfl
  rw [hdrop, List.filter_cons_of_neg (by simp), filter_side]

theorem expand_segments {a : Ipv6} (h : a.groups.length = 8) :
    expand a.segments = a.groups.map (Numeral.render 16) := by
  unfold expand Ipv6.segments
  dsimp only
  split
  next =>
    rw [List.takeWhile_eq_self_iff.2 (map_render_ne_nil _),
      List.dropWhile_eq_nil_iff.2 (map_render_ne_nil _), List.length_map, h]
    simp
  next =>
    have hgroups := groups_eq a.groups
    have hlength := congrArg List.length hgroups
    rw [takeWhile_side, filter_dropWhile_side]
    simp only [List.length_append, List.length_replicate, List.length_map, h] at hlength ⊢
    conv => rhs; rw [← hgroups]
    rw [List.map_append, List.map_append, List.map_replicate, Numeral.render_zero]
    congr 3
    omega

/-- Eight groups are known from their text. -/
theorem Ipv6.text_inj {a b : Ipv6} (ha : a.groups.length = 8) (hb : b.groups.length = 8)
    (h : a.text = b.text) : a = b := by
  have nonempty {c : Ipv6} (hc : c.groups.length = 8) : c.groups ≠ [] := by
    rintro hnil
    rw [hnil] at hc
    cases hc
  have hgroups : a.groups = b.groups := by
    refine map_render_inj ?_
    rw [← expand_segments ha, ← expand_segments hb, ← splitOn_text (nonempty ha),
      ← splitOn_text (nonempty hb), h]
  cases a
  cases b
  exact congrArg _ hgroups

/-! ### Reading -/

theorem length_groups_le (first : Bool) (limit : Nat) (cs : List Char) :
    (groups first limit cs).1.length ≤ limit := by
  induction limit generalizing first cs with
  | zero => exact Nat.le_refl 0
  | succ limit ih =>
    unfold groups
    split
    next => exact Nat.zero_le _
    next =>
      split
      next h =>
        split at h
        next => cases h
        next hlimit =>
          change 2 ≤ limit + 1
          omega
      next =>
        split
        next => exact Nat.zero_le _
        next => exact Nat.succ_le_succ (ih false _)

theorem length_of_ipv6? {cs rest : List Char} {a : Ipv6} (h : ipv6? cs = some (a, rest)) :
    a.groups.length = 8 := by
  unfold ipv6? at h
  have hfront := length_groups_le true 8 cs
  generalize groups true 8 cs = front at h hfront
  obtain ⟨front, octets, cs⟩ := front
  dsimp only at h hfront
  split at h
  next hlen =>
    cases h
    exact hlen
  next hlen =>
    split at h
    next => cases h
    next =>
      simp only [Option.bind_eq_bind, Option.bind_eq_some_iff] at h
      obtain ⟨cs₁, -, cs₂, -, h⟩ := h
      have hback := length_groups_le true (7 - front.length) cs₂
      generalize groups true (7 - front.length) cs₂ = back at h hback
      obtain ⟨back, _, _⟩ := back
      cases h
      dsimp only at hback
      simp only [List.length_append, List.length_replicate]
      omega

end CallGuard.Net
