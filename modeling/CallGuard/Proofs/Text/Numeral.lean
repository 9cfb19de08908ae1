import CallGuard.Text.Numeral
import Mathlib.Data.List.Induction

/-! Numerals in full: their first digit is no zero unless the number is, as many digits as there
are bound the number from below, and zeros put in front of the digits or after them do to the
number what they should. `Plain` is the form a decimal numeral has, in which no zero stands for
nothing. -/

namespace CallGuard.Text.Numeral

variable {base n : Nat}

theorem digit?_zero : digit? '0' = some 0 := rfl

theorem render_ne_nil (base n : Nat) : render base n ≠ [] := by
  unfold render
  split <;> simp

/-- No numeral but that of zero begins with the digit zero. -/
theorem exists_cons_render (hb : 2 ≤ base) (hb' : base ≤ 16) (hn : n ≠ 0) :
    ∃ c cs, render base n = c :: cs ∧ c ≠ '0' := by
  fun_induction render base n with
  | case1 n h ih =>
    obtain ⟨c, cs, he, hc⟩ := ih (Nat.ne_of_gt (Nat.div_pos h.2 (by omega)))
    exact ⟨c, cs ++ [digitChar (n % base)], by rw [he, List.cons_append], hc⟩
  | case2 n h =>
    refine ⟨_, _, rfl, fun hc => hn ?_⟩
    have hd := digit?_digitChar (show n < 16 by omega)
    rw [hc, digit?_zero] at hd
    exact (Option.some.inj hd).symm

theorem render_zero (base : Nat) : render base 0 = ['0'] := by
  unfold render
  rw [dif_neg (by omega)]
  rfl

/-- A number with so many digits is no less than the first of them. -/
theorem pow_length_render_le (hb : 2 ≤ base) (hn : n ≠ 0) :
    Nat.pow base ((render base n).length - 1) ≤ n := by
  fun_induction render base n with
  | case1 n h ih =>
    have hpos : 0 < (render base (n / base)).length :=
      List.length_pos_iff.2 (render_ne_nil base _)
    have hle := ih (Nat.ne_of_gt (Nat.div_pos h.2 (by omega)))
    have hm := (Nat.le_div_iff_mul_le (by omega)).1 hle
    rw [List.length_append, List.length_singleton, Nat.add_sub_cancel]
    obtain ⟨k, hk⟩ := Nat.exists_eq_succ_of_ne_zero (Nat.ne_of_gt hpos)
    rw [hk] at hm ⊢
    exact hm
  | case2 n h => exact Nat.pos_of_ne_zero hn

/-- A row of digits goes on where another ends. -/
theorem value_append (base : Nat) (xs ys : List Char) :
    value base (xs ++ ys) = value base xs * Nat.pow base ys.length + value base ys := by
  induction ys using List.reverseRecOn with
  | nil => simp [value]
  | append_singleton ys c ih =>
    rw [← List.append_assoc, value_append_singleton, ih, value_append_singleton]
    rw [List.length_append, List.length_singleton, Nat.pow_eq, Nat.pow_eq, Nat.pow_succ]
    rw [Nat.add_mul, Nat.mul_assoc, Nat.add_assoc]

theorem value_zeros (base k : Nat) : value base (List.replicate k '0') = 0 := by
  induction k with
  | zero => rfl
  | succ k ih => rw [List.replicate_succ', value_append_singleton, ih, digit?_zero]; simp

theorem value_zeros_append (base k : Nat) (cs : List Char) :
    value base (List.replicate k '0' ++ cs) = value base cs := by
  rw [value_append, value_zeros, Nat.zero_mul, Nat.zero_add]

/-- The value grows by the base with each zero at the end. -/
theorem value_append_zeros (base k : Nat) (cs : List Char) :
    value base (cs ++ List.replicate k '0') = value base cs * Nat.pow base k := by
  rw [value_append, value_zeros, List.length_replicate, Nat.add_zero]

/-! ### Decimal numerals -/

/-- Decimal digits, of which the first is no zero unless it is the only one. -/
structure Plain (ds : List Char) : Prop where
  digits : ∀ c ∈ ds, isDigit 10 c = true
  lead : ∃ c cs, ds = c :: cs ∧ (c = '0' → cs = [])

theorem Plain.exists_cons {ds : List Char} (h : Plain ds) :
    ∃ c cs, ds = c :: cs ∧ isDigit 10 c = true := by
  obtain ⟨c, cs, rfl, -⟩ := h.lead
  exact ⟨c, cs, rfl, h.digits c List.mem_cons_self⟩

theorem digits_zeros (k : Nat) : ∀ c ∈ List.replicate k '0', isDigit 10 c = true := by
  intro c hc
  rw [List.eq_of_mem_replicate hc]
  rfl

theorem digits_render (n : Nat) : ∀ c ∈ render 10 n, isDigit 10 c = true :=
  fun _ hc => isDigit_of_mem_render (by decide) (by decide) hc

theorem plain_zero : Plain ['0'] := ⟨digits_zeros 1, '0', [], rfl, fun _ => rfl⟩

theorem plain_render (n : Nat) : Plain (render 10 n) := by
  by_cases hz : n = 0
  · rw [hz, render_zero]
    exact plain_zero
  · obtain ⟨c, cs, he, hc⟩ := exists_cons_render (show 2 ≤ 10 by decide) (by decide) hz
    exact ⟨digits_render n, c, cs, he, fun h => absurd h hc⟩

/-! ### Filled up with zeros -/

theorem le_length_padded (width base n : Nat) : width ≤ (padded width base n).length := by
  rw [padded, List.length_append, List.length_replicate]
  omega

theorem digits_padded (width n : Nat) : ∀ c ∈ padded width 10 n, isDigit 10 c = true := by
  intro c hc
  rcases List.mem_append.1 hc with hc | hc
  · exact digits_zeros _ c hc
  · exact digits_render n c hc

theorem value_padded (width n : Nat) : value 10 (padded width 10 n) = n := by
  rw [padded, value_zeros_append, value_render (by decide) (by decide)]

/-- What is left of a positive number's numeral in front of its last places, of which there is
one digit at least. -/
theorem plain_take_padded {n : Nat} (hn : n ≠ 0) (k : Nat) :
    Plain ((padded (k + 1) 10 n).take ((padded (k + 1) 10 n).length - k)) := by
  refine ⟨fun c hc => digits_padded (k + 1) n c (List.mem_of_mem_take hc), ?_⟩
  obtain ⟨c, cs, hds, hc⟩ := exists_cons_render (show 2 ≤ 10 by decide) (by decide) hn
  rcases Nat.lt_or_ge k (render 10 n).length with hlt | hge
  · -- no zeros were put in front
    have hp : padded (k + 1) 10 n = c :: cs := by
      rw [padded, Nat.sub_eq_zero_of_le hlt, List.replicate_zero, List.nil_append, hds]
    obtain ⟨m, hm⟩ : ∃ m, (c :: cs).length - k = m + 1 :=
      ⟨(c :: cs).length - k - 1, by rw [← hds]; omega⟩
    rw [hp, hm, List.take_succ_cons]
    exact ⟨c, _, rfl, fun h => absurd h hc⟩
  · -- one zero stands before the last places
    obtain ⟨m, hm⟩ : ∃ m, k + 1 - (render 10 n).length = m + 1 :=
      ⟨k - (render 10 n).length, by omega⟩
    have hone : (padded (k + 1) 10 n).length - k = 1 := by
      rw [padded, List.length_append, List.length_replicate]
      omega
    rw [hone, padded, hm, List.replicate_succ, List.cons_append, List.take_succ_cons,
      List.take_zero]
    exact ⟨'0', [], rfl, fun _ => rfl⟩

end CallGuard.Text.Numeral
