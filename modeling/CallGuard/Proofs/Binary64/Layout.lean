import CallGuard.Proofs.Binary64.Shortest

/-! Numerals with a point: how digits are laid out about it, and what such a numeral is read as.
The digits of a decimal number make such a numeral (`exists_shows`), and the numeral of a finite
number is read as the number (`Shows.read`, `readUnsigned?_zero`). -/

namespace CallGuard.Binary64

open Text

/-- A numeral before a point and digits after it. -/
structure Pointed (whole fraction : List Char) : Prop where
  plain : Numeral.Plain whole
  digits : ∀ c ∈ fraction, Numeral.isDigit 10 c = true
  places : fraction ≠ []

variable {whole fraction : List Char} {d : Decimal} {u : Nat}

/-! ### Reading -/

/-- The digits at the front end where something else begins. -/
theorem spanDigits_append {ds : List Char} (hd : ∀ c ∈ ds, Numeral.isDigit 10 c = true)
    (rest : List Char) (hr : ∀ c ∈ rest.head?, Numeral.isDigit 10 c = false) :
    spanDigits (ds ++ rest) = (ds, rest) := by
  unfold spanDigits
  rw [List.takeWhile_append_of_pos hd, List.dropWhile_append_of_pos hd]
  cases rest with
  | nil => simp
  | cons c rest => simp [hr c rfl]

/-- A numeral with a point counts in the last of its places. -/
theorem readUnsigned?_pointed (h : Pointed whole fraction) (negative : Bool) :
    readUnsigned? negative (whole ++ '.' :: fraction) =
      some (ofDecimal negative (Numeral.value 10 (whole ++ fraction)) (-fraction.length)) := by
  have hw := spanDigits_append h.plain.digits ('.' :: fraction) (by simp; rfl)
  have hf := spanDigits_append h.digits [] (by simp)
  rw [List.append_nil] at hf
  obtain ⟨c, cs, hc, -⟩ := h.plain.lead
  have hne : whole.isEmpty = false := by rw [hc]; rfl
  unfold readUnsigned?
  simp [hw, hf, hne]

/-! ### Layout -/

/-- A numeral that counts a decimal number in the last of its places. -/
structure Shows (d : Decimal) (whole fraction : List Char) : Prop where
  pointed : Pointed whole fraction
  text : (d.positional ".0").toList = whole ++ '.' :: fraction
  value : ∃ k, Numeral.value 10 (whole ++ fraction) = d.coefficient * Nat.pow 10 k ∧
    d.exponent = -fraction.length + k

/-- A whole number shows one place after its point. -/
theorem shows_of_nonneg (hd : d.coefficient ≠ 0) (he : 0 ≤ d.exponent) :
    Shows d (Numeral.render 10 d.coefficient ++ List.replicate d.exponent.toNat '0') ['0'] := by
  obtain ⟨c, cs, hds, hc⟩ :=
    Numeral.exists_cons_render (show 2 ≤ 10 by decide) (by decide) hd
  constructor
  case pointed =>
    refine ⟨⟨?_, c, _, by rw [hds, List.cons_append], fun h => absurd h hc⟩,
      Numeral.digits_zeros 1, List.cons_ne_nil _ _⟩
    intro c hc
    rcases List.mem_append.1 hc with hc | hc
    · exact Numeral.digits_render _ c hc
    · exact Numeral.digits_zeros _ c hc
  case text => simp [Decimal.positional, he]
  case value =>
    refine ⟨d.exponent.toNat + 1, ?_, by simp; omega⟩
    have hzeros : List.replicate d.exponent.toNat '0' ++ ['0'] =
        List.replicate (d.exponent.toNat + 1) '0' := (List.replicate_succ' ..).symm
    rw [List.append_assoc, hzeros, Numeral.value_append_zeros,
      Numeral.value_render (by decide) (by decide)]

/-- Any other number shows all its places, and a zero before the point at least. -/
theorem shows_of_neg (hd : d.coefficient ≠ 0) (he : d.exponent < 0) :
    ∃ whole fraction, Shows d whole fraction := by
  obtain ⟨places, hp⟩ : ∃ places, (-d.exponent).toNat = places := ⟨_, rfl⟩
  have htext : (d.positional ".0").toList =
      let ds := Numeral.padded (places + 1) 10 d.coefficient
      ds.take (ds.length - places) ++ '.' :: ds.drop (ds.length - places) := by
    simp [Decimal.positional, Int.not_le.2 he, hp, Numeral.padded]
  have hlen := Numeral.le_length_padded (places + 1) 10 d.coefficient
  have hplain := Numeral.plain_take_padded hd places
  have hdigits := Numeral.digits_padded (places + 1) d.coefficient
  have hvalue := Numeral.value_padded (places + 1) d.coefficient
  generalize Numeral.padded (places + 1) 10 d.coefficient = ds at *
  refine ⟨ds.take (ds.length - places), ds.drop (ds.length - places), ?_, htext, 0, ?_, ?_⟩
  · refine ⟨hplain, fun c hc => hdigits c (List.mem_of_mem_drop hc), ?_⟩
    rw [ne_eq, List.drop_eq_nil_iff]
    omega
  · rw [List.take_append_drop, hvalue]
    exact (Nat.mul_one _).symm
  · rw [List.length_drop]
    omega

/-- The digits of a positive decimal number about its point. -/
theorem exists_shows (hd : d.coefficient ≠ 0) : ∃ whole fraction, Shows d whole fraction := by
  rcases Int.lt_or_le d.exponent 0 with he | he
  · exact shows_of_neg hd he
  · exact ⟨_, _, shows_of_nonneg hd he⟩

/-- The numeral of a positive count is read as the number. -/
theorem Shows.read (h : Shows (shortest u) whole fraction) (hr : Representable u) (hpos : 0 < u)
    (negative : Bool) :
    readUnsigned? negative (whole ++ '.' :: fraction) = some (.finite negative u hr) := by
  have hnear := near_shortest hr.2 hpos
  obtain ⟨k, hv, he⟩ := h.value
  let d : Decimal := ⟨Numeral.value 10 (whole ++ fraction), -fraction.length⟩
  have hd : Near u d.num d.den :=
    hnear.congr (Decimal.den_pos _) d.den_pos (Decimal.num_mul_den hv he).symm
  have hneg : d.exponent < 0 := by
    have hlen := List.length_pos_iff.2 h.pointed.places
    show -(fraction.length : Int) < 0
    omega
  rw [readUnsigned?_pointed h.pointed]
  exact congrArg some (ofDecimal_eq hd hr hpos hneg)

/-! ### Zero -/

theorem pointed_zero : Pointed ['0'] ['0'] :=
  ⟨Numeral.plain_zero, Numeral.digits_zeros 1, List.cons_ne_nil _ _⟩

/-- Zero is read with its sign. -/
theorem readUnsigned?_zero (hr : Representable 0) (negative : Bool) :
    readUnsigned? negative (['0'] ++ '.' :: ['0']) = some (.finite negative 0 hr) := by
  have hvalue : Numeral.value 10 (['0'] ++ ['0']) = 0 := rfl
  have hnearest : nearest 0 1 = 0 := by simp [nearest, roundHalfEven]
  rw [readUnsigned?_pointed pointed_zero, hvalue, ofDecimal, if_pos rfl, ofRatio_eq hr hnearest]

end CallGuard.Binary64
