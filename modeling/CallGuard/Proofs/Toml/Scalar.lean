import CallGuard.Proofs.Binary64.Layout
import CallGuard.Toml.Scalar

/-! Written numbers and booleans are read back from in front of a line end. The readers of dates
come first and give up at the character where a date or a time has its first mark
(`datetime?_digits`); then each kind of number is known by what its digits end in. -/

namespace CallGuard.Toml

open Text Binary64

variable {c : Char} {base : Nat} {ds whole fraction : List Char} {cs rest : Chars}

/-! ### Digits -/

/-- Where a row of digits ends. -/
def Ends (base : Nat) (rest : Chars) : Prop :=
  ∀ c ∈ rest.head?, Numeral.isDigit base c = false ∧ c ≠ '_'

theorem ends_newline (rest : Chars) : Ends 10 ('\n' :: rest) := by
  rintro _ ⟨⟩
  exact ⟨rfl, by decide⟩

theorem ends_point (rest : Chars) : Ends 10 ('.' :: rest) := by
  rintro _ ⟨⟩
  exact ⟨rfl, by decide⟩

theorem moreDigits_append (hd : ∀ c ∈ ds, Numeral.isDigit base c = true) (hr : Ends base rest) :
    moreDigits base (ds ++ rest) = (ds, rest) := by
  induction ds with
  | nil =>
    cases rest with
    | nil => rfl
    | cons c rest =>
      obtain ⟨hc, hu⟩ := hr c rfl
      simp [moreDigits, hc, hu]
  | cons c ds ih =>
    obtain ⟨hc, hds⟩ := List.forall_mem_cons.1 hd
    simp [moreDigits, hc, ih hds]

theorem digits?_append (hne : ds ≠ []) (hd : ∀ c ∈ ds, Numeral.isDigit base c = true)
    (hr : Ends base rest) : digits? base (ds ++ rest) = some (ds, rest) := by
  obtain ⟨c, cs, rfl⟩ := List.exists_cons_of_ne_nil hne
  have hc := hd c List.mem_cons_self
  have hm := moreDigits_append hd hr
  rw [List.cons_append] at hm ⊢
  simp [digits?, hc, hm]

theorem decimalDigits?_append (h : Numeral.Plain ds) (hr : Ends 10 rest) :
    decimalDigits? (ds ++ rest) = some (ds, rest) := by
  obtain ⟨c, cs, rfl, hc⟩ := h.lead
  have hds := digits?_append (List.cons_ne_nil c cs) h.digits hr
  by_cases hz : c = '0'
  · rw [hc hz, hz]
    rfl
  · rw [List.cons_append] at hds ⊢
    simp [decimalDigits?, hz, hds]

/-! ### No dates -/

/-- A reader of so many digits leaves what is after them. -/
theorem fixed?_digits {k : Nat} (hd : ∀ c ∈ ds, c ≠ '-' ∧ c ≠ ':')
    (h : fixed? k (ds ++ '\n' :: rest) = some (whole, cs)) :
    ∃ ds', (∀ c ∈ ds', c ≠ '-' ∧ c ≠ ':') ∧ cs = ds' ++ '\n' :: rest := by
  induction k generalizing ds whole cs with
  | zero =>
    cases h
    exact ⟨ds, hd, rfl⟩
  | succ k ih =>
    cases ds with
    | nil => cases h
    | cons c ds =>
      obtain ⟨-, hds⟩ := List.forall_mem_cons.1 hd
      simp only [List.cons_append, fixed?] at h
      split at h
      next hc =>
        cases hf : fixed? k (ds ++ '\n' :: rest) with
        | none => simp [hf] at h
        | some r =>
          obtain ⟨taken, left⟩ := r
          simp [hf] at h
          exact h.2 ▸ ih hds hf
      next hc => cases h

theorem after?_digits (hd : ∀ c ∈ ds, c ≠ '-' ∧ c ≠ ':') (rest : Chars) :
    after? '-' (ds ++ '\n' :: rest) = none ∧ after? ':' (ds ++ '\n' :: rest) = none := by
  cases ds with
  | nil => exact ⟨rfl, rfl⟩
  | cons c ds =>
    obtain ⟨hminus, hcolon⟩ := hd c List.mem_cons_self
    simp [after?, hminus, hcolon]

/-- A line of digits is no date and no time. -/
theorem datetime?_digits (hd : ∀ c ∈ ds, c ≠ '-' ∧ c ≠ ':') :
    datetime? (ds ++ '\n' :: rest) = none := by
  have hdate : date? (ds ++ '\n' :: rest) = none := by
    unfold date?
    cases hf : fixed? 4 (ds ++ '\n' :: rest) with
    | none => rfl
    | some r =>
      obtain ⟨taken, left⟩ := r
      obtain ⟨ds', hd', rfl⟩ := fixed?_digits hd hf
      simp [(after?_digits hd' rest).1]
  have htime : time? (ds ++ '\n' :: rest) = none := by
    unfold time? twoDigits?
    cases hf : fixed? 2 (ds ++ '\n' :: rest) with
    | none => rfl
    | some r =>
      obtain ⟨taken, left⟩ := r
      obtain ⟨ds', hd', rfl⟩ := fixed?_digits hd hf
      simp only [Option.bind_eq_bind, Option.bind_some]
      split
      next => simp [(after?_digits hd' rest).2]
      next => rfl
  simp [datetime?, hdate, htime]

theorem datetime?_of_not_digit (hc : Numeral.isDigit 10 c = false) :
    datetime? (c :: cs) = none := by
  have hfixed (k : Nat) : fixed? (k + 1) (c :: cs) = none := by simp [fixed?, hc]
  simp [datetime?, date?, time?, twoDigits?, hfixed]

/-! ### Booleans and infinities -/

theorem scalar?_true (rest : Chars) :
    scalar? ('t' :: 'r' :: 'u' :: 'e' :: rest) = some (.boolean true, rest) := rfl

theorem scalar?_false (rest : Chars) :
    scalar? ('f' :: 'a' :: 'l' :: 's' :: 'e' :: rest) = some (.boolean false, rest) := rfl

theorem scalar?_infinite (rest : Chars) :
    scalar? ('i' :: 'n' :: 'f' :: rest) = some (.float (.infinite false), rest) := rfl

theorem scalar?_negative_infinite (rest : Chars) :
    scalar? ('-' :: 'i' :: 'n' :: 'f' :: rest) = some (.float (.infinite true), rest) := rfl

/-! ### Numbers -/

theorem ne_of_isDigit {d : Char} (hc : Numeral.isDigit 10 c = true)
    (hd : Numeral.isDigit 10 d = false) : c ≠ d := by
  rintro rfl
  rw [hc] at hd
  cases hd

/-- The sign in front of a number. -/
def signOf (negative : Bool) : List Char := if negative then ['-'] else []

theorem splitSign_signOf (negative : Bool) (hc : Numeral.isDigit 10 c = true) (cs : List Char) :
    splitSign (signOf negative ++ c :: cs) = (negative, c :: cs) := by
  have hminus : c ≠ '-' := ne_of_isDigit hc rfl
  have hplus : c ≠ '+' := ne_of_isDigit hc rfl
  cases negative with
  | true => rfl
  | false => simp [signOf, splitSign, hminus, hplus]

theorem exponent?_newline (rest : Chars) : exponent? ('\n' :: rest) = none := rfl

/-- A number with a point. -/
theorem float?_pointed (h : Pointed whole fraction) (negative : Bool) {x : Binary64}
    (hx : readUnsigned? negative (whole ++ '.' :: fraction) = some x)
    (hf : x ≠ .infinite false) (rest : Chars) :
    float? (signOf negative ++ whole ++ '.' :: fraction ++ '\n' :: rest) =
      some (.float x, '\n' :: rest) := by
  have hwhole := decimalDigits?_append h.plain (ends_point (fraction ++ '\n' :: rest))
  have hfraction := digits?_append h.places h.digits (ends_newline rest)
  obtain ⟨c, cs, rfl, hdigit⟩ := h.plain.exists_cons
  have hsign := splitSign_signOf negative hdigit (cs ++ '.' :: fraction ++ '\n' :: rest)
  simp only [List.append_assoc, List.cons_append] at hwhole hfraction hsign hx ⊢
  unfold float?
  simp [hsign, hwhole, fraction?, hfraction, exponent?_newline, hx, hf]

/-- Digits that no point follows are no number with a fraction. -/
theorem float?_digits (h : Numeral.Plain ds) (rest : Chars) :
    float? (ds ++ '\n' :: rest) = none := by
  have hwhole := decimalDigits?_append h (ends_newline rest)
  obtain ⟨c, cs, rfl, hc⟩ := h.exists_cons
  have hsign := splitSign_signOf false hc (cs ++ '\n' :: rest)
  simp only [signOf, Bool.false_eq_true, if_false, List.nil_append, List.cons_append] at hwhole hsign ⊢
  unfold float?
  simp [hsign, hwhole, fraction?, exponent?_newline]

/-- After a zero in front the digits end. -/
theorem eq_newline_of_zero (h : Numeral.Plain ds) (he : ds ++ '\n' :: rest = '0' :: c :: cs) :
    c = '\n' := by
  obtain ⟨d, ds, rfl, hd⟩ := h.lead
  obtain ⟨rfl, ht⟩ := List.cons.inj he
  rw [hd rfl] at ht
  exact (List.cons.inj ht).1.symm

theorem integer?_digits (h : Numeral.Plain ds)
    (hmax : (Numeral.value 10 ds : Int) ≤ maxInteger) (rest : Chars) :
    integer? (ds ++ '\n' :: rest) = some (.integer (Numeral.value 10 ds), '\n' :: rest) := by
  have hdigits := decimalDigits?_append h (ends_newline rest)
  have hmin : minInteger ≤ (Numeral.value 10 ds : Int) := by
    unfold minInteger
    omega
  unfold integer?
  split
  next he => cases eq_newline_of_zero h he
  next he => cases eq_newline_of_zero h he
  next he => cases eq_newline_of_zero h he
  next =>
    obtain ⟨c, cs, rfl, hc⟩ := h.exists_cons
    have hsign := splitSign_signOf false hc (cs ++ '\n' :: rest)
    simp only [signOf, Bool.false_eq_true, if_false, List.nil_append] at hsign
    simp only [List.cons_append] at hdigits ⊢
    simp [hsign, hdigits, fitting, hmin, hmax]

/-- A number with a point is one of floating point. -/
theorem scalar?_pointed (h : Pointed whole fraction) (negative : Bool) {x : Binary64}
    (hx : readUnsigned? negative (whole ++ '.' :: fraction) = some x)
    (hf : x ≠ .infinite false) (rest : Chars) :
    scalar? (signOf negative ++ whole ++ '.' :: fraction ++ '\n' :: rest) =
      some (.float x, '\n' :: rest) := by
  have hdate : datetime? (signOf negative ++ whole ++ '.' :: fraction ++ '\n' :: rest) = none := by
    cases negative with
    | true => exact datetime?_of_not_digit rfl
    | false =>
      refine datetime?_digits fun c hc => ?_
      rcases List.mem_append.1 hc with hc | hc
      · have hc := h.plain.digits c hc
        exact ⟨ne_of_isDigit hc rfl, ne_of_isDigit hc rfl⟩
      rcases List.mem_cons.1 hc with rfl | hc
      · decide
      · have hc := h.digits c hc
        exact ⟨ne_of_isDigit hc rfl, ne_of_isDigit hc rfl⟩
  rw [scalar?, hdate, float?_pointed h negative hx hf]

theorem special?_digit (hc : Numeral.isDigit 10 c = true) (cs : Chars) :
    special? (c :: cs) = none := by
  have hsign := splitSign_signOf false hc cs
  have hi : c ≠ 'i' := ne_of_isDigit hc rfl
  have hn : c ≠ 'n' := ne_of_isDigit hc rfl
  simp only [signOf, Bool.false_eq_true, if_false, List.nil_append] at hsign
  simp [special?, hsign, afterWord?, after?, hi, hn]

theorem boolean?_digit (hc : Numeral.isDigit 10 c = true) (cs : Chars) :
    boolean? (c :: cs) = none := by
  have ht : c ≠ 't' := ne_of_isDigit hc rfl
  have hf : c ≠ 'f' := ne_of_isDigit hc rfl
  simp [boolean?, afterWord?, after?, ht, hf]

/-- A written natural is an integer. -/
theorem scalar?_integer {n : Nat} (hmax : (n : Int) ≤ maxInteger) (rest : Chars) :
    scalar? (Numeral.render 10 n ++ '\n' :: rest) = some (.integer n, '\n' :: rest) := by
  have hplain := Numeral.plain_render n
  have hvalue := Numeral.value_render (show 2 ≤ 10 by decide) (by decide) n
  have hdate : datetime? (Numeral.render 10 n ++ '\n' :: rest) = none :=
    datetime?_digits fun c hc =>
      ⟨ne_of_isDigit (hplain.digits c hc) rfl, ne_of_isDigit (hplain.digits c hc) rfl⟩
  have hfloat := float?_digits hplain rest
  have hinteger := integer?_digits hplain (by rwa [hvalue]) rest
  rw [hvalue] at hinteger
  obtain ⟨c, cs, he, hc⟩ := hplain.exists_cons
  have hspecial : special? (Numeral.render 10 n ++ '\n' :: rest) = none := by
    rw [he]
    exact special?_digit hc _
  have hboolean : boolean? (Numeral.render 10 n ++ '\n' :: rest) = none := by
    rw [he]
    exact boolean?_digit hc _
  rw [scalar?, hdate, hfloat, hspecial, hboolean]
  exact hinteger

end CallGuard.Toml
