import CallGuard.Toml.Quote
import Mathlib.Data.List.Basic

/-! Written strings and keys are read back, whatever characters they are of. One lemma says how
each character is read in each form: escaped (`basicRest_escapeChar`), as it is (`basicRest_plain`,
`literalRest_plain`), or as a quote in a form over several lines, where it may begin the end of
the string (`closing?_quotes`). The forms follow by induction on the text, and the writer takes
one of them (`string?_writeString`, `key?_writeKey`). -/

namespace CallGuard.Toml

open Text

variable {c d q : Char} {cs rest : Chars}

/-- Whether what follows a string goes on with a quote. -/
def Unquoted (rest : Chars) : Prop := ∀ c ∈ rest.head?, c ≠ '"' ∧ c ≠ '\''

/-! ### Single characters -/

/-- A character of a class is none of those that are not. -/
theorem not_mem_of_any {p : Char → Bool} {marks : List Char} (hc : p c = true)
    (hm : marks.any p = false) : c ∉ marks :=
  fun h => List.any_eq_false.1 hm c h hc

theorem ne_return_of_isPlain (hp : isPlain c = true) : c ≠ '\r' := by
  rintro rfl
  cases hp

theorem ne_newline_of_isPlain (hp : isPlain c = true) : c ≠ '\n' := by
  rintro rfl
  cases hp

theorem isPlain_of_not_isControl (hc : isControl c = false) (hn : c ≠ '\n') : isPlain c = true := by
  simpa [isControl, hn] using hc

theorem endsLine_of_ne (hb : isBlankChar c = false) (hn : c ≠ '\n') (hr : c ≠ '\r') :
    endsLine (c :: cs) = false := by
  unfold endsLine skipBlanks
  rw [List.dropWhile_cons_of_neg (by simp [hb])]
  simp [newline?, hn, hr]

/-- No escape is at the end of a line. -/
theorem endsLine_of_escaped? (he : escaped? c = some d) : endsLine (c :: cs) = false := by
  refine endsLine_of_ne ?_ ?_ ?_
  · cases hb : isBlankChar c with
    | false => rfl
    | true =>
      rcases show c = ' ' ∨ c = '\t' by simpa [isBlankChar] using hb with rfl | rfl <;> cases he
  · rintro rfl
    cases he
  · rintro rfl
    cases he

theorem basicRest_escape (multiline : Bool) (he : escaped? c = some d) :
    basicRest multiline false ('\\' :: c :: rest) = prepend d (basicRest multiline false rest) := by
  rw [basicRest.eq_def]
  simp [endsLine_of_escaped? he, he]

theorem basicRest_plain (multiline : Bool) (hp : isPlain c = true ∨ multiline = true ∧ c = '\n')
    (hq : c ≠ '"') (hb : c ≠ '\\') :
    basicRest multiline false (c :: rest) = prepend c (basicRest multiline false rest) := by
  rw [basicRest.eq_def]
  rcases hp with hp | ⟨rfl, rfl⟩
  · simp [hp, hq, hb, ne_return_of_isPlain hp]
  · simp

theorem basicRest_newline :
    basicRest true false ('\n' :: rest) = prepend '\n' (basicRest true false rest) :=
  basicRest_plain true (.inr ⟨rfl, rfl⟩) (by decide) (by decide)

/-- The four digits of a control character, which a reader takes for it. -/
theorem codePoint?_control : ∀ n : Fin 128,
    ((Numeral.padded 4 16 n).map Char.toUpper).length = 4 ∧
      codePoint? ((Numeral.padded 4 16 n).map Char.toUpper) = some (Char.ofNat n) := by
  decide +kernel

theorem toNat_lt_of_isControl (hc : isControl c = true) : c.toNat < 128 := by
  simp only [isControl, isPlain, Bool.and_eq_true, Bool.not_eq_true', Bool.or_eq_false_iff,
    Bool.and_eq_false_iff, decide_eq_false_iff_not] at hc
  omega

theorem basicRest_control (multiline : Bool) (hc : isControl c = true) :
    basicRest multiline false ('\\' :: 'u' :: (Numeral.padded 4 16 c.toNat).map Char.toUpper ++ rest)
      = prepend c (basicRest multiline false rest) := by
  obtain ⟨hlen, hcode⟩ := codePoint?_control ⟨c.toNat, toNat_lt_of_isControl hc⟩
  simp only [Char.ofNat_toNat] at hlen hcode
  generalize (Numeral.padded 4 16 c.toNat).map Char.toUpper = digits at hlen hcode
  obtain ⟨h1, h2, h3, h4, rfl⟩ := List.length_eq_four.1 hlen
  have he : endsLine ('u' :: h1 :: h2 :: h3 :: h4 :: rest) = false :=
    endsLine_of_ne rfl (by decide) (by decide)
  have hu : escaped? 'u' = none := rfl
  rw [basicRest.eq_def]
  simp [he, hu, hcode]

/-- A character has an escape of one letter, is a control with an escape of digits, or stands for
itself. -/
theorem escapeChar_cases (c : Char) :
    (∃ e, escapeChar c = ['\\', e] ∧ escaped? e = some c) ∨
    (isControl c = true ∧
      escapeChar c = '\\' :: 'u' :: (Numeral.padded 4 16 c.toNat).map Char.toUpper) ∨
    (escapeChar c = [c] ∧ isPlain c = true ∧ c ≠ '"' ∧ c ≠ '\\') := by
  unfold escapeChar
  split
  next h => exact .inl ⟨'b', rfl, by rw [h]; rfl⟩
  split
  next h => exact .inl ⟨'t', rfl, by rw [h]; rfl⟩
  split
  next h => exact .inl ⟨'n', rfl, by rw [h]; rfl⟩
  split
  next h => exact .inl ⟨'f', rfl, by rw [h]; rfl⟩
  split
  next h => exact .inl ⟨'r', rfl, by rw [h]; rfl⟩
  split
  next h => exact .inl ⟨'"', rfl, by rw [h]; rfl⟩
  split
  next h => exact .inl ⟨'\\', rfl, by rw [h]; rfl⟩
  split
  next h => exact .inr (.inl ⟨h, rfl⟩)
  next hn _ _ hq hb hc =>
    refine .inr (.inr ⟨rfl, ?_, hq, hb⟩)
    simpa [isControl, hn] using hc

/-- Whatever a character is, its escape is read as that character. -/
theorem basicRest_escapeChar (multiline : Bool) (c : Char) (rest : Chars) :
    basicRest multiline false (escapeChar c ++ rest) =
      prepend c (basicRest multiline false rest) := by
  rcases escapeChar_cases c with ⟨e, he, hd⟩ | ⟨hc, he⟩ | ⟨he, hp, hq, hb⟩
  · rw [he]
    exact basicRest_escape multiline hd
  · rw [he]
    exact basicRest_control multiline hc
  · rw [he]
    exact basicRest_plain multiline (.inl hp) hq hb

/-- An escape begins with no quote and on the same line. -/
theorem exists_cons_escapeChar (c : Char) :
    ∃ d ds, escapeChar c = d :: ds ∧ d ≠ '"' ∧ isPlain d = true := by
  rcases escapeChar_cases c with ⟨e, he, -⟩ | ⟨-, he⟩ | ⟨he, hp, hq, -⟩
  · exact ⟨_, _, he, by decide, rfl⟩
  · exact ⟨_, _, he, by decide, rfl⟩
  · exact ⟨_, _, he, hq, hp⟩

theorem literalRest_plain (multiline : Bool) (hp : isPlain c = true ∨ multiline = true ∧ c = '\n')
    (hq : c ≠ '\'') :
    literalRest multiline (c :: rest) = prepend c (literalRest multiline rest) := by
  have hr : c ≠ '\r' := by
    rintro rfl
    rcases hp with hp | ⟨-, hp⟩ <;> cases hp
  rw [literalRest.eq_def]
  rcases hp with hp | ⟨rfl, rfl⟩
  · simp [hp, hq, hr]
  · simp

/-! ### The end of a string over several lines -/

/-- Up to five quotes end a string, of which the first two belong to it. -/
theorem closing?_quotes {k : Nat} (hk : k ≤ 2) (hr : rest.head? ≠ some q) :
    closing? q (List.replicate (k + 3) q ++ rest) = some (List.replicate k q, rest) := by
  have hk : k = 0 ∨ k = 1 ∨ k = 2 := by omega
  rcases hk with rfl | rfl | rfl
  · match rest, hr with
    | [], _ => simp [closing?, List.replicate]
    | [d], hr => simpa [closing?, List.replicate] using hr
    | d :: e :: rest, hr =>
      have hd : d ≠ q := by simpa using hr
      simp [closing?, List.replicate, hd]
  · match rest, hr with
    | [], _ => simp [closing?, List.replicate]
    | d :: rest, hr =>
      have hd : d ≠ q := by simpa using hr
      simp [closing?, List.replicate, hd]
  · simp [closing?, List.replicate]

/-- A quote that no two others follow ends nothing. -/
theorem closing?_of_ne (hd : d ≠ q) : closing? q (q :: d :: cs) = none := by
  cases cs <;> simp [closing?, hd]

theorem closing?_of_ne_next (hd : d ≠ q) : closing? q (q :: q :: d :: cs) = none := by
  simp [closing?, hd]

/-- A quote ends a string on one line. Over several lines it may be one of the text. -/
theorem basicRest_quoted (multiline : Bool) (cs : Chars) :
    basicRest multiline false ('"' :: cs) =
      if multiline then (closing? '"' ('"' :: cs)).or (prepend '"' (basicRest true false cs))
      else some ([], cs) := by
  rw [basicRest.eq_def]
  cases h : closing? '"' ('"' :: cs) <;> simp [h]

theorem literalRest_quoted (multiline : Bool) (cs : Chars) :
    literalRest multiline ('\'' :: cs) =
      if multiline then (closing? '\'' ('\'' :: cs)).or (prepend '\'' (literalRest true cs))
      else some ([], cs) := by
  rw [literalRest.eq_def]
  cases h : closing? '\'' ('\'' :: cs) <;> simp [h]

/-- What a reader makes of a quote, and of the rest of its string and what is after it. -/
theorem basicRest_closing {done : List Char × Chars} (h : closing? '"' ('"' :: cs) = some done) :
    basicRest true false ('"' :: cs) = some done := by
  rw [basicRest_quoted, h]
  rfl

theorem basicRest_quote (h : closing? '"' ('"' :: cs) = none) :
    basicRest true false ('"' :: cs) = prepend '"' (basicRest true false cs) := by
  rw [basicRest_quoted, h]
  rfl

theorem literalRest_closing {done : List Char × Chars}
    (h : closing? '\'' ('\'' :: cs) = some done) :
    literalRest true ('\'' :: cs) = some done := by
  rw [literalRest_quoted, h]
  rfl

theorem literalRest_quote (h : closing? '\'' ('\'' :: cs) = none) :
    literalRest true ('\'' :: cs) = prepend '\'' (literalRest true cs) := by
  rw [literalRest_quoted, h]
  rfl

/-- The inside of a string over several lines with a quote in front of it. Either the quote
belongs to the last ones, or two characters on there is none. -/
theorem closing?_body (body : List Char) (hr : rest.head? ≠ some q)
    (hb : ∀ c cs, body = q :: c :: cs → c ≠ q) :
    closing? q (q :: (body ++ [q, q, q] ++ rest)) = none ∨
    ∃ k, k ≤ 1 ∧ body = List.replicate k q ∧
      closing? q (q :: (body ++ [q, q, q] ++ rest)) = some (q :: List.replicate k q, rest) := by
  match body, hb with
  | [], _ => exact .inr ⟨0, by omega, rfl, closing?_quotes (k := 1) (by omega) hr⟩
  | [c], _ =>
    by_cases hc : c = q
    · subst hc
      exact .inr ⟨1, by omega, rfl, closing?_quotes (k := 2) (by omega) hr⟩
    · exact .inl (closing?_of_ne hc)
  | c :: d :: cs, hb =>
    by_cases hc : c = q
    · subst hc
      exact .inl (closing?_of_ne_next (hb d cs rfl))
    · exact .inl (closing?_of_ne hc)

/-! ### Texts -/

theorem basicRest_end (rest : Chars) : basicRest false false ('"' :: rest) = some ([], rest) :=
  basicRest_quoted false rest

theorem literalRest_end (rest : Chars) : literalRest false ('\'' :: rest) = some ([], rest) :=
  literalRest_quoted false rest

/-- The inside of a basic string on one line. -/
theorem basicRest_basic (cs rest : Chars) :
    basicRest false false (cs.flatMap escapeChar ++ '"' :: rest) = some (cs, rest) := by
  induction cs with
  | nil => exact basicRest_end rest
  | cons c cs ih =>
    rw [List.flatMap_cons, List.append_assoc, basicRest_escapeChar, ih]
    rfl

/-- The inside of a literal string on one line. -/
theorem literalRest_literal (hp : ∀ c ∈ cs, isPlain c = true) (hq : '\'' ∉ cs) (rest : Chars) :
    literalRest false (cs ++ '\'' :: rest) = some (cs, rest) := by
  induction cs with
  | nil => exact literalRest_end rest
  | cons c cs ih =>
    obtain ⟨hc, hcs⟩ := List.forall_mem_cons.1 hp
    rw [List.mem_cons, not_or] at hq
    rw [List.cons_append, literalRest_plain false (.inl hc) (Ne.symm hq.1), ih hcs hq.2]
    rfl

/-- The inside of a literal string over several lines, in which no three quotes are together. -/
theorem literalRest_literalLines (hp : ∀ c ∈ cs, isPlain c = true ∨ c = '\n')
    (hq : ¬['\'', '\'', '\''] <:+: cs) (hr : rest.head? ≠ some '\'') :
    literalRest true (cs ++ ['\'', '\'', '\''] ++ rest) = some (cs, rest) := by
  induction cs with
  | nil => exact literalRest_closing (closing?_quotes (k := 0) (by omega) hr)
  | cons c cs ih =>
    obtain ⟨hc, hcs⟩ := List.forall_mem_cons.1 hp
    have hih := ih hcs fun h => hq (List.infix_cons h)
    by_cases hquote : c = '\''
    · subst hquote
      have hb : ∀ c' cs', cs = '\'' :: c' :: cs' → c' ≠ '\'' := by
        rintro c' cs' rfl rfl
        exact hq ⟨[], cs', rfl⟩
      rcases closing?_body cs hr hb with hn | ⟨k, -, rfl, hk⟩
      · exact (literalRest_quote hn).trans (by rw [hih]; rfl)
      · exact literalRest_closing hk
    · have hc : isPlain c = true ∨ true = true ∧ c = '\n' := hc.imp_right fun h => ⟨rfl, h⟩
      rw [List.cons_append, List.cons_append, literalRest_plain true hc hquote, hih]
      rfl

theorem exists_cons_escapeLines {quotes : Nat} (c : Char) (cs : List Char)
    (h : ¬(c = '"' ∧ quotes < 2)) : ∃ d ds, escapeLines quotes (c :: cs) = d :: ds ∧ d ≠ '"' := by
  unfold escapeLines
  split
  next hc =>
    rw [if_neg fun hlt => h ⟨hc, hlt⟩]
    exact ⟨_, _, rfl, by decide⟩
  next hc =>
    split
    next hn => exact ⟨_, _, rfl, by decide⟩
    next hn =>
      obtain ⟨d, ds, he, hd, -⟩ := exists_cons_escapeChar c
      exact ⟨d, _, by rw [he, List.cons_append], hd⟩

/-- Of a body that begins with a quote the next character is none. -/
theorem ne_of_escapeLines {quotes : Nat} (hpos : 0 < quotes) {ds : List Char}
    (h : escapeLines quotes cs = '"' :: d :: ds) : d ≠ '"' := by
  cases cs with
  | nil => cases h
  | cons c cs =>
    by_cases hc : c = '"' ∧ quotes < 2
    · obtain ⟨rfl, hlt⟩ := hc
      have hn : quotes + 1 = 2 := by omega
      have htail : escapeLines 2 cs = d :: ds := by simpa [escapeLines, hlt, hn] using h
      cases cs with
      | nil => cases htail
      | cons c cs =>
        have hfull : ¬(c = '"' ∧ 2 < 2) := fun h => absurd h.2 (by decide)
        obtain ⟨d', ds', he, hne⟩ := exists_cons_escapeLines c cs hfull
        rw [he] at htail
        cases htail
        exact hne
    · obtain ⟨d', ds', he, hne⟩ := exists_cons_escapeLines c cs hc
      rw [he] at h
      cases h
      exact absurd rfl hne

/-- The inside of a basic string over several lines, after a run of so many quotes. -/
theorem basicRest_escapeLines (quotes : Nat) (cs : List Char) (hr : rest.head? ≠ some '"') :
    basicRest true false (escapeLines quotes cs ++ ['"', '"', '"'] ++ rest) = some (cs, rest) := by
  induction cs generalizing quotes with
  | nil => exact basicRest_closing (closing?_quotes (k := 0) (by omega) hr)
  | cons c cs ih =>
    by_cases hquote : c = '"'
    · subst hquote
      by_cases hlt : quotes < 2
      · have he : escapeLines quotes ('"' :: cs) = '"' :: escapeLines (quotes + 1) cs := by
          simp [escapeLines, hlt]
        have hb : ∀ c ds, escapeLines (quotes + 1) cs = '"' :: c :: ds → c ≠ '"' :=
          fun _ _ h => ne_of_escapeLines (Nat.succ_pos _) h
        rw [he]
        rcases closing?_body _ hr hb with hn | ⟨k, hk, hbody, hdone⟩
        · exact (basicRest_quote hn).trans (by rw [ih]; rfl)
        · -- the quotes that belong to the string are what is left of the text
          have hrest := ih (quotes + 1)
          have hquotes : basicRest true false (List.replicate k '"' ++ ['"', '"', '"'] ++ rest) =
              some (List.replicate k '"', rest) := by
            rcases show k = 0 ∨ k = 1 by omega with rfl | rfl
            · exact basicRest_closing (closing?_quotes (k := 0) (by omega) hr)
            · exact basicRest_closing (closing?_quotes (k := 1) (by omega) hr)
          rw [hbody, hquotes] at hrest
          cases hrest
          exact basicRest_closing hdone
      · have he : escapeLines quotes ('"' :: cs) = '\\' :: '"' :: escapeLines 0 cs := by
          simp [escapeLines, hlt]
        simp only [he, List.cons_append]
        rw [basicRest_escape true (d := '"') rfl, ih]
        rfl
    · by_cases hn : c = '\n'
      · subst hn
        have he : escapeLines quotes ('\n' :: cs) = '\n' :: escapeLines 0 cs := by
          simp [escapeLines]
        rw [he, List.cons_append, List.cons_append, basicRest_newline, ih]
        rfl
      · have he : escapeLines quotes (c :: cs) = escapeChar c ++ escapeLines 0 cs := by
          simp [escapeLines, hquote, hn]
        rw [he, List.append_assoc, List.append_assoc, basicRest_escapeChar, ← List.append_assoc, ih]
        rfl

/-! ### Runs of quotes -/

/-- The longest run so far and the present one, after one more character. -/
def runThen (c : Char) (runs : Nat × Nat) (d : Char) : Nat × Nat :=
  if d = c then (max runs.1 (runs.2 + 1), runs.2 + 1) else (runs.1, 0)

theorem longestRun_eq (c : Char) (cs : List Char) :
    longestRun c cs = (cs.foldl (runThen c) (0, 0)).1 := rfl

theorem le_foldl_runThen (c : Char) (cs : List Char) (runs : Nat × Nat) :
    runs.1 ≤ (cs.foldl (runThen c) runs).1 := by
  induction cs generalizing runs with
  | nil => exact Nat.le_refl _
  | cons d cs ih =>
    refine Nat.le_trans ?_ (ih (runThen c runs d))
    unfold runThen
    split
    next => exact Nat.le_max_left ..
    next => exact Nat.le_refl _

/-- A text with three of a character together has a run of so many at least. -/
theorem three_le_longestRun (h : [c, c, c] <:+: cs) : 3 ≤ longestRun c cs := by
  obtain ⟨xs, ys, rfl⟩ := h
  rw [longestRun_eq, List.foldl_append, List.foldl_append]
  refine Nat.le_trans ?_ (le_foldl_runThen c ys _)
  simp only [List.foldl_cons, List.foldl_nil, runThen, if_true]
  omega

/-! ### Written strings -/

theorem Unquoted.ne_double (hr : Unquoted rest) : rest.head? ≠ some '"' :=
  fun h => (hr _ h).1 rfl

theorem Unquoted.ne_single (hr : Unquoted rest) : rest.head? ≠ some '\'' :=
  fun h => (hr _ h).2 rfl

/-- Two quotes with no third are no opening of a form over several lines. -/
theorem afterWord?_of_head? (hr : rest.head? ≠ some q) :
    afterWord? [q, q, q] (q :: q :: rest) = none := by
  cases rest with
  | nil => simp [afterWord?, after?]
  | cons d rest =>
    have hd : d ≠ q := by simpa using hr
    simp [afterWord?, after?, hd]

theorem afterWord?_of_ne (hd : d ≠ q) : afterWord? [q, q, q] (q :: d :: cs) = none := by
  simp [afterWord?, after?, hd]

theorem afterWord?_of_other (hd : d ≠ q) : afterWord? [q, q, q] (d :: cs) = none := by
  simp [afterWord?, after?, hd]

theorem string?_basic (cs : List Char) (hr : Unquoted rest) :
    string? (basic cs ++ rest) = some (String.ofList cs, rest) := by
  have hdouble : afterWord? ['"', '"', '"'] (basic cs ++ rest) = none := by
    cases cs with
    | nil => exact afterWord?_of_head? hr.ne_double
    | cons c cs =>
      obtain ⟨d, ds, he, hd, -⟩ := exists_cons_escapeChar c
      rw [basic, List.flatMap_cons, he]
      exact afterWord?_of_ne hd
  have hsingle : afterWord? ['\'', '\'', '\''] (basic cs ++ rest) = none :=
    afterWord?_of_other (by decide)
  have hline := basicRest_basic cs rest
  rw [string?, hdouble, hsingle]
  simp [basic, lineString?, hline, ofChars]

theorem string?_literal (hp : ∀ c ∈ cs, isPlain c = true) (hq : '\'' ∉ cs) (hr : Unquoted rest) :
    string? (literal cs ++ rest) = some (String.ofList cs, rest) := by
  have hdouble : afterWord? ['"', '"', '"'] (literal cs ++ rest) = none :=
    afterWord?_of_other (by decide)
  have hsingle : afterWord? ['\'', '\'', '\''] (literal cs ++ rest) = none := by
    cases cs with
    | nil => exact afterWord?_of_head? hr.ne_single
    | cons c cs =>
      rw [List.mem_cons, not_or] at hq
      exact afterWord?_of_ne (Ne.symm hq.1)
  have hline := literalRest_literal hp hq rest
  rw [string?, hdouble, hsingle]
  simp [literal, lineString?, hline, ofChars]

/-- A line end after the opening quotes is dropped, and there is none but the one put there. -/
theorem dropNewline_opening {body : Chars}
    (hb : cs.contains '\n' = false → ∀ c ∈ body.head?, isPlain c = true) :
    dropNewline ((if cs.contains '\n' then ['\n'] else []) ++ body) = body := by
  cases hn : cs.contains '\n' with
  | true => rfl
  | false =>
    cases body with
    | nil => rfl
    | cons c body =>
      have hp := hb hn c rfl
      simp [dropNewline, newline?, ne_newline_of_isPlain hp, ne_return_of_isPlain hp]

theorem string?_basicLines (cs : List Char) (hr : Unquoted rest) :
    string? (basicLines cs ++ rest) = some (String.ofList cs, rest) := by
  have hb : cs.contains '\n' = false →
      ∀ c ∈ (escapeLines 0 cs ++ ['"', '"', '"'] ++ rest).head?, isPlain c = true := by
    intro hn
    cases cs with
    | nil =>
      rintro _ ⟨⟩
      rfl
    | cons c cs =>
      obtain ⟨d, ds, he, -, hp⟩ := exists_cons_escapeChar c
      have hc : c ≠ '\n' := by
        rintro rfl
        simp at hn
      unfold escapeLines
      split
      · rintro _ ⟨⟩
        rfl
      · rw [he]
        rintro _ ⟨⟩
        exact hp
  have hlines := basicRest_escapeLines 0 cs hr.ne_double
  have hdrop := dropNewline_opening hb
  rw [← hdrop] at hlines
  simpa [string?, basicLines, opening, afterWord?, after?, ofChars] using
    congrArg ofChars hlines

theorem string?_literalLines (hp : ∀ c ∈ cs, isControl c = false) (hq : longestRun '\'' cs ≤ 2)
    (hr : Unquoted rest) : string? (literalLines cs ++ rest) = some (String.ofList cs, rest) := by
  have hplain : ∀ c ∈ cs, isPlain c = true ∨ c = '\n' := by
    intro c hc
    by_cases hn : c = '\n'
    · exact .inr hn
    · exact .inl (isPlain_of_not_isControl (hp c hc) hn)
  have hb : cs.contains '\n' = false →
      ∀ c ∈ (cs ++ ['\'', '\'', '\''] ++ rest).head?, isPlain c = true := by
    intro hn
    cases cs with
    | nil =>
      rintro _ ⟨⟩
      rfl
    | cons c cs =>
      rintro _ ⟨⟩
      refine (hplain c List.mem_cons_self).resolve_right ?_
      rintro rfl
      simp at hn
  have hrun : ¬['\'', '\'', '\''] <:+: cs := by
    intro h
    have hle := three_le_longestRun h
    omega
  have hlines := literalRest_literalLines hplain hrun hr.ne_single
  have hdrop := dropNewline_opening hb
  rw [← hdrop] at hlines
  simpa [string?, literalLines, opening, afterWord?, after?, ofChars] using
    congrArg ofChars hlines

/-- The written form of a string is read as the string. -/
theorem string?_writeString (cs : List Char) (hr : Unquoted rest) :
    string? (writeString cs ++ rest) = some (String.ofList cs, rest) := by
  have hplain (hc : cs.any isControl = false) (hn : cs.contains '\n' = false) :
      ∀ c ∈ cs, isPlain c = true := by
    intro c hm
    refine isPlain_of_not_isControl ?_ ?_
    · simpa using List.any_eq_false.1 hc c hm
    · rintro rfl
      simp [hm] at hn
  unfold writeString
  dsimp only
  split
  next => exact string?_basic cs hr
  split
  next h =>
    simp only [Bool.and_eq_true, Bool.not_eq_true'] at h
    exact string?_literal (hplain h.1.1 h.2) (by simpa using h.1.2) hr
  split
  next => exact string?_basicLines cs hr
  split
  next h =>
    simp only [Bool.and_eq_true, Bool.not_eq_true', decide_eq_true_eq] at h
    exact string?_literalLines (fun c hc => by simpa using List.any_eq_false.1 h.1 c hc) h.2 hr
  split
  next => exact string?_basicLines cs hr
  next => exact string?_basic cs hr

/-! ### Written keys -/

theorem key?_basic (cs rest : Chars) :
    key? (basic cs ++ rest) = some (String.ofList cs, rest) := by
  have hline := basicRest_basic cs rest
  have hbare : isBare '"' = false := rfl
  simp [key?, basic, lineString?, hbare, hline, ofChars]

theorem key?_literal (hp : ∀ c ∈ cs, isPlain c = true) (hq : '\'' ∉ cs) (rest : Chars) :
    key? (literal cs ++ rest) = some (String.ofList cs, rest) := by
  have hline := literalRest_literal hp hq rest
  have hbare : isBare '\'' = false := rfl
  simp [key?, literal, lineString?, hbare, hline, ofChars]

theorem key?_bare (hne : cs ≠ []) (hb : ∀ c ∈ cs, isBare c = true)
    (hr : ∀ c ∈ rest.head?, isBare c = false) :
    key? (cs ++ rest) = some (String.ofList cs, rest) := by
  have htake : (cs ++ rest).takeWhile isBare = cs := by
    rw [List.takeWhile_append_of_pos hb]
    cases rest with
    | nil => simp
    | cons c rest => simp [hr c rfl]
  have hdrop : (cs ++ rest).dropWhile isBare = rest := by
    rw [List.dropWhile_append_of_pos hb]
    cases rest with
    | nil => rfl
    | cons c rest => simp [hr c rfl]
  unfold key?
  rw [htake, hdrop]
  cases cs with
  | nil => exact absurd rfl hne
  | cons c cs => rfl

/-- The written form of a key is read as the key, if what follows is no part of a bare one. -/
theorem key?_writeKey (cs : List Char) (hr : ∀ c ∈ rest.head?, isBare c = false) :
    key? (writeKey cs ++ rest) = some (String.ofList cs, rest) := by
  unfold writeKey
  dsimp only
  split
  next h =>
    simp only [Bool.and_eq_true, Bool.not_eq_true', List.isEmpty_eq_false_iff,
      List.all_eq_true] at h
    exact key?_bare h.1 h.2 hr
  split
  next => exact key?_basic cs rest
  split
  next h =>
    simp only [Bool.and_eq_true, Bool.not_eq_true'] at h
    refine key?_literal (fun c hc => ?_) (by simpa using h.2) rest
    simpa using List.any_eq_false.1 h.1 c hc
  next => exact key?_basic cs rest

/-- A written key begins with a quote or a character of bare keys. -/
theorem exists_cons_writeKey (cs : List Char) :
    ∃ d ds, writeKey cs = d :: ds ∧ (d = '"' ∨ d = '\'' ∨ isBare d = true) := by
  unfold writeKey
  dsimp only
  split
  next h =>
    simp only [Bool.and_eq_true, Bool.not_eq_true', List.isEmpty_eq_false_iff,
      List.all_eq_true] at h
    obtain ⟨d, ds, rfl⟩ := List.exists_cons_of_ne_nil h.1
    exact ⟨d, ds, rfl, .inr (.inr (h.2 d List.mem_cons_self))⟩
  split
  next => exact ⟨_, _, rfl, .inl rfl⟩
  split
  next => exact ⟨_, _, rfl, .inr (.inl rfl)⟩
  next => exact ⟨_, _, rfl, .inl rfl⟩

/-- A written string begins with a quote. -/
theorem exists_cons_writeString (cs : List Char) :
    ∃ d ds, writeString cs = d :: ds ∧ (d = '"' ∨ d = '\'') := by
  unfold writeString
  dsimp only
  split
  next => exact ⟨_, _, rfl, .inl rfl⟩
  split
  next => exact ⟨_, _, rfl, .inr rfl⟩
  split
  next => exact ⟨_, _, rfl, .inl rfl⟩
  split
  next => exact ⟨_, _, rfl, .inr rfl⟩
  split
  next => exact ⟨_, _, rfl, .inl rfl⟩
  next => exact ⟨_, _, rfl, .inl rfl⟩

end CallGuard.Toml
