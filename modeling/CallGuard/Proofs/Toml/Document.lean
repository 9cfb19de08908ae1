import CallGuard.Proofs.Toml.Quote
import CallGuard.Proofs.Toml.Scalar
import CallGuard.Toml.Document

/-! Lines of a written document. `Written` ties the text after an equals sign to the value it is
read as, and `Reads` a text to its statements, with as many steps as it has characters. A line
goes in front of a text that is read (`Reads.assign`, `Reads.open`, `Reads.newline`), whatever the
keys on it are. -/

namespace CallGuard.Toml

variable {c : Char} {cs rest text : Chars} {v : Value} {ss : List Statement}

theorem skipBlanks_cons (hc : isBlankChar c = false) : skipBlanks (c :: cs) = c :: cs :=
  List.dropWhile_cons_of_neg (by simp [hc])

/-! ### Values -/

/-- A text that is a value, in front of a line end. -/
structure Written (text : Chars) (v : Value) : Prop where
  head : ∃ c cs, text = c :: cs ∧ isBlankChar c = false
  read (fuel depth : Nat) (rest : Chars) :
    value? (fuel + 1) depth (text ++ '\n' :: rest) = some (v, '\n' :: rest)

theorem written_string (cs : List Char) : Written (writeString cs) (.string (String.ofList cs)) := by
  have hr (rest : Chars) : Unquoted ('\n' :: rest) := by
    rintro _ ⟨⟩
    decide
  have hread (rest : Chars) := string?_writeString cs (hr rest)
  obtain ⟨c, ds, he, hc⟩ := exists_cons_writeString cs
  rw [he] at hread ⊢
  refine ⟨⟨c, ds, rfl, ?_⟩, fun fuel depth rest => ?_⟩
  · rcases hc with rfl | rfl <;> rfl
  · have hread := congrArg (Option.map fun r : String × Chars => (Value.string r.1, r.2)) (hread rest)
    rcases hc with rfl | rfl <;> exact hread

/-- What begins no string, array or table is one of the plain values. -/
theorem written_scalar (hc : c ∉ ['[', '{', '"', '\'', ' ', '\t'])
    (h : ∀ rest, scalar? (c :: cs ++ '\n' :: rest) = some (v, '\n' :: rest)) :
    Written (c :: cs) v := by
  simp only [List.mem_cons, List.not_mem_nil, or_false, not_or] at hc
  obtain ⟨harray, htable, hdouble, hsingle, hspace, htab⟩ := hc
  refine ⟨⟨c, cs, rfl, by simp [isBlankChar, hspace, htab]⟩, fun fuel depth rest => ?_⟩
  rw [← h rest, List.cons_append]
  simp [value?, harray, htable, hdouble, hsingle]

/-! ### Paths -/

/-- Where a path ends: at what is no part of a bare key and has no point after blanks. -/
structure EndsPath (rest : Chars) : Prop where
  bare : ∀ c ∈ rest.head?, isBare c = false
  point : after? '.' (skipBlanks rest) = none

/-- The first character of a written key is no mark of a line. -/
theorem exists_cons_writeKey_ne (cs : List Char) :
    ∃ c ds, writeKey cs = c :: ds ∧ c ∉ ['[', '#', ' ', '\t', '\n', '\r'] := by
  obtain ⟨c, ds, he, hc⟩ := exists_cons_writeKey cs
  refine ⟨c, ds, he, ?_⟩
  rcases hc with rfl | rfl | hc
  · decide
  · decide
  · exact not_mem_of_any hc rfl

theorem skipBlanks_writeKey (cs rest : Chars) :
    skipBlanks (writeKey cs ++ rest) = writeKey cs ++ rest := by
  obtain ⟨c, ds, he, hc⟩ := exists_cons_writeKey_ne cs
  rw [he]
  refine skipBlanks_cons ?_
  simp only [List.mem_cons, List.not_mem_nil, or_false, not_or] at hc
  simp [isBlankChar, hc]

/-- Keys with a point in front of each. -/
def dotted (keys : List String) : Chars := keys.flatMap fun key => '.' :: writeKey key.toList

theorem EndsPath.dotted (hr : EndsPath rest) (keys : List String) :
    ∀ c ∈ (dotted keys ++ rest).head?, isBare c = false := by
  cases keys with
  | nil => exact hr.bare
  | cons key keys =>
    rintro _ ⟨⟩
    rfl

theorem pathRest_dotted (keys : List String) (hr : EndsPath rest) {fuel : Nat}
    (hf : keys.length < fuel) :
    pathRest fuel (dotted keys ++ rest) = some (keys, skipBlanks rest) := by
  induction keys generalizing fuel with
  | nil =>
    obtain ⟨fuel, rfl⟩ := Nat.exists_eq_add_one.2 hf
    simp [dotted, pathRest, hr.point]
  | cons key keys ih =>
    obtain ⟨fuel, rfl⟩ := Nat.exists_eq_add_one.2 (Nat.zero_lt_of_lt hf)
    have hkey := key?_writeKey key.toList (hr.dotted keys)
    have hpoint : after? '.' (skipBlanks ('.' :: (writeKey key.toList ++ (dotted keys ++ rest)))) =
        some (writeKey key.toList ++ (dotted keys ++ rest)) := rfl
    have hrest := ih (Nat.lt_of_succ_lt_succ hf)
    have he : dotted (key :: keys) ++ rest =
        '.' :: (writeKey key.toList ++ (dotted keys ++ rest)) := by
      simp [dotted]
    rw [he, pathRest, hpoint]
    simp [skipBlanks_writeKey, hkey, hrest]

theorem length_le_dotted (keys : List String) : keys.length ≤ (dotted keys).length := by
  induction keys with
  | nil => exact Nat.le_refl _
  | cons key keys ih =>
    simp only [dotted, List.flatMap_cons, List.length_append, List.length_cons] at ih ⊢
    omega

/-- Written keys are read as their path. -/
theorem path?_dotted (first : String) (keys : List String) (hk : keys.length < maxDepth)
    (hr : EndsPath rest) :
    path? (writeKey first.toList ++ (dotted keys ++ rest)) =
      some (toPath first keys, skipBlanks rest) := by
  have hfirst := key?_writeKey first.toList (hr.dotted keys)
  have hkeys : pathRest ((dotted keys ++ rest).length + 1) (dotted keys ++ rest) =
      some (keys, skipBlanks rest) := by
    refine pathRest_dotted keys hr ?_
    have hle := length_le_dotted keys
    rw [List.length_append]
    omega
  unfold path?
  rw [skipBlanks_writeKey, hfirst]
  simp only [Option.bind_eq_bind, Option.bind_some, String.ofList_toList]
  rw [hkeys]
  simp [Nat.not_le.2 hk]

/-! ### Statements -/

/-- An assignment as a line shows it. -/
theorem statement?_assign (key : String) (h : Written text v) (rest : Chars) :
    statement? (writeKey key.toList ++ [' ', '=', ' '] ++ text ++ '\n' :: rest) =
      some (.assign ⟨[], key⟩ v, '\n' :: rest) := by
  have hends : EndsPath (' ' :: '=' :: ' ' :: (text ++ '\n' :: rest)) :=
    ⟨by rintro _ ⟨⟩; rfl, rfl⟩
  have hpath := path?_dotted key [] (by decide) hends
  have hequals : after? '=' (skipBlanks (' ' :: '=' :: ' ' :: (text ++ '\n' :: rest))) =
      some (' ' :: (text ++ '\n' :: rest)) := rfl
  have hblank : skipBlanks (' ' :: (text ++ '\n' :: rest)) = text ++ '\n' :: rest := by
    obtain ⟨c, cs, rfl, hc⟩ := h.head
    exact skipBlanks_cons hc
  have hvalue := h.read (2 * (text ++ '\n' :: rest).length + 1) maxDepth rest
  have hassign : assignment? (writeKey key.toList ++ ' ' :: '=' :: ' ' :: (text ++ '\n' :: rest)) =
      some (.assign ⟨[], key⟩ v, '\n' :: rest) := by
    unfold assignment?
    rw [show dotted [] = [] from rfl, List.nil_append] at hpath
    rw [hpath]
    simp only [Option.bind_eq_bind, Option.bind_some, hequals, hblank, steps]
    rw [hvalue]
    rfl
  obtain ⟨c, ds, he, hc⟩ := exists_cons_writeKey_ne key.toList
  have hopen : c ≠ '[' := fun h => hc (h ▸ List.mem_cons_self)
  simp only [List.append_assoc, List.cons_append, List.nil_append]
  rw [he, List.cons_append] at hassign ⊢
  rw [← hassign]
  simp [statement?, hopen]

/-- A header of a table. -/
theorem statement?_open (first : String) (keys : List String) (hk : keys.length < maxDepth)
    (rest : Chars) :
    statement? ('[' :: (writeKey first.toList ++ dotted keys ++ [']']) ++ '\n' :: rest) =
      some (.openTable (toPath first keys), '\n' :: rest) := by
  have hends : EndsPath (']' :: '\n' :: rest) := ⟨by rintro _ ⟨⟩; rfl, rfl⟩
  have hpath := path?_dotted first keys hk hends
  have hclose : after? ']' (skipBlanks (']' :: '\n' :: rest)) = some ('\n' :: rest) := rfl
  obtain ⟨c, ds, he, hc⟩ := exists_cons_writeKey_ne first.toList
  have hopen : c ≠ '[' := fun h => hc (h ▸ List.mem_cons_self)
  simp only [List.append_assoc, List.cons_append, List.nil_append]
  rw [he, List.cons_append] at hpath ⊢
  rw [statement?]
  simp [header?, hopen, hpath, hclose]

/-! ### Lines -/

/-- A text and the statements on its lines. -/
def Reads (cs : Chars) (ss : List Statement) : Prop :=
  ∀ fuel, cs.length < fuel → statements? fuel cs = some ss

theorem reads_nil : Reads [] [] := by
  intro fuel hf
  obtain ⟨fuel, rfl⟩ := Nat.exists_eq_add_one.2 hf
  rfl

theorem lineEnd?_newline (rest : Chars) : lineEnd? ('\n' :: rest) = some rest := rfl

/-- An empty line has no statement. -/
theorem Reads.newline (h : Reads rest ss) : Reads ('\n' :: rest) ss := by
  intro fuel hf
  obtain ⟨fuel, rfl⟩ := Nat.exists_eq_add_one.2 (Nat.zero_lt_of_lt hf)
  exact h fuel (Nat.lt_of_succ_lt_succ hf)

/-- A line with a statement goes in front of what follows it. -/
theorem Reads.line {s : Statement} (hc : c ∉ ['#', ' ', '\t', '\n', '\r'])
    (hs : statement? (c :: cs ++ '\n' :: rest) = some (s, '\n' :: rest)) (h : Reads rest ss) :
    Reads (c :: cs ++ '\n' :: rest) (s :: ss) := by
  intro fuel hf
  obtain ⟨fuel, rfl⟩ := Nat.exists_eq_add_one.2 (Nat.zero_lt_of_lt hf)
  have hrest : statements? fuel rest = some ss := by
    refine h fuel ?_
    simp only [List.length_append, List.length_cons] at hf
    omega
  simp only [List.mem_cons, List.not_mem_nil, or_false, not_or] at hc
  have hskip : skipBlanks (c :: cs ++ '\n' :: rest) = c :: cs ++ '\n' :: rest :=
    skipBlanks_cons (by simp [isBlankChar, hc])
  have hidle : isIdle (c :: cs ++ '\n' :: rest) = false := by simp [isIdle, hc]
  simp only [statements?, hskip, hidle, hs]
  simp [lineEnd?_newline, hrest]

theorem Reads.assign (key : String) (hw : Written text v) (h : Reads rest ss) :
    Reads (writeKey key.toList ++ [' ', '=', ' '] ++ text ++ '\n' :: rest)
      (.assign ⟨[], key⟩ v :: ss) := by
  have hs := statement?_assign key hw rest
  obtain ⟨c, ds, he, hc⟩ := exists_cons_writeKey_ne key.toList
  rw [he] at hs ⊢
  exact h.line (fun hm => hc (List.mem_cons_of_mem _ hm)) hs

theorem Reads.open (first : String) (keys : List String) (hk : keys.length < maxDepth)
    (h : Reads rest ss) :
    Reads ('[' :: (writeKey first.toList ++ dotted keys ++ [']']) ++ '\n' :: rest)
      (.openTable (toPath first keys) :: ss) :=
  h.line (by decide) (statement?_open first keys hk rest)

/-- A text without a byte order mark is the document of the tree of its statements. -/
theorem Reads.read (h : Reads cs ss) (hm : afterMark cs = cs) : read? cs = tree? ss := by
  have hs := h (cs.length + 1) (Nat.lt_succ_self _)
  rw [read?, hm, hs, Option.bind_some]

end CallGuard.Toml
