/-! Numerals in a base of at most sixteen, most significant digit first, lower case.
`value_render` says that a rendered number reads back, and `render` has no leading
zero but for the number zero itself. -/

namespace CallGuard.Text.Numeral

/-- The character of a digit below sixteen. -/
def digitChar (d : Nat) : Char :=
  if d < 10 then Char.ofNat (d + 48) else Char.ofNat (d + 87)

/-- The worth of a digit of either case, if the character is one. -/
def digit? (c : Char) : Option Nat :=
  if '0' ≤ c ∧ c ≤ '9' then some (c.toNat - 48)
  else if 'a' ≤ c ∧ c ≤ 'f' then some (c.toNat - 87)
  else if 'A' ≤ c ∧ c ≤ 'F' then some (c.toNat - 55)
  else none

/-- Whether a character is a digit of the base. -/
def isDigit (base : Nat) (c : Char) : Bool := (digit? c).any (· < base)

/-- The number a row of digits stands for. -/
def value (base : Nat) (cs : List Char) : Nat :=
  cs.foldl (fun n c => n * base + (digit? c).getD 0) 0

/-- The numeral of a number, in base ten unless the base is from two to sixteen. -/
def render (base : Nat) (n : Nat) : List Char :=
  if _h : 2 ≤ base ∧ base ≤ n then render base (n / base) ++ [digitChar (n % base)]
  else [digitChar n]
termination_by n
decreasing_by exact Nat.div_lt_self (by omega) (by omega)

/-- The decimal numeral of a number. -/
def decimal (n : Nat) : String := String.ofList (render 10 n)

/-- The decimal numeral of an integer. -/
def integer (n : Int) : String := if n < 0 then "-" ++ decimal n.natAbs else decimal n.natAbs

/-- A numeral filled up on the left with zeros. -/
def padded (width base n : Nat) : List Char :=
  let ds := render base n
  List.replicate (width - ds.length) '0' ++ ds

theorem digit?_digitChar {d : Nat} (h : d < 16) : digit? (digitChar d) = some d := by
  have : ∀ d : Fin 16, digit? (digitChar d) = some d.val := by decide
  exact this ⟨d, h⟩

theorem value_append_singleton (base : Nat) (cs : List Char) (c : Char) :
    value base (cs ++ [c]) = value base cs * base + (digit? c).getD 0 := by
  simp [value]

theorem value_render {base : Nat} (hb : 2 ≤ base) (hb' : base ≤ 16) (n : Nat) :
    value base (render base n) = n := by
  fun_induction render base n with
  | case1 n h ih =>
    rw [value_append_singleton, ih, digit?_digitChar (by have := Nat.mod_lt n (y := base); omega)]
    exact Nat.div_add_mod' n base
  | case2 n h =>
    have : n < base := by omega
    simp [value, digit?_digitChar (show n < 16 by omega)]

theorem isDigit_of_mem_render {base : Nat} (hb : 2 ≤ base) (hb' : base ≤ 16) {n : Nat} {c : Char}
    (hc : c ∈ render base n) : isDigit base c = true := by
  fun_induction render base n with
  | case1 n h ih =>
    rcases List.mem_append.1 hc with hc | hc
    · exact ih hc
    · have hm := Nat.mod_lt n (y := base) (by omega)
      rw [List.mem_singleton.1 hc, isDigit, digit?_digitChar (by omega)]
      simpa using hm
  | case2 n h =>
    rw [List.mem_singleton.1 hc, isDigit, digit?_digitChar (by omega)]
    simp
    omega

end CallGuard.Text.Numeral
