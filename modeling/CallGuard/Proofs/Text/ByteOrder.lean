import Mathlib.Data.String.Basic

/-! Names compare by their characters, and that is the order of their UTF-8 bytes: a character
further on in the table is written with bytes that are greater at the first difference, whatever
follows them. `lt_iff_bytes_lt` is the law. -/

namespace CallGuard.Text

/-- The lesser of two numbers is less in its leading digits, or in the last one if these agree. -/
theorem digit_lt {m n : Nat} (h : m < n) (k : Nat) :
    m / k < n / k ∨ m / k = n / k ∧ m % k < n % k := by
  have hm := Nat.div_add_mod m k
  have hn := Nat.div_add_mod n k
  rcases Nat.lt_trichotomy (m / k) (n / k) with hlt | heq | hgt
  · exact .inl hlt
  · rw [heq] at hm
    exact .inr ⟨heq, by omega⟩
  · exact absurd (Nat.div_le_div_right h.le) (Nat.not_le_of_lt hgt)

/-- Numbers of four digits, the first of which is less than eight, compare digit by digit. -/
theorem digits_lt {m n : Nat} (h : m < n) (hn : n < 2097152) :
    m / 262144 % 8 < n / 262144 % 8 ∨ m / 262144 % 8 = n / 262144 % 8 ∧
      (m / 4096 % 64 < n / 4096 % 64 ∨ m / 4096 % 64 = n / 4096 % 64 ∧
        (m / 64 % 64 < n / 64 % 64 ∨ m / 64 % 64 = n / 64 % 64 ∧ m % 64 < n % 64)) := by
  have hm8 : m / 262144 % 8 = m / 262144 := Nat.mod_eq_of_lt (by omega)
  have hn8 : n / 262144 % 8 = n / 262144 := Nat.mod_eq_of_lt (by omega)
  have split (i : Nat) : i / 4096 = i / 64 / 64 ∧ i / 262144 = i / 64 / 64 / 64 := by omega
  rw [hm8, hn8, (split m).1, (split m).2, (split n).1, (split n).2]
  rcases digit_lt h 64 with h | ⟨he, h⟩
  · rcases digit_lt h 64 with h | ⟨he, h⟩
    · rcases digit_lt h 64 with h | ⟨he, h⟩
      · exact .inl h
      · exact .inr ⟨he, .inl h⟩
    · exact .inr ⟨by rw [he], .inr ⟨by rw [he], .inl h⟩⟩
  · exact .inr ⟨by rw [he], .inr ⟨by rw [he], .inr ⟨by rw [he], h⟩⟩⟩

/-- The UTF-8 bytes of a text. -/
def bytes (s : String) : List UInt8 := s.toUTF8.data.toList

theorem bytes_eq (s : String) : bytes s = s.toList.flatMap String.utf8EncodeChar := by
  have h : s.toList.utf8Encode = s.toUTF8 := String.utf8Encode_toList
  rw [bytes, ← h]
  simp [List.utf8Encode]

open String in
/-- The bytes of the lesser of two characters are less at the first difference. -/
theorem utf8EncodeChar_append_lt {c d : Char} (h : c < d) (xs ys : List UInt8) :
    utf8EncodeChar c ++ xs < utf8EncodeChar d ++ ys := by
  have hcd : c.val.toNat < d.val.toNat := h
  have hd : d.val.toNat < 2097152 := by
    rcases d.valid with hv | hv <;> simp only [UInt32.toNat] at * <;> omega
  have hdigits := digits_lt hcd hd
  unfold utf8EncodeChar
  simp only
  split_ifs <;>
    simp (disch := omega) only [List.cons_append, List.nil_append, List.cons_lt_cons_iff,
      UInt8.lt_iff_toNat_lt, ← UInt8.toNat_inj, UInt8.toNat_ofNat', Nat.mod_eq_of_lt,
      Nat.add_lt_add_iff_right, Nat.add_right_cancel_iff]
  all_goals omega

theorem flatMap_utf8EncodeChar_lt {cs ds : List Char} (h : cs < ds) :
    cs.flatMap String.utf8EncodeChar < ds.flatMap String.utf8EncodeChar := by
  induction (h : List.Lex (· < ·) cs ds) with
  | @nil d ds =>
    cases hd : String.utf8EncodeChar d with
    | nil => exact absurd hd String.utf8EncodeChar_ne_nil
    | cons b bs =>
      rw [List.flatMap_cons, hd]
      exact List.nil_lt_cons _ _
  | cons _ ih => exact List.append_left_lt ih
  | rel h => exact utf8EncodeChar_append_lt h _ _

/-- The order of texts is the order of their bytes. -/
theorem lt_iff_bytes_lt (s t : String) : s < t ↔ bytes s < bytes t := by
  have mono {s t : String} (h : s < t) : bytes s < bytes t := by
    rw [bytes_eq, bytes_eq]
    exact flatMap_utf8EncodeChar_lt (String.lt_iff_toList_lt.1 h)
  refine ⟨mono, fun h => ?_⟩
  rcases lt_trichotomy s t with hlt | rfl | hgt
  · exact hlt
  · exact absurd h (List.lt_irrefl _)
  · exact absurd h (List.lt_asymm (mono hgt))

end CallGuard.Text
