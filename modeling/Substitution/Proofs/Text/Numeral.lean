import Mathlib.Data.List.Basic
import Substitution.Text.Basic

/-!
# Numerals tell their numbers

A number that is shown in a text can be read back from it. A numeral tells its number
(`Substitution.Text.decimal_injective`, `Substitution.Text.ofHex_hex`), and it is told from what
follows it by the character behind it, which is none of its digits: the first such character ends
the numeral (`Substitution.Text.append_cons_inj`).
-/

namespace Substitution

namespace Text

/-- **The first separator ends what stands in front of it.** -/
theorem append_cons_inj {c : Char} {t t' rest rest' : Text} (h : c ∉ t) (h' : c ∉ t')
    (heq : t ++ c :: rest = t' ++ c :: rest') : t = t' ∧ rest = rest' := by
  rcases List.append_eq_append_iff.mp heq with ⟨u, rfl, hu⟩ | ⟨u, rfl, hu⟩
  · cases u with
    | nil => exact ⟨(List.append_nil t).symm, (List.cons.inj hu).2⟩
    | cons d u =>
      exact absurd (List.mem_append_right t ((List.cons.inj hu).1 ▸ List.mem_cons_self)) h'
  · cases u with
    | nil => exact ⟨List.append_nil t', (List.cons.inj hu).2.symm⟩
    | cons d u =>
      exact absurd (List.mem_append_right t' ((List.cons.inj hu).1 ▸ List.mem_cons_self)) h

/-! ### Decimal numerals -/

theorem not_mem_decimal {n : Nat} {c : Char} (hc : c.isDigit = false) : c ∉ Text.decimal n := by
  intro h
  rw [Nat.isDigit_of_mem_toDigits (by decide) (by decide) h] at hc
  cases hc

theorem decimal_ne_nil (n : Nat) : Text.decimal n ≠ [] := by
  rw [Text.decimal, Nat.toDigits_eq_if (by decide)]
  split
  · exact List.cons_ne_nil _ _
  · exact List.append_ne_nil_of_right_ne_nil _ (List.cons_ne_nil _ _)

theorem decimal_injective : Function.Injective Text.decimal := by
  intro m n h
  have h := congrArg (Nat.ofDigitChars 10 · 0) h
  dsimp only [Text.decimal] at h
  rwa [Nat.ofDigitChars_ten_toDigits, Nat.ofDigitChars_ten_toDigits] at h

/-! ### Hexadecimal numerals -/

theorem ofHex_concat (t : Text) (c : Char) :
    ofHex (t ++ [c]) = 16 * ofHex t + (hexValue? c).getD 0 := by
  simp only [ofHex, List.foldl_append, List.foldl_cons, List.foldl_nil]

theorem ofHex_toDigits (n : Nat) : ofHex (Nat.toDigits 16 n) = n := by
  have hdigit : ∀ d < 16, ofHex [d.digitChar] = d := by decide
  have hvalue : ∀ d < 16, (hexValue? d.digitChar).getD 0 = d := by decide
  induction n using Nat.strongRecOn with
  | ind n ih =>
    rw [Nat.toDigits_eq_if (by decide)]
    split
    next hlt => exact hdigit n hlt
    next hge =>
      rw [ofHex_concat, ih (n / 16) (by omega), hvalue _ (Nat.mod_lt n (by decide))]
      omega

/-- **A hexadecimal numeral is read as its number**, whatever the zeros before it. -/
theorem ofHex_hex (length n : Nat) : ofHex (hex length n) = n := by
  have hzeros (k : Nat) : (List.replicate k '0').foldl
      (fun n c => 16 * n + (hexValue? c).getD 0) 0 = 0 := by
    induction k with
    | zero => rfl
    | succ k ih => rwa [List.replicate_succ, List.foldl_cons]
  rw [hex, padLeft, ofHex, List.foldl_append, hzeros]
  exact ofHex_toDigits n

/-- A numeral of a number that has no more digits than are asked for has as many as are asked
for. -/
theorem length_hex {length n : Nat} (hpos : 0 < length) (h : n < Nat.pow 16 length) :
    (hex length n).length = length := by
  have hle : (Nat.toDigits 16 n).length ≤ length :=
    (Nat.length_toDigits_le_iff (by decide) hpos).mpr h
  rw [hex, padLeft, List.length_append, List.length_replicate]
  omega

theorem exists_digitChar_of_mem_toDigits {n : Nat} {c : Char} (h : c ∈ Nat.toDigits 16 n) :
    ∃ d < 16, c = d.digitChar := by
  induction n using Nat.strongRecOn with
  | ind n ih =>
    rw [Nat.toDigits_eq_if (by decide)] at h
    split at h
    next hlt => exact ⟨n, hlt, List.mem_singleton.mp h⟩
    next hge =>
      rcases List.mem_append.mp h with h | h
      · exact ih (n / 16) (by omega) h
      · exact ⟨n % 16, Nat.mod_lt n (by decide), List.mem_singleton.mp h⟩

theorem exists_digitChar_of_mem_hex {length n : Nat} {c : Char} (h : c ∈ hex length n) :
    ∃ d < 16, c = d.digitChar := by
  rcases List.mem_append.mp h with h | h
  · exact ⟨0, by decide, List.eq_of_mem_replicate h⟩
  · exact exists_digitChar_of_mem_toDigits h

/-- **Capitals spell the same number.** -/
theorem ofHex_hexUpper (length n : Nat) : ofHex (hexUpper length n) = n := by
  have hcapital : ∀ d < 16, hexValue? d.digitChar.toUpper = hexValue? d.digitChar := by decide
  rw [hexUpper, ofHex, List.foldl_map]
  refine (List.foldl_ext _ _ _ fun k c hc => ?_).trans (ofHex_hex length n)
  obtain ⟨d, hd, rfl⟩ := exists_digitChar_of_mem_hex hc
  rw [hcapital d hd]

theorem space_not_mem_hexUpper (length n : Nat) : ' ' ∉ hexUpper length n := by
  have hcapital : ∀ d < 16, d.digitChar.toUpper ≠ ' ' := by decide
  intro h
  obtain ⟨c, hc, heq⟩ := List.mem_map.mp h
  obtain ⟨d, hd, rfl⟩ := exists_digitChar_of_mem_hex hc
  exact hcapital d hd heq

end Text

end Substitution
