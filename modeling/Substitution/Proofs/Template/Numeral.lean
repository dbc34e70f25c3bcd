import Substitution.Template.Reader

/-!
# The numerals of references

The number of a reference is written with ASCII digits and without a leading zero
(`Substitution.Template.IsNumeral`). Such a numeral is the decimal numeral of its value and of no
other number, so a reference can be spoken of by its number or by its text:
`Substitution.Template.isNumeral_decimal` and `Substitution.Template.decimal_ofDigitChars` are the
two directions.

The reader of templates never sees a numeral as a whole: it multiplies by ten and adds a digit. What
makes this right is that one digit more on the text is one step more on the number
(`Substitution.Template.decimal_snoc`), and this needs a number that is not zero, which is what the
ban on leading zeros is for.
-/

namespace Substitution

namespace Template

/-- **A numeral**: a digit that is not zero, and then any digits. -/
def IsNumeral : Text → Prop
  | [] => False
  | c :: rest => ('1' ≤ c ∧ c ≤ '9') ∧ ∀ d ∈ rest, '0' ≤ d ∧ d ≤ '9'

instance (t : Text) : Decidable (IsNumeral t) :=
  match t with
  | [] => inferInstanceAs (Decidable False)
  | c :: rest =>
    have : Decidable (∀ d ∈ rest, '0' ≤ d ∧ d ≤ '9') := rest.decidableBAll _
    inferInstanceAs (Decidable (('1' ≤ c ∧ c ≤ '9') ∧ ∀ d ∈ rest, '0' ≤ d ∧ d ≤ '9'))

/-! ### Single digits -/

theorem digit?_eq_some {c : Char} (h : '0' ≤ c ∧ c ≤ '9') :
    digit? c = some (c.toNat - '0'.toNat) :=
  if_pos h

theorem digit?_eq_none_iff {c : Char} : digit? c = none ↔ ¬('0' ≤ c ∧ c ≤ '9') := by
  rw [digit?]
  split <;> simp [*]

theorem leadingDigit?_eq_some {c : Char} (h : '1' ≤ c ∧ c ≤ '9') :
    leadingDigit? c = some (c.toNat - '0'.toNat) :=
  if_pos h

/-- A digit is the character that writes its value. -/
theorem digitChar_of_digit? {c : Char} {d : Nat} (h : digit? c = some d) :
    d < 10 ∧ d.digitChar = c := by
  rw [digit?] at h
  split at h
  · next hc =>
    have hlo : '0'.toNat ≤ c.toNat := hc.1
    have hhi : c.toNat ≤ '9'.toNat := hc.2
    obtain rfl : c.toNat - '0'.toNat = d := Option.some.inj h
    simp only [Char.reduceToNat] at hlo hhi ⊢
    refine ⟨by omega, Char.toNat_inj.mp ?_⟩
    rw [Nat.toNat_digitChar_of_lt_ten (by omega)]
    omega
  · cases h

/-- A digit that can come first is a digit, and not zero. -/
theorem digit?_of_leadingDigit? {c : Char} {d : Nat} (h : leadingDigit? c = some d) :
    digit? c = some d ∧ 0 < d := by
  rw [leadingDigit?] at h
  split at h
  · next hc =>
    have hlo : '1'.toNat ≤ c.toNat := hc.1
    obtain rfl : c.toNat - '0'.toNat = d := Option.some.inj h
    refine ⟨digit?_eq_some ⟨Char.le_trans (by decide) hc.1, hc.2⟩, ?_⟩
    simp only [Char.reduceToNat] at hlo ⊢
    omega
  · cases h

/-! ### Numerals and numbers -/

theorem decimal_of_digit? {c : Char} {d : Nat} (h : digit? c = some d) : Text.decimal d = [c] := by
  obtain ⟨hd, hc⟩ := digitChar_of_digit? h
  rw [Text.decimal, Nat.toDigits_of_lt_base hd, hc]

/-- **One digit more** on the numeral is one step of multiplying and adding on the number. -/
theorem decimal_snoc {n d : Nat} {c : Char} (hn : 0 < n) (h : digit? c = some d) :
    Text.decimal (10 * n + d) = Text.decimal n ++ [c] := by
  have hd : d < 10 := (digitChar_of_digit? h).1
  rw [← decimal_of_digit? h]
  exact (Nat.toDigits_append_toDigits (by decide) hn hd).symm

/-- Digits behind the numeral of a number that is not zero make the numeral of the number that they
lead to. -/
theorem decimal_ofDigitChars_of_pos {n : Nat} {digits : Text} (hn : 0 < n)
    (h : ∀ c ∈ digits, '0' ≤ c ∧ c ≤ '9') :
    Text.decimal (Nat.ofDigitChars 10 digits n) = Text.decimal n ++ digits ∧
      0 < Nat.ofDigitChars 10 digits n := by
  induction digits generalizing n with
  | nil =>
    rw [Nat.ofDigitChars_nil, List.append_nil]
    exact ⟨rfl, hn⟩
  | cons c rest ih =>
    have hc := digit?_eq_some (h c List.mem_cons_self)
    obtain ⟨hdecimal, hpos⟩ := ih (n := 10 * n + (c.toNat - '0'.toNat)) (by omega)
      fun d hd => h d (List.mem_cons_of_mem c hd)
    rw [Nat.ofDigitChars_cons]
    refine ⟨?_, hpos⟩
    rw [hdecimal, decimal_snoc hn hc, List.append_assoc, List.singleton_append]

/-- **A numeral is the decimal numeral of its value**, and its value is not zero. -/
theorem decimal_ofDigitChars {t : Text} (h : IsNumeral t) :
    Text.decimal (Nat.ofDigitChars 10 t 0) = t ∧ 0 < Nat.ofDigitChars 10 t 0 := by
  cases t with
  | nil => exact h.elim
  | cons c rest =>
    obtain ⟨hc, hpos⟩ := digit?_of_leadingDigit? (leadingDigit?_eq_some h.1)
    have hrest := decimal_ofDigitChars_of_pos hpos h.2
    rw [decimal_of_digit? hc] at hrest
    rw [Nat.ofDigitChars_cons, Nat.mul_zero, Nat.zero_add]
    exact hrest

theorem IsNumeral.snoc {t : Text} {c : Char} (h : IsNumeral t) (hc : '0' ≤ c ∧ c ≤ '9') :
    IsNumeral (t ++ [c]) := by
  cases t with
  | nil => exact h.elim
  | cons b rest =>
    refine ⟨h.1, fun d hd => ?_⟩
    rcases List.mem_append.mp hd with hd | hd
    · exact h.2 d hd
    · obtain rfl : d = c := List.mem_singleton.mp hd
      exact hc

/-- **The decimal numeral of a number that is not zero is a numeral.** -/
theorem isNumeral_decimal {n : Nat} (hn : 0 < n) : IsNumeral (Text.decimal n) := by
  have hdigit : ∀ d < 10, '0' ≤ d.digitChar ∧ d.digitChar ≤ '9' := by decide
  have hlead : ∀ d < 10, 0 < d → '1' ≤ d.digitChar ∧ d.digitChar ≤ '9' := by decide
  rw [Text.decimal]
  -- All digits but the last are those of `n / 10`.
  induction n using Nat.strongRecOn with
  | ind n ih =>
    rw [Nat.toDigits_eq_if (by decide)]
    split
    · next hlt => exact ⟨hlead n hlt hn, fun d hd => nomatch hd⟩
    · next hge =>
      exact (ih (n / 10) (by omega) (by omega)).snoc (hdigit _ (Nat.mod_lt n (by decide)))

end Template

end Substitution
