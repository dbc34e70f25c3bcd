import Substitution.Proofs.Text.Numeral
import Substitution.Text.Quoted

/-!
# Quoted texts are read back

A text between quotes tells the text that is quoted: `Substitution.Text.quoted_injective`. What has
to be seen is that the spellings of the characters follow each other without marks of where one
ends. They need none, since a spelling says by its first two characters how long it is, so that one
character can be read off the front of the text and the others stay as they are
(`Substitution.Text.readSpelling_escape`). A code point is spelled by a numeral of a fixed number of
digits, which is why that number has to hold it.
-/

namespace Substitution

namespace Text

/-! ### One character -/

theorem quoteFor_eq (t : Text) : quoteFor t = '\'' ∨ quoteFor t = '"' := by
  rw [quoteFor]
  split
  · exact .inr rfl
  · exact .inl rfl

/-- The character whose code point is spelled with a number of digits at the start of a text, and
the text after it. -/
def readCode (digits : Nat) (t : Text) : Char × Text :=
  (Char.ofNat (ofHex (t.take digits)), t.drop digits)

/-- The character that is spelled at the start of a text, and the text after it. -/
def readSpelling : Text → Option (Char × Text)
  | '\\' :: c :: t =>
    some (if c = 't' then ('\t', t) else if c = 'n' then ('\n', t) else if c = 'r' then ('\r', t)
      else if c = 'x' then readCode 2 t else if c = 'u' then readCode 4 t
      else if c = 'U' then readCode 8 t else (c, t))
  | c :: t => some (c, t)
  | [] => none

theorem readCode_hex {digits : Nat} {c : Char} (t : Text) (hpos : 0 < digits)
    (h : c.toNat < Nat.pow 16 digits) : readCode digits (hex digits c.toNat ++ t) = (c, t) := by
  have hlength : (hex digits c.toNat).length = digits := length_hex hpos h
  rw [readCode, List.take_left' hlength, List.drop_left' hlength, ofHex_hex, Char.ofNat_toNat]

theorem toNat_lt (c : Char) : c.toNat < Nat.pow 16 8 := by
  rcases c.valid with h | ⟨-, h⟩
  · exact Nat.lt_trans h (by decide)
  · exact Nat.lt_trans h (by decide)

/-- **A spelling is read as its character, and no further than it goes**, whatever comes after
it. -/
theorem readSpelling_escape {quote : Char} (hquote : quote = '\'' ∨ quote = '"') (c : Char)
    (t : Text) : readSpelling (escape quote c ++ t) = some (c, t) := by
  rw [escape]
  split
  next hc =>
    rcases hc with rfl | rfl
    · rcases hquote with rfl | rfl <;> rfl
    · rfl
  next hc =>
    obtain ⟨-, hbackslash⟩ := not_or.mp hc
    split
    next htab => rw [htab]; rfl
    split
    next hfeed => rw [hfeed]; rfl
    split
    next hreturn => rw [hreturn]; rfl
    split
    next =>
      -- A printable character begins no spelling of another one, since it is no backslash.
      unfold readSpelling
      split
      next heq => exact absurd (List.cons.inj heq).1 hbackslash
      next heq =>
        obtain ⟨rfl, rfl⟩ := List.cons.inj heq
        rfl
      next heq => cases heq
    split
    next h => exact congrArg some (readCode_hex t (by decide) h)
    split
    next h => exact congrArg some (readCode_hex t (by decide) h)
    next => exact congrArg some (readCode_hex t (by decide) (toNat_lt c))

theorem escape_ne_nil (quote c : Char) : escape quote c ≠ [] := by
  rw [escape]
  repeat' split
  all_goals exact List.cons_ne_nil _ _

/-- A spelling holds no line feed. -/
theorem ne_newline_of_mem_escape {quote c d : Char} (hquote : quote = '\'' ∨ quote = '"')
    (h : d ∈ escape quote c) : d ≠ '\n' := by
  have hhex {length : Nat} (h : d ∈ hex length c.toNat) : d ≠ '\n' := by
    obtain ⟨n, hn, rfl⟩ := exists_digitChar_of_mem_hex h
    have hall : ∀ n < 16, n.digitChar ≠ '\n' := by decide
    exact hall n hn
  rintro rfl
  rw [escape] at h
  repeat' split at h
  next hc =>
    obtain ⟨rfl⟩ : '\n' = c := by simpa using h
    rcases hquote with rfl | rfl <;> revert hc <;> decide
  next => revert h; decide
  next => revert h; decide
  next => revert h; decide
  next hfeed _ _ => exact hfeed (List.mem_singleton.mp h).symm
  all_goals
    obtain h | h | h := by simpa only [List.mem_cons] using h
    · revert h; decide
    · revert h; decide
    · exact hhex h rfl

/-! ### Whole texts -/

theorem flatMap_escape_injective {quote : Char} (hquote : quote = '\'' ∨ quote = '"') :
    Function.Injective fun t : Text => t.flatMap (escape quote) := by
  have hne (c : Char) (t : Text) : (c :: t).flatMap (escape quote) ≠ [] := fun h =>
    escape_ne_nil quote c (List.append_eq_nil_iff.mp (List.flatMap_cons ▸ h)).1
  intro s
  induction s with
  | nil =>
    intro t h
    cases t with
    | nil => rfl
    | cons d t => exact absurd h.symm (hne d t)
  | cons c s ih =>
    intro t h
    cases t with
    | nil => exact absurd h (hne c s)
    | cons d t =>
      have hread := congrArg readSpelling h
      simp only [List.flatMap_cons, readSpelling_escape hquote] at hread
      obtain ⟨rfl, hrest⟩ := Prod.mk.inj (Option.some.inj hread)
      rw [ih hrest]

/-- **A quoted text tells which text is quoted.** -/
theorem quoted_injective : Function.Injective quoted := by
  intro s t h
  obtain ⟨hquote, hbody⟩ := List.cons.inj h
  rw [← hquote] at hbody
  exact flatMap_escape_injective (quoteFor_eq s) (List.append_cancel_right hbody)

theorem getLast?_quoted (t : Text) : (quoted t).getLast? = some (quoteFor t) :=
  List.getLast?_concat (l := quoteFor t :: t.flatMap (escape (quoteFor t)))

/-- A quoted text is on one line. -/
theorem newline_not_mem_quoted (t : Text) : '\n' ∉ quoted t := by
  intro h
  have hquote := quoteFor_eq t
  have hne : quoteFor t ≠ '\n' := by rcases hquote with h | h <;> rw [h] <;> decide
  rcases List.mem_append.mp h with h | h
  · rcases List.mem_cons.mp h with h | h
    · exact hne h.symm
    · obtain ⟨c, -, hmem⟩ := List.mem_flatMap.mp h
      exact ne_newline_of_mem_escape hquote hmem rfl
  · exact hne (List.mem_singleton.mp h).symm

end Text

end Substitution
