import Substitution.Proofs.Except
import Substitution.Proofs.Template.Numeral

/-!
# What the reader of templates reads

A text is read as tokens exactly when it is their spelling and nothing in it could be read in
another way: `Substitution.Template.tokens_eq_ok_iff`. Three things can go wrong with tokens that
are spelled one after another, and `Substitution.Template.Readable` excludes them. A plain character
may not be a backslash or a dollar sign, a number must be one that a numeral of at most
`Text.maxDigits` digits writes, and what follows a bare reference may not begin with a digit, since
the reader takes digits as far as they go.

## The two directions

The reader goes character by character and is in the middle of a token most of the time.

* **A token that is spelled is read**: `Substitution.Template.readTokens_spell_append` takes the
  reader over the whole of one token, from between tokens to between tokens.
* **What is read was spelled**: `Substitution.Template.Spelled` says so of every state of the reader
  at once. What the reader has seen of the token at hand (`Substitution.Template.Reader.seen`)
  stands in front of what is left of the text. One lemma for each state takes this over one
  character.
-/

namespace Substitution

namespace Template

/-! ### Spellings -/

/-- The text that tokens write. -/
def spell (tokens : List Token) : Text :=
  tokens.flatMap Token.spell

@[simp] theorem spell_nil : spell [] = [] := rfl

@[simp] theorem spell_cons (token : Token) (tokens : List Token) :
    spell (token :: tokens) = token.spell ++ spell tokens := rfl

/-- Is the first character of the text an ASCII digit? -/
def BeginsWithDigit : Text → Prop
  | [] => False
  | c :: _ => '0' ≤ c ∧ c ≤ '9'

instance (t : Text) : Decidable (BeginsWithDigit t) :=
  match t with
  | [] => inferInstanceAs (Decidable False)
  | c :: _ => inferInstanceAs (Decidable ('0' ≤ c ∧ c ≤ '9'))

/-- Is the token a reference without braces? -/
def Token.IsBare : Token → Prop
  | .reference _ false => True
  | _ => False

/-- A token that the spelling of another one cannot be mistaken for. -/
def Token.WellFormed : Token → Prop
  | .plain c => c ≠ '\\' ∧ c ≠ '$'
  | .escaped c => c = '$' ∨ c = '\\'
  | .reference number _ => 0 < number ∧ (Text.decimal number).length ≤ Text.maxDigits

/-- **Tokens that their spelling determines**: each of them is well-formed, and no bare reference is
followed by a digit. -/
def Readable : List Token → Prop
  | [] => True
  | token :: rest =>
    token.WellFormed ∧ (token.IsBare → ¬BeginsWithDigit (spell rest)) ∧ Readable rest

/-! ### A token that is spelled is read -/

variable (template : Text)

theorem readTokens_digits (braced : Bool) (n k p : Nat) {digits : Text}
    (h : ∀ c ∈ digits, '0' ≤ c ∧ c ≤ '9') (rest : Text) :
    readTokens template (.digits braced n k) p (digits ++ rest) =
      readTokens template (.digits braced (Nat.ofDigitChars 10 digits n) (k + digits.length))
        (p + digits.length) rest := by
  induction digits generalizing n k p with
  | nil => rfl
  | cons c digits ih =>
    have hc := digit?_eq_some (h c List.mem_cons_self)
    have hrest := ih (10 * n + (c.toNat - '0'.toNat)) (k + 1) (p + 1)
      fun d hd => h d (List.mem_cons_of_mem c hd)
    rw [List.cons_append, readTokens, hc]
    simp only
    rw [hrest, Nat.ofDigitChars_cons, List.length_cons, Nat.add_assoc, Nat.add_assoc,
      Nat.add_comm 1]

/-- The digits of a number, read from its first one on. -/
theorem readTokens_decimal {n : Nat} (hn : 0 < n) (braced : Bool) (p : Nat) (rest : Text) :
    ∃ c digits d, Text.decimal n = c :: digits ∧ leadingDigit? c = some d ∧
      readTokens template (.digits braced d 1) (p + 1) (digits ++ rest) =
        readTokens template (.digits braced n (Text.decimal n).length)
          (p + (Text.decimal n).length) rest := by
  have hnumeral := isNumeral_decimal hn
  have hvalue : Nat.ofDigitChars 10 (Text.decimal n) 0 = n := Nat.ofDigitChars_ten_toDigits
  cases hdecimal : Text.decimal n with
  | nil =>
    rw [hdecimal] at hnumeral
    exact hnumeral.elim
  | cons c digits =>
    rw [hdecimal] at hnumeral hvalue
    rw [Nat.ofDigitChars_cons, Nat.mul_zero, Nat.zero_add] at hvalue
    refine ⟨c, digits, _, rfl, leadingDigit?_eq_some hnumeral.1, ?_⟩
    rw [readTokens_digits _ _ _ _ _ hnumeral.2, hvalue, List.length_cons, Nat.add_assoc,
      Nat.add_comm 1]

/-- A bare reference ends where the digits do. -/
theorem readTokens_digits_bare {n k : Nat} (hk : k ≤ Text.maxDigits) (p : Nat) {rest : Text}
    (h : ¬BeginsWithDigit rest) :
    readTokens template (.digits false n k) p rest =
      (readTokens template .text p rest).map (.reference n false :: ·) := by
  cases rest with
  | nil =>
    conv => lhs; rw [readTokens, if_neg (by omega)]
    rfl
  | cons c rest =>
    have hc : digit? c = none := digit?_eq_none_iff.mpr h
    conv => lhs; rw [readTokens, hc]
    dsimp only
    rw [if_neg (by omega), if_neg (by decide), readTokens]
    split
    · rfl
    split
    · rfl
    · cases readTokens template .text (p + 1) rest <;> rfl

/-- A braced reference ends at the closing brace. -/
theorem readTokens_digits_braced {n k : Nat} (hk : k ≤ Text.maxDigits) (p : Nat) (rest : Text) :
    readTokens template (.digits true n k) p ('}' :: rest) =
      (readTokens template .text (p + 1) rest).map (.reference n true :: ·) := by
  have hc : digit? '}' = none := by decide
  conv => lhs; rw [readTokens, hc]
  dsimp only
  rw [if_neg (by omega), if_pos rfl, if_pos rfl]

/-- **The reader goes over a token as a whole**, and is between tokens behind it. -/
theorem readTokens_spell_append {token : Token} (h : token.WellFormed) {rest : Text}
    (hrest : token.IsBare → ¬BeginsWithDigit rest) (p : Nat) :
    readTokens template .text p (token.spell ++ rest) =
      (readTokens template .text (p + token.spell.length) rest).map (token :: ·) := by
  cases token with
  | plain c =>
    rw [Token.spell, List.singleton_append, readTokens_plain template h.1 h.2]
    rfl
  | escaped c =>
    rw [Token.spell, List.cons_append, List.singleton_append, readTokens, if_pos rfl, readTokens,
      if_pos (show c = '$' ∨ c = '\\' from h)]
    rfl
  | reference n braced =>
    obtain ⟨hn, hlength⟩ := h
    cases braced with
    | false =>
      obtain ⟨c, digits, d, hdecimal, hd, hread⟩ :=
        readTokens_decimal template hn false (p + 1) rest
      have hbrace : c ≠ '{' := by
        rintro rfl
        cases hd
      rw [Token.spell, List.cons_append, readTokens, if_neg (by decide), if_pos rfl, hdecimal,
        List.cons_append, readTokens, if_neg hbrace, hd]
      simp only
      rw [hread, readTokens_digits_bare _ hlength _ (hrest trivial), ← hdecimal, List.length_cons,
        Nat.add_assoc, Nat.add_comm 1]
    | true =>
      obtain ⟨c, digits, d, hdecimal, hd, hread⟩ :=
        readTokens_decimal template hn true (p + 2) ('}' :: rest)
      have hspell : Token.spell (.reference n true) ++ rest =
          '$' :: '{' :: (Text.decimal n ++ '}' :: rest) := by
        simp [Token.spell]
      rw [hspell, readTokens, if_neg (by decide), if_pos rfl, readTokens, if_pos rfl, hdecimal,
        List.cons_append, readTokens, hd]
      simp only
      rw [hread, readTokens_digits_braced _ hlength]
      congr 2
      simp only [Token.spell, List.length_append, List.length_cons, List.length_nil]
      omega

theorem readTokens_spell {tokens : List Token} (h : Readable tokens) (p : Nat) :
    readTokens template .text p (spell tokens) = .ok tokens := by
  induction tokens generalizing p with
  | nil => rfl
  | cons token rest ih =>
    obtain ⟨htoken, hbare, hrest⟩ := h
    rw [spell_cons, readTokens_spell_append template htoken hbare, ih hrest]
    rfl

/-! ### What is read was spelled -/

/-- What the reader has seen of the token that it is in the middle of. -/
def Reader.seen : Reader → Text
  | .text => []
  | .escape => ['\\']
  | .dollar => ['$']
  | .brace => ['$', '{']
  | .digits false number _ => '$' :: Text.decimal number
  | .digits true number _ => '$' :: '{' :: Text.decimal number

/-- A state that the reader gets into: the digits that it has counted are those of the number that
it has computed from them. -/
def Reader.Reached : Reader → Prop
  | .digits _ number count => 0 < number ∧ count = (Text.decimal number).length
  | _ => True

theorem Reader.Reached.one_digit {c : Char} {d : Nat} (h : leadingDigit? c = some d)
    (braced : Bool) :
    (Reader.digits braced d 1).Reached ∧ Text.decimal d = [c] := by
  obtain ⟨hd, hpos⟩ := digit?_of_leadingDigit? h
  have hdecimal := decimal_of_digit? hd
  exact ⟨⟨hpos, by rw [hdecimal]; rfl⟩, hdecimal⟩

theorem Reader.Reached.next_digit {braced : Bool} {n k d : Nat} {c : Char}
    (h : (Reader.digits braced n k).Reached) (hd : digit? c = some d) :
    (Reader.digits braced (10 * n + d) (k + 1)).Reached ∧
      Text.decimal (10 * n + d) = Text.decimal n ++ [c] := by
  obtain ⟨hpos, hlength⟩ := h
  have hdecimal := decimal_snoc hpos hd
  refine ⟨⟨by omega, ?_⟩, hdecimal⟩
  rw [hdecimal, List.length_append, List.length_singleton, hlength]

/-- **What is read was spelled**: whatever the reader is in the middle of, what it has seen of the
token at hand stands in front of what is left, and the two together are the spelling of what comes
out. -/
def Spelled (left : Text) : Prop :=
  ∀ (r : Reader) (p : Nat) (tokens : List Token), r.Reached →
    readTokens template r p left = .ok tokens → Readable tokens ∧ spell tokens = r.seen ++ left

variable {template} {left : Text}

/-- A token that is not a bare reference goes in front of everything that can be read. -/
theorem Readable.closed {token : Token} {tokens : List Token} (htoken : token.WellFormed)
    (hbare : ¬token.IsBare) (h : Readable tokens ∧ spell tokens = left) :
    Readable (token :: tokens) ∧ spell (token :: tokens) = token.spell ++ left := by
  obtain ⟨htokens, rfl⟩ := h
  exact ⟨⟨htoken, fun hisBare => absurd hisBare hbare, htokens⟩, rfl⟩

/-- A bare reference goes in front of what does not begin with a digit. -/
theorem Readable.bare {n k : Nat} {c : Char} {tokens : List Token}
    (hn : (Reader.digits false n k).Reached) (hk : ¬Text.maxDigits < k) (hc : digit? c = none)
    (h : Readable tokens ∧ spell tokens = c :: left) :
    Readable (.reference n false :: tokens) ∧
      spell (.reference n false :: tokens) = '$' :: Text.decimal n ++ c :: left := by
  obtain ⟨hpos, hlength⟩ := hn
  obtain ⟨htokens, hspell⟩ := h
  refine ⟨⟨⟨hpos, by omega⟩, fun _ => ?_, htokens⟩, ?_⟩
  · rw [hspell]
    exact digit?_eq_none_iff.mp hc
  · rw [spell_cons, hspell, Token.spell]

/-- At the end of a text the reader is between tokens or behind the digits of a bare reference. -/
theorem spelled_nil : Spelled template [] := by
  intro r p tokens hr h
  cases r with
  | text =>
    obtain rfl : [] = tokens := Except.ok.inj h
    exact ⟨trivial, rfl⟩
  | escape => cases h
  | dollar => cases h
  | brace => cases h
  | digits braced n k =>
    rw [readTokens] at h
    split at h
    · cases h
    split at h
    · cases h
    · next hk hbraced =>
      obtain rfl : braced = false := by simpa using hbraced
      obtain rfl : [.reference n false] = tokens := Except.ok.inj h
      have hlength := hr.2
      exact ⟨⟨⟨hr.1, by omega⟩, fun _ => id, trivial⟩, rfl⟩

theorem Spelled.text {c : Char} (hleft : Spelled template left) {p : Nat} {tokens : List Token}
    (h : readTokens template .text p (c :: left) = .ok tokens) :
    Readable tokens ∧ spell tokens = c :: left := by
  rw [readTokens] at h
  split at h
  · next hc =>
    subst hc
    exact hleft .escape _ tokens trivial h
  split at h
  · next hc =>
    subst hc
    exact hleft .dollar _ tokens trivial h
  · next hbackslash hdollar =>
    obtain ⟨tokens, hread, rfl⟩ := Except.map_eq_ok_iff.mp h
    exact Readable.closed ⟨hbackslash, hdollar⟩ id (hleft .text _ tokens trivial hread)

theorem Spelled.escape {c : Char} (hleft : Spelled template left) {p : Nat} {tokens : List Token}
    (h : readTokens template .escape p (c :: left) = .ok tokens) :
    Readable tokens ∧ spell tokens = '\\' :: c :: left := by
  rw [readTokens] at h
  split at h
  · next hc =>
    obtain ⟨tokens, hread, rfl⟩ := Except.map_eq_ok_iff.mp h
    exact Readable.closed hc id (hleft .text _ tokens trivial hread)
  · cases h

/-- A first digit, without a brace in front of it or with one. -/
theorem Spelled.first_digit {c : Char} {d : Nat} (hleft : Spelled template left)
    (hd : leadingDigit? c = some d) (braced : Bool) {p : Nat} {tokens : List Token}
    (h : readTokens template (.digits braced d 1) p left = .ok tokens) :
    Readable tokens ∧
      spell tokens = (if braced then ['$', '{'] else ['$']) ++ c :: left := by
  obtain ⟨hreached, hdecimal⟩ := Reader.Reached.one_digit hd braced
  obtain ⟨htokens, hspell⟩ := hleft _ _ tokens hreached h
  refine ⟨htokens, ?_⟩
  rw [hspell]
  cases braced <;> simp [Reader.seen, hdecimal]

theorem Spelled.dollar {c : Char} (hleft : Spelled template left) {p : Nat} {tokens : List Token}
    (h : readTokens template .dollar p (c :: left) = .ok tokens) :
    Readable tokens ∧ spell tokens = '$' :: c :: left := by
  rw [readTokens] at h
  split at h
  · next hc =>
    subst hc
    exact hleft .brace _ tokens trivial h
  split at h
  · next d hd => exact hleft.first_digit hd false h
  · cases h

theorem Spelled.brace {c : Char} (hleft : Spelled template left) {p : Nat} {tokens : List Token}
    (h : readTokens template .brace p (c :: left) = .ok tokens) :
    Readable tokens ∧ spell tokens = '$' :: '{' :: c :: left := by
  rw [readTokens] at h
  split at h
  · next d hd => exact hleft.first_digit hd true h
  · cases h

/-- Behind the digits of a reference that is not too long: in braces the closing brace follows, and
without them any character, which is read as if the reference had not been there. -/
theorem Spelled.digits_end {c : Char} (hleft : Spelled template left) {braced : Bool} {n k p : Nat}
    {tokens : List Token} (hr : (Reader.digits braced n k).Reached) (hc : digit? c = none)
    (h : readTokens template (.digits braced n k) p (c :: left) = .ok tokens) :
    Readable tokens ∧ spell tokens = (Reader.digits braced n k).seen ++ c :: left := by
  rw [readTokens, hc] at h
  dsimp only at h
  split at h
  · cases h
  next hk =>
  cases braced with
  | true =>
    rw [if_pos rfl] at h
    split at h
    · next hbrace =>
      subst hbrace
      obtain ⟨tokens, hread, rfl⟩ := Except.map_eq_ok_iff.mp h
      have hlength := hr.2
      have htoken : (Token.reference n true).WellFormed := ⟨hr.1, by omega⟩
      obtain ⟨htokens, hspell⟩ :=
        Readable.closed htoken id (hleft .text _ tokens trivial hread)
      refine ⟨htokens, ?_⟩
      rw [hspell]
      simp [Token.spell, Reader.seen]
    · cases h
  | false =>
    rw [if_neg (by decide)] at h
    split at h
    · next hbackslash =>
      subst hbackslash
      obtain ⟨tokens, hread, rfl⟩ := Except.map_eq_ok_iff.mp h
      exact Readable.bare hr hk hc (hleft .escape _ tokens trivial hread)
    split at h
    · next hdollar =>
      subst hdollar
      obtain ⟨tokens, hread, rfl⟩ := Except.map_eq_ok_iff.mp h
      exact Readable.bare hr hk hc (hleft .dollar _ tokens trivial hread)
    · next hbackslash hdollar =>
      obtain ⟨tokens, hread, rfl⟩ := Except.map_eq_ok_iff.mp h
      exact Readable.bare hr hk hc
        (Readable.closed ⟨hbackslash, hdollar⟩ id (hleft .text _ tokens trivial hread))

theorem Spelled.digits {c : Char} (hleft : Spelled template left) {braced : Bool} {n k p : Nat}
    {tokens : List Token} (hr : (Reader.digits braced n k).Reached)
    (h : readTokens template (.digits braced n k) p (c :: left) = .ok tokens) :
    Readable tokens ∧ spell tokens = (Reader.digits braced n k).seen ++ c :: left := by
  cases hd : digit? c with
  | none => exact hleft.digits_end hr hd h
  | some d =>
    rw [readTokens, hd] at h
    obtain ⟨hreached, hdecimal⟩ := hr.next_digit hd
    obtain ⟨htokens, hspell⟩ := hleft _ _ tokens hreached h
    refine ⟨htokens, ?_⟩
    rw [hspell]
    cases braced <;> simp [Reader.seen, hdecimal]

/-- **What is read was spelled**, in every state that the reader gets into. -/
theorem spelled (template left : Text) : Spelled template left := by
  induction left with
  | nil => exact spelled_nil
  | cons c left ih =>
    intro r p tokens hr h
    cases r with
    | text => exact ih.text h
    | escape => exact ih.escape h
    | dollar => exact ih.dollar h
    | brace => exact ih.brace h
    | digits braced n k => exact ih.digits hr h

/-- **Reading and spelling**: a text is read as tokens exactly when it is their spelling and they
are determined by it. -/
theorem tokens_eq_ok_iff {t : Text} {read : List Token} :
    tokens t = .ok read ↔ Readable read ∧ spell read = t := by
  constructor
  · intro h
    exact spelled t t .text 0 read trivial h
  · rintro ⟨hread, rfl⟩
    exact readTokens_spell _ hread 0

end Template

end Substitution
