import Substitution.Proofs.Template.NormalForm
import Substitution.Proofs.Template.Reading

/-!
# The grammar of templates

A template is written as a row of **lexemes**: runs of plain characters, the two escapes, and
references with or without braces. `Substitution.Template.Grammatical` says which rows are allowed,
and `Substitution.Template.compile_eq_ok_iff` says that a text compiles exactly when an allowed row
spells it, and to what: the segments of the lexemes, in order, those of literal text joined where
they are neighbours.

Lexemes are coarser than the tokens that the reader gives. A run has any length but zero, so a text
can be spelled in several ways; and the number of a reference is a text here, whose value is looked
at only when it becomes a segment. `Substitution.Template.Lexeme.tokens` takes a lexeme apart, and
`Substitution.Template.Token.lexeme` makes one of each token. Either way the text stays the same and
an allowed row goes over into a row that can be read.
-/

namespace Substitution

namespace Template

/-- What a template is written with. -/
inductive Lexeme where
  /-- Characters that stand for themselves. -/
  | run (text : Text)
  /-- A character behind a backslash. -/
  | escape (c : Char)
  /-- A reference in braces. -/
  | braced (numeral : Text)
  /-- A reference without braces. -/
  | bare (numeral : Text)
deriving Repr, DecidableEq

namespace Lexeme

/-- How a lexeme is written. -/
def spell : Lexeme → Text
  | run text => text
  | escape c => ['\\', c]
  | braced numeral => '$' :: '{' :: numeral ++ ['}']
  | bare numeral => '$' :: numeral

/-- A number that a reference can have: a numeral, and not too long a one. -/
def IsNumber (numeral : Text) : Prop :=
  IsNumeral numeral ∧ numeral.length ≤ Text.maxDigits

instance (numeral : Text) : Decidable (IsNumber numeral) :=
  inferInstanceAs (Decidable (IsNumeral numeral ∧ numeral.length ≤ Text.maxDigits))

/-- **The lexemes**: runs that are not empty and have neither a dollar sign nor a backslash in them,
these two behind a backslash, and references with a number. -/
def WellFormed : Lexeme → Prop
  | run text => text ≠ [] ∧ ∀ c ∈ text, c ≠ '$' ∧ c ≠ '\\'
  | escape c => c = '$' ∨ c = '\\'
  | braced numeral => IsNumber numeral
  | bare numeral => IsNumber numeral

/-- Is the lexeme a reference without braces? -/
def IsBare : Lexeme → Prop
  | bare _ => True
  | _ => False

instance (lexeme : Lexeme) : Decidable lexeme.WellFormed :=
  match lexeme with
  | run text =>
    have : Decidable (∀ c ∈ text, c ≠ '$' ∧ c ≠ '\\') := text.decidableBAll _
    inferInstanceAs (Decidable (text ≠ [] ∧ ∀ c ∈ text, c ≠ '$' ∧ c ≠ '\\'))
  | escape c => inferInstanceAs (Decidable (c = '$' ∨ c = '\\'))
  | braced numeral => inferInstanceAs (Decidable (IsNumber numeral))
  | bare numeral => inferInstanceAs (Decidable (IsNumber numeral))

instance (lexeme : Lexeme) : Decidable lexeme.IsBare :=
  match lexeme with
  | run _ => inferInstanceAs (Decidable False)
  | escape _ => inferInstanceAs (Decidable False)
  | braced _ => inferInstanceAs (Decidable False)
  | bare _ => inferInstanceAs (Decidable True)

/-- What a lexeme stands for. A reference counts groups from one, its segment from zero. -/
def segment : Lexeme → Segment
  | run text => .literal text
  | escape c => .literal [c]
  | braced numeral => .reference (Nat.ofDigitChars 10 numeral 0 - 1)
  | bare numeral => .reference (Nat.ofDigitChars 10 numeral 0 - 1)

end Lexeme

/-- **The rows of lexemes that are allowed**: each of them is well-formed, and no bare reference is
followed by a digit. -/
def Grammatical : List Lexeme → Prop
  | [] => True
  | lexeme :: rest =>
    lexeme.WellFormed ∧ (lexeme.IsBare → ¬BeginsWithDigit (rest.flatMap Lexeme.spell)) ∧
      Grammatical rest

instance decidableGrammatical : (lexemes : List Lexeme) → Decidable (Grammatical lexemes)
  | [] => inferInstanceAs (Decidable True)
  | lexeme :: rest =>
    have := decidableGrammatical rest
    inferInstanceAs (Decidable (lexeme.WellFormed ∧
      (lexeme.IsBare → ¬BeginsWithDigit (rest.flatMap Lexeme.spell)) ∧ Grammatical rest))

/-! ### Lexemes as tokens -/

/-- The tokens that a lexeme is made of. -/
def Lexeme.tokens : Lexeme → List Token
  | run text => text.map .plain
  | escape c => [.escaped c]
  | braced numeral => [.reference (Nat.ofDigitChars 10 numeral 0) true]
  | bare numeral => [.reference (Nat.ofDigitChars 10 numeral 0) false]

theorem Lexeme.spell_tokens {lexeme : Lexeme} (h : lexeme.WellFormed) :
    Template.spell lexeme.tokens = lexeme.spell := by
  cases lexeme with
  | run text => simp [tokens, Template.spell, Token.spell, spell, List.flatMap_map]
  | escape c => rfl
  | braced numeral =>
    simp [tokens, Token.spell, spell, (decimal_ofDigitChars h.1).1]
  | bare numeral =>
    simp [tokens, Token.spell, spell, (decimal_ofDigitChars h.1).1]

theorem spell_flatMap_tokens {lexemes : List Lexeme} (h : Grammatical lexemes) :
    spell (lexemes.flatMap Lexeme.tokens) = lexemes.flatMap Lexeme.spell := by
  induction lexemes with
  | nil => rfl
  | cons lexeme rest ih =>
    obtain ⟨hlexeme, -, hrest⟩ := h
    rw [List.flatMap_cons, List.flatMap_cons, spell, List.flatMap_append]
    exact congr (congrArg _ (Lexeme.spell_tokens hlexeme)) (ih hrest)

/-- Plain characters in front of tokens that can be read can be read with them. -/
theorem Readable.plain_append {text : Text} {tokens : List Token}
    (htext : ∀ c ∈ text, c ≠ '$' ∧ c ≠ '\\') (h : Readable tokens) :
    Readable (text.map .plain ++ tokens) := by
  induction text with
  | nil => exact h
  | cons c text ih =>
    obtain ⟨hdollar, hbackslash⟩ := htext c List.mem_cons_self
    exact ⟨⟨hbackslash, hdollar⟩, fun hbare => hbare.elim,
      ih fun d hd => htext d (List.mem_cons_of_mem c hd)⟩

theorem readable_flatMap_tokens {lexemes : List Lexeme} (h : Grammatical lexemes) :
    Readable (lexemes.flatMap Lexeme.tokens) := by
  induction lexemes with
  | nil => trivial
  | cons lexeme rest ih =>
    obtain ⟨hlexeme, hbare, hrest⟩ := h
    rw [List.flatMap_cons]
    cases lexeme with
    | run text => exact (ih hrest).plain_append hlexeme.2
    | escape c => exact ⟨hlexeme, fun hbare => hbare.elim, ih hrest⟩
    | braced numeral =>
      obtain ⟨hdecimal, hpos⟩ := decimal_ofDigitChars hlexeme.1
      exact ⟨⟨hpos, by rw [hdecimal]; exact hlexeme.2⟩, fun hbare => hbare.elim, ih hrest⟩
    | bare numeral =>
      obtain ⟨hdecimal, hpos⟩ := decimal_ofDigitChars hlexeme.1
      refine ⟨⟨hpos, by rw [hdecimal]; exact hlexeme.2⟩, fun _ => ?_, ih hrest⟩
      change ¬BeginsWithDigit (spell (rest.flatMap Lexeme.tokens))
      rw [spell_flatMap_tokens hrest]
      exact hbare trivial

/-- The lexeme that a token is. -/
def Token.lexeme : Token → Lexeme
  | .plain c => .run [c]
  | .escaped c => .escape c
  | .reference number true => .braced (Text.decimal number)
  | .reference number false => .bare (Text.decimal number)

theorem Token.tokens_lexeme (token : Token) : token.lexeme.tokens = [token] := by
  cases token with
  | plain c => rfl
  | escaped c => rfl
  | reference number braced =>
    have hvalue : Nat.ofDigitChars 10 (Text.decimal number) 0 = number :=
      Nat.ofDigitChars_ten_toDigits
    cases braced <;> simp [lexeme, Lexeme.tokens, hvalue]

theorem flatMap_tokens_lexeme (tokens : List Token) :
    (tokens.map Token.lexeme).flatMap Lexeme.tokens = tokens := by
  rw [List.flatMap_map]
  simp [Token.tokens_lexeme]

theorem flatMap_spell_lexeme (tokens : List Token) :
    (tokens.map Token.lexeme).flatMap Lexeme.spell = spell tokens := by
  have hspell : ∀ token : Token, token.lexeme.spell = token.spell := by
    intro token
    rcases token with c | c | ⟨number, _ | _⟩ <;> rfl
  rw [List.flatMap_map, spell]
  simp [hspell]

theorem grammatical_map_lexeme {tokens : List Token} (h : Readable tokens) :
    Grammatical (tokens.map Token.lexeme) := by
  induction tokens with
  | nil => trivial
  | cons token rest ih =>
    obtain ⟨htoken, hbare, hrest⟩ := h
    refine ⟨?_, fun hlexeme => ?_, ih hrest⟩
    · cases token with
      | plain c =>
        refine ⟨List.cons_ne_nil c [], fun d hd => ?_⟩
        obtain rfl : d = c := List.mem_singleton.mp hd
        exact ⟨htoken.2, htoken.1⟩
      | escaped c => exact htoken
      | reference number braced =>
        cases braced <;> exact ⟨isNumeral_decimal htoken.1, htoken.2⟩
    · rw [flatMap_spell_lexeme]
      rcases token with c | c | ⟨number, _ | _⟩
      · exact hlexeme.elim
      · exact hlexeme.elim
      · exact hbare trivial
      · exact hlexeme.elim

/-! ### Lexemes as segments -/

/-- Characters that are written one by one, plain or escaped, go into one literal segment. -/
theorem segmentsOf_map_append {write : Char → Token}
    (hwrite : ∀ c, write c = .plain c ∨ write c = .escaped c) (text : Text) (tokens : List Token) :
    segmentsOf (text.map write ++ tokens) = pushSegment (.literal text) (segmentsOf tokens) := by
  induction text with
  | nil => rw [pushSegment_literal_nil, List.map_nil, List.nil_append]
  | cons c text ih =>
    have hstep : segmentsOf (write c :: (text.map write ++ tokens)) =
        pushChar c (segmentsOf (text.map write ++ tokens)) := by
      rcases hwrite c with hc | hc <;> rw [hc, segmentsOf]
    rw [List.map_cons, List.cons_append, hstep, ih, pushChar_eq, pushSegment_literal_append,
      List.singleton_append]

/-- **What tokens stand for is what their lexemes stand for**, in normal form. -/
theorem ofTokens_flatMap_tokens (lexemes : List Lexeme) :
    ofTokens (lexemes.flatMap Lexeme.tokens) = normal ⟨lexemes.map Lexeme.segment⟩ := by
  induction lexemes with
  | nil => rfl
  | cons lexeme rest ih =>
    have hrest : segmentsOf (rest.flatMap Lexeme.tokens) =
        (normal ⟨rest.map Lexeme.segment⟩).segments := congrArg segments ih
    rw [List.map_cons, normal_cons, ← hrest, List.flatMap_cons]
    refine congrArg Template.mk ?_
    cases lexeme with
    | run text => exact segmentsOf_map_append (fun c => Or.inl rfl) text _
    | escape c => exact pushChar_eq c _
    | braced numeral => rw [Lexeme.segment, pushSegment_reference]; rfl
    | bare numeral => rw [Lexeme.segment, pushSegment_reference]; rfl

/-- What compiles, compiles to a template in normal form. -/
theorem isNormal_of_compile {t : Text} {compiled : Template} (h : compile t = .ok compiled) :
    compiled.IsNormal := by
  obtain ⟨read, -, rfl⟩ := Except.map_eq_ok_iff.mp h
  exact isNormal_ofTokens read

/-- **The grammar of templates.** A text compiles exactly when it is written with an allowed row of
lexemes, and then to what they stand for with neighbouring literal segments joined. So the result is
in normal form, and the empty text gives no segment. -/
theorem compile_eq_ok_iff (t : Text) (compiled : Template) :
    (compile t = .ok compiled ↔
      ∃ lexemes, Grammatical lexemes ∧ lexemes.flatMap Lexeme.spell = t ∧
        compiled = normal ⟨lexemes.map Lexeme.segment⟩) ∧
    (compile t = .ok compiled → compiled.IsNormal ∧ (t = [] → compiled.segments = [])) := by
  have hiff : compile t = .ok compiled ↔
      ∃ lexemes, Grammatical lexemes ∧ lexemes.flatMap Lexeme.spell = t ∧
        compiled = normal ⟨lexemes.map Lexeme.segment⟩ := by
    rw [compile, Except.map_eq_ok_iff]
    constructor
    · rintro ⟨read, hread, rfl⟩
      obtain ⟨hreadable, hspell⟩ := tokens_eq_ok_iff.mp hread
      refine ⟨read.map Token.lexeme, grammatical_map_lexeme hreadable, ?_, ?_⟩
      · rw [flatMap_spell_lexeme, hspell]
      · rw [← ofTokens_flatMap_tokens, flatMap_tokens_lexeme]
    -- The reader need not find these lexemes again, only tokens that stand for the same segments.
    · rintro ⟨lexemes, hlexemes, hspell, rfl⟩
      refine ⟨lexemes.flatMap Lexeme.tokens, tokens_eq_ok_iff.mpr ⟨?_, ?_⟩,
        ofTokens_flatMap_tokens lexemes⟩
      · exact readable_flatMap_tokens hlexemes
      · rw [spell_flatMap_tokens hlexemes, hspell]
  refine ⟨hiff, fun h => ⟨isNormal_of_compile h, ?_⟩⟩
  rintro rfl
  obtain rfl : ⟨[]⟩ = compiled := Except.ok.inj h
  rfl

/-- An escape joins the run in front of it; braces keep a reference and the digit behind it apart.
-/
theorem compile_eq_ok_iff_braced :
    compile "a\\$$\x7b2\x7d3$1".toList =
        .ok ⟨[.literal "a$".toList, .reference 1, .literal "3".toList, .reference 0]⟩ ∧
      IsNormal ⟨[.literal "a$".toList, .reference 1, .literal "3".toList, .reference 0]⟩ := by
  have h := compile_eq_ok_iff "a\\$$\x7b2\x7d3$1".toList
    ⟨[.literal "a$".toList, .reference 1, .literal "3".toList, .reference 0]⟩
  have hcompile := h.1.mpr ⟨[.run ['a'], .escape '$', .braced ['2'], .run ['3'], .bare ['1']],
    by decide, rfl, rfl⟩
  exact ⟨hcompile, (h.2 hcompile).1⟩

end Template

end Substitution
