import Substitution.Proofs.Template.Reading

/-!
# A template is refused at the first place where it goes wrong

When the text of a template is malformed, the fault names a place, and that place is as far to the
left as it can be: what stands in front of it begins some template that compiles, and what stands up
to and including it begins none. This is `Substitution.Template.compile_fault_leftmost`. So a fault
does not depend on what follows it, and of several faults the leftmost one is reported.

Two kinds of faults are not tied to a character. Where the text ends too early, nothing in it is
wrong, and it begins a template that compiles as a whole. A backslash at the end is such a fault,
although its place is that of the backslash.

## The reader as a machine

`Substitution.Template.readTokens` is opened once, by `Substitution.Template.readTokens_cons`: the
reader takes a character and either stops (`Substitution.Template.Reader.Stop`) or has finished some
tokens and goes on from another state. What has to be known is then known of single states:

* reading goes over a text that takes the reader from one state to another
  (`Substitution.Template.readTokens_append`), whatever stands behind it;
* **a state that can stop with a fault can still be brought to an end**
  (`Substitution.Template.Reader.Stops.exists_ending`), which is why the place of a fault is not too
  far to the left;
* the state says how the text that has been read ends (`Substitution.Template.Reader.Sees`), which
  is what the words of a fault are about.
-/

namespace Substitution

namespace Template

/-! ### Escapes -/

/-- A text **escapes** the character behind it if it ends with an odd number of backslashes. -/
def Escapes (t : Text) : Prop :=
  (t.reverse.takeWhile (· = '\\')).length % 2 = 1

theorem escapes_snoc_iff {t : Text} {c : Char} : Escapes (t ++ [c]) ↔ c = '\\' ∧ ¬Escapes t := by
  rw [Escapes, Escapes, List.reverse_append, List.reverse_singleton, List.singleton_append,
    List.takeWhile_cons]
  by_cases hc : c = '\\'
  · simp only [hc, decide_true, if_true, List.length_cons, true_and]
    omega
  · simp [hc]

theorem not_escapes_nil : ¬Escapes [] :=
  nofun

/-- Only a backslash at the end escapes. -/
theorem not_escapes_append {t u : Text} (hu : u ≠ []) (hbackslash : '\\' ∉ u) :
    ¬Escapes (t ++ u) := by
  obtain ⟨front, c, rfl⟩ := (List.eq_nil_or_concat u).resolve_left hu
  rw [List.concat_eq_append] at hbackslash ⊢
  rw [← List.append_assoc, escapes_snoc_iff]
  rintro ⟨rfl, -⟩
  exact hbackslash (List.mem_append_right front List.mem_cons_self)

/-! ### The reader as a machine -/

/-- Why the reader does not go on. -/
inductive Reader.Stop where
  | fault (f : SyntaxFault)
  | tooLong (count : Nat)

/-- The place of a fault that the reader meets at `position`: a backslash at the end is reported
itself. -/
def SyntaxFault.placeAt (position : Nat) : SyntaxFault → Nat
  | trailingEscape => position - 1
  | _ => position

/-- How a stop at `position` is reported. -/
def Reader.Stop.error (template : Text) (position : Nat) : Reader.Stop → Error
  | fault f => .malformed ⟨template, f.placeAt position, f⟩
  | tooLong count => .numberTooLong count

namespace Reader

/-- What becomes of a character that stands between tokens. -/
def between (c : Char) : List Token × Reader :=
  if c = '\\' then ([], .escape) else if c = '$' then ([], .dollar) else ([.plain c], .text)

/-- **One character**: the tokens that it finishes and the state behind it, or why it cannot be
read. -/
def step : Reader → Char → Except Stop (List Token × Reader)
  | text, c => .ok (between c)
  | escape, c =>
    if c = '$' ∨ c = '\\' then .ok ([.escaped c], .text) else .error (.fault (.illegalEscape c))
  | dollar, c =>
    if c = '{' then .ok ([], .brace)
    else match leadingDigit? c with
      | some d => .ok ([], .digits false d 1)
      | none => .error (.fault (.invalidReference false))
  | brace, c =>
    match leadingDigit? c with
    | some d => .ok ([], .digits true d 1)
    | none => .error (.fault (.invalidReference true))
  | digits braced n k, c =>
    match digit? c with
    | some d => .ok ([], .digits braced (10 * n + d) (k + 1))
    | none =>
      if k > Text.maxDigits then .error (.tooLong k)
      else if braced then
        if c = '}' then .ok ([.reference n true], .text) else .error (.fault (.missingBrace n))
      else .ok (.reference n false :: (between c).1, (between c).2)

/-- **The end of the text**: the token that it finishes, or why the text cannot end here. -/
def finish : Reader → Except Stop (List Token)
  | text => .ok []
  | escape => .error (.fault .trailingEscape)
  | dollar => .error (.fault (.invalidReference false))
  | brace => .error (.fault (.invalidReference true))
  | digits braced n k =>
    if k > Text.maxDigits then .error (.tooLong k)
    else if braced then .error (.fault (.missingBrace n))
    else .ok [.reference n false]

/-- The reader stops where this text is left. -/
def Stops (r : Reader) (s : Stop) : Text → Prop
  | [] => r.finish = .error s
  | c :: _ => r.step c = .error s

/-- The text takes the reader from one state to another and finishes tokens on the way. -/
inductive Reads : Reader → Text → List Token → Reader → Prop where
  | nil (r : Reader) : Reads r [] [] r
  | cons {r next last : Reader} {c : Char} {rest : Text} {first others : List Token}
      (hstep : r.step c = .ok (first, next)) (hrest : Reads next rest others last) :
      Reads r (c :: rest) (first ++ others) last

end Reader

section Machine

theorem map_nil_append {ε α : Type} {x : Except ε (List α)} : x.map ([] ++ ·) = x := by
  cases x <;> rfl

variable (template : Text)

theorem readTokens_nil (r : Reader) (p : Nat) :
    readTokens template r p [] = r.finish.mapError (·.error template p) := by
  cases r with
  | digits braced n k =>
    rw [readTokens, Reader.finish]
    split
    · rfl
    split <;> rfl
  | _ => rfl

/-- **The reader is a machine**: it takes a character, and what is left is read from the state
behind it. -/
theorem readTokens_cons (r : Reader) (p : Nat) (c : Char) (rest : Text) :
    readTokens template r p (c :: rest) =
      match r.step c with
      | .ok (first, next) => (readTokens template next (p + 1) rest).map (first ++ ·)
      | .error s => .error (s.error template p) := by
  cases r with
  | text =>
    rw [readTokens, Reader.step, Reader.between]
    split
    · exact map_nil_append.symm
    split
    · exact map_nil_append.symm
    · rfl
  | escape =>
    rw [readTokens, Reader.step]
    split <;> rfl
  | dollar =>
    rw [readTokens, Reader.step]
    split
    · exact map_nil_append.symm
    · cases leadingDigit? c with
      | some d => exact map_nil_append.symm
      | none => rfl
  | brace =>
    rw [readTokens, Reader.step]
    cases leadingDigit? c with
    | some d => exact map_nil_append.symm
    | none => rfl
  | digits braced n k =>
    rw [readTokens, Reader.step]
    cases digit? c with
    | some d => exact map_nil_append.symm
    | none =>
      dsimp only
      split
      · rfl
      split
      · split <;> rfl
      · rw [Reader.between]
        split
        · rfl
        split
        · rfl
        · rfl

/-- **The reader goes over a text as its states tell**, whatever stands behind it. -/
theorem readTokens_append {r last : Reader} {u : Text} {finished : List Token}
    (h : r.Reads u finished last) (p : Nat) (rest : Text) :
    readTokens template r p (u ++ rest) =
      (readTokens template last (p + u.length) rest).map (finished ++ ·) := by
  induction h generalizing p with
  | nil r => exact map_nil_append.symm
  | cons hstep hrest ih =>
    rw [List.cons_append, readTokens_cons, hstep]
    simp only
    rw [ih, List.length_cons, Nat.add_assoc, Nat.add_comm 1]
    cases readTokens template _ _ rest with
    | error err => rfl
    | ok others => exact congrArg Except.ok (List.append_assoc _ _ others).symm

variable {template}

theorem readTokens_of_stops {r : Reader} {s : Reader.Stop} {rest : Text} (h : r.Stops s rest)
    (p : Nat) : readTokens template r p rest = .error (s.error template p) := by
  cases rest with
  | nil =>
    have hfinish : r.finish = .error s := h
    rw [readTokens_nil, hfinish]
    rfl
  | cons c rest =>
    have hstep : r.step c = .error s := h
    rw [readTokens_cons, hstep]

/-- **A text that cannot be read is read up to the place where the reader stops.** -/
theorem exists_stops_of_error {r : Reader} {p : Nat} {left : Text} {err : Error}
    (h : readTokens template r p left = .error err) :
    ∃ u finished last s rest, left = u ++ rest ∧ r.Reads u finished last ∧ last.Stops s rest ∧
      err = s.error template (p + u.length) := by
  induction left generalizing r p with
  | nil =>
    rw [readTokens_nil] at h
    cases hfinish : r.finish with
    | error s =>
      rw [hfinish] at h
      exact ⟨[], [], r, s, [], rfl, .nil r, hfinish, (Except.error.inj h).symm⟩
    | ok finished =>
      rw [hfinish] at h
      cases h
  | cons c left ih =>
    rw [readTokens_cons] at h
    cases hstep : r.step c with
    | error s =>
      rw [hstep] at h
      exact ⟨[], [], r, s, c :: left, rfl, .nil r, hstep, (Except.error.inj h).symm⟩
    | ok taken =>
      obtain ⟨first, next⟩ := taken
      rw [hstep] at h
      obtain ⟨u, finished, last, s, rest, rfl, hreads, hstops, rfl⟩ :=
        ih (Except.map_eq_error_iff.mp h)
      refine ⟨c :: u, first ++ finished, last, s, rest, rfl, .cons hstep hreads, hstops, ?_⟩
      rw [List.length_cons, Nat.add_assoc, Nat.add_comm 1]

end Machine

/-! ### The faults of each state -/

theorem leadingDigit?_eq_none_iff {c : Char} :
    leadingDigit? c = none ↔ ¬('1' ≤ c ∧ c ≤ '9') := by
  rw [leadingDigit?]
  split <;> simp [*]

theorem Reader.Stops.of_escape {f : SyntaxFault} {rest : Text}
    (h : escape.Stops (.fault f) rest) :
    (f = .trailingEscape ∧ rest = []) ∨
      ∃ c, f = .illegalEscape c ∧ rest.head? = some c ∧ c ≠ '$' ∧ c ≠ '\\' := by
  cases rest with
  | nil =>
    cases h
    exact .inl ⟨rfl, rfl⟩
  | cons c rest =>
    rw [Stops, step] at h
    split at h
    · cases h
    · next hc =>
      cases h
      exact .inr ⟨c, rfl, rfl, not_or.mp hc⟩

theorem Reader.Stops.of_dollar {f : SyntaxFault} {rest : Text} (h : dollar.Stops (.fault f) rest) :
    f = .invalidReference false ∧ ∀ c ∈ rest.head?, c ≠ '{' ∧ ¬('1' ≤ c ∧ c ≤ '9') := by
  cases rest with
  | nil =>
    cases h
    exact ⟨rfl, nofun⟩
  | cons c rest =>
    rw [Stops, step] at h
    split at h
    · cases h
    next hbrace =>
    split at h
    · cases h
    next hdigit =>
    cases h
    refine ⟨rfl, fun d hd => ?_⟩
    obtain rfl : c = d := Option.some.inj hd
    exact ⟨hbrace, leadingDigit?_eq_none_iff.mp hdigit⟩

theorem Reader.Stops.of_brace {f : SyntaxFault} {rest : Text} (h : brace.Stops (.fault f) rest) :
    f = .invalidReference true ∧ ∀ c ∈ rest.head?, ¬('1' ≤ c ∧ c ≤ '9') := by
  cases rest with
  | nil =>
    cases h
    exact ⟨rfl, nofun⟩
  | cons c rest =>
    rw [Stops, step] at h
    split at h
    · cases h
    next hdigit =>
    cases h
    refine ⟨rfl, fun d hd => ?_⟩
    obtain rfl : c = d := Option.some.inj hd
    exact leadingDigit?_eq_none_iff.mp hdigit

/-- A fault behind digits is a brace that is missing, and the digits are not too many. -/
theorem Reader.Stops.of_digits {braced : Bool} {n k : Nat} {f : SyntaxFault} {rest : Text}
    (h : (Reader.digits braced n k).Stops (.fault f) rest) :
    braced = true ∧ k ≤ Text.maxDigits ∧ f = .missingBrace n ∧
      ∀ c ∈ rest.head?, c ≠ '}' ∧ ¬('0' ≤ c ∧ c ≤ '9') := by
  cases rest with
  | nil =>
    rw [Stops, finish] at h
    split at h
    · cases h
    next hk =>
    split at h
    · next hbraced =>
      cases h
      refine ⟨hbraced, Nat.le_of_not_lt hk, rfl, fun d hd => ?_⟩
      cases hd
    · cases h
  | cons c rest =>
    rw [Stops, step] at h
    split at h
    · cases h
    next hc =>
    split at h
    · cases h
    next hk =>
    split at h
    · next hbraced =>
      split at h
      · cases h
      next hbrace =>
      cases h
      refine ⟨hbraced, Nat.le_of_not_lt hk, rfl, fun d hd => ?_⟩
      obtain rfl : c = d := Option.some.inj hd
      exact ⟨hbrace, digit?_eq_none_iff.mp hc⟩
    · cases h

theorem Reader.Stops.eq_nil_of_trailingEscape {r : Reader} {f : SyntaxFault} {rest : Text}
    (h : r.Stops (.fault f) rest) (hf : f = .trailingEscape) : rest = [] := by
  subst hf
  cases r with
  | text => cases rest <;> cases h
  | escape =>
    rcases h.of_escape with ⟨-, hrest⟩ | ⟨c, hf, -, -⟩
    · exact hrest
    · cases hf
  | dollar => cases h.of_dollar.1
  | brace => cases h.of_brace.1
  | digits braced n k => cases h.of_digits.2.2.1

/-! ### Texts that can still be completed -/

/-- A text that some template begins with. -/
def Viable (t : Text) : Prop :=
  ∃ whole compiled, t <+: whole ∧ compile whole = .ok compiled

/-- **Where the reader stops with a fault, another text would have brought it between tokens.** -/
theorem Reader.Stops.exists_ending {r : Reader} {f : SyntaxFault} {rest : Text}
    (h : r.Stops (.fault f) rest) :
    ∃ ending finished, ending ≠ [] ∧ r.Reads ending finished .text := by
  cases r with
  | text => cases rest <;> cases h
  | escape => exact ⟨['$'], _, List.cons_ne_nil _ _, .cons rfl (.nil _)⟩
  | dollar =>
    exact ⟨['{', '1', '}'], _, List.cons_ne_nil _ _, .cons rfl (.cons rfl (.cons rfl (.nil _)))⟩
  | brace => exact ⟨['1', '}'], _, List.cons_ne_nil _ _, .cons rfl (.cons rfl (.nil _))⟩
  | digits braced n k =>
    obtain ⟨rfl, hk, -, -⟩ := h.of_digits
    have hclose : (digits true n k).step '}' = .ok ([.reference n true], .text) := by
      have hdigit : digit? '}' = none := by decide
      rw [step, hdigit]
      exact if_neg (Nat.not_lt.mpr hk)
    exact ⟨['}'], _, List.cons_ne_nil _ _, .cons hclose (.nil _)⟩

/-- A text that has been read up to a fault can be completed. -/
theorem exists_compile_of_stops {r : Reader} {u rest : Text} {finished : List Token}
    {f : SyntaxFault} (hreads : Reader.text.Reads u finished r) (hstops : r.Stops (.fault f) rest) :
    ∃ more, more ≠ [] ∧ ∃ compiled, compile (u ++ more) = .ok compiled := by
  obtain ⟨ending, others, hne, hending⟩ := hstops.exists_ending
  refine ⟨ending, hne, ofTokens (finished ++ others), ?_⟩
  have hothers := readTokens_append (u ++ ending) hending (0 + u.length) []
  rw [List.append_nil] at hothers
  rw [compile, tokens, readTokens_append _ hreads, hothers]
  exact congrArg (fun l => Except.ok (ofTokens (finished ++ l))) (List.append_nil others)

/-! ### What stands at the place of a fault -/

/-- **What a state knows of the text that has been read**: it ends with what has been seen of the
token at hand, and this token does not begin behind a backslash that escapes it. -/
structure Reader.Sees (r : Reader) (u : Text) : Prop where
  reached : r.Reached
  exists_front : ∃ front, u = front ++ r.seen ∧ ¬Escapes front

theorem Reader.Sees.text {u : Text} (h : ¬Escapes u) : Reader.text.Sees u :=
  ⟨trivial, u, (List.append_nil u).symm, h⟩

theorem Reader.Sees.between {u : Text} (h : ¬Escapes u) (c : Char) :
    (Reader.between c).2.Sees (u ++ [c]) := by
  rw [Reader.between]
  split
  · next hc =>
    subst hc
    exact ⟨trivial, u, rfl, h⟩
  split
  · next hc =>
    subst hc
    exact ⟨trivial, u, rfl, h⟩
  · next hbackslash hdollar =>
    exact .text fun hescapes => hbackslash (escapes_snoc_iff.mp hescapes).1

theorem backslash_not_mem_decimal {n : Nat} (hn : 0 < n) : '\\' ∉ '$' :: Text.decimal n := by
  intro hmem
  have hnumeral := isNumeral_decimal hn
  rcases List.mem_cons.mp hmem with hdollar | hdecimal
  · cases hdollar
  cases hdigits : Text.decimal n with
  | nil =>
    rw [hdigits] at hdecimal
    cases hdecimal
  | cons c rest =>
    rw [hdigits] at hdecimal hnumeral
    rcases List.mem_cons.mp hdecimal with rfl | hrest
    · exact absurd hnumeral.1 (by decide)
    · exact absurd (hnumeral.2 _ hrest) (by decide)

/-- What a state knows stays right from one character to the next. -/
theorem Reader.Sees.step {r next : Reader} {u : Text} {c : Char} {finished : List Token}
    (h : r.Sees u) (hstep : r.step c = .ok (finished, next)) : next.Sees (u ++ [c]) := by
  obtain ⟨hreached, front, rfl, hfront⟩ := h
  cases r with
  | text =>
    obtain rfl : (Reader.between c).2 = next := congrArg Prod.snd (Except.ok.inj hstep)
    rw [seen, List.append_nil]
    exact .between hfront c
  | escape =>
    rw [Reader.step] at hstep
    split at hstep
    · cases hstep
      refine .text fun hescapes => (escapes_snoc_iff.mp hescapes).2 ?_
      exact escapes_snoc_iff.mpr ⟨rfl, hfront⟩
    · cases hstep
  | dollar =>
    rw [Reader.step] at hstep
    split at hstep
    · next hc =>
      subst hc
      cases hstep
      exact ⟨trivial, front, by simp [seen], hfront⟩
    split at hstep
    · next d hd =>
      cases hstep
      obtain ⟨hdigits, hdecimal⟩ := Reached.one_digit hd false
      exact ⟨hdigits, front, by simp [seen, hdecimal], hfront⟩
    · cases hstep
  | brace =>
    rw [Reader.step] at hstep
    split at hstep
    · next d hd =>
      cases hstep
      obtain ⟨hdigits, hdecimal⟩ := Reached.one_digit hd true
      exact ⟨hdigits, front, by simp [seen, hdecimal], hfront⟩
    · cases hstep
  | digits braced n k =>
    rw [Reader.step] at hstep
    split at hstep
    · next d hd =>
      cases hstep
      obtain ⟨hdigits, hdecimal⟩ := hreached.next_digit hd
      refine ⟨hdigits, front, ?_, hfront⟩
      cases braced <;> simp [seen, hdecimal]
    split at hstep
    · cases hstep
    split at hstep
    · split at hstep
      · next hc =>
        subst hc
        cases hstep
        exact .text (not_escapes_append (List.cons_ne_nil _ _) (by decide))
      · cases hstep
    -- A bare reference has ended, and the character is the first one behind it.
    · next hbraced =>
      obtain rfl : braced = false := Bool.eq_false_iff.mpr hbraced
      cases hstep
      exact .between (not_escapes_append (List.cons_ne_nil _ _)
        (backslash_not_mem_decimal hreached.1)) c

theorem Reader.Reads.sees {r last : Reader} {u v : Text} {finished : List Token}
    (h : r.Reads u finished last) (hv : r.Sees v) : last.Sees (v ++ u) := by
  induction h generalizing v with
  | nil r => rwa [List.append_nil]
  | cons hstep hrest ih =>
    rw [List.append_cons]
    exact ih (hv.step hstep)

/-- **What a fault says about the text around its place.** -/
def SyntaxFault.Stands (t : Text) (position : Nat) : SyntaxFault → Prop
  -- The backslash at the place ends the text, and is not escaped itself.
  | trailingEscape => ∃ front, t = front ++ ['\\'] ∧ front.length = position ∧ ¬Escapes front
  -- The character at the place follows a backslash that is not escaped.
  | illegalEscape c =>
    (∃ front, t.take position = front ++ ['\\'] ∧ ¬Escapes front) ∧
      t[position]? = some c ∧ c ≠ '$' ∧ c ≠ '\\'
  -- The place follows the number of a reference in braces, or only the beginning of a reference.
  | missingBrace n =>
    (∃ front, t.take position = front ++ '$' :: '{' :: Text.decimal n ∧ ¬Escapes front) ∧
      ∀ c ∈ t[position]?, c ≠ '}' ∧ ¬('0' ≤ c ∧ c ≤ '9')
  | invalidReference true =>
    (∃ front, t.take position = front ++ ['$', '{'] ∧ ¬Escapes front) ∧
      ∀ c ∈ t[position]?, ¬('1' ≤ c ∧ c ≤ '9')
  | invalidReference false =>
    (∃ front, t.take position = front ++ ['$'] ∧ ¬Escapes front) ∧
      ∀ c ∈ t[position]?, c ≠ '{' ∧ ¬('1' ≤ c ∧ c ≤ '9')

/-- **The fault with which the reader stops is the one that stands there.** -/
theorem Reader.Stops.stands {r : Reader} {u rest : Text} {f : SyntaxFault}
    (h : r.Stops (.fault f) rest) (hsees : r.Sees u) :
    f.Stands (u ++ rest) (f.placeAt u.length) := by
  have htake : (u ++ rest).take u.length = u := List.take_left
  have hnext : (u ++ rest)[u.length]? = rest.head? := by
    rw [List.getElem?_append_right (Nat.le_refl _), Nat.sub_self, List.head?_eq_getElem?]
  obtain ⟨-, front, hu, hfront⟩ := hsees
  have hbefore : ∃ front, (u ++ rest).take u.length = front ++ r.seen ∧ ¬Escapes front :=
    ⟨front, htake.trans hu, hfront⟩
  cases r with
  | text => cases rest <;> cases h
  | escape =>
    rcases h.of_escape with ⟨rfl, rfl⟩ | ⟨c, rfl, hhead, hc⟩
    · refine ⟨front, (List.append_nil u).trans hu, ?_, hfront⟩
      rw [hu, SyntaxFault.placeAt, List.length_append]
      exact (Nat.add_sub_cancel ..).symm
    · exact ⟨hbefore, hnext.trans hhead, hc⟩
  | dollar =>
    obtain ⟨rfl, hhead⟩ := h.of_dollar
    exact ⟨hbefore, fun c hc => hhead c (hnext ▸ hc)⟩
  | brace =>
    obtain ⟨rfl, hhead⟩ := h.of_brace
    exact ⟨hbefore, fun c hc => hhead c (hnext ▸ hc)⟩
  | digits braced n k =>
    obtain ⟨rfl, -, rfl, hhead⟩ := h.of_digits
    exact ⟨hbefore, fun c hc => hhead c (hnext ▸ hc)⟩

/-! ### The leftmost fault -/

theorem SyntaxFault.placeAt_of_ne {f : SyntaxFault} (h : f ≠ .trailingEscape) (position : Nat) :
    f.placeAt position = position := by
  cases f with
  | trailingEscape => exact absurd rfl h
  | _ => rfl

theorem SyntaxFault.placeAt_le (f : SyntaxFault) (position : Nat) :
    f.placeAt position ≤ position := by
  cases f with
  | trailingEscape => exact Nat.sub_le position 1
  | _ => exact Nat.le_refl position

/-- **A malformed text has been read up to its fault.** -/
theorem exists_stops_of_malformed {t : Text} {e : SyntaxError}
    (h : compile t = .error (.malformed e)) :
    ∃ u rest finished r, t = u ++ rest ∧ Reader.text.Reads u finished r ∧
      r.Stops (.fault e.fault) rest ∧ e = ⟨t, e.fault.placeAt u.length, e.fault⟩ := by
  obtain ⟨u, finished, r, s, rest, rfl, hreads, hstops, herror⟩ :=
    exists_stops_of_error (Except.map_eq_error_iff.mp h)
  cases s with
  | tooLong k => cases herror
  | fault f =>
    rw [Nat.zero_add] at herror
    cases herror
    exact ⟨u, rest, finished, r, rfl, hreads, hstops, rfl⟩

/-- **A fault at a character is the fault of every text that begins in the same way**, up to and
including this character. -/
theorem compile_eq_of_stops {r : Reader} {u rest : Text} {finished : List Token} {c : Char}
    {f : SyntaxFault} (hreads : Reader.text.Reads u finished r)
    (hstops : r.Stops (.fault f) (c :: rest)) (more : Text) :
    compile (u ++ c :: more) =
      .error (.malformed ⟨u ++ c :: more, f.placeAt u.length, f⟩) := by
  have hmore : r.Stops (.fault f) (c :: more) := hstops
  rw [compile, tokens, readTokens_append _ hreads, readTokens_of_stops hmore, Nat.zero_add]
  rfl

/-- **A template is refused at the first place where it goes wrong.** Let a text be malformed.
What stands in front of the place of its fault begins a template that compiles. What stands up to
and including that place begins none, and whatever is written behind it, the fault stays the same.
But if the text only ends too early, then there is a template that it begins as a whole. And around
the place stands what the fault says. -/
theorem compile_fault_leftmost {t : Text} {e : SyntaxError}
    (h : compile t = .error (.malformed e)) :
    (e.template = t ∧ e.position ≤ t.length ∧ Viable (t.take e.position)) ∧
    (e.fault ≠ .trailingEscape → e.position < t.length →
      ¬Viable (t.take (e.position + 1)) ∧
      ∀ t', t.take (e.position + 1) <+: t' →
        compile t' = .error (.malformed ⟨t', e.position, e.fault⟩)) ∧
    (e.fault = .trailingEscape ∨ e.position = t.length →
      ∃ more, more ≠ [] ∧ ∃ compiled, compile (t ++ more) = .ok compiled) ∧
    e.fault.Stands t e.position := by
  obtain ⟨u, rest, finished, r, rfl, hreads, hstops, he⟩ := exists_stops_of_malformed h
  obtain ⟨more, hne, compiled, hcompiled⟩ := exists_compile_of_stops hreads hstops
  have htemplate : e.template = u ++ rest := congrArg SyntaxError.template he
  have hposition : e.position = e.fault.placeAt u.length := congrArg SyntaxError.position he
  have hle : e.position ≤ u.length := hposition ▸ e.fault.placeAt_le u.length
  refine ⟨⟨htemplate, ?_, ?_⟩, fun hfault hlt => ?_, fun hend => ?_, ?_⟩
  · exact Nat.le_trans hle (List.length_append ▸ Nat.le_add_right _ _)
  · refine ⟨u ++ more, compiled, ?_, hcompiled⟩
    rw [List.take_append_of_le_length hle]
    exact (List.take_prefix _ _).trans (List.prefix_append u more)
  -- The fault is at the first character that has not been read.
  · rw [SyntaxFault.placeAt_of_ne hfault] at hposition
    cases rest with
    | nil => exact absurd hlt (by rw [hposition, List.append_nil]; exact Nat.lt_irrefl _)
    | cons c rest =>
      have htake : (u ++ c :: rest).take (e.position + 1) = u ++ [c] := by
        have hlength : (u ++ [c]).length = u.length + 1 := by
          rw [List.length_append, List.length_singleton]
        rw [hposition, List.append_cons, ← hlength, List.take_left]
      have hsame : ∀ t', (u ++ c :: rest).take (e.position + 1) <+: t' →
          compile t' = .error (.malformed ⟨t', e.position, e.fault⟩) := by
        rintro t' ⟨after, rfl⟩
        rw [htake, ← List.append_cons, compile_eq_of_stops hreads hstops,
          SyntaxFault.placeAt_of_ne hfault, hposition]
      refine ⟨?_, hsame⟩
      rintro ⟨whole, compiled, hprefix, hwhole⟩
      cases (hsame whole hprefix).symm.trans hwhole
  -- The text has been read to its end.
  · have hrest : rest = [] := by
      by_cases hfault : e.fault = .trailingEscape
      · exact hstops.eq_nil_of_trailingEscape hfault
      · have hlength := hend.resolve_left hfault
        rw [hposition, SyntaxFault.placeAt_of_ne hfault, List.length_append] at hlength
        exact List.eq_nil_of_length_eq_zero (by omega)
    rw [hrest, List.append_nil]
    exact ⟨more, hne, compiled, hcompiled⟩
  · rw [hposition]
    exact hstops.stands (hreads.sees (.text not_escapes_nil))

/-- A brace is missing after a number, and the illegal escape behind it is never looked at. -/
theorem compile_fault_leftmost_two_faults :
    compile "a\\\\$\x7b12x\\q".toList =
        .error (.malformed ⟨"a\\\\$\x7b12x\\q".toList, 7, .missingBrace 12⟩) ∧
      Viable "a\\\\$\x7b12".toList ∧ ¬Viable "a\\\\$\x7b12x".toList ∧
      compile "a\\\\$\x7b12x\x7d".toList =
        .error (.malformed ⟨"a\\\\$\x7b12x\x7d".toList, 7, .missingBrace 12⟩) := by
  have h : compile "a\\\\$\x7b12x\\q".toList =
      .error (.malformed ⟨"a\\\\$\x7b12x\\q".toList, 7, .missingBrace 12⟩) := rfl
  obtain ⟨⟨-, -, hbefore⟩, hchar, -, -⟩ := compile_fault_leftmost h
  obtain ⟨hnot, hsame⟩ := hchar nofun (by decide)
  exact ⟨h, hbefore, hnot, hsame _ ⟨['\x7d'], rfl⟩⟩

end Template

end Substitution
