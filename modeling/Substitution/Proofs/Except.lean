/-!
# Computations that can fail

What it takes for a computation that can fail to succeed: each of its parts succeeds; and to fail:
one of them fails behind others that succeed. These are the steps that open a `do` block from its
result, so that no proof has to unfold the monad.

Where only some property of the result matters, `Except.Ensures` goes through a `do` block in its
own order, without naming what each part gives; `Except.Meets` says something of the errors as well.
Where only the failure matters, `Except.error?` is the first failure of the parts, in that order.
-/

namespace Except

variable {ε ε' α β : Type}

theorem bind_eq_ok_iff {x : Except ε α} {f : α → Except ε β} {b : β} :
    x >>= f = .ok b ↔ ∃ a, x = .ok a ∧ f a = .ok b := by
  cases x with
  | error e =>
    constructor
    · intro h
      cases h
    · rintro ⟨a, h, -⟩
      cases h
  | ok a =>
    constructor
    · intro h
      exact ⟨a, rfl, h⟩
    · rintro ⟨a', h, hb⟩
      obtain rfl : a = a' := Except.ok.inj h
      exact hb

theorem bind_eq_error_iff {x : Except ε α} {f : α → Except ε β} {e : ε} :
    x >>= f = .error e ↔ x = .error e ∨ ∃ a, x = .ok a ∧ f a = .error e := by
  cases x <;> simp [bind, Except.bind]

theorem map_eq_ok_iff {x : Except ε α} {f : α → β} {b : β} :
    x.map f = .ok b ↔ ∃ a, x = .ok a ∧ f a = b := by
  cases x <;> simp [Except.map]

theorem map_eq_error_iff {x : Except ε α} {f : α → β} {e : ε} :
    x.map f = .error e ↔ x = .error e := by
  cases x <;> simp [Except.map]

theorem mapError_eq_ok_iff {x : Except ε α} {f : ε → ε'} {a : α} :
    x.mapError f = .ok a ↔ x = .ok a := by
  cases x with
  | error e =>
    constructor
    · intro h
      cases h
    · intro h
      cases h
  | ok b =>
    constructor
    · intro h
      exact congrArg Except.ok (Except.ok.inj h)
    · intro h
      exact congrArg Except.ok (Except.ok.inj h)

theorem mapError_eq_error_iff {x : Except ε α} {f : ε → ε'} {e' : ε'} :
    x.mapError f = .error e' ↔ ∃ e, x = .error e ∧ f e = e' := by
  cases x with
  | error e =>
    constructor
    · intro h
      exact ⟨e, rfl, Except.error.inj h⟩
    · rintro ⟨e, he, rfl⟩
      cases he
      rfl
  | ok a =>
    constructor
    · intro h
      cases h
    · rintro ⟨e, he, -⟩
      cases he

/-- The errors of the parts may be mapped one by one. -/
theorem mapError_bind {x : Except ε α} {f : α → Except ε β} {g : ε → ε'} :
    (x >>= f).mapError g = x.mapError g >>= fun a => (f a).mapError g := by
  cases x <;> rfl

theorem mapError_mapError {ε'' : Type} {x : Except ε α} {f : ε → ε'} {g : ε' → ε''} :
    (x.mapError f).mapError g = x.mapError fun e => g (f e) := by
  cases x <;> rfl

theorem toOption_eq_some_iff {x : Except ε α} {a : α} : x.toOption = some a ↔ x = .ok a := by
  cases x <;> simp [Except.toOption]

/-- A computation succeeds if there is no way for it to fail. -/
theorem exists_eq_ok_iff {x : Except ε α} : (∃ a, x = .ok a) ↔ ∀ e, x ≠ .error e := by
  cases x <;> simp

/-- **A row of computations succeeds** exactly when each of them does, and its results are theirs,
in order. -/
theorem mapM_eq_ok_iff {f : α → Except ε β} {l : List α} {bs : List β} :
    l.mapM f = .ok bs ↔ l.map f = bs.map .ok := by
  induction l generalizing bs with
  | nil => cases bs <;> simp [pure, Except.pure]
  | cons a l ih =>
    rw [List.mapM_cons, bind_eq_ok_iff]
    constructor
    · rintro ⟨b, hb, h⟩
      obtain ⟨rest, hrest, h⟩ := bind_eq_ok_iff.mp h
      obtain rfl : b :: rest = bs := Except.ok.inj h
      rw [List.map_cons, List.map_cons, hb, ih.mp hrest]
    · intro h
      cases bs with
      | nil => cases h
      | cons b rest =>
        obtain ⟨hb, hrest⟩ := List.cons.inj h
        exact ⟨b, hb, bind_eq_ok_iff.mpr ⟨rest, ih.mpr hrest, rfl⟩⟩

/-- **A row of computations that fail alike fails as each of them does**, if there is one at all. -/
theorem mapM_eq_error_iff {f : α → Except ε β} {l : List α} {P : ε → Prop}
    (h : ∀ a ∈ l, ∀ e, f a = .error e ↔ P e) {e : ε} : l.mapM f = .error e ↔ l ≠ [] ∧ P e := by
  induction l with
  | nil => simp [pure, Except.pure]
  | cons a l ih =>
    have hrest := ih fun b hb => h b (List.mem_cons_of_mem _ hb)
    rw [List.mapM_cons, bind_eq_error_iff, h a List.mem_cons_self]
    constructor
    · rintro (he | ⟨b, -, hb⟩)
      · exact ⟨List.cons_ne_nil a l, he⟩
      · rcases bind_eq_error_iff.mp hb with hl | ⟨bs, -, hbs⟩
        · exact ⟨List.cons_ne_nil a l, (hrest.mp hl).2⟩
        · cases hbs
    · rintro ⟨-, he⟩
      exact .inl he

/-! ### The failure of a computation -/

/-- The error of a computation, if it fails. -/
def error? : Except ε α → Option ε
  | .ok _ => none
  | .error e => some e

theorem error?_eq_some_iff {x : Except ε α} {e : ε} : x.error? = some e ↔ x = .error e := by
  cases x <;> simp [error?]

theorem error?_eq_none_iff {x : Except ε α} : x.error? = none ↔ ∃ a, x = .ok a := by
  cases x <;> simp [error?]

theorem error?_mapError {x : Except ε α} {f : ε → ε'} :
    (x.mapError f).error? = x.error?.map f := by
  cases x <;> rfl

/-- **The first failure counts**: that of the first part, or else that of what follows it. -/
theorem error?_bind {x : Except ε α} {f : α → Except ε β} {rest : Option ε}
    (h : ∀ a, x = .ok a → (f a).error? = rest) : (x >>= f).error? = x.error?.or rest := by
  cases x with
  | error e => rfl
  | ok a => exact h a rfl

/-! ### A property of the result -/

/-- Every result of the computation has the property. -/
def Ensures (P : α → Prop) (x : Except ε α) : Prop :=
  ∀ a, x = .ok a → P a

namespace Ensures

variable {P : α → Prop} {Q : β → Prop} {x : Except ε α} {f : α → Except ε β}

theorem ok {a : α} (h : P a) : Ensures P (.ok a : Except ε α) := by
  intro b hb
  cases hb
  exact h

theorem error (e : ε) : Ensures P (.error e) :=
  nofun

theorem bind (hx : Ensures P x) (hf : ∀ a, P a → Ensures Q (f a)) : Ensures Q (x >>= f) := by
  intro b hb
  obtain ⟨a, ha, hfa⟩ := bind_eq_ok_iff.mp hb
  exact hf a (hx a ha) b hfa

/-- What a part gives may not matter. -/
theorem bind_any (hf : ∀ a, Ensures Q (f a)) : Ensures Q (x >>= f) := by
  intro b hb
  obtain ⟨a, -, hfa⟩ := bind_eq_ok_iff.mp hb
  exact hf a b hfa

end Ensures

/-! ### A property of the result and one of the error -/

/-- Every result of the computation has a property, and every error has another one. -/
def Meets (P : α → Prop) (E : ε → Prop) (x : Except ε α) : Prop :=
  (∀ a, x = .ok a → P a) ∧ ∀ e, x = .error e → E e

namespace Meets

variable {P : α → Prop} {Q : β → Prop} {E : ε → Prop} {x : Except ε α} {f : α → Except ε β}

theorem ok {a : α} (h : P a) : Meets P E (.ok a) :=
  ⟨fun _ heq => Except.ok.inj heq ▸ h, nofun⟩

theorem error {e : ε} (h : E e) : Meets P E (.error e) :=
  ⟨nofun, fun _ heq => Except.error.inj heq ▸ h⟩

theorem imp {P' : α → Prop} {E' : ε → Prop} (hx : Meets P E x) (hP : ∀ a, P a → P' a)
    (hE : ∀ e, E e → E' e) : Meets P' E' x :=
  ⟨fun a ha => hP a (hx.1 a ha), fun e he => hE e (hx.2 e he)⟩

/-- Where nothing is asked, everything is met. -/
theorem any (x : Except ε α) : Meets (fun _ => True) (fun _ => True) x :=
  ⟨fun _ _ => trivial, fun _ _ => trivial⟩

theorem bind (hx : Meets P E x) (hf : ∀ a, P a → Meets Q E (f a)) : Meets Q E (x >>= f) := by
  cases x with
  | error e => exact error (hx.2 e rfl)
  | ok a => exact hf a (hx.1 a rfl)

theorem map {g : α → β} (hx : Meets P E x) (hg : ∀ a, P a → Q (g a)) : Meets Q E (x.map g) := by
  cases x with
  | error e => exact error (hx.2 e rfl)
  | ok a => exact ok (hg a (hx.1 a rfl))

theorem mapError {E' : ε' → Prop} {g : ε → ε'} (hx : Meets P E x) (hg : ∀ e, E e → E' (g e)) :
    Meets P E' (x.mapError g) := by
  cases x with
  | error e => exact error (hg e (hx.2 e rfl))
  | ok a => exact ok (hx.1 a rfl)

theorem ite {c : Prop} [Decidable c] {y : Except ε α} (hx : c → Meets P E x)
    (hy : ¬c → Meets P E y) : Meets P E (if c then x else y) := by
  split
  · next h => exact hx h
  · next h => exact hy h

/-- What follows a choice may stand in both of its branches. -/
theorem ite_bind {c : Prop} [Decidable c] {y : Except ε α} (h : Meets P E (if c then x else y))
    (hf : ∀ a, P a → Meets Q E (f a)) : Meets Q E (if c then x >>= f else y >>= f) := by
  split at h
  · next hc =>
    rw [if_pos hc]
    exact h.bind hf
  · next hc =>
    rw [if_neg hc]
    exact h.bind hf

/-- A row of computations that all meet something. -/
theorem mapM {γ : Type} {g : γ → Except ε α} {l : List γ} (h : ∀ c ∈ l, Meets P E (g c)) :
    Meets (fun as => ∀ a ∈ as, P a) E (l.mapM g) := by
  induction l with
  | nil => exact ok nofun
  | cons c l ih =>
    obtain ⟨hc, hl⟩ := List.forall_mem_cons.mp h
    rw [List.mapM_cons]
    exact hc.bind fun a ha => (ih hl).bind fun as has => ok (List.forall_mem_cons.mpr ⟨ha, has⟩)

/-- A row of computations gives as many results. -/
theorem mapM_length {γ : Type} {g : γ → Except ε α} {l : List γ} (h : ∀ c ∈ l, Meets P E (g c)) :
    Meets (fun as => as.length = l.length) E (l.mapM g) := by
  refine ⟨fun as has => ?_, (mapM h).2⟩
  have hlength := congrArg List.length (mapM_eq_ok_iff.mp has)
  rw [List.length_map, List.length_map] at hlength
  exact hlength.symm

end Meets

end Except
