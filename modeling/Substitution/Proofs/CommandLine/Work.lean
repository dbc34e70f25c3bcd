import Mathlib.Tactic.Choose
import Substitution.CommandLine.Run
import Substitution.Proofs.CommandLine.Log
import Substitution.Proofs.Splicing
import Substitution.Proofs.Text.Quoted

/-!
# What work gives and what it compiles

The work behind a run is recorded, and a piece of work could in principle look at what has been
recorded. None does: `Substitution.CommandLine.Work.Records` says of work that it gives and records
the same whatever has been recorded before, and it goes through a `do` block in order.

Of what is recorded, only the patterns that are compiled matter to every run.
`Substitution.CommandLine.Work.Gives` says of work what it gives and which patterns it compiles, up
to the point where it fails; what it tells besides is lines, since templates and patterns are told
in quotes. So each piece of work is compared once with the function of the library that it stands
for. The two are not written alike. Work compiles a template before it reads the pattern in order to
tell it, and stops between the two texts of an entry; the results are those of `substituteText` and
of `Rule.load` all the same.
-/

namespace Substitution

namespace CommandLine

/-- What belongs to a result; nothing belongs to a failure. -/
def ifOk {ε α β : Type} (x : Except ε α) (items : α → List β) : List β :=
  match x with
  | .ok a => items a
  | .error _ => []

@[simp] theorem ifOk_mapError {ε ε' α β : Type} (x : Except ε α) (f : ε → ε')
    (items : α → List β) : ifOk (x.mapError f) items = ifOk x items := by
  cases x <;> rfl

@[simp] theorem ifOk_nil {ε α β : Type} (x : Except ε α) :
    ifOk x (fun _ => ([] : List β)) = [] := by
  cases x <;> rfl

/-- **What is told in an event is one line.** -/
def Event.IsLine : Event → Prop
  | told source message => '\n' ∉ (LogLine.told source message).text
  | compiled _ => True

theorem Event.isLine_told {source : String} {message : Text} (hsource : '\n' ∉ source.toList)
    (hmessage : '\n' ∉ message) : Event.IsLine (.told source message) := by
  have hlevel : '\n' ∉ " DEBUG ".toList := by decide
  rw [IsLine, LogLine.text, List.mem_append, List.mem_append]
  exact not_or.mpr ⟨not_or.mpr ⟨hsource, hlevel⟩, hmessage⟩

namespace Work

variable {α β : Type} {w : Work α} {x : Except Failure α} {cs : List Compilation}

/-! ### What is recorded -/

/-- **What work gives and records, whatever has been recorded before.** -/
def Records (w : Work α) (x : Except Failure α) (events : List Event) : Prop :=
  ∀ before, (ExceptT.run w).run before = (x, before ++ events)

theorem records_pure (a : α) : Records (pure a) (.ok a) [] :=
  fun before => congrArg (Prod.mk _) (List.append_nil before).symm

theorem records_throw (e : Failure) : Records (throw e : Work α) (.error e) [] :=
  fun before => congrArg (Prod.mk _) (List.append_nil before).symm

theorem records_lift {ε : Type} (wrap : ε → Failure) (result : Except ε α) :
    Records (lift wrap result) (result.mapError wrap) [] := by
  cases result with
  | error e => exact records_throw _
  | ok a => exact records_pure a

theorem records_record (event : Event) : Records (record event) (.ok ()) [event] :=
  fun _ => rfl

/-- **Work is gone through in order**, and what it records stands in this order. -/
theorem Records.bind {events : List Event} {f : α → Work β} {y : α → Except Failure β}
    {others : α → List Event} (hw : Records w x events)
    (hf : ∀ a, Records (f a) (y a) (others a)) :
    Records (w >>= f) (x >>= y) (events ++ ifOk x others) := by
  intro before
  rw [ExceptT.run_bind, StateT.run_bind, hw]
  cases x with
  | error e =>
    rw [ifOk, List.append_nil]
    rfl
  | ok a =>
    rw [ifOk, ← List.append_assoc]
    exact hf a (before ++ events)

/-! ### What is compiled -/

/-- **What work gives, and the patterns that it compiles.** Whatever it tells is lines. -/
def Gives (w : Work α) (x : Except Failure α) (cs : List Compilation) : Prop :=
  ∃ events, Records w x events ∧ events.filterMap Event.compiled? = cs ∧ ∀ e ∈ events, e.IsLine

theorem gives_of_records (h : Records w x []) : Gives w x [] :=
  ⟨[], h, rfl, fun _ he => absurd he List.not_mem_nil⟩

theorem gives_pure (a : α) : Gives (pure a) (.ok a) [] :=
  gives_of_records (records_pure a)

theorem gives_throw (e : Failure) : Gives (throw e : Work α) (.error e) [] :=
  gives_of_records (records_throw e)

theorem gives_lift {ε : Type} (wrap : ε → Failure) (result : Except ε α) :
    Gives (lift wrap result) (result.mapError wrap) [] :=
  gives_of_records (records_lift wrap result)

theorem gives_compiled (c : Compilation) : Gives (record (.compiled c)) (.ok ()) [c] :=
  ⟨_, records_record _, rfl, List.forall_mem_singleton.mpr trivial⟩

theorem gives_told {source : String} {message : Text} (h : Event.IsLine (.told source message)) :
    Gives (record (.told source message)) (.ok ()) [] :=
  ⟨_, records_record _, rfl, List.forall_mem_singleton.mpr h⟩

theorem Gives.bind {f : α → Work β} {y : α → Except Failure β} {ds : α → List Compilation}
    (hw : Gives w x cs) (hf : ∀ a, Gives (f a) (y a) (ds a)) :
    Gives (w >>= f) (x >>= y) (cs ++ ifOk x ds) := by
  obtain ⟨events, hevents, rfl, hlines⟩ := hw
  choose others hothers hcompiled hotherLines using hf
  refine ⟨_, hevents.bind hothers, ?_, List.forall_mem_append.mpr ⟨hlines, ?_⟩⟩
  · rw [List.filterMap_append]
    cases x with
    | error e => rfl
    | ok a => exact congrArg _ (hcompiled a)
  · cases x with
    | error e => exact fun _ he => absurd he List.not_mem_nil
    | ok a => exact hotherLines a

/-- Nothing is compiled for a result that is there already. -/
theorem Gives.lift_bind {ε : Type} {wrap : ε → Failure} {result : Except ε α} {f : α → Work β}
    {y : α → Except Failure β} {ds : α → List Compilation} (hf : ∀ a, Gives (f a) (y a) (ds a)) :
    Gives (lift wrap result >>= f) (result.mapError wrap >>= y) (ifOk result ds) := by
  have h := (gives_lift wrap result).bind hf
  rwa [List.nil_append, ifOk_mapError] at h

theorem Gives.compiled_bind {c : Compilation} {v : Work β} {y : Except Failure β}
    {ds : List Compilation} (hv : Gives v y ds) :
    Gives (do record (.compiled c); v) y (c :: ds) :=
  (gives_compiled c).bind fun _ => hv

/-- Something may be told before the work goes on. -/
theorem Gives.after_telling {tell : Work Unit} {v : Work β} {y : Except Failure β}
    {ds : List Compilation} (hv : Gives v y ds) (htell : Gives tell (.ok ()) []) :
    Gives (do tell; v) y ds :=
  htell.bind fun _ => hv

/-- Something may be told of a result before it is handed on. -/
theorem gives_lift_telling {ε : Type} (wrap : ε → Failure) (result : Except ε α)
    {tell : α → Work Unit} (htell : ∀ a, Gives (tell a) (.ok ()) []) :
    Gives (do let a ← lift wrap result; tell a; return a) (result.mapError wrap) [] := by
  have h : Gives (do let a ← lift wrap result; tell a; return a)
      (result.mapError wrap >>= fun a => .ok a) (ifOk result fun _ => []) :=
    Gives.lift_bind fun a => (gives_pure a).after_telling (htell a)
  rw [ifOk_nil] at h
  cases result <;> exact h

/-! ### What is told -/

theorem newline_not_mem_decimal (n : Nat) : '\n' ∉ Text.decimal n :=
  Text.not_mem_decimal (by decide)

theorem gives_tellTemplate (text : Text) (t : Template) :
    Gives (tellTemplate text t) (.ok ()) [] := by
  have hquoted := Text.newline_not_mem_quoted text
  have hcount := newline_not_mem_decimal t.segments.length
  exact gives_told (Event.isLine_told (by decide) (by simp [hquoted, hcount]))

theorem gives_tellReplaced (pattern : Text) (count : Nat) :
    Gives (tellReplaced pattern count) (.ok ()) [] := by
  have hquoted := Text.newline_not_mem_quoted pattern
  have hcount := newline_not_mem_decimal count
  exact gives_told (Event.isLine_told (by decide) (by simp [hquoted, hcount]))

theorem gives_tellRule (pattern : Text) (count : Nat) :
    Gives (tellRule pattern count) (.ok ()) [] := by
  have hquoted := Text.newline_not_mem_quoted pattern
  have hcount := newline_not_mem_decimal count
  exact gives_told (Event.isLine_told (by decide) (by simp [hquoted, hcount]))

/-! ### The pieces of work -/

theorem gives_compile (text : Text) :
    Gives (compile text) ((Template.compile text).mapError fun e => .substitute (.template e)) [] :=
  gives_lift_telling _ _ fun t => gives_tellTemplate text t

/-- **To compile the template first and then to substitute is to substitute.** -/
theorem gives_substitute (o : Options) (source pattern replacement : Text) :
    Gives (substitute o source pattern replacement)
      ((substituteText o.all o.flags source pattern (.inl replacement)).mapError .substitute)
      (ifOk (Template.compile replacement) fun _ => [⟨.search, pattern, o.flags⟩]) := by
  have hstages : (substituteText o.all o.flags source pattern (.inl replacement)).mapError
      Failure.substitute =
      ((Template.compile replacement).mapError fun e => .substitute (.template e)) >>= fun t =>
        (substituteText o.all o.flags source pattern (.inr t)).mapError .substitute := by
    rw [substituteText, substituteGiven_eq, Except.mapError_bind, Except.mapError_mapError]
    rfl
  have htell (r : Replaced) := gives_tellReplaced pattern r.count
  have hsearch (t : Template) : Gives (do
      record (.compiled ⟨.search, pattern, o.flags⟩)
      let r ← lift .substitute (substituteText o.all o.flags source pattern (.inr t))
      tellReplaced pattern r.count
      return r)
      ((substituteText o.all o.flags source pattern (.inr t)).mapError .substitute)
      [⟨.search, pattern, o.flags⟩] := (gives_lift_telling _ _ htell).compiled_bind
  have h := (gives_compile replacement).bind hsearch
  rw [List.nil_append, ifOk_mapError, ← hstages] at h
  exact h

end Work

/-- The patterns that an entry of a rules file has compiled: its own one, if everything before it is
right. -/
def compiledOfEntry (index : Nat) (v : Value) : List Compilation :=
  ifOk (Rule.Draft.ofValue (EntryError.place index) v) fun d =>
    [⟨.entry, d.pattern, d.options.flags⟩]

/-- **The patterns that are compiled when rules are loaded**: those of the entries up to the first
one that gives no rule. -/
def compiledOnLoad (index : Nat) : List Value → List Compilation
  | [] => []
  | v :: rest =>
    compiledOfEntry index v ++
      ifOk (Rule.ofValue index v) fun _ => compiledOnLoad (index + 1) rest

/-- **The patterns that are compiled when rules are applied**: those of the rules up to the first
one that fails. -/
def compiledOnApply (text : Text) : List Rule → List Compilation
  | [] => []
  | r :: rest =>
    ⟨.search, r.pattern, r.options.flags⟩ ::
      ifOk (r.apply text) fun first => compiledOnApply first.text rest

namespace Work

/-- The texts of an entry are compiled one after the other. -/
theorem gives_readRule (index : Nat) (v : Value) :
    Gives (readRule index v) ((Rule.ofValue index v).mapError fun e => .settings (.entry e))
      (compiledOfEntry index v) := by
  have hstages : (Rule.ofValue index v).mapError (fun e => Failure.settings (.entry e)) =
      ((Rule.Draft.ofValue (EntryError.place index) v).mapError fun fault =>
        .settings (.entry ⟨index, fault⟩)) >>= fun d =>
          d.finish.mapError fun fault => .settings (.entry ⟨index, fault⟩) := by
    rw [Rule.ofValue, Except.mapError_mapError]
    exact Except.mapError_bind ..
  rw [hstages]
  have htell (rule : Rule) := gives_tellTemplate rule.replacement rule.template
  exact Gives.lift_bind fun d => (gives_lift_telling _ _ htell).compiled_bind

theorem gives_readRules (index : Nat) (entries : List Value) :
    Gives (readRules index entries)
      ((Rule.ofValues index entries).mapError fun e => .settings (.entry e))
      (compiledOnLoad index entries) := by
  induction entries generalizing index with
  | nil => exact gives_pure _
  | cons v rest ih =>
    rw [Rule.ofValues, Except.mapError_bind, compiledOnLoad]
    have h := (gives_readRule index v).bind fun rule =>
      (ih (index + 1)).bind fun rules => gives_pure (rule :: rules)
    simp only [ifOk_mapError, ifOk_nil, List.append_nil] at h
    simp only [Except.mapError_bind]
    exact h

/-- **To read the entries of a file one by one is to load its rules.** -/
theorem gives_loadRules (files : Files) (path : Text) :
    Gives (loadRules files path) ((Rule.load files path).mapError .settings)
      (ifOk (Rule.readEntries files path) (compiledOnLoad 0)) := by
  rw [Rule.load, Except.mapError_bind]
  refine Gives.lift_bind fun entries => ?_
  rw [Except.mapError_mapError]
  exact gives_readRules 0 entries

/-- **To apply rules and to tell of it is to apply them.** -/
theorem gives_applyRules (text : Text) (rules : List Rule) :
    Gives (applyRules text rules) ((Rule.applyAll text rules).mapError .substitute)
      (compiledOnApply text rules) := by
  induction rules generalizing text with
  | nil => exact gives_pure _
  | cons rule rest ih =>
    rw [Rule.applyAll, Except.mapError_bind]
    refine (Gives.lift_bind fun first => ?_).compiled_bind
    rw [Except.mapError_bind]
    have h := (ih first.text).bind fun others =>
      gives_pure (⟨others.text, first.count + others.count⟩ : Replaced)
    rw [ifOk_nil, List.append_nil] at h
    exact (h.after_telling (gives_tellRule _ _)).after_telling (gives_tellReplaced _ _)

end Work

end CommandLine

end Substitution
