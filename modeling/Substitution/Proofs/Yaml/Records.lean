import Substitution.Proofs.Yaml.Layout
import Substitution.Yaml.Meaning

/-!
# The value of records

A document of records holds a list with a mapping for each record, and each mapping has the fields
of its record (`Substitution.Yaml.read_sheet`).

Among the tokens of records there are no tags, anchors or aliases, so a node is read without any
trace but the tokens that are left behind it (`Substitution.Yaml.Read.Gives`). For the same reason
what a node means does not depend on the rest of the document: no alias is ever looked up, and only
the types of the scalars have to be known. That of a key must be a text, since a merge key would
take over entries, and a value key would stand for another scalar.
-/

namespace Substitution

namespace Yaml

/-! ### Nodes of records -/

namespace LineScalar

/-- The type of the scalar. -/
def tag : LineScalar → Tag
  | quoted _ => .str
  | word w => Tag.ofPlain w

/-- The text of the scalar. -/
def content : LineScalar → Text
  | quoted t => t
  | word w => w

end LineScalar

/-- The entry that a field is read as. -/
def Field.node (f : Field) : Node × Node :=
  (.scalar none (Tag.ofPlain f.key) f.key, .scalar none f.value.tag f.value.content)

/-- The mapping that a record is read as. -/
def Record.node (r : Record) : Node :=
  .mapping none .map (r.fields.map Field.node)

/-- The document that a sheet is read as, if it has records. -/
def sheetNode (records : List Record) : Option Node :=
  if records = [] then none else some (.sequence none .seq (records.map Record.node))

/-! ### Reading the tokens -/

namespace Read

/-- **A reader gives a result** for some tokens, leaves others behind, and changes nothing else. -/
def Gives (m : Read α) (tokens : List Token) (x : α) (left : List Token) : Prop :=
  ∀ handles anchors, m ⟨tokens, handles, anchors⟩ = .ok (x, ⟨left, handles, anchors⟩)

theorem Gives.bind {m : Read α} {f : α → Read β} {x : α} {y : β} {tokens rest left : List Token}
    (hm : Gives m tokens x rest) (hf : Gives (f x) rest y left) :
    Gives (m >>= f) tokens y left := by
  intro handles anchors
  change (m ⟨tokens, handles, anchors⟩ >>= fun p => f p.1 p.2) = _
  rw [hm]
  exact hf handles anchors

theorem gives_pure (x : α) (tokens : List Token) : Gives (pure x) tokens x tokens :=
  fun _ _ => rfl

theorem gives_peek (token : Token) (rest : List Token) :
    Gives peek (token :: rest) token (token :: rest) :=
  fun _ _ => rfl

theorem gives_skip (token : Token) (rest : List Token) : Gives skip (token :: rest) () rest :=
  fun _ _ => rfl

theorem gives_nextIs (tokens : List Token) (token : Token) (rest : List Token) :
    Gives (nextIs tokens) (token :: rest) (tokens.contains token) (token :: rest) :=
  fun _ _ => rfl

theorem length_tokens_record (r : Record) : r.tokens.length = 4 * r.fields.length + 3 := by
  simp [Record.tokens, List.length_flatMap, Field.tokens, List.map_const', Nat.mul_comm]

variable {limit : Nat} {place : Place} {stops tokens rest left : List Token} {token : Token}
  {n : Node} {entries : List (Node × Node)} {items : List Node}

/-! #### Scalars -/

/-- A scalar is a node, wherever it stands. -/
theorem gives_node_scalar (place : Place) (limit : Nat) (plain : Bool) (t : Text)
    (left : List Token) :
    Gives (node place (limit + 1)) (.scalar plain t :: left)
      (.scalar none (scalarTag none plain t) t) left := by
  intro handles anchors
  rw [node]
  rfl

/-- A node that stands here is not left out. -/
theorem gives_nodeUnless (htoken : stops.contains token = false)
    (hnode : Gives (node place limit) (token :: rest) n left) :
    Gives (nodeUnless stops place (limit + 1)) (token :: rest) n left := by
  rw [nodeUnless]
  refine (gives_nextIs stops token rest).bind ?_
  rw [htoken]
  exact hnode

/-- The value behind a colon. -/
theorem gives_valueUnless (hnode : Gives (nodeUnless stops place limit) rest n left) :
    Gives (valueUnless stops place (limit + 1)) (.value :: rest) n left := by
  rw [valueUnless]
  exact (gives_nextIs [.value] .value rest).bind ((gives_skip .value rest).bind hnode)

/-- A scalar of a field stands for itself. -/
theorem gives_lineScalar (v : LineScalar) (place : Place) (limit : Nat) (left : List Token) :
    Gives (nodeUnless [.key, .value, .blockEnd] place (limit + 2)) (v.token :: left)
      (.scalar none v.tag v.content) left := by
  cases v with
  | quoted t => exact gives_nodeUnless rfl (gives_node_scalar place limit false t left)
  | word w => exact gives_nodeUnless rfl (gives_node_scalar place limit true w left)

/-! #### Collections -/

/-- No entries are left. -/
theorem gives_blockEntries_end (limit : Nat) (left : List Token) :
    Gives (blockEntries (limit + 1)) (.blockEnd :: left) [] left := by
  rw [blockEntries]
  exact (gives_nextIs [.key] .blockEnd left).bind fun _ _ => rfl

/-- A field is an entry of its mapping. -/
theorem gives_blockEntries_field (f : Field)
    (h : Gives (blockEntries (limit + 3)) rest entries left) :
    Gives (blockEntries (limit + 4)) (f.tokens ++ rest) (f.node :: entries) left := by
  have hkey : Gives (nodeUnless [.key, .value, .blockEnd] .entry (limit + 3))
      (.scalar true f.key :: .value :: f.value.token :: rest) f.node.1
      (.value :: f.value.token :: rest) :=
    gives_lineScalar (.word f.key) .entry _ _
  have hvalue : Gives (valueUnless [.key, .value, .blockEnd] .entry (limit + 3))
      (.value :: f.value.token :: rest) f.node.2 rest :=
    gives_valueUnless (gives_lineScalar f.value .entry limit rest)
  rw [blockEntries]
  exact (gives_nextIs [.key] .key _).bind ((gives_skip .key _).bind
    (hkey.bind (hvalue.bind (h.bind (gives_pure _ left)))))

/-- **The fields of a record are the entries of its mapping.** -/
theorem gives_blockEntries (fields : List Field) (left : List Token)
    (hlimit : fields.length + 3 ≤ limit) :
    Gives (blockEntries limit) (fields.flatMap Field.tokens ++ .blockEnd :: left)
      (fields.map Field.node) left := by
  induction fields generalizing limit with
  | nil =>
    obtain ⟨limit, rfl⟩ := Nat.exists_eq_add_of_le' hlimit
    exact gives_blockEntries_end _ left
  | cons f rest ih =>
    rw [List.length_cons] at hlimit
    obtain ⟨limit, rfl⟩ : ∃ fewer, limit = fewer + 4 := Nat.exists_eq_add_of_le' (by omega)
    rw [List.flatMap_cons, List.append_assoc]
    exact gives_blockEntries_field f (ih (by omega))

/-- Indentation opens the mapping of a record. -/
theorem gives_node_mapping (hentries : Gives (blockEntries limit) tokens entries left) :
    Gives (node .block (limit + 1)) (.blockMapping :: tokens) (.mapping none .map entries)
      left := by
  have hproperties : Gives properties (.blockMapping :: tokens) (none, none)
    (.blockMapping :: tokens) := fun _ _ => rfl
  rw [node]
  exact (gives_peek _ _).bind (hproperties.bind ((gives_peek _ _).bind ((gives_skip _ _).bind
    ((gives_pure () _).bind (hentries.bind (gives_pure _ left))))))

/-- Indentation opens the sequence of the records. -/
theorem gives_node_sequence (hitems : Gives (blockItems limit) tokens items left) :
    Gives (node .block (limit + 1)) (.blockSequence :: tokens) (.sequence none .seq items)
      left := by
  have hproperties : Gives properties (.blockSequence :: tokens) (none, none)
    (.blockSequence :: tokens) := fun _ _ => rfl
  rw [node]
  exact (gives_peek _ _).bind (hproperties.bind ((gives_peek _ _).bind ((gives_skip _ _).bind
    ((gives_pure () _).bind (hitems.bind (gives_pure _ left))))))

/-- No items are left. -/
theorem gives_blockItems_end (limit : Nat) (left : List Token) :
    Gives (blockItems (limit + 1)) (.blockEnd :: left) [] left := by
  rw [blockItems]
  exact (gives_nextIs [.item] .blockEnd left).bind fun _ _ => rfl

/-- A mapping is an item of its sequence. -/
theorem gives_blockItems_mapping (hentries : Gives (blockEntries limit) tokens entries rest)
    (hitems : Gives (blockItems (limit + 2)) rest items left) :
    Gives (blockItems (limit + 3)) (.item :: .blockMapping :: tokens)
      (.mapping none .map entries :: items) left := by
  rw [blockItems]
  exact (gives_nextIs [.item] .item _).bind ((gives_skip .item _).bind
    ((gives_nodeUnless rfl (gives_node_mapping hentries)).bind (hitems.bind (gives_pure _ left))))

/-- **The records are the items of the sequence.** -/
theorem gives_blockItems (records : List Record) (left : List Token)
    (hlimit : (records.flatMap Record.tokens).length + 5 ≤ limit) :
    Gives (blockItems limit) (records.flatMap Record.tokens ++ .blockEnd :: left)
      (records.map Record.node) left := by
  induction records generalizing limit with
  | nil =>
    obtain ⟨limit, rfl⟩ := Nat.exists_eq_add_of_le' hlimit
    exact gives_blockItems_end _ left
  | cons r rest ih =>
    have hlength := length_tokens_record r
    rw [List.flatMap_cons, List.length_append] at hlimit
    obtain ⟨limit, rfl⟩ : ∃ fewer, limit = fewer + 3 := Nat.exists_eq_add_of_le' (by omega)
    have hentries : Gives (blockEntries limit) _ _ _ := gives_blockEntries r.fields
      (rest.flatMap Record.tokens ++ .blockEnd :: left) (by omega)
    have hall := gives_blockItems_mapping hentries (ih (by omega))
    simpa [Record.tokens, Record.node] using hall

/-- The sequence of the records is the whole document. -/
theorem gives_document (hitems : Gives (blockItems (limit + 1)) tokens items [.endOfText]) :
    Gives (document (limit + 2)) (.blockSequence :: tokens) (some (.sequence none .seq items))
      [.endOfText] := by
  rw [document]
  exact (gives_peek _ _).bind ((gives_node_sequence hitems).bind
    (fun _ _ => rfl))

end Read

/-- **The document of a sheet** has its records in order. -/
theorem document?_sheet (records : List Record) :
    document? (sheetTokens records) = .ok (sheetNode records) := by
  cases records with
  | nil => rfl
  | cons r rest =>
    have hne : r :: rest ≠ [] := List.cons_ne_nil r rest
    rw [sheetTokens, sheetNode, if_neg hne, if_neg hne]
    have hlimit : ((r :: rest).flatMap Record.tokens).length + 5 ≤
        3 * (Token.blockSequence ::
          ((r :: rest).flatMap Record.tokens ++ [.blockEnd, .endOfText])).length + 1 + 1 := by
      rw [List.length_cons, List.length_append]
      omega
    have hdocument := Read.gives_document (Read.gives_blockItems (r :: rest) [.endOfText] hlimit)
    exact congrArg (Except.map Prod.fst) (hdocument Read.defaultHandles [])

/-! ### Values -/

/-- The parts of a list that are all right. -/
theorem Built.all_map_ok {α β : Type} {f : α → Built β} {g : α → β} {l : List α}
    (h : ∀ x ∈ l, f x = .ok (g x)) : Built.all (l.map f) = .ok (l.map g) := by
  induction l with
  | nil => rfl
  | cons x l ih =>
    obtain ⟨hx, hl⟩ := List.forall_mem_cons.mp h
    rw [List.map_cons, Built.all, hx, ih hl]
    rfl

/-- **What a field means**: its key is a text, and its scalar has a value. -/
structure Field.Means (f : Field) (v : Value) : Prop where
  key : Tag.ofPlain f.key = .str
  value : scalarValue f.value.tag f.value.content = .ok v

/-- What the two scalars of a field mean. -/
def Field.meaning (f : Field) : Meaning × Meaning :=
  (.ofScalar (Tag.ofPlain f.key) f.key, .ofScalar f.value.tag f.value.content)

section Meaning

variable {meant : Field → Value}

theorem Meaning.value_ofScalar {tag : Tag} {t : Text} {v : Value} (h : scalarValue tag t = .ok v)
    (path : List Text) (depth : Nat) : (Meaning.ofScalar tag t).value path depth = .ok v := by
  cases tag <;> first | (rw [ofScalar, h]; rfl) | cases h

/-- A field is an entry with its key. -/
theorem Field.Means.both {f : Field} {v : Value} (h : f.Means v) (path : List Text) (depth : Nat) :
    Built.both (f.meaning.1.key path depth) (f.meaning.2.value path depth) =
      .ok (.str f.key, v) := by
  have hkey : f.meaning.1.key path depth = .ok (.str f.key) := by
    rw [Field.meaning, h.key]
    rfl
  rw [hkey, Field.meaning, Meaning.value_ofScalar h.value]
  rfl

/-- The entries of fields: no entries of other mappings are taken over. -/
theorem allEntries_fields {fields : List Field} (h : ∀ f ∈ fields, f.Means (meant f))
    (merging path : List Text) (depth : Nat) :
    Meaning.allEntries true merging (fields.map Field.meaning) path depth =
      some (.ok (fields.map fun f => (.str f.key, meant f))) := by
  have htag : ∀ part ∈ fields.map Field.meaning, (part.1.tag == Tag.merge) = false := by
    intro part hpart
    obtain ⟨f, hf, rfl⟩ := List.mem_map.mp hpart
    change (Tag.ofPlain f.key == Tag.merge) = false
    rw [(h f hf).key]
    rfl
  have hmerges : (fields.map Field.meaning).filter (fun part => part.1.tag == .merge) = [] :=
    List.filter_eq_nil_iff.mpr fun part hpart => Bool.eq_false_iff.mp (htag part hpart)
  have hown : (fields.map Field.meaning).filter (fun part => !(part.1.tag == .merge)) =
      fields.map Field.meaning :=
    List.filter_eq_self.mpr fun part hpart => by rw [htag part hpart]; rfl
  have hall : Built.all (fields.map fun f =>
      Built.both (f.meaning.1.key path depth) (f.meaning.2.value path depth)) =
      .ok (fields.map fun f => (.str f.key, meant f)) :=
    Built.all_map_ok fun f hf => (h f hf).both path depth
  rw [Meaning.allEntries]
  simp only [hmerges, hown, if_true, List.mapM_nil, List.map_map, Function.comp_def, hall]
  rfl

variable (free : Nat) (anchored : List (Text × Node)) (referent : Text → Meaning)

theorem entryMeanings_node (fields : List Field) :
    Node.meaning.entryMeanings free anchored referent (fields.map Field.node) =
      fields.map Field.meaning := by
  induction fields with
  | nil => rfl
  | cons f rest ih =>
    rw [List.map_cons, List.map_cons, Field.node, Node.meaning.entryMeanings, ih]
    rfl

/-- **A record is a mapping of its fields**, whatever else the document has. -/
theorem value_record {r : Record} (h : ∀ f ∈ r.fields, f.Means (meant f)) (path : List Text)
    (depth : Nat) :
    (r.node.meaning free anchored referent).value path depth =
      .ok (.map (Value.entriesOf (r.fields.map fun f => (.str f.key, meant f)))) := by
  rw [Record.node, Node.meaning, entryMeanings_node]
  simp only [Meaning.ofMapping, allEntries_fields h]
  rfl

theorem meanings_node (records : List Record) :
    Node.meaning.meanings free anchored referent (records.map Record.node) =
      records.map fun r => r.node.meaning free anchored referent := by
  induction records with
  | nil => rfl
  | cons r rest ih => rw [List.map_cons, List.map_cons, Node.meaning.meanings, ih]

end Meaning

/-- The value of a sheet: a list, if there are records. -/
def sheetValue (meant : Field → Value) (records : List Record) : Value :=
  if records = [] then .null
  else .list (records.map fun r =>
    .map (Value.entriesOf (r.fields.map fun f => (.str f.key, meant f))))

/-- **A sheet is read as the list of its records.** -/
theorem read_sheet {records : List Record} {meant : Field → Value}
    (hfits : ∀ r ∈ records, r.Fits) (hmeans : ∀ r ∈ records, ∀ f ∈ r.fields, f.Means (meant f))
    (free : Nat) : read free (sheetText records) = .ok (sheetValue meant records) := by
  rw [read, tokens_sheet hfits, document?_sheet, sheetNode, sheetValue]
  split
  · rfl
  · change valueOf free _ = _
    have hall (anchored : List (Text × Node)) (referent : Text → Meaning) (path : List Text) :
        Built.all (records.map fun r => (r.node.meaning free anchored referent).value path 1) =
          .ok (records.map fun r =>
            .map (Value.entriesOf (r.fields.map fun f => (.str f.key, meant f)))) :=
      Built.all_map_ok fun r hr => value_record free anchored referent (hmeans r hr) path 1
    -- Which anchors there are, and what aliases stand for, need not be computed.
    rw [valueOf, Node.meaning, meanings_node]
    simp only [Meaning.ofSequence, List.map_map, Function.comp_def, Nat.zero_add, hall]
    rfl

end Yaml

end Substitution
