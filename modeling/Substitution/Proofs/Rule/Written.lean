import Substitution.Proofs.Except
import Substitution.Proofs.Text.Utf8
import Substitution.Proofs.Yaml.Records
import Substitution.Settings

/-!
# Rules that have been written

Rules that are written to a file are the rules that are loaded from it
(`Substitution.Rule.load_fileText`). An entry is a record of six fields, so a file of entries is a
sheet, and its value is a list of mappings with six keys
(`Substitution.RuleEntry.read_fileText`). From there on the keys are looked up one by one, and the
pattern and the replacement go through the checks that they are supposed to pass.

What is left to see is that the file is read as the text that was written: it is encoded, and its
line ends are unified, which does nothing to a text of characters that stand on one line.
-/

namespace Substitution

namespace RuleEntry

/-- **An entry that can be written**: its two texts stand on one line. -/
structure Inline (e : RuleEntry) : Prop where
  pattern : ∀ c ∈ e.pattern, Yaml.Inline c
  replacement : ∀ c ∈ e.replacement, Yaml.Inline c

instance (e : RuleEntry) : Decidable e.Inline :=
  have : Decidable (∀ c ∈ e.pattern, Yaml.Inline c) := e.pattern.decidableBAll _
  have : Decidable (∀ c ∈ e.replacement, Yaml.Inline c) := e.replacement.decidableBAll _
  decidable_of_iff ((∀ c ∈ e.pattern, Yaml.Inline c) ∧ ∀ c ∈ e.replacement, Yaml.Inline c)
    ⟨fun h => ⟨h.1, h.2⟩, fun h => ⟨h.pattern, h.replacement⟩⟩

/-! ### Entries as records -/

/-- The keys of an entry. -/
def keys : List Text :=
  ["pattern".toList, "replacement".toList, "global".toList, "ignorecase".toList,
    "multiline".toList, "dotall".toList]

/-- A field of an entry. -/
def field (key : String) (value : Yaml.LineScalar) : Yaml.Field :=
  ⟨key.toList, value⟩

/-- An entry as a record. -/
def record (e : RuleEntry) : Yaml.Record where
  first := field "pattern" (.quoted e.pattern)
  others := [field "replacement" (.quoted e.replacement), field "global" (.word (word e.all)),
    field "ignorecase" (.word (word e.ignoreCase)), field "multiline" (.word (word e.multiline)),
    field "dotall" (.word (word e.dotAll))]

/-- A line of an entry is that of a field, behind a dash or the indentation. -/
theorem line_eq (head : Text) (label key : String) (h : label.toList = head ++ key.toList)
    (v : Yaml.LineScalar) : line label v.spell = head ++ (field key v).text := by
  have hcolon : ": ".toList = [':', ' '] := rfl
  simp only [line, Yaml.Field.text, field, h, hcolon, List.append_assoc, List.cons_append,
    List.nil_append]

theorem text_record (e : RuleEntry) : e.record.text = e.text := by
  change _ = line "- pattern" (Yaml.LineScalar.quoted e.pattern).spell ++
    line "  replacement" (Yaml.LineScalar.quoted e.replacement).spell ++
    line "  global" (Yaml.LineScalar.word (word e.all)).spell ++
    line "  ignorecase" (Yaml.LineScalar.word (word e.ignoreCase)).spell ++
    line "  multiline" (Yaml.LineScalar.word (word e.multiline)).spell ++
    line "  dotall" (Yaml.LineScalar.word (word e.dotAll)).spell
  rw [line_eq ['-', ' '] "- pattern" "pattern" rfl,
    line_eq [' ', ' '] "  replacement" "replacement" rfl,
    line_eq [' ', ' '] "  global" "global" rfl, line_eq [' ', ' '] "  ignorecase" "ignorecase" rfl,
    line_eq [' ', ' '] "  multiline" "multiline" rfl, line_eq [' ', ' '] "  dotall" "dotall" rfl]
  simp only [Yaml.Record.text, record, List.flatMap_cons, List.flatMap_nil, List.append_assoc,
    List.cons_append, List.nil_append, List.append_nil]

theorem fileText_eq (entries : List RuleEntry) :
    fileText entries = Yaml.sheetText (entries.map record) := by
  simp only [fileText, Yaml.sheetText, List.flatMap_map, text_record]

/-- The fields of an entry have these keys. -/
theorem key_mem_keys {e : RuleEntry} {f : Yaml.Field} (hf : f ∈ e.record.fields) :
    f.key ∈ keys :=
  List.mem_map_of_mem (f := Yaml.Field.key) hf

theorem isWord_of_mem_keys : ∀ key ∈ keys, Yaml.IsWord key ∧ key.length ≤ 1024 := by
  decide +kernel

theorem ofPlain_of_mem_keys : ∀ key ∈ keys, Yaml.Tag.ofPlain key = .str := by
  decide +kernel

theorem isWord_word (b : Bool) : Yaml.IsWord (word b) := by
  cases b <;> decide

theorem Inline.fits_record {e : RuleEntry} (h : e.Inline) : e.record.Fits := by
  have hvalue : ∀ f ∈ e.record.fields, f.value.Fits := by
    simp only [Yaml.Record.fields, record, List.forall_mem_cons]
    exact ⟨h.pattern, h.replacement, isWord_word _, isWord_word _, isWord_word _, isWord_word _,
      List.forall_mem_nil _⟩
  intro f hf
  obtain ⟨hword, hlength⟩ := isWord_of_mem_keys f.key (key_mem_keys hf)
  exact ⟨hword, hlength, hvalue f hf⟩

theorem fits_of_inline {entries : List RuleEntry} (h : ∀ e ∈ entries, e.Inline) :
    ∀ r ∈ entries.map record, r.Fits := by
  intro r hr
  obtain ⟨e, he, rfl⟩ := List.mem_map.mp hr
  exact (h e he).fits_record

/-- There are no carriage returns in a file of entries. -/
theorem return_not_mem_fileText {entries : List RuleEntry} (h : ∀ e ∈ entries, e.Inline) :
    '\r' ∉ fileText entries := by
  rw [fileText_eq]
  intro hmem
  rcases Yaml.inline_of_mem_sheetText (fits_of_inline h) hmem with hinline | hfeed
  · exact absurd hinline (by decide)
  · exact absurd hfeed (by decide)

/-! ### Their values -/

/-- What a field of an entry means. -/
def meant (f : Yaml.Field) : Value :=
  match f.value with
  | .quoted t => .str t
  | .word w => .bool (w == word true)

/-- The value of an entry. -/
def value (e : RuleEntry) : Value :=
  .map [(.str "pattern".toList, .str e.pattern), (.str "replacement".toList, .str e.replacement),
    (.str "global".toList, .bool e.all), (.str "ignorecase".toList, .bool e.ignoreCase),
    (.str "multiline".toList, .bool e.multiline), (.str "dotall".toList, .bool e.dotAll)]

theorem scalarValue_word (b : Bool) :
    Yaml.scalarValue (Yaml.Tag.ofPlain (word b)) (word b) = .ok (.bool (word b == word true)) := by
  cases b <;> rfl

theorem means_meant {e : RuleEntry} {f : Yaml.Field} (hf : f ∈ e.record.fields) :
    f.Means (meant f) := by
  have hvalue : ∀ f ∈ e.record.fields,
      Yaml.scalarValue f.value.tag f.value.content = .ok (meant f) := by
    simp only [Yaml.Record.fields, record, List.forall_mem_cons]
    exact ⟨rfl, rfl, scalarValue_word _, scalarValue_word _, scalarValue_word _,
      scalarValue_word _, List.forall_mem_nil _⟩
  exact ⟨ofPlain_of_mem_keys f.key (key_mem_keys hf), hvalue f hf⟩

theorem value_record (e : RuleEntry) :
    .map (Value.entriesOf (e.record.fields.map fun f => (.str f.key, meant f))) = e.value := by
  have hword (b : Bool) : (word b == word true) = b := by cases b <;> rfl
  change Value.map [(.str "pattern".toList, .str e.pattern),
    (.str "replacement".toList, .str e.replacement),
    (.str "global".toList, .bool (word e.all == word true)),
    (.str "ignorecase".toList, .bool (word e.ignoreCase == word true)),
    (.str "multiline".toList, .bool (word e.multiline == word true)),
    (.str "dotall".toList, .bool (word e.dotAll == word true))] = _
  rw [hword, hword, hword, hword, value]

/-- **A file of entries is read as the list of their values**; an empty file has no list. -/
theorem read_fileText {entries : List RuleEntry} (h : ∀ e ∈ entries, e.Inline) (free : Nat) :
    Yaml.read free (fileText entries) =
      .ok (if entries = [] then .null else .list (entries.map value)) := by
  have hmeans : ∀ r ∈ entries.map record, ∀ f ∈ r.fields, f.Means (meant f) := by
    intro r hr
    obtain ⟨e, -, rfl⟩ := List.mem_map.mp hr
    exact fun f => means_meant
  rw [fileText_eq, Yaml.read_sheet (fits_of_inline h) hmeans, Yaml.sheetValue]
  simp only [List.map_eq_nil_iff, List.map_map, Function.comp_def, value_record]

/-! ### The rules that they give -/

/-- **The rule of an entry**: it has the texts of the entry as they are, its options, and the
template that its replacement writes. -/
structure Gives (e : RuleEntry) (r : Rule) : Prop where
  pattern : r.pattern = e.pattern
  replacement : r.replacement = e.replacement
  all : r.options.all = e.all
  flags : r.options.flags =
    2 * e.ignoreCase.toNat + 8 * e.multiline.toNat + 16 * e.dotAll.toNat
  template : Template.compile e.replacement = .ok r.template

/-- Each flag is a bit of its own, so a set of them is their sum. -/
theorem flags_options (e : RuleEntry) :
    e.options.flags = 2 * e.ignoreCase.toNat + 8 * e.multiline.toNat + 16 * e.dotAll.toNat := by
  have hflags : ∀ i m s : Bool,
      Overrides.flags ⟨false, i, m, s⟩ = 2 * i.toNat + 8 * m.toNat + 16 * s.toNat := by
    decide
  exact hflags e.ignoreCase e.multiline e.dotAll

/-- An entry whose pattern and replacement are well-formed gives its rule. -/
theorem ofValue_value {e : RuleEntry} {p : Pattern} {t : Template}
    (hp : Pattern.compile e.pattern e.options.flags = .ok p)
    (ht : Template.compile e.replacement = .ok t) (index : Nat) :
    Rule.ofValue index e.value = .ok ⟨e.pattern, e.replacement, e.options, t⟩ := by
  -- All keys are there, each with a value of its type, so only the two compilations can fail.
  have hstages : Rule.ofValue index e.value =
      (((Pattern.compile e.pattern e.options.flags).mapError EntryFault.pattern).bind fun _ =>
        (Rule.make e.pattern e.replacement e.options).mapError
          EntryFault.replacement).mapError (⟨index, ·⟩) := rfl
  rw [hstages, hp, Rule.make, ht]
  rfl

/-- The entries give their rules in order. -/
theorem ofValues_value {entries : List RuleEntry}
    (h : ∀ e ∈ entries, (∃ p, Pattern.compile e.pattern e.options.flags = .ok p) ∧
      ∃ t, Template.compile e.replacement = .ok t) (index : Nat) :
    ∃ rules, Rule.ofValues index (entries.map value) = .ok rules ∧
      List.Forall₂ Gives entries rules := by
  induction entries generalizing index with
  | nil => exact ⟨[], rfl, .nil⟩
  | cons e rest ih =>
    obtain ⟨⟨⟨p, hp⟩, t, ht⟩, hrest⟩ := List.forall_mem_cons.mp h
    obtain ⟨rules, hrules, hgives⟩ := ih hrest (index + 1)
    refine ⟨⟨e.pattern, e.replacement, e.options, t⟩ :: rules, ?_,
      .cons ⟨rfl, rfl, rfl, e.flags_options, ht⟩ hgives⟩
    rw [List.map_cons, Rule.ofValues, ofValue_value hp ht, hrules]
    rfl

end RuleEntry

/-! ### Files of entries -/

/-- A file that was written is read as the text that was written, unless a carriage return is in
it. -/
theorem Files.readPiecewise_encode {files : Files} {path t : Text}
    (h : files.content path = .ok (Text.encodeUtf8 t)) (ht : '\r' ∉ t) :
    files.readPiecewise path = .ok t := by
  have hwhole : files.readWhole path = .ok t := by
    rw [readWhole, h]
    change textOfBytes (Text.encodeUtf8 t) = .ok t
    rw [textOfBytes, Text.decodeUtf8_encode]
    exact congrArg Except.ok (Text.unifyLines_eq_self ht)
  rw [readPiecewise, hwhole]
  rfl

namespace Rule

/-- The value of a file of entries, which is read as the list of their values. -/
theorem readEntries_fileText {files : Files} {path : Text} {entries : List RuleEntry}
    (hcontent : files.content path = .ok (Text.encodeUtf8 (RuleEntry.fileText entries)))
    (hinline : ∀ e ∈ entries, e.Inline) :
    readEntries files path = .ok (entries.map RuleEntry.value) := by
  have hsettings : readSettings 2 files path =
      .ok (if entries = [] then .null else .list (entries.map RuleEntry.value)) := by
    rw [readSettings, Files.readPiecewise_encode hcontent
      (RuleEntry.return_not_mem_fileText hinline)]
    simp only [Except.mapError, bind, Except.bind, RuleEntry.read_fileText hinline]
  rw [readEntries, hsettings]
  split
  · next hnil =>
    rw [hnil]
    rfl
  · rfl

/-- **Rules that have been written are loaded as they are**, in their order: what the file says of
each of them is what the rule has. -/
theorem load_fileText {files : Files} {path : Text} {entries : List RuleEntry}
    (hcontent : files.content path = .ok (Text.encodeUtf8 (RuleEntry.fileText entries)))
    (hinline : ∀ e ∈ entries, e.Inline)
    (hcompile : ∀ e ∈ entries,
      (∃ p, Pattern.compile e.pattern
        (2 * e.ignoreCase.toNat + 8 * e.multiline.toNat + 16 * e.dotAll.toNat) = .ok p) ∧
      ∃ t, Template.compile e.replacement = .ok t) :
    ∃ rules, load files path = .ok rules ∧ List.Forall₂ RuleEntry.Gives entries rules := by
  simp only [← RuleEntry.flags_options] at hcompile
  obtain ⟨rules, hrules, hgives⟩ := RuleEntry.ofValues_value hcompile 0
  refine ⟨rules, ?_, hgives⟩
  rw [load, readEntries_fileText hcontent hinline]
  change (ofValues 0 (entries.map RuleEntry.value)).mapError SettingsError.entry = _
  rw [hrules]
  rfl

/-- Quotes, blanks at the ends, a colon and a number sign come back as they are, and so do texts
that are empty. -/
theorem load_fileText_quotes :
    ∃ files rules,
      files.content "r".toList = .ok (Text.encodeUtf8
        ("- pattern: ' ''(a): # '\n  replacement: '$1 - '''\n  global: false\n".toList ++
          "  ignorecase: true\n  multiline: false\n  dotall: true\n".toList ++
          "- pattern: ''\n  replacement: ''\n  global: true\n".toList ++
          "  ignorecase: false\n  multiline: false\n  dotall: false\n".toList)) ∧
      load files "r".toList = .ok rules ∧
      List.Forall₂ RuleEntry.Gives
        [⟨" '(a): # ".toList, "$1 - '".toList, false, true, false, true⟩,
          ⟨[], [], true, false, false, false⟩] rules := by
  obtain ⟨files, hcontent⟩ : ∃ files : Files, files.content "r".toList =
      .ok (Text.encodeUtf8 (RuleEntry.fileText
        [⟨" '(a): # ".toList, "$1 - '".toList, false, true, false, true⟩,
          ⟨[], [], true, false, false, false⟩])) :=
    ⟨.ofEntries [("r".toList, .bytes _)], rfl⟩
  obtain ⟨rules, hload, hgives⟩ := load_fileText hcontent (by decide +kernel) (by
    simp only [List.forall_mem_cons]
    exact ⟨⟨⟨_, rfl⟩, _, rfl⟩, ⟨⟨_, rfl⟩, _, rfl⟩, List.forall_mem_nil _⟩)
  refine ⟨files, rules, hcontent.trans (congrArg (Except.ok ∘ Text.encodeUtf8) ?_), hload, hgives⟩
  decide +kernel

end Rule

end Substitution
