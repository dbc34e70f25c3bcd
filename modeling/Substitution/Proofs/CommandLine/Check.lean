import Substitution.Proofs.Console.Markup
import Substitution.Proofs.Outcome
import Substitution.Proofs.Text.Quoted

/-!
# The table of a template

The command `check` prints a table with one row for each segment of the template. Its rows can be
read back: a line of the table ends where the line feed is, a row is told from the other lines by
its first character, and in a row the number and the kind have the same width in all tables, so that
the value is what is left (`Substitution.CommandLine.Tabulates.segments_eq`). That the values tell
which segments there are is the work of the quotes.

The value of a literal goes through the console. All the tags that the literal holds are shown, with
the backslashes before them, but the names of pictographs in it are replaced, and some backslashes
are lost, so that two templates can have the same table
(`Substitution.CommandLine.run_check_pictograph`). Apart from such literals the table is faithful:
`Substitution.CommandLine.run_check`.
-/

namespace Substitution

namespace Segment

/-- The kind of a segment, as the table names it. -/
def kind : Segment → Text
  | literal _ => "literal".toList
  | reference _ => "backref".toList

/-- **The value of a segment**: the quoted text of a literal, and the number of a reference after a
dollar sign. -/
def value : Segment → Text
  | literal text => Text.quoted text
  | reference index => '$' :: Text.decimal (index + 1)

/-- What the table shows of the value of a segment. -/
def shownValue : Segment → Text
  | literal text => (Console.pieces (Text.quoted text)).flatMap Console.Piece.kept
  | reference index => '$' :: Text.decimal (index + 1)

theorem getLast?_value (s : Segment) : s.value.getLast? ≠ some ' ' := by
  cases s with
  | literal text =>
    rw [value, Text.getLast?_quoted]
    rcases Text.quoteFor_eq text with h | h <;> rw [h] <;> decide
  | reference index =>
    intro h
    have hmem := List.mem_of_getLast? h
    rcases List.mem_cons.mp hmem with h | h
    · exact absurd h (by decide)
    · exact Text.not_mem_decimal (by decide) h

theorem newline_not_mem_value (s : Segment) : '\n' ∉ s.value := by
  cases s with
  | literal text => exact Text.newline_not_mem_quoted text
  | reference index =>
    intro h
    rcases List.mem_cons.mp h with h | h
    · exact absurd h (by decide)
    · exact Text.not_mem_decimal (by decide) h

/-- **A segment is told by its kind and its value.** -/
theorem eq_of_value {s s' : Segment} (hkind : s.kind = s'.kind)
    (hvalue : s.value = s'.value) : s = s' := by
  cases s with
  | literal text =>
    cases s' with
    | literal text' => rw [Text.quoted_injective hvalue]
    | reference index =>
      have hkind : "literal".toList = "backref".toList := hkind
      exact absurd hkind (by decide)
  | reference index =>
    cases s' with
    | literal text =>
      have hkind : "backref".toList = "literal".toList := hkind
      exact absurd hkind (by decide)
    | reference index' =>
      have h := Text.decimal_injective (List.cons.inj hvalue).2
      rw [Nat.succ.inj h]

theorem length_kind (s : Segment) : s.kind.length = 7 := by
  cases s <;> rfl

theorem newline_not_mem_kind (s : Segment) : '\n' ∉ s.kind := by
  cases s with
  | literal text =>
    have h : '\n' ∉ "literal".toList := by decide
    exact h
  | reference index =>
    have h : '\n' ∉ "backref".toList := by decide
    exact h

end Segment

/-- A console shows the literals of the template as they are. -/
def Template.ShownAsIs (t : Template) : Prop :=
  ∀ text, .literal text ∈ t.segments → Console.ShownAsIs (Text.quoted text)

namespace CommandLine

/-! ### Lines -/

/-- Text of lines, with a line feed after each. -/
def unlines (lines : List Text) : Text :=
  lines.flatMap fun l => l ++ ['\n']

theorem unlines_cons_append (l : Text) (lines : List Text) (rest : Text) :
    unlines (l :: lines) ++ rest = l ++ '\n' :: (unlines lines ++ rest) := by
  rw [unlines, List.flatMap_cons, List.append_assoc, List.append_assoc]
  rfl

/-- Equally many lines are the same at the start of the same text. -/
theorem unlines_inj {lines lines' : List Text} {rest rest' : Text} (h : ∀ l ∈ lines, '\n' ∉ l)
    (h' : ∀ l ∈ lines', '\n' ∉ l) (hlength : lines.length = lines'.length)
    (heq : unlines lines ++ rest = unlines lines' ++ rest') : rest = rest' := by
  induction lines generalizing lines' with
  | nil =>
    obtain rfl := List.length_eq_zero_iff.mp hlength.symm
    exact heq
  | cons l lines ih =>
    cases lines' with
    | nil => cases hlength
    | cons l' lines' =>
      rw [unlines_cons_append, unlines_cons_append] at heq
      obtain ⟨-, hrest⟩ := Text.append_cons_inj (h l List.mem_cons_self)
        (h' l' List.mem_cons_self) heq
      exact ih (fun l hl => h l (List.mem_cons_of_mem _ hl))
        (fun l hl => h' l (List.mem_cons_of_mem _ hl)) (Nat.succ.inj hlength) hrest

/-- The lines that begin with a character are told from the line that ends them. -/
theorem unlines_concat_inj {c : Char} {rows rows' : List Text} {end' end'' rest rest' : Text}
    (h : ∀ l ∈ rows, '\n' ∉ l ∧ l.head? = some c) (h' : ∀ l ∈ rows', '\n' ∉ l ∧ l.head? = some c)
    (hend : '\n' ∉ end' ∧ end'.head? ≠ some c) (hend' : '\n' ∉ end'' ∧ end''.head? ≠ some c)
    (heq : unlines (rows ++ [end']) ++ rest = unlines (rows' ++ [end'']) ++ rest') :
    rows = rows' := by
  induction rows generalizing rows' with
  | nil =>
    cases rows' with
    | nil => rfl
    | cons l' rows' =>
      obtain ⟨hl', hhead⟩ := h' l' List.mem_cons_self
      rw [List.nil_append, List.cons_append, unlines_cons_append, unlines_cons_append] at heq
      obtain ⟨rfl, -⟩ := Text.append_cons_inj hend.1 hl' heq
      exact absurd hhead hend.2
  | cons l rows ih =>
    obtain ⟨hl, hhead⟩ := h l List.mem_cons_self
    cases rows' with
    | nil =>
      rw [List.nil_append, List.cons_append, unlines_cons_append, unlines_cons_append] at heq
      obtain ⟨rfl, -⟩ := Text.append_cons_inj hl hend'.1 heq
      exact absurd hhead hend'.2
    | cons l' rows' =>
      rw [List.cons_append, List.cons_append, unlines_cons_append, unlines_cons_append] at heq
      obtain ⟨rfl, hrest⟩ := Text.append_cons_inj hl (h' l' List.mem_cons_self).1 heq
      rw [ih (fun l hl => h l (List.mem_cons_of_mem _ hl))
        (fun l hl => h' l (List.mem_cons_of_mem _ hl)) hrest]

/-! ### Rows -/

/-- **A row of the table**: a number, a kind and a value between the lines of the table, each filled
up with spaces. -/
def IsRow (number : Nat) (kind value row : Text) : Prop :=
  ∃ a b c, row = ['│', ' '] ++ Console.spaces a ++ Text.decimal number ++ [' ', '│', ' '] ++
    kind ++ Console.spaces b ++ [' ', '│', ' '] ++ value ++ Console.spaces c ++ [' ', '│']

/-- **The output shows the segments**: a title, a header between two lines, exactly one row for each
segment, in order and numbered from one, a line below, and the number of groups needed. None of the
other lines looks like a row. -/
def Tabulates (value : Segment → Text) (t : Template) (output : Text) : Prop :=
  ∃ above rows below,
    output = unlines (above ++ rows ++ [below]) ++ Console.paragraph (referenceSummary t) ∧
      above.length = 4 ∧ (∀ l ∈ below :: above, '\n' ∉ l ∧ l.head? ≠ some '│') ∧
      List.Forall₂ (fun s row => IsRow (s.2 + 1) s.1.kind (value s.1) row) t.segments.zipIdx rows

/-- Spaces at the start of a text are told from what is after them, if that begins with another
character. -/
theorem spaces_append_inj {m n : Nat} {u v : Text} (hu : u.head? ≠ some ' ')
    (hv : v.head? ≠ some ' ') (h : Console.spaces m ++ u = Console.spaces n ++ v) :
    m = n ∧ u = v := by
  have hreverse := congrArg List.reverse h
  simp only [Console.spaces, List.reverse_append, List.reverse_replicate] at hreverse
  obtain ⟨huv, hmn⟩ := Console.eq_of_append_replicate (by rwa [List.getLast?_reverse])
    (by rwa [List.getLast?_reverse]) hreverse
  exact ⟨hmn, List.reverse_injective huv⟩

theorem head?_decimal_append (n : Nat) (u : Text) : (Text.decimal n ++ u).head? ≠ some ' ' := by
  cases hdigits : Text.decimal n with
  | nil => exact absurd hdigits (Text.decimal_ne_nil n)
  | cons c digits =>
    rintro h
    have hc : c = ' ' := Option.some.inj h
    exact Text.not_mem_decimal (n := n) (c := ' ') (by decide) (hdigits ▸ hc ▸ List.mem_cons_self)

/-- A row tells which segment it shows. -/
theorem IsRow.segment_eq {n : Nat} {s s' : Segment} {row : Text}
    (h : IsRow n s.kind s.value row) (h' : IsRow n s'.kind s'.value row) : s = s' := by
  obtain ⟨a, b, c, rfl⟩ := h
  obtain ⟨a', b', c', h⟩ := h'
  simp only [List.append_assoc] at h
  -- The number begins where the spaces end.
  obtain ⟨-, h⟩ := spaces_append_inj (head?_decimal_append n _) (head?_decimal_append n _)
    (List.append_cancel_left h)
  have h := List.append_cancel_left (List.append_cancel_left h)
  obtain ⟨hkind, h⟩ := List.append_inj h (by rw [s.length_kind, s'.length_kind])
  -- The spaces after the kind go on with that before the line.
  have hspaces (k : Nat) (u : Text) : Console.spaces k ++ ([' ', '│', ' '] ++ u) =
      Console.spaces (k + 1) ++ '│' :: ' ' :: u := by
    rw [Console.spaces, Console.spaces, List.replicate_succ', List.append_assoc]
    rfl
  have hline (u : Text) : ('│' :: u).head? ≠ some ' ' := by simp
  rw [hspaces, hspaces] at h
  obtain ⟨-, h⟩ := spaces_append_inj (hline _) (hline _) h
  have h := (List.cons.inj (List.cons.inj h).2).2
  have hend (k : Nat) : Console.spaces k ++ [' ', '│'] = List.replicate (k + 1) ' ' ++ ['│'] := by
    rw [Console.spaces, List.replicate_succ', List.append_assoc]
    rfl
  rw [hend, hend, ← List.append_assoc, ← List.append_assoc] at h
  obtain ⟨hvalue, -⟩ := Console.eq_of_append_replicate s.getLast?_value s'.getLast?_value
    (List.append_cancel_right h)
  exact Segment.eq_of_value hkind hvalue

theorem not_mem_spaces {n : Nat} {c : Char} (hc : c ≠ ' ') : c ∉ Console.spaces n :=
  fun h => hc (List.eq_of_mem_replicate h)

theorem IsRow.line {n : Nat} {s : Segment} {row : Text} (h : IsRow n s.kind s.value row) :
    '\n' ∉ row ∧ row.head? = some '│' := by
  obtain ⟨a, b, c, rfl⟩ := h
  refine ⟨?_, rfl⟩
  have hspaces (k : Nat) : '\n' ∉ Console.spaces k := not_mem_spaces (by decide)
  have hnumber : '\n' ∉ Text.decimal n := Text.not_mem_decimal (by decide)
  simp [hspaces, hnumber, s.newline_not_mem_kind, s.newline_not_mem_value]

theorem forall₂_isRow_line {segments : List (Segment × Nat)} {rows : List Text}
    (h : List.Forall₂ (fun s row => IsRow (s.2 + 1) s.1.kind s.1.value row) segments rows) :
    ∀ row ∈ rows, '\n' ∉ row ∧ row.head? = some '│' := by
  induction h with
  | nil => exact fun row hrow => nomatch hrow
  | cons hfirst _ ih =>
    intro row hrow
    rcases List.mem_cons.mp hrow with rfl | hrow
    · exact hfirst.line
    · exact ih row hrow

/-- Rows with the same numbers tell all segments. -/
theorem segments_eq_of_rows {segments segments' : List Segment} {rows : List Text} (n : Nat)
    (h : List.Forall₂ (fun s row => IsRow (s.2 + 1) s.1.kind s.1.value row)
      (segments.zipIdx n) rows)
    (h' : List.Forall₂ (fun s row => IsRow (s.2 + 1) s.1.kind s.1.value row)
      (segments'.zipIdx n) rows) : segments = segments' := by
  induction rows generalizing segments segments' n with
  | nil =>
    rw [List.forall₂_nil_right_iff, List.zipIdx_eq_nil_iff] at h h'
    rw [h, h']
  | cons row rows ih =>
    cases segments with
    | nil => cases h
    | cons s segments =>
      cases segments' with
      | nil => cases h'
      | cons s' segments' =>
        rw [List.zipIdx_cons, List.forall₂_cons] at h h'
        have hs : s = s' := h.1.segment_eq h'.1
        rw [hs, ih (n + 1) h.2 h'.2]

/-- **The output tells the segments.** -/
theorem Tabulates.segments_eq {t t' : Template} {output : Text}
    (h : Tabulates Segment.value t output) (h' : Tabulates Segment.value t' output) :
    t.segments = t'.segments := by
  obtain ⟨above, rows, below, hout, hlength, hother, hrows⟩ := h
  obtain ⟨above', rows', below', hout', hlength', hother', hrows'⟩ := h'
  have hsplit (above rows : List Text) (below rest : Text) :
      unlines (above ++ rows ++ [below]) ++ rest =
        unlines above ++ (unlines (rows ++ [below]) ++ rest) := by
    rw [unlines, List.append_assoc, List.flatMap_append, List.append_assoc]
    rfl
  rw [hout, hsplit, hsplit] at hout'
  have hrest := unlines_inj (fun l hl => (hother l (List.mem_cons_of_mem _ hl)).1)
    (fun l hl => (hother' l (List.mem_cons_of_mem _ hl)).1) (hlength.trans hlength'.symm) hout'
  obtain rfl := unlines_concat_inj (forall₂_isRow_line hrows) (forall₂_isRow_line hrows')
    (hother below List.mem_cons_self) (hother' below' List.mem_cons_self) hrest
  exact segments_eq_of_rows 0 hrows hrows'

/-! ### The table that is printed -/

theorem rows_segmentTable (t : Template) :
    (segmentTable t).rows = t.segments.zipIdx.map fun s =>
      [Text.decimal (s.2 + 1), s.1.kind, s.1.shownValue] := by
  refine List.map_congr_left fun s _ => ?_
  obtain ⟨s, i⟩ := s
  cases s with
  | literal text =>
    have hend : (Text.quoted text).getLast? ≠ some '\\' := by
      rw [Text.getLast?_quoted]
      rcases Text.quoteFor_eq text with h | h <;> rw [h] <;> decide
    dsimp only
    rw [Console.shown_escape hend]
    rfl
  | reference index => rfl

/-- Nothing but the rows of the table depends on the template. -/
theorem segmentTable_congr {t t' : Template} (h : (segmentTable t).rows = (segmentTable t').rows) :
    segmentTable t = segmentTable t' :=
  congrArg (Console.Table.mk _ _) h

theorem line_segmentTable (t : Template) (rule : Char) (x y z : Text) :
    ∃ a b c, (segmentTable t).line rule [x, y, z] =
      [rule, ' '] ++ Console.spaces a ++ x ++ [' ', rule, ' '] ++ y ++ Console.spaces b ++
        [' ', rule, ' '] ++ z ++ Console.spaces c ++ [' ', rule] := by
  have hcolumns : (segmentTable t).columns =
      [⟨['#'], true⟩, ⟨"Kind".toList, false⟩, ⟨"Value".toList, false⟩] := rfl
  have hlength : (segmentTable t).widths.length = 3 := by
    rw [Console.Table.widths, hcolumns]
    rfl
  obtain ⟨k, m, n, hwidths⟩ := List.length_eq_three.mp hlength
  refine ⟨k - Text.width x, m - Text.width y, n - Text.width z, ?_⟩
  rw [Console.Table.line, hwidths, hcolumns]
  simp [Console.fill, Text.joinWith]

theorem mem_or_mem_of_mem_joinWith {c : Char} {separator : Text} {ts : List Text}
    (h : c ∈ Text.joinWith separator ts) : c ∈ separator ∨ ∃ t ∈ ts, c ∈ t := by
  induction ts using Text.joinWith.induct with
  | case1 => cases h
  | case2 t => exact .inr ⟨t, List.mem_cons_self, h⟩
  | case3 t ts hne ih =>
    rw [Text.joinWith.eq_3 separator t ts hne, List.append_assoc, List.mem_append,
      List.mem_append] at h
    rcases h with h | h | h
    · exact .inr ⟨t, List.mem_cons_self, h⟩
    · exact .inl h
    · exact (ih h).imp_right fun ⟨t', ht', hc⟩ => ⟨t', List.mem_cons_of_mem _ ht', hc⟩

/-- A line that is drawn holds its own characters only, and begins with its left end. -/
theorem line_draw {s : Console.Stroke} (widths : List Nat)
    (hs : '\n' ∉ [s.left, s.line, s.crossing, s.right]) (hhead : s.left ≠ '│') :
    '\n' ∉ s.draw widths ∧ (s.draw widths).head? ≠ some '│' := by
  simp only [List.mem_cons, List.not_mem_nil, or_false, not_or] at hs
  obtain ⟨hleft, hline, hcrossing, hright⟩ := hs
  refine ⟨fun h => ?_, fun h => hhead (Option.some.inj h)⟩
  rcases List.mem_append.mp h with h | h
  · rcases List.mem_cons.mp h with h | h
    · exact hleft h
    · rcases mem_or_mem_of_mem_joinWith h with h | ⟨t, ht, h⟩
      · exact hcrossing (List.mem_singleton.mp h)
      · obtain ⟨n, -, rfl⟩ := List.mem_map.mp ht
        exact hline (List.eq_of_mem_replicate h)
  · exact hright (List.mem_singleton.mp h)

theorem line_centered (width : Nat) {t : Text} (ht : '\n' ∉ t) (hhead : t.head? ≠ some '│')
    (hne : t ≠ []) : '\n' ∉ Console.centered width t ∧
      (Console.centered width t).head? ≠ some '│' := by
  have hspaces (k : Nat) : '\n' ∉ Console.spaces k := not_mem_spaces (by decide)
  refine ⟨by simp [Console.centered, hspaces, ht], ?_⟩
  cases t with
  | nil => exact absurd rfl hne
  | cons c t =>
    rw [Console.centered]
    cases (width - Text.width (c :: t)) / 2 with
    | zero => exact hhead
    | succ k => simp [Console.spaces, List.replicate_succ]

theorem tabulates_segmentTable {t : Template} {value : Segment → Text}
    (h : ∀ s ∈ t.segments, s.shownValue = value s) :
    Tabulates value t ((segmentTable t).text ++ Console.paragraph (referenceSummary t)) := by
  refine ⟨_, (segmentTable t).rows.map ((segmentTable t).line '│'), _, rfl, rfl, ?_, ?_⟩
  · intro l hl
    simp only [List.mem_cons, List.not_mem_nil, or_false] at hl
    rcases hl with rfl | rfl | rfl | rfl | rfl
    · exact line_draw _ (by decide) (by decide)
    · have htitle : (segmentTable t).title = "Template segments".toList := rfl
      rw [htitle]
      exact line_centered _ (by decide) (by decide) (by decide)
    · exact line_draw _ (by decide) (by decide)
    · obtain ⟨a, b, c, hline⟩ := line_segmentTable t '┃' ['#'] "Kind".toList "Value".toList
      have hspaces (k : Nat) : '\n' ∉ Console.spaces k := not_mem_spaces (by decide)
      have hheader : (segmentTable t).columns.map Console.Column.header =
        [['#'], "Kind".toList, "Value".toList] := rfl
      rw [hheader, hline]
      simp [hspaces]
    · exact line_draw _ (by decide) (by decide)
  · rw [rows_segmentTable, List.map_map, List.forall₂_map_right_iff, List.forall₂_same]
    intro s hs
    rw [← h s.1 (List.fst_mem_of_mem_zipIdx hs)]
    exact line_segmentTable t '│' _ _ _

theorem run_check_eq (demos : List DemoCase) (files : Files) (standard : List UInt8)
    {args : List Text} {verbose : Bool} {template : Text} {t : Template}
    (hread : Invocation.read args = .ok ⟨verbose, .check template⟩)
    (ht : Template.compile template = .ok t) :
    (run demos files standard args).ending.status? = some 0 ∧
      (run demos files standard args).output =
        (segmentTable t).text ++ Console.paragraph (referenceSummary t) := by
  obtain ⟨log, hcommand⟩ : ∃ log, runCommand demos files standard (.check template) =
      ⟨(segmentTable t).text ++ Console.paragraph (referenceSummary t), log, [], .done⟩ := by
    rw [runCommand, Command.work, Work.compile, ht]
    exact ⟨_, rfl⟩
  rw [run, hread]
  dsimp only
  rw [hcommand]
  cases verbose with
  | false => exact ⟨rfl, rfl⟩
  | true => exact ⟨rfl, rfl⟩

/-- **The table shows the template.** It has exactly one row for each segment, in order and numbered
from one, with the number of each reference. The value of a literal has all its tags, with the
backslashes before them, and between them what the console makes of the quoted text. It is the
quoted text itself where no name of a pictograph stands between colons in it and each bracket after
a backslash opens a tag; and of templates with such literals only, no two with different segments
have the same table. -/
theorem run_check (demos : List DemoCase) (files : Files) (standard : List UInt8)
    {args : List Text} {verbose : Bool} {template : Text} {t : Template}
    (hread : Invocation.read args = .ok ⟨verbose, .check template⟩)
    (ht : Template.compile template = .ok t) :
    (run demos files standard args).ending.status? = some 0 ∧
      Tabulates Segment.shownValue t (run demos files standard args).output ∧
      (t.ShownAsIs → Tabulates Segment.value t (run demos files standard args).output ∧
        ∀ args' verbose' template' t',
          Invocation.read args' = .ok ⟨verbose', .check template'⟩ →
          Template.compile template' = .ok t' → t'.ShownAsIs →
          (run demos files standard args').output = (run demos files standard args).output →
          t'.segments = t.segments) := by
  have hasIs (t : Template) (h : t.ShownAsIs) : ∀ s ∈ t.segments, s.shownValue = s.value := by
    intro s hs
    cases s with
    | literal text => exact (h text hs).flatMap_kept
    | reference index => rfl
  obtain ⟨hstatus, houtput⟩ := run_check_eq demos files standard hread ht
  rw [houtput]
  refine ⟨hstatus, tabulates_segmentTable fun _ _ => rfl, fun h => ?_⟩
  have htable := tabulates_segmentTable (hasIs t h)
  refine ⟨htable, fun args' verbose' template' t' hread' ht' h' hsame => ?_⟩
  have htable' := tabulates_segmentTable (hasIs t' h')
  rw [← (run_check_eq demos files standard hread' ht').2, hsame] at htable'
  exact htable'.segments_eq htable

/-- A literal with a tag after a backslash, and a reference. -/
theorem run_check_tag :
    let args := ["check", "--replacement", "\\\\[b]$2"].map String.toList
    (run [] (Files.ofEntries []) [] args).ending.status? = some 0 ∧
      Tabulates Segment.value ⟨[.literal "\\[b]".toList, .reference 1]⟩
        (run [] (Files.ofEntries []) [] args).output := by
  intro args
  have hread : Invocation.read args = .ok ⟨false, .check "\\\\[b]$2".toList⟩ := rfl
  have hcompiled : Template.compile "\\\\[b]$2".toList =
      .ok ⟨[.literal "\\[b]".toList, .reference 1]⟩ := rfl
  have hshown : Template.ShownAsIs ⟨[.literal "\\[b]".toList, .reference 1]⟩ := by
    intro text htext
    have hquoted : Text.quoted "\\[b]".toList = "'\\\\[b]'".toList := by decide +kernel
    obtain rfl : text = "\\[b]".toList := by simpa using htext
    rw [hquoted]
    refine ⟨Console.noCode_of_not_mem (by decide), fun rest hrest => ?_⟩
    have hrest : rest = "b]'".toList := by
      simpa using List.mem_tails _ _ |>.mpr hrest
    exact ⟨"[b]".toList, ⟨'b', [], .inl (by decide), nofun, rfl⟩, ['\''], by rw [hrest]; rfl⟩
  obtain ⟨hstatus, -, htable⟩ := run_check [] (Files.ofEntries []) [] hread hcompiled
  exact ⟨hstatus, (htable hshown).1⟩

/-- The letter case of a pictograph's name is lost, since the pictograph is shown in its place, so
that two templates have the same table; and of two backslashes before a bracket one is lost. -/
theorem run_check_pictograph :
    let output (template : String) := (run [] (Files.ofEntries []) []
      (["check", "--replacement", template].map String.toList)).output
    output ":a:" = output ":A:" ∧
      Template.compile ":a:".toList = .ok ⟨[.literal ":a:".toList]⟩ ∧
      Template.compile ":A:".toList = .ok ⟨[.literal ":A:".toList]⟩ ∧
      (Segment.literal ":a:".toList).value = "':a:'".toList ∧
      (Segment.literal ":a:".toList).shownValue = "'🅰'".toList ∧
      (Segment.literal "\\[1]".toList).value = "'\\\\[1]'".toList ∧
      (Segment.literal "\\[1]".toList).shownValue = "'\\[1]'".toList := by
  intro output
  have hsmall : (Segment.literal ":a:".toList).shownValue = "'🅰'".toList := by decide +kernel
  have hcapital : (Segment.literal ":A:".toList).shownValue = "'🅰'".toList := by decide +kernel
  have htable : segmentTable ⟨[.literal ":a:".toList]⟩ =
      segmentTable ⟨[.literal ":A:".toList]⟩ := by
    have hrows {text : Text} (h : (Segment.literal text).shownValue = "'🅰'".toList) :
        (segmentTable ⟨[.literal text]⟩).rows =
          [[Text.decimal 1, "literal".toList, "'🅰'".toList]] := by
      rw [rows_segmentTable, ← h]
      rfl
    exact segmentTable_congr ((hrows hsmall).trans (hrows hcapital).symm)
  have hcompiled : Template.compile ":a:".toList = .ok ⟨[.literal ":a:".toList]⟩ := rfl
  have hcompiled' : Template.compile ":A:".toList = .ok ⟨[.literal ":A:".toList]⟩ := rfl
  refine ⟨?_, hcompiled, hcompiled', by decide +kernel, hsmall, by decide +kernel,
    by decide +kernel⟩
  have hread : Invocation.read (["check", "--replacement", ":a:"].map String.toList) =
      .ok ⟨false, .check ":a:".toList⟩ := rfl
  have hread' : Invocation.read (["check", "--replacement", ":A:"].map String.toList) =
      .ok ⟨false, .check ":A:".toList⟩ := rfl
  obtain ⟨-, houtput⟩ := run_check_eq [] (Files.ofEntries []) [] hread hcompiled
  obtain ⟨-, houtput'⟩ := run_check_eq [] (Files.ofEntries []) [] hread' hcompiled'
  have hsummary : referenceSummary ⟨[.literal ":a:".toList]⟩ =
      referenceSummary ⟨[.literal ":A:".toList]⟩ := rfl
  rw [htable, hsummary] at houtput
  exact houtput.trans houtput'.symm

end CommandLine

end Substitution
