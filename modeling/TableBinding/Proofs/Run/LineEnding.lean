import TableBinding.Proofs.Annotation.CanonicalFile
import TableBinding.Proofs.Annotation.HeaderCut
import TableBinding.Proofs.Class.OneLine
import TableBinding.Proofs.Run.FirstFault

/-!
# The line ending of a run

What is generated with a carriage return and a line feed behind each line is what is generated with
line feeds alone, up to the carriage returns in front of them (`Settings.generate_ending`). Only the
indentation and the names of the headers have to be in one line: they come from the settings as they
are. All else comes from the declaration file line by line.

The shape of the argument: what is read of a file stands in its lines, which are in one line
(`Struct.IsRead.oneLine`), and so are the tokens that get into the generated text, if there is any
struct that brings them there (`Source.oneLine_spelling`). Hence every generated line is in one line
(`Settings.oneLine_fileLines`), and the endings of such lines are exchanged one by one.
-/

namespace TableBinding

open Text

/-! ## What is read -/

section

variable {s : Spelling}

theorem Spelling.Valid.oneLine_datatype (hs : s.Valid) {type : Text} (h : type ∈ s.datatypes) :
    Text.OneLine type := by
  intro hmem
  have hsound := (Spelling.valid_iff.1 hs).2.2.1 type h
  rw [Spelling.isBroken, Bool.or_eq_false_iff, List.any_eq_false] at hsound
  exact hsound.2 '\n' hmem (by decide)

theorem Text.IsHostType.oneLine {t : Text} (h : IsHostType t) : OneLine t := by
  intro hmem
  rcases h.isTypeWords.chars _ hmem with hchar | hgap
  · exact absurd hchar (by decide)
  · exact absurd hgap (by decide)

theorem Field.WellFormed.oneLine {f : Field} (hs : s.Valid) (hf : f.WellFormed s) : f.OneLine := by
  have hname : Text.OneLine f.name := .of_chars (mem_isIdent hf.name).2 (by decide)
  have hhost := hf.hostType.oneLine
  by_cases hpersisted : f.persisted = true
  · have hcolumn := hf.column hpersisted
    exact ⟨hhost, hname, hs.oneLine_datatype hcolumn.columnType,
      fun e he => (hcolumn.extras e he).noLineFeed⟩
  · obtain ⟨htype, -, -, hextras⟩ := hf.other (Bool.eq_false_iff.2 hpersisted)
    refine ⟨hhost, hname, htype ▸ oneLine_nil, fun e he => ?_⟩
    rw [hextras] at he
    exact absurd he List.not_mem_nil

theorem Struct.WellFormed.oneLine {d : Struct} (hs : s.Valid) (hd : d.WellFormed s) :
    d.OneLine where
  typeName := .of_chars hd.typeName.2 (by decide)
  tableName := .of_chars hd.tableName.2 (by decide)
  fields f hf := (hd.fields f hf).oneLine hs

/-- A field that names the table was read of a line with the mark in it. -/
theorem Field.oneLine_tableMark {line : SourceLine} {f : Field} (h : Field.read s line = .ok f)
    (hnames : f.namesTable = true) : Text.OneLine s.tableMark := by
  obtain ⟨form, hform, h⟩ := Field.read_eq_ok_iff.1 h
  obtain ⟨_, _, _, _, _, -, -, -, -, -, -, -, -, hcut⟩ := FieldForm.exists_of_read? hform
  rcases Field.ofForm_cases h with ⟨-, rfl⟩ | ⟨hmark, -⟩ | ⟨o, -, -, -, rfl⟩
  · cases hnames
  · exact fun hmem => hcut.noLineFeed ((mem_options hmark).2.mem hmem)
  · cases hnames

end

namespace Source

variable {s : Spelling} {source : Text} {structs : List Struct}

theorem oneLine_of_mem_ofText {line : SourceLine} (h : line ∈ SourceLine.ofText source) :
    OneLine line.text := by
  refine oneLine_of_mem_lines (t := source) ?_
  rw [← map_text_ofText]
  exact List.mem_map_of_mem h

/-- A header that was read has the delimiter in it. -/
theorem oneLine_delimiter (hs : s.Valid) (h : Source.structs s source = .ok structs)
    (hne : structs ≠ []) : OneLine s.delimiter := by
  obtain ⟨cut, hlines, hcut⟩ := structs_eq_ok_iff.1 h
  obtain ⟨d, hd⟩ := List.exists_mem_of_ne_nil structs hne
  obtain ⟨b, hb, hdeclares⟩ := exists_of_mem_forall₂ hcut.blocks hd
  have hheader : b.header ∈ SourceLine.ofText source := by
    rw [← hlines]
    exact List.mem_append_left _ (List.mem_flatMap.2 ⟨b, hb, by simp [BlockLines.lines]⟩)
  obtain ⟨names, -, -⟩ := HeaderCut.exists_of_read? hs hdeclares.names
  intro hmem
  apply oneLine_of_mem_ofText hheader
  rw [names.line_eq]
  simp only [List.mem_append]
  exact .inl (.inr hmem)

theorem oneLine_spelling (hs : s.Valid) (h : Source.structs s source = .ok structs) :
    ∀ d ∈ structs, s.OneLine d := by
  intro d hd
  refine ⟨oneLine_delimiter hs h (List.ne_nil_of_mem hd), fun f hf hnames => ?_⟩
  obtain ⟨line, hread⟩ := (isRead_of_structs h d hd).fields f hf
  exact Field.oneLine_tableMark hread hnames

end Source

/-! ## What is generated -/

namespace Settings

/-- The settings with another line ending. -/
def ending (s : Settings) (lineEnding : Text) : Settings :=
  { s with layout := s.layout.ending lineEnding }

/-- What goes into the generated text without being read line by line is in one line. -/
structure OneLine (s : Settings) : Prop where
  indent : Text.OneLine s.layout.indent
  includes : ∀ name ∈ s.layout.includes, Text.OneLine name

variable {s : Settings} {source : Text} {structs : List Struct}

theorem OneLine.headerLines (hs : s.OneLine) : ∀ line ∈ s.layout.headerLines,
    Text.OneLine line.text := by
  have hopen : Text.OneLine "#include <" := by decide
  refine List.forall_mem_append.2 ⟨fun line hline => ?_, by decide⟩
  obtain ⟨name, hname, rfl⟩ := List.mem_map.1 hline
  exact (hopen.append (hs.includes name hname)).append (by decide)

/-- **Every line of the generated text is in one line.** -/
theorem oneLine_fileLines (hs : s.OneLine) (h : s.structs source = .ok structs) :
    ∀ line ∈ s.layout.fileLines s.spelling structs, Text.OneLine line.text := by
  obtain ⟨hvalid, hread⟩ := structs_eq_ok h
  refine List.forall_mem_append.2 ⟨hs.headerLines, fun line hline => ?_⟩
  obtain ⟨d, hd, hline⟩ := List.mem_flatMap.1 hline
  rcases List.mem_append.1 hline with hline | hline
  · have hstruct := (Source.isRead_of_structs hread d hd).wellFormed.oneLine hvalid
    exact hstruct.classLines (Source.oneLine_spelling hvalid hread d hd) line hline
  · cases List.mem_singleton.1 hline
    exact oneLine_nil

theorem generate_ending_eq (s : Settings) (source lineEnding : Text) :
    (s.ending lineEnding).generate source = (s.structs source).map fun structs =>
      (s.layout.ending lineEnding).render (s.layout.fileLines s.spelling structs) := rfl

/-- **The line ending changes nothing but the line endings.** -/
theorem generate_ending (s : Settings) (hs : s.OneLine) (source : Text) :
    (∀ failure, (s.ending "\n").generate source = .error failure ↔
      (s.ending "\r\n").generate source = .error failure) ∧
    ((∃ text, (s.ending "\n").generate source = .ok text) ↔
      ∃ text, (s.ending "\r\n").generate source = .ok text) ∧
    ∀ text, (s.ending "\r\n").generate source = .ok text →
      (s.ending "\n").generate source = .ok (replacePair '\r' '\n' '\n' text) ∧
      ∀ front back, text = front ++ '\n' :: back → front.getLast? = some '\r' := by
  rw [generate_ending_eq, generate_ending_eq]
  cases hstructs : s.structs source with
  | error failure =>
    refine ⟨fun _ => Iff.rfl, ?_, ?_⟩
    · constructor <;> rintro ⟨text, htext⟩ <;> cases htext
    · intro text htext
      cases htext
  | ok structs =>
    have hlines := oneLine_fileLines hs hstructs
    refine ⟨fun failure => ?_, ?_, ?_⟩
    · constructor <;> intro hfailure <;> cases hfailure
    · exact iff_of_true ⟨_, rfl⟩ ⟨_, rfl⟩
    · intro text htext
      obtain rfl := Except.ok.inj htext
      refine ⟨?_, Layout.returned_render hs.indent hlines⟩
      rw [Layout.replacePair_render hs.indent hlines]
      rfl

/-- Carriage returns of their own in the indentation, in the name of a header and in a delimiter. -/
def returning : Settings :=
  { spelling := { delimiter := "|\r" }, layout := { indent := " \r", includes := ["q\r"] } }

def returningSource : Text := "struct A //|\ra|\r\r\n\x7b\nint x; //|\rTEXT,c\r|\r\r\n\x7d;"

theorem generate_ending_returning :
    returning.OneLine ∧ ∃ text, (returning.ending "\r\n").generate returningSource = .ok text ∧
      (returning.ending "\n").generate returningSource =
        .ok (replacePair '\r' '\n' '\n' text) ∧ '\n' ∈ text := by
  have hone : returning.OneLine := ⟨by decide, by decide⟩
  have hstructs : returning.structs returningSource = .ok
      [{ typeName := "A"
         tableName := "a"
         fields := [{ hostType := "int", name := "x", persisted := true, columnType := "TEXT",
                      extras := ["c\r"] }] }] := by decide +kernel
  have htext := generate_ending_eq returning returningSource "\r\n"
  rw [hstructs] at htext
  obtain ⟨hreplace, -⟩ := (generate_ending returning hone returningSource).2.2 _ htext
  exact ⟨hone, _, htext, hreplace, by decide +kernel⟩

end Settings

end TableBinding
