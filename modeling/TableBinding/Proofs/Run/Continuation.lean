import TableBinding.Proofs.Class.ContinuedLines
import TableBinding.Proofs.Run.LineEnding

/-!
# Continued lines of a generated file

A line of generated text that ends with a backslash takes the next line with it. Two kinds of lines
do so: the lines of the literals that create the tables, where it is meant, and the member lines, if
the delimiter in use ends with a backslash (`Settings.continued_generate`). Nothing stops a spelling
from having such a delimiter, and then the comment behind a member hides the declaration that
follows it (`Settings.member_hidden_slashed`).

The shape of the argument: the generated lines are in one line each, so the last line of what is
written for each of them ends where it ends (`Layout.filter_lines_render`); the lines in front of
that one stand in the indentation. Which lines end with a backslash is then known for every class
(`Struct.filter_classLines`), up to the end of a delimiter.
-/

namespace TableBinding

open Text

/-! ## The ends of lines -/

namespace Text

variable {t u : Text}

theorem oneLine_rtakeWhile (t : Text) : OneLine (t.rtakeWhile (· != '\n')) := by
  intro hmem
  have hne := List.mem_rtakeWhile_imp hmem
  exact absurd hne (by decide)

theorem rdropWhile_ended (t : Text) :
    t.rdropWhile (· != '\n') = [] ∨ (t.rdropWhile (· != '\n')).getLast? = some '\n' := by
  by_cases hne : t.rdropWhile (· != '\n') = []
  · exact .inl hne
  · have hlast := List.rdropWhile_last_not (· != '\n') t hne
    rw [bne_iff_ne, not_not] at hlast
    rw [List.getLast?_eq_some_getLast hne, hlast]
    exact .inr rfl

end Text

/-! ## Layouts -/

namespace Layout

variable {l : Layout}

/-- The lines that end within the indentation at the depth. -/
def indentLines (l : Layout) (depth : Nat) : List Text :=
  lines ((List.replicate depth l.indent).flatten.rdropWhile (· != '\n'))

/-- What a line at the depth begins with, behind the lines that end within its indentation. -/
def lastIndent (l : Layout) (depth : Nat) : Text :=
  (List.replicate depth l.indent).flatten.rtakeWhile (· != '\n')

/-- The last line of what is written for a line. A carriage return in front of its line feed belongs
to the ending. -/
def lastLine (l : Layout) (line : Line) : Text :=
  dropReturn (l.lastIndent line.depth ++ line.text ++ l.lineEnding.dropLast)

/-- Lines end with a line feed, with or without a carriage return. The headers do not end them, and
where the indentation does, no backslash is in front. -/
structure EndsLines (l : Layout) : Prop where
  lineEnding : l.lineEnding = ['\n'] ∨ l.lineEnding = ['\r', '\n']
  includes : ∀ name ∈ l.includes, OneLine name
  indent : ∀ depth, ∀ t ∈ l.indentLines depth, t.isContinued = false

theorem indentLines_eq_nil (h : OneLine l.indent) (depth : Nat) : l.indentLines depth = [] := by
  have hnone : (List.replicate depth l.indent).flatten.rdropWhile (· != '\n') = [] := by
    refine List.rdropWhile_eq_nil_iff.2 fun c hc => ?_
    obtain ⟨step, hstep, hmem⟩ := List.mem_flatten.1 hc
    rw [List.eq_of_mem_replicate hstep] at hmem
    exact bne_iff_ne.2 fun e => h (e ▸ hmem)
  rw [indentLines, hnone]
  rfl

namespace EndsLines

variable (hl : l.EndsLines)

include hl

theorem lineEnding_eq : l.lineEnding = l.lineEnding.dropLast ++ ['\n'] := by
  rcases hl.lineEnding with h | h
  · rw [h]
    rfl
  · rw [h]
    rfl

theorem dropReturn_dropLast {t : Text} (ht : t.getLast? ≠ some '\r') :
    dropReturn (t ++ l.lineEnding.dropLast) = t := by
  rcases hl.lineEnding with h | h
  · rw [h]
    show dropReturn (t ++ []) = t
    rw [List.append_nil, dropReturn_eq_self ht]
  · rw [h]
    exact dropReturn_concat t

theorem oneLine_dropLast : OneLine l.lineEnding.dropLast := by
  rcases hl.lineEnding with h | h
  · rw [h]
    decide
  · rw [h]
    decide

/-- A line in one line ends what is written for it; other lines end within the indentation. -/
theorem lines_render_cons {line : Line} (hline : OneLine line.text) (more : List Line) :
    lines (l.render (line :: more)) =
      l.indentLines line.depth ++ (l.lastLine line :: lines (l.render more)) := by
  obtain ⟨steps, hsteps⟩ : ∃ steps, steps = (List.replicate line.depth l.indent).flatten := ⟨_, rfl⟩
  have hcut : l.line line = steps.rdropWhile (· != '\n') ++
      (steps.rtakeWhile (· != '\n') ++ line.text ++ l.lineEnding.dropLast ++ ['\n']) := by
    have hsplit := @List.rdropWhile_append_rtakeWhile _ (· != '\n') steps
    rw [Layout.line, ← hsteps]
    conv_lhs => rw [← hsplit, hl.lineEnding_eq]
    simp only [List.append_assoc]
  have hlast : OneLine (steps.rtakeWhile (· != '\n') ++ line.text ++ l.lineEnding.dropLast) :=
    ((oneLine_rtakeWhile steps).append hline).append hl.oneLine_dropLast
  rw [render, List.flatMap_cons, ← render, hcut, List.append_assoc, List.append_assoc,
    lines_append (rdropWhile_ended steps), List.singleton_append, hlast.lines_append, hsteps]
  rfl

/-- **The lines that end with a backslash** are the last lines of what is written. -/
theorem filter_lines_render {written : List Line}
    (hwritten : ∀ line ∈ written, OneLine line.text) :
    (lines (l.render written)).filter isContinued =
      (written.filter fun line => (l.lastLine line).isContinued).map l.lastLine := by
  induction written with
  | nil => rfl
  | cons line written ih =>
    rw [List.forall_mem_cons] at hwritten
    have hindent : (l.indentLines line.depth).filter isContinued = [] :=
      List.filter_eq_nil_iff.2 fun t ht => Bool.eq_false_iff.1 (hl.indent line.depth t ht)
    rw [hl.lines_render_cons hwritten.1, List.filter_append, hindent, List.nil_append,
      List.filter_cons, List.filter_cons, ih hwritten.2]
    split
    · rfl
    · rfl

theorem getLast?_lastLine {line : Line} {c : Char} (h : line.text.getLast? = some c)
    (hc : c ≠ '\r') : (l.lastLine line).getLast? = some c := by
  have hne : line.text ≠ [] := by
    intro hnil
    rw [hnil] at h
    cases h
  have hlast : (l.lastIndent line.depth ++ line.text).getLast? = some c := by
    rw [List.getLast?_append_of_ne_nil _ hne, h]
  have hreturn : (l.lastIndent line.depth ++ line.text).getLast? ≠ some '\r' := by
    rw [hlast]
    exact fun e => hc (Option.some.inj e)
  rw [lastLine, hl.dropReturn_dropLast hreturn, hlast]

theorem findsBackslash : FindsBackslash fun line => (l.lastLine line).isContinued where
  blank := by
    have hnone := hl.dropReturn_dropLast (t := []) (by decide)
    show isContinued (dropReturn (l.lastIndent 0 ++ [] ++ l.lineEnding.dropLast)) = false
    rw [List.append_nil]
    exact congrArg isContinued hnone
  closed line h := by
    obtain ⟨c, hlast, hbackslash, hreturn⟩ := isClosed_iff.1 h
    rw [isContinued, hl.getLast?_lastLine hlast hreturn]
    exact beq_eq_false_iff_ne.2 fun e => hbackslash (Option.some.inj e)
  continued line h := by
    rw [isContinued, hl.getLast?_lastLine h (by decide)]
    exact beq_self_eq_true _

end EndsLines

end Layout

/-! ## Generated files -/

namespace Settings

variable {s : Settings} {source text : Text} {structs : List Struct}

/-- A delimiter at the end of a line continues the line. -/
def continues (s : Settings) : Bool :=
  isContinued (dropReturn (s.spelling.delimiter ++ s.layout.lineEnding.dropLast))

theorem isContinued_memberLine (hs : s.spelling.Valid) (f : Field) :
    (s.layout.lastLine (f.memberLine s.spelling)).isContinued = s.continues := by
  obtain ⟨c, hc, hvisible⟩ :=
    hs.exists_visible ("delimiter", s.spelling.delimiter) (by simp [Spelling.required])
  have hreturn : c ≠ '\r' := by
    rintro rfl
    exact absurd hvisible (by decide)
  obtain ⟨last, hlast⟩ :
    ∃ last, last = s.spelling.delimiter ++ s.layout.lineEnding.dropLast := ⟨_, rfl⟩
  have hmem : c ∈ last := hlast ▸ List.mem_append_left _ hc
  have hne : dropReturn last ≠ [] := List.ne_nil_of_mem (mem_dropReturn hmem hreturn)
  -- the delimiter is no carriage return, so one that is dropped stands behind something
  rw [continues, ← hlast, Layout.lastLine, Field.memberLine, Spelling.delimit]
  simp only [List.append_assoc]
  rw [← hlast]
  simp only [← List.append_assoc]
  rw [dropReturn_append _ (List.ne_nil_of_mem hmem), isContinued,
    List.getLast?_append_of_ne_nil _ hne, ← isContinued]

/-- The lines of a generated file that are continued, struct by struct. -/
def continuedLines (s : Settings) (d : Struct) : List Line :=
  (if s.continues then d.fields.map (Field.memberLine s.spelling) else []) ++
    d.createTable.flatMap fun _ => d.literalLines

theorem filter_headerLines (hl : s.layout.EndsLines) :
    s.layout.headerLines.filter (fun line => (s.layout.lastLine line).isContinued) = [] := by
  have hincludes : (s.layout.includes.map fun name => (⟨0, "#include <" ++ name ++ ['>']⟩ : Line)
      ).filter (fun line => (s.layout.lastLine line).isContinued) = [] := by
    refine hl.findsBackslash.filter_closed fun line hline => ?_
    obtain ⟨name, -, rfl⟩ := List.mem_map.1 hline
    exact isClosed_append _ rfl
  have hblank := hl.findsBackslash.blank
  rw [Layout.headerLines, List.filter_append, hincludes, List.filter_cons, List.filter_cons, hblank]
  rfl

theorem filter_classLines (hl : s.layout.EndsLines) (hs : s.spelling.Valid) {d : Struct}
    (hd : d.WellFormed s.spelling) :
    (d.classLines s.spelling).filter (fun line => (s.layout.lastLine line).isContinued) =
      s.continuedLines d := by
  have hname : d.typeName.isClosed = true := by
    obtain ⟨hne, hchars⟩ := hd.typeName
    have hlast : isTypeChar (d.typeName.getLast hne) = true := hchars _ (List.getLast_mem hne)
    refine isClosed_iff.2 ⟨_, List.getLast?_eq_some_getLast hne, ?_, ?_⟩
    · intro e
      rw [e] at hlast
      exact absurd hlast (by decide)
    · intro e
      rw [e] at hlast
      exact absurd hlast (by decide)
  have hmembers : (d.fields.map (Field.memberLine s.spelling)).filter
      (fun line => (s.layout.lastLine line).isContinued) =
      if s.continues then d.fields.map (Field.memberLine s.spelling) else [] := by
    have hmember : ∀ line ∈ d.fields.map (Field.memberLine s.spelling),
        (s.layout.lastLine line).isContinued = s.continues := by
      intro line hline
      obtain ⟨f, -, rfl⟩ := List.mem_map.1 hline
      exact isContinued_memberLine hs f
    split
    · next hcontinues =>
      exact List.filter_eq_self.2 fun line hline => (hmember line hline).trans hcontinues
    · next hcontinues =>
      exact List.filter_eq_nil_iff.2 fun line hline => hmember line hline ▸ hcontinues
  rw [Struct.filter_classLines hl.findsBackslash s.spelling hname, hmembers]
  rfl

theorem filter_fileLines (hl : s.layout.EndsLines) (h : s.structs source = .ok structs) :
    (s.layout.fileLines s.spelling structs).filter
      (fun line => (s.layout.lastLine line).isContinued) = structs.flatMap s.continuedLines := by
  obtain ⟨hvalid, hread⟩ := structs_eq_ok h
  rw [Layout.fileLines, List.filter_append, filter_headerLines hl, List.nil_append,
    List.filter_flatMap]
  refine List.flatMap_congr fun d hd => ?_
  have hd' := (Source.isRead_of_structs hread d hd).wellFormed
  have hblank := hl.findsBackslash.blank
  rw [List.filter_append, filter_classLines hl hvalid hd', List.filter_cons, hblank]
  exact List.append_nil _

/-- **Only literals and delimiters continue lines**: the lines of a generated file that end with a
backslash are, struct by struct, its member lines, if the delimiter ends so, and the lines of the
literal in each method that creates its table. -/
theorem continued_generate (hl : s.layout.EndsLines) (h : s.generate source = .ok text) :
    ∃ structs, s.structs source = .ok structs ∧ (lines text).filter isContinued =
      (structs.flatMap s.continuedLines).map s.layout.lastLine := by
  unfold generate at h
  cases hstructs : s.structs source with
  | error failure =>
    rw [hstructs] at h
    cases h
  | ok structs =>
    rw [hstructs] at h
    obtain rfl := Except.ok.inj h
    -- no generated line holds a line feed, whatever the indentation is
    have hone : ∀ line ∈ s.layout.fileLines s.spelling structs, Text.OneLine line.text :=
      oneLine_fileLines (s := { s with layout := { s.layout with indent := [] } })
        ⟨oneLine_nil, hl.includes⟩ hstructs
    refine ⟨structs, rfl, ?_⟩
    rw [generated, hl.filter_lines_render hone, filter_fileLines hl hstructs]

/-- A delimiter that ends with a backslash. -/
def slashed : Settings where
  spelling := { delimiter := "\\" }
  layout := { indent := "  ", lineEnding := ['\n'] }

def slashedSource : Text := "struct T //\\t\\\n\x7b\nint id; //\\INTEGER\\\n\x7d;\n"

def slashedStructs : List Struct :=
  [{ typeName := "T"
     tableName := "t"
     fields := [{ hostType := "int", name := "id", persisted := true, columnType := "INTEGER" }] }]

theorem structs_slashed : slashed.structs slashedSource = .ok slashedStructs := by decide +kernel

theorem generate_slashed :
    slashed.generate slashedSource = .ok (slashed.generated slashedStructs) := by
  rw [generate, structs_slashed]
  rfl

theorem continued_generate_slashed :
    slashed.layout.EndsLines ∧
      slashed.generate slashedSource = .ok (slashed.generated slashedStructs) ∧
      (lines (slashed.generated slashedStructs)).filter isContinued =
        ["  int id;//\\INTEGER,NOT NULL\\",
          "    QString sql = QObject::tr(\"CREATE TABLE IF NOT EXISTS %1 (\\",
          "    id INTEGER NOT NULL \\"].map String.toList := by
  have hindent : Text.OneLine slashed.layout.indent := by decide
  have hends : slashed.layout.EndsLines := by
    refine ⟨.inl rfl, by decide, fun depth t ht => ?_⟩
    rw [Layout.indentLines_eq_nil hindent] at ht
    exact absurd ht List.not_mem_nil
  obtain ⟨structs, hread, hcontinued⟩ := continued_generate hends generate_slashed
  rw [structs_slashed] at hread
  obtain rfl := Except.ok.inj hread
  refine ⟨hends, generate_slashed, hcontinued.trans ?_⟩
  decide +kernel

/-- A comment that ends with a backslash hides the declaration of a flag. -/
theorem member_hidden_slashed :
    slashed.spelling.Valid ∧
      slashed.generate slashedSource = .ok (slashed.generated slashedStructs) ∧
      ((lines (slashed.generated slashedStructs)).drop 9).take 2 =
        ["  int id;//\\INTEGER,NOT NULL\\", "  bool iuq_id;"].map String.toList ∧
      isContinued "  int id;//\\INTEGER,NOT NULL\\" = true := by
  refine ⟨by decide, generate_slashed, ?_, by decide⟩
  decide +kernel

end Settings

end TableBinding
