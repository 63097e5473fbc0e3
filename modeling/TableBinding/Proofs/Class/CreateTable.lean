import TableBinding.Class.Method
import TableBinding.Proofs.Text.Literal

/-!
# The literal of the create builders

A create builder holds the statement that creates the table as one literal over several lines. As it
is read from the generated text, the literal ends where the statement ends, whatever quotes and
backslashes the struct holds, and it stands for the definitions of the table, each in a line of its
own (`Struct.createText`): but for blanks, this is the statement itself
(`Struct.createTable_literal`).

The shape of the argument: the body of such a literal is escaped text with continuations in between
(`Layout.longBody`). No definition holds a line feed (`Struct.not_mem_definitions`), so the
continuations are the only places where they occur, and what is left without them is the escaped
text in one piece (`Layout.without_longBody`).
-/

namespace TableBinding

open Text

/-! ## Literals over several lines -/

namespace Layout

/-- The indentation of a statement in the body of a method. -/
def bodyIndent (l : Layout) : Text := l.indent ++ l.indent

/-- A backslash and the line ending behind it. -/
def continuation (l : Layout) : Text := '\\' :: l.lineEnding

/-- The lines of a long template, as they stand between the quotes. -/
def longBody (l : Layout) (first : Text) (middle : List Text) (last : Text) : Text :=
  (literalBody first :: middle.map fun piece => l.bodyIndent ++ literalBody piece).flatMap
      (· ++ l.continuation) ++ (l.bodyIndent ++ literalBody last)

/-- What a long template stands for. -/
def longText (l : Layout) (first : Text) (middle : List Text) (last : Text) : Text :=
  first ++ middle.flatMap (l.bodyIndent ++ ·) ++ (l.bodyIndent ++ last)

variable {l : Layout}

theorem render_append (l : Layout) (lines more : List Line) :
    l.render (lines ++ more) = l.render lines ++ l.render more :=
  List.flatMap_append

theorem line_two (l : Layout) (t : Text) : l.line ⟨2, t⟩ = l.bodyIndent ++ t ++ l.lineEnding := by
  rw [line, bodyIndent]
  simp [List.replicate]

/-- **A long template as it is written.** -/
theorem render_defineLong (l : Layout) (first : Text) (middle : List Text) (last : Text)
    (operands : List Operand) :
    l.render (Statement.defineLong first middle last operands).lines =
      l.bodyIndent ++ "QString sql = QObject::tr(" ++ '"' :: (l.longBody first middle last ++
        '"' :: (')' :: (fillCalls operands ++ [';']) ++ l.lineEnding)) := by
  have hmiddle : l.render (middle.map fun piece => ⟨2, literalBody piece ++ ['\\']⟩) =
      (middle.map fun piece => l.bodyIndent ++ literalBody piece).flatMap
        (· ++ l.continuation) := by
    rw [render, List.flatMap_map, List.flatMap_map]
    congr 1
    funext piece
    rw [line_two, continuation]
    simp only [List.append_assoc, List.cons_append, List.nil_append]
  have hopen : ("QString sql = QObject::tr(\"" : Text) = "QString sql = QObject::tr(" ++ ['"'] := by
    decide
  have hclose : ("\")" : Text) = ['"', ')'] := by decide
  rw [Statement.lines, render_append, ← List.singleton_append, render_append, hmiddle, longBody,
    List.flatMap_cons, hopen, hclose]
  simp only [render, List.flatMap_cons, List.flatMap_nil, List.append_nil, line_two, continuation,
    List.append_assoc, List.cons_append, List.nil_append]

/-- The layout breaks lines in a way that a literal can be continued over, and indents with blanks,
which may end lines themselves. -/
structure Breaks (l : Layout) : Prop where
  lineEnding : l.lineEnding = ['\n'] ∨ l.lineEnding = ['\r', '\n']
  indent : ∀ c ∈ l.indent, isBlank c = true

namespace Breaks

theorem isBlank_bodyIndent (hl : l.Breaks) : ∀ c ∈ l.bodyIndent, isBlank c = true := by
  intro c hc
  rcases List.mem_append.1 hc with hc | hc
  · exact hl.indent c hc
  · exact hl.indent c hc

theorem plain_bodyIndent (hl : l.Breaks) : ∀ c ∈ l.bodyIndent, ¬(c = '\\' ∨ c = '"') := by
  rintro c hc (rfl | rfl)
  · exact absurd (hl.isBlank_bodyIndent _ hc) (by decide)
  · exact absurd (hl.isBlank_bodyIndent _ hc) (by decide)

theorem endsLine_continuation (hl : l.Breaks) : EndsLine l.continuation := by
  rcases hl.lineEnding with h | h
  · exact ⟨['\\'], by rw [continuation, h]; rfl, by decide⟩
  · exact ⟨['\\', '\r'], by rw [continuation, h]; rfl, by decide⟩

theorem isLiteralBody_continuation (hl : l.Breaks) : IsLiteralBody l.continuation := by
  rcases hl.lineEnding with h | h
  · rw [continuation, h]
    exact .escaped .nil
  · rw [continuation, h]
    exact .escaped (.plain (by decide) .nil)

theorem isLiteralBody_longBody (hl : l.Breaks) (first : Text) (middle : List Text)
    (last : Text) : IsLiteralBody (l.longBody first middle last) := by
  have hpiece : ∀ piece, IsLiteralBody (l.bodyIndent ++ literalBody piece) := fun piece =>
    (IsLiteralBody.of_plain hl.plain_bodyIndent).append (.literalBody piece)
  refine .append (.flatMap_continued ?_ hl.isLiteralBody_continuation) (hpiece last)
  intro chunk hchunk
  rcases List.mem_cons.1 hchunk with rfl | hchunk
  · exact .literalBody first
  · obtain ⟨piece, -, rfl⟩ := List.mem_map.1 hchunk
    exact hpiece piece

/-- **Without its continuations** the body of a long template is the escaped text in one piece. -/
theorem without_longBody (hl : l.Breaks) {first : Text} {middle : List Text} {last : Text}
    (hfirst : '\n' ∉ first) (hmiddle : ∀ piece ∈ middle, '\n' ∉ piece) (hlast : '\n' ∉ last) :
    without l.continuation (l.longBody first middle last) =
      literalBody (l.longText first middle last) := by
  have hescaped : ∀ {t : Text}, '\n' ∉ t → '\n' ∉ literalBody t := by
    intro t ht hmem
    rcases mem_literalBody hmem with h | h
    · exact absurd h (by decide)
    · exact ht h
  -- a line may end in the indentation, but no continuation begins there
  have hpiece : ∀ {t : Text}, '\n' ∉ t → IsUnbroken '\\' (l.bodyIndent ++ literalBody t) := by
    intro t ht
    exact ⟨l.bodyIndent, _, rfl, fun hmem => hl.plain_bodyIndent _ hmem (.inl rfl), hescaped ht⟩
  have hindent : literalBody l.bodyIndent = l.bodyIndent := literalBody_eq_self hl.plain_bodyIndent
  have hpieces : literalBody (middle.flatMap (l.bodyIndent ++ ·)) =
      (middle.map fun piece => l.bodyIndent ++ literalBody piece).flatten := by
    rw [literalBody, List.flatMap_assoc, List.flatten_eq_flatMap, List.flatMap_map]
    congr 1
    funext piece
    exact (literalBody_append l.bodyIndent piece).trans (congrArg (· ++ _) hindent)
  have hchunks : ∀ chunk ∈
      literalBody first :: middle.map fun piece => l.bodyIndent ++ literalBody piece,
      IsUnbroken '\\' chunk := by
    intro chunk hchunk
    rcases List.mem_cons.1 hchunk with rfl | hchunk
    · exact .of_not_mem (hescaped hfirst)
    · obtain ⟨piece, hmem, rfl⟩ := List.mem_map.1 hchunk
      exact hpiece (hmiddle piece hmem)
  have hcontinued := without_continued hl.endsLine_continuation hchunks (hpiece hlast)
  rw [longText, literalBody_append, literalBody_append, literalBody_append, hindent, hpieces]
  exact hcontinued.trans (by rw [List.flatten_cons, List.append_assoc])

end Breaks

/-- The layout breaks lines in a way that a literal can be continued over, and indents with gaps. -/
structure Continues (l : Layout) : Prop where
  lineEnding : l.lineEnding = ['\n'] ∨ l.lineEnding = ['\r', '\n']
  indent : IsGaps l.indent

theorem Continues.breaks (hl : l.Continues) : l.Breaks :=
  ⟨hl.lineEnding, fun c hc => isBlank_of_isGap (hl.indent c hc)⟩

theorem isLiteralBody_longBody (hl : l.Continues) (first : Text) (middle : List Text)
    (last : Text) : IsLiteralBody (l.longBody first middle last) :=
  hl.breaks.isLiteralBody_longBody first middle last

theorem without_longBody (hl : l.Continues) {first : Text} {middle : List Text} {last : Text}
    (hfirst : '\n' ∉ first) (hmiddle : ∀ piece ∈ middle, '\n' ∉ piece) (hlast : '\n' ∉ last) :
    without l.continuation (l.longBody first middle last) =
      literalBody (l.longText first middle last) :=
  hl.breaks.without_longBody hfirst hmiddle hlast

end Layout

/-! ## Characters that no definition has of its own -/

theorem Text.mem_of_mem_trimEnd {c : Char} {t : Text} (h : c ∈ trimEnd t) : c ∈ t :=
  (List.rdropWhile_prefix isBlank t).mem h

theorem Text.not_mem_padEnd {c : Char} {t : Text} (hc : c ≠ ' ') (width : Nat) (ht : c ∉ t) :
    c ∉ padEnd width t :=
  List.not_mem_append ht fun hmem => hc (List.eq_of_mem_replicate hmem)

theorem Text.not_mem_padStart {c : Char} {t : Text} (hc : c ≠ ' ') (width : Nat) (ht : c ∉ t) :
    c ∉ padStart width t :=
  List.not_mem_append (fun hmem => hc (List.eq_of_mem_replicate hmem)) ht

namespace Field

variable {c : Char} {f : Field}

/-- The definition up to the other options of the column. -/
def definitionFront (width : Nat) (inlineKey : Bool) (f : Field) : Text :=
  padEnd width f.name ++ [' '] ++ padEnd 7 f.columnType ++ [' '] ++ padStart 8 f.nullConstraint ++
    if inlineKey && f.primaryKey then (" PRIMARY KEY" : Text) else []

theorem definition_eq (width : Nat) (inlineKey : Bool) (f : Field) :
    f.definition width inlineKey =
      trimEnd (f.definitionFront width inlineKey ++ f.extras.flatMap (' ' :: ·)) := rfl

/-- The definition has no characters but those of the column and of the keywords. -/
theorem not_mem_definitionFront (hnull : c ∉ ("NOT NULL" : Text))
    (hkey : c ∉ ("PRIMARY KEY" : Text)) (width : Nat) (inlineKey : Bool) (hname : c ∉ f.name)
    (htype : c ∉ f.columnType) : c ∉ f.definitionFront width inlineKey := by
  have hspace : c ≠ ' ' := fun e => hnull (e ▸ by decide)
  have hgap : c ∉ [' '] := fun hmem => hspace (List.mem_singleton.1 hmem)
  have hconstraint : c ∉ f.nullConstraint := by
    unfold nullConstraint
    split
    · split
      · exact fun hmem => hnull (List.mem_append_right ("NOT " : Text) hmem)
      · exact hnull
    · exact List.not_mem_nil
  have hinline : c ∉ (if inlineKey && f.primaryKey then (" PRIMARY KEY" : Text) else []) := by
    split
    · exact List.not_mem_append hgap hkey
    · exact List.not_mem_nil
  have hnamed := List.not_mem_append (not_mem_padEnd hspace width hname) hgap
  have htyped := List.not_mem_append hnamed (not_mem_padEnd hspace 7 htype)
  have hconstrained := List.not_mem_append (List.not_mem_append htyped hgap)
    (not_mem_padStart hspace 8 hconstraint)
  exact List.not_mem_append hconstrained hinline

/-- **A definition holds no line feed**, if the field does not. -/
theorem not_mem_definition (width : Nat) (inlineKey : Bool) (hname : '\n' ∉ f.name)
    (htype : '\n' ∉ f.columnType) (hextras : ∀ e ∈ f.extras, '\n' ∉ e) :
    '\n' ∉ f.definition width inlineKey := by
  have hfront := f.not_mem_definitionFront (by decide) (by decide) width inlineKey hname htype
  have hextra : '\n' ∉ f.extras.flatMap (' ' :: ·) := by
    intro hmem
    obtain ⟨e, he, hmem⟩ := List.mem_flatMap.1 hmem
    rcases List.mem_cons.1 hmem with h | h
    · exact absurd h (by decide)
    · exact hextras e he h
  intro hmem
  exact List.not_mem_append hfront hextra (mem_of_mem_trimEnd hmem)

end Field

theorem not_mem_keyDefinition {c : Char} {names : List Text}
    (hkey : c ∉ ("PRIMARY KEY(,)" : Text)) (hnames : ∀ name ∈ names, c ∉ name) :
    c ∉ keyDefinition names := by
  have hopen : c ∉ ("PRIMARY KEY(" : Text) := fun hmem =>
    hkey (List.mem_append_left (",)" : Text) hmem)
  have hcomma : c ∉ [','] := fun hmem => hkey (List.mem_singleton.1 hmem ▸ by decide)
  have hclose : c ∉ [')'] := fun hmem => hkey (List.mem_singleton.1 hmem ▸ by decide)
  have hjoined : c ∉ join [','] names := by
    intro hmem
    rcases mem_join hmem with h | ⟨name, hname, h⟩
    · exact hcomma h
    · exact hnames name hname h
  exact List.not_mem_append (List.not_mem_append hopen hjoined) hclose

namespace Struct

/-- Every text of the struct. -/
def texts (d : Struct) : List Text :=
  d.typeName :: d.tableName ::
    d.fields.flatMap fun f => f.hostType :: f.name :: f.columnType :: f.extras

variable {l : Layout} {d : Struct}

/-- No definition holds a line feed, if no column does. -/
theorem not_mem_definitions_of_columns (hd : ∀ f ∈ d.columns,
      '\n' ∉ f.name ∧ '\n' ∉ f.columnType ∧ ∀ e ∈ f.extras, '\n' ∉ e) :
    ∀ definition ∈ d.definitions, '\n' ∉ definition := by
  intro definition hdefinition
  rcases List.mem_append.1 hdefinition with hcolumn | hkey
  · obtain ⟨f, hf, rfl⟩ := List.mem_map.1 hcolumn
    obtain ⟨hname, htype, hextras⟩ := hd f hf
    exact Field.not_mem_definition _ _ hname htype hextras
  · split at hkey
    · cases List.mem_singleton.1 hkey
      refine not_mem_keyDefinition (by decide) ?_
      intro name hname
      obtain ⟨f, hf, rfl⟩ := List.mem_map.1 hname
      exact (hd f (List.mem_filter.1 hf).1).1
    · cases hkey

theorem not_mem_definitions (hd : ∀ t ∈ d.texts, '\n' ∉ t) :
    ∀ definition ∈ d.definitions, '\n' ∉ definition := by
  refine not_mem_definitions_of_columns ?_
  intro f hf
  have hmem : ∀ t ∈ f.hostType :: f.name :: f.columnType :: f.extras, t ∈ d.texts := by
    intro t ht
    have hall : t ∈ d.fields.flatMap fun f => f.hostType :: f.name :: f.columnType :: f.extras :=
      List.mem_flatMap.2 ⟨f, (List.mem_filter.1 hf).1, ht⟩
    exact List.mem_cons_of_mem _ (List.mem_cons_of_mem _ hall)
  refine ⟨hd _ (hmem _ (by simp)), hd _ (hmem _ (by simp)), ?_⟩
  intro e he
  exact hd _ (hmem _ (by simp [he]))

/-! ## The statement in the literal -/

/-- What the literal of a create builder stands for: every definition on a line of its own, all but
the last with a comma behind. -/
def createText (l : Layout) (d : Struct) : Text :=
  "CREATE TABLE IF NOT EXISTS %1 (" ++
    d.definitions.dropLast.flatMap
      (fun definition => l.indent ++ l.indent ++ definition ++ [',']) ++
    d.definitions.getLast?.toList.flatMap
      (fun definition => l.indent ++ l.indent ++ definition ++ [' ']) ++
    (l.indent ++ l.indent ++ "  )")

theorem separated_eq (definitions : List Text) :
    separated definitions =
      definitions.dropLast.map (· ++ [',']) ++ definitions.getLast?.toList.map (· ++ [' ']) := by
  fun_induction separated definitions with
  | case1 => rfl
  | case2 last => rfl
  | case3 entry next rest ih =>
    rw [ih, List.dropLast_cons_cons, List.getLast?_cons_cons, List.map_cons, List.cons_append]

theorem not_mem_separated {definitions : List Text}
    (h : ∀ definition ∈ definitions, '\n' ∉ definition) :
    ∀ entry ∈ separated definitions, '\n' ∉ entry := by
  have hcomma : '\n' ∉ [','] := by decide
  have hspace : '\n' ∉ [' '] := by decide
  intro entry hentry
  rw [separated_eq] at hentry
  rcases List.mem_append.1 hentry with hentry | hentry
  · obtain ⟨definition, hdefinition, rfl⟩ := List.mem_map.1 hentry
    exact List.not_mem_append (h _ (List.mem_of_mem_dropLast hdefinition)) hcomma
  · obtain ⟨definition, hdefinition, rfl⟩ := List.mem_map.1 hentry
    exact List.not_mem_append (h _ (List.mem_of_getLast? (Option.mem_toList.1 hdefinition))) hspace

theorem longText_separated (l : Layout) (first last : Text) (definitions : List Text) :
    l.longText first (separated definitions) last =
      first ++
        definitions.dropLast.flatMap
          (fun definition => l.indent ++ l.indent ++ definition ++ [',']) ++
        definitions.getLast?.toList.flatMap
          (fun definition => l.indent ++ l.indent ++ definition ++ [' ']) ++
        (l.indent ++ l.indent ++ last) := by
  rw [Layout.longText, separated_eq, List.flatMap_append, List.flatMap_map, List.flatMap_map,
    Layout.bodyIndent]
  simp only [List.append_assoc]

/-- A create builder demands the flag of the field that holds the table's name, if it is about that
table, and holds the literal. -/
theorem exists_of_mem_createTable {m : Method} (hd : d.definitions ≠ []) (h : m ∈ d.createTable) :
    ∃ (demands : List Statement) (table : TableRef),
      (∀ demand ∈ demands, ∃ flag ∈ d.redirection?, demand = .demand flag) ∧
      m.body = demands ++ [.defineLong "CREATE TABLE IF NOT EXISTS %1 (" (separated d.definitions)
        "  )" [.table table], .giveSql] := by
  have hempty : ¬ d.definitions.isEmpty = true := fun e => hd (List.isEmpty_iff.1 e)
  rcases List.mem_cons.1 h with rfl | h
  · refine ⟨[], .fixed, fun _ hdemand => absurd hdemand List.not_mem_nil, ?_⟩
    simp only [if_neg hempty, List.nil_append, List.cons_append]
  · obtain ⟨flag, hflag, rfl⟩ := List.mem_map.1 h
    refine ⟨[.demand flag], .chosen, ?_, ?_⟩
    · intro demand hdemand
      exact ⟨flag, Option.mem_toList.1 hflag, List.mem_singleton.1 hdemand⟩
    · simp only [if_neg hempty, List.cons_append, List.nil_append]

end Struct

/-! ## Without blanks -/

/-- The text without its blanks. -/
def Text.dense (t : Text) : Text := t.filter fun c => !isBlank c

theorem Text.dense_append (t u : Text) : dense (t ++ u) = dense t ++ dense u :=
  List.filter_append t u

theorem Text.dense_flatMap (ts : List Text) (f : Text → Text) :
    dense (ts.flatMap f) = ts.flatMap fun t => dense (f t) :=
  List.filter_flatMap

theorem Text.dense_of_blank {t : Text} (h : ∀ c ∈ t, isBlank c = true) : dense t = [] := by
  refine List.filter_eq_nil_iff.2 ?_
  intro c hc
  simp [h c hc]

theorem Text.dense_join (ts : List Text) :
    dense (join ", " ts) =
      ts.dropLast.flatMap (fun t => dense t ++ [',']) ++ ts.getLast?.toList.flatMap dense := by
  have hcomma : dense ", " = [','] := by decide
  fun_induction join ", " ts with
  | case1 => rfl
  | case2 t => exact (List.append_nil _).symm
  | case3 t u rest ih =>
    rw [dense_append, dense_append, ih, hcomma, List.dropLast_cons_cons, List.getLast?_cons_cons,
      List.flatMap_cons]
    simp only [List.append_assoc]

namespace Struct

variable {l : Layout} {d : Struct}

/-- But for blanks, the definitions on lines of their own are the definitions joined by commas. -/
theorem dense_longText_separated (hl : l.Breaks) (first last : Text) (definitions : List Text) :
    dense (l.longText first (separated definitions) last) =
      dense first ++ dense (join ", " definitions) ++ dense last := by
  have hindent : dense l.indent = [] := dense_of_blank hl.indent
  have hcomma : dense [','] = [','] := by decide
  have hspace : dense [' '] = [] := by decide
  rw [longText_separated, dense_join]
  simp only [dense_append, dense_flatMap, hindent, hcomma, hspace, List.nil_append, List.append_nil,
    List.append_assoc]

/-- **But for blanks, the literal is the statement.** -/
theorem dense_createText_of_breaks (hl : l.Breaks) (d : Struct) :
    dense (d.createText l) = dense (d.createStatement "%1") := by
  have hopen : dense "CREATE TABLE IF NOT EXISTS %1 (" =
      dense ("CREATE TABLE IF NOT EXISTS " ++ "%1" ++ " (") := by decide
  have hclose : dense "  )" = dense [')'] := by decide
  have hjoined : ∀ first last : Text, dense first ++ dense (join ", " d.definitions) ++ dense last =
      dense (first ++ join ", " d.definitions ++ last) := by
    intro first last
    rw [dense_append, dense_append]
  calc dense (d.createText l)
      = dense (l.longText "CREATE TABLE IF NOT EXISTS %1 (" (separated d.definitions) "  )") :=
        congrArg dense (longText_separated l _ _ d.definitions).symm
    _ = dense "CREATE TABLE IF NOT EXISTS %1 (" ++ dense (join ", " d.definitions) ++ dense "  )" :=
        dense_longText_separated hl _ _ d.definitions
    _ = dense ("CREATE TABLE IF NOT EXISTS " ++ "%1" ++ " (") ++ dense (join ", " d.definitions) ++
          dense [')'] := congrArg₂ (· ++ dense (join ", " d.definitions) ++ ·) hopen hclose
    _ = dense (d.createStatement "%1") := hjoined _ _

theorem dense_createText (hl : l.Continues) (d : Struct) :
    dense (d.createText l) = dense (d.createStatement "%1") :=
  dense_createText_of_breaks hl.breaks d

theorem definitions_ne_nil (h : ∃ f ∈ d.fields, f.persisted = true) : d.definitions ≠ [] := by
  obtain ⟨f, hf, hpersisted⟩ := h
  have hcolumn : f ∈ d.columns := List.mem_filter.2 ⟨hf, hpersisted⟩
  refine List.append_ne_nil_of_left_ne_nil ?_ _
  intro hnil
  exact List.ne_nil_of_mem hcolumn (List.map_eq_nil_iff.1 hnil)

/-- **The text of a method that holds the literal**, up to the literal and behind it. -/
theorem render_lines_of_body {m : Method} {demands : List Statement} {first last : Text}
    {middle : List Text} {table : TableRef}
    (hbody : m.body = demands ++ [.defineLong first middle last [.table table], .giveSql]) :
    ∃ after, l.render m.lines =
      l.render (⟨1, m.signature⟩ :: ⟨1, "\x7b"⟩ :: demands.flatMap Statement.lines) ++
        (l.indent ++ l.indent ++ "QString sql = QObject::tr(" ++
          '"' :: (l.longBody first middle last ++ '"' :: (").QString::arg(" ++ after))) := by
  -- the closing quote and the parenthesis behind it belong to the last line of the template
  have harg : (").QString::arg(" : Text) = ')' :: ".QString::arg(" := by decide
  have hcall : (Operand.table table).expr = table.call := rfl
  refine ⟨table.call ++ (')' :: ';' :: l.lineEnding) ++
    l.render (Statement.giveSql.lines ++ [⟨1, "\x7d;"⟩]), ?_⟩
  rw [Method.lines, hbody, List.flatMap_append, List.flatMap_cons, List.flatMap_singleton]
  simp only [List.cons_append, List.nil_append, List.append_assoc]
  rw [← List.cons_append, ← List.cons_append, Layout.render_append, Layout.render_append,
    Layout.render_defineLong, harg, fillCalls, List.flatMap_singleton, hcall,
    Layout.bodyIndent]
  simp only [List.append_assoc, List.cons_append, List.nil_append]

/-- **The literal of a create builder** ends in front of the call that fills in the table, and stands
for the definitions of the table; but for blanks, for the statement that creates it. -/
theorem createTable_literal (hcolumn : ∃ f ∈ d.fields, f.persisted = true)
    (hd : ∀ t ∈ d.texts, '\n' ∉ t) (hl : l.Continues) :
    (∀ m ∈ d.createTable, ∃ (demands : List Statement) (body after : Text),
      (∀ demand ∈ demands, ∃ flag ∈ d.redirection?, demand = .demand flag) ∧
      l.render m.lines =
        l.render (⟨1, m.signature⟩ :: ⟨1, "\x7b"⟩ :: demands.flatMap Statement.lines) ++
          (l.indent ++ l.indent ++ "QString sql = QObject::tr(" ++
            '"' :: (body ++ '"' :: (").QString::arg(" ++ after))) ∧
      literalAt? (body ++ '"' :: (").QString::arg(" ++ after)) =
        some (body, ").QString::arg(" ++ after) ∧
      unescape (without ('\\' :: l.lineEnding) body) = some (d.createText l)) ∧
    dense (d.createText l) = dense (d.createStatement "%1") := by
  refine ⟨?_, dense_createText hl d⟩
  intro m hm
  obtain ⟨demands, table, hdemands, hbody⟩ :=
    exists_of_mem_createTable (definitions_ne_nil hcolumn) hm
  obtain ⟨after, htext⟩ := render_lines_of_body (l := l) hbody
  have hentries : ∀ entry ∈ separated d.definitions, '\n' ∉ entry := by
    intro entry hentry
    rw [separated_eq] at hentry
    rcases List.mem_append.1 hentry with hentry | hentry
    · obtain ⟨definition, hdefinition, rfl⟩ := List.mem_map.1 hentry
      have hmem := List.mem_of_mem_dropLast hdefinition
      exact List.not_mem_append (not_mem_definitions hd _ hmem) (by decide)
    · obtain ⟨definition, hdefinition, rfl⟩ := List.mem_map.1 hentry
      have hmem := List.mem_of_getLast? (Option.mem_toList.1 hdefinition)
      exact List.not_mem_append (not_mem_definitions hd _ hmem) (by decide)
  have hdecoded : without l.continuation
        (l.longBody "CREATE TABLE IF NOT EXISTS %1 (" (separated d.definitions) "  )") =
      literalBody (l.longText "CREATE TABLE IF NOT EXISTS %1 (" (separated d.definitions) "  )") :=
    Layout.without_longBody hl (by decide) hentries (by decide)
  refine ⟨demands, _, after, hdemands, htext, ?_, ?_⟩
  · exact (Layout.isLiteralBody_longBody hl _ _ _).literalAt?_eq _
  · show unescape (without l.continuation _) = _
    rw [hdecoded, unescape_literalBody, longText_separated]
    rfl

/-- A struct whose definitions hold quotes and end in backslashes. -/
def quoted : Struct where
  typeName := "Q"
  tableName := "q"
  fields :=
    [{ hostType := "int", name := "a\\", persisted := true, columnType := "INTEGER",
       primaryKey := true, extras := ["\\"] },
      { hostType := "QString", name := "b", persisted := true, columnType := "TEXT",
        nullable := true, primaryKey := true, extras := ["DEFAULT \"\\\""] },
      { hostType := "QString", name := "t", namesTable := true }]

/-- What its literal stands for. -/
def quotedText : Text :=
  [("CREATE TABLE IF NOT EXISTS %1 (" : String),
    "        a\\ INTEGER NOT NULL \\,",
    "        b  TEXT        NULL DEFAULT \"\\\",",
    "        PRIMARY KEY(a\\,b) ",
    "          )"].flatMap String.toList

theorem createTable_literal_quoted :
    quoted.createTable.length = 2 ∧
      (∀ m ∈ quoted.createTable, ∃ before body after : Text,
        Layout.render {} m.lines = before ++ '"' :: (body ++ '"' :: (").QString::arg(" ++ after)) ∧
        literalAt? (body ++ '"' :: (").QString::arg(" ++ after)) =
          some (body, ").QString::arg(" ++ after) ∧
        unescape (without "\\\r\n" body) = some quotedText) ∧
      dense quotedText = dense (quoted.createStatement "%1") := by
  have hcolumn : ∃ f ∈ quoted.fields, f.persisted = true := by decide
  have htexts : ∀ t ∈ quoted.texts, '\n' ∉ t := by decide +kernel
  have hgaps : ("    " : Text).all isGap = true := by decide
  have hcontinues : ({} : Layout).Continues := ⟨.inr rfl, List.all_eq_true.1 hgaps⟩
  have htext : quoted.createText {} = quotedText := by decide +kernel
  obtain ⟨hread, hdense⟩ := createTable_literal hcolumn htexts hcontinues
  refine ⟨rfl, ?_, htext ▸ hdense⟩
  intro m hm
  obtain ⟨demands, body, after, -, hrender, hliteral, hbody⟩ := hread m hm
  rw [← List.append_assoc] at hrender
  exact ⟨_, body, after, hrender, hliteral, hbody.trans (congrArg some htext)⟩

end Struct

end TableBinding
