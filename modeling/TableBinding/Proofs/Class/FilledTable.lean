import TableBinding.Proofs.Annotation.CanonicalFile
import TableBinding.Proofs.Class.CreateTable
import TableBinding.Proofs.Text.PlaceMarks

/-!
# The create builder with its table filled in

The literal of the create builder is a template whose first place mark stands for the table's name.
The other options of the columns stand in it as they were written, and nothing protects a percent
sign in them. So filling in a table gives the statement that creates the table exactly if no option
has a place mark of the same number (`Struct.createTable_filled`); where one has, the table's name
gets into that option as well (`Struct.createTable_filled_remainder`).

The shape of the argument: the definitions have no place marks but those of the options, and what
stands between the options keeps these apart (`Struct.marks_createRest`). Behind the table's name
the template is filled like any other text, and that changes it, blanks apart, exactly if it has a
mark of that number (`Text.dense_fill_eq_iff`).
-/

namespace TableBinding

open Text

/-! ## What filling changes -/

namespace Text

/-- Filled with nothing, a template gets no longer. -/
theorem length_dense_fill_le {value : Text} (hvalue : dense value = []) (n : Nat)
    (ps : List Part) :
    (dense (ps.flatMap (Part.fill n value))).length ≤ (dense (ps.flatMap Part.text)).length := by
  induction ps with
  | nil => exact Nat.le_refl _
  | cons p ps ih =>
    have hpart : (dense (p.fill n value)).length ≤ (dense p.text).length := by
      unfold Part.fill
      split
      · rw [hvalue]
        exact Nat.zero_le _
      · exact Nat.le_refl _
    rw [List.flatMap_cons, List.flatMap_cons, dense_append, dense_append, List.length_append,
      List.length_append]
    exact Nat.add_le_add hpart ih

/-- The part that stands for a number is written with a percent sign. -/
theorem Part.exists_dense_text {p : Part} {n : Nat} (h : p.number? = some n) :
    ∃ t, dense p.text = '%' :: t := by
  cases p with
  | char c => cases h
  | mark digits => exact ⟨dense digits, rfl⟩

/-- **Filling in a value changes a template, blanks apart, exactly if it has a mark of that
number**, provided that the value does not begin like a mark. -/
theorem dense_fill_eq_iff {value : Text} (hvalue : (dense value).head? ≠ some '%') (n : Nat)
    (t : Text) : dense (fill n value t) = dense t ↔ n ∉ marks t := by
  have hparts : ∀ ps : List Part, dense (ps.flatMap (Part.fill n value)) =
      dense (ps.flatMap Part.text) ↔ n ∉ ps.filterMap Part.number? := by
    intro ps
    induction ps with
    | nil => exact iff_of_true rfl List.not_mem_nil
    | cons p ps ih =>
      rw [List.flatMap_cons, List.flatMap_cons, dense_append, dense_append, List.filterMap_cons]
      by_cases hp : p.number? = some n
      · -- the value and the mark begin differently, or the value adds nothing
        obtain ⟨mark, hmark⟩ := Part.exists_dense_text hp
        rw [Part.fill, if_pos hp, hp, hmark]
        refine iff_of_false ?_ fun h => h (List.mem_cons_self ..)
        intro heq
        cases hdense : dense value with
        | nil =>
          have hle := length_dense_fill_le hdense n ps
          have hlength := congrArg List.length heq
          rw [hdense] at hlength
          simp only [List.nil_append, List.cons_append, List.length_cons,
            List.length_append] at hlength
          omega
        | cons c rest =>
          rw [hdense] at heq hvalue
          exact hvalue (congrArg some (List.cons.inj heq).1)
      · rw [Part.fill, if_neg hp, List.append_right_inj, ih]
        cases hnumber : p.number? with
        | none => rfl
        | some m =>
          have hne : n ≠ m := fun e => hp (e ▸ hnumber)
          rw [List.mem_cons, not_or]
          exact ⟨fun h => ⟨hne, h⟩, fun h => h.2⟩
  have htext := hparts (parts t)
  rwa [parts_text] at htext

end Text

/-! ## The marks of a table -/

theorem Text.isDigit_eq_false_of_isBlank {c : Char} (h : isBlank c = true) : c.isDigit = false := by
  refine Bool.eq_false_iff.2 fun hdigit => ?_
  have htype : isTypeChar c = true := by
    rw [isTypeChar, Char.isAlphanum, hdigit, Bool.or_true]
    rfl
  exact Bool.eq_false_iff.1 (isBlank_eq_false_of_isTypeChar htype) h

theorem Text.marks_trimEnd (t : Text) : marks (trimEnd t) = marks t := by
  have hblank : ∀ c ∈ t.rtakeWhile isBlank, isBlank c = true := fun c => List.mem_rtakeWhile_imp
  have hhead : NoDigitHead (t.rtakeWhile isBlank) := fun c hc =>
    isDigit_eq_false_of_isBlank (hblank c (List.mem_of_mem_head? hc))
  have hpercent : '%' ∉ t.rtakeWhile isBlank := fun hmem => absurd (hblank _ hmem) (by decide)
  calc marks (trimEnd t)
      = marks (t.rdropWhile isBlank) ++ marks (t.rtakeWhile isBlank) := by
        rw [marks_of_not_mem hpercent, List.append_nil]
        rfl
    _ = marks t := by rw [← marks_append hhead, List.rdropWhile_append_rtakeWhile]

theorem Field.marks_extras (extras : List Text) :
    marks (extras.flatMap (' ' :: ·)) = extras.flatMap marks := by
  induction extras with
  | nil => rfl
  | cons e extras ih =>
    have hhead : NoDigitHead (extras.flatMap (' ' :: ·)) := by
      cases extras with
      | nil =>
        intro c hc
        cases hc
      | cons e extras =>
        intro c hc
        cases hc
        rfl
    rw [List.flatMap_cons, List.flatMap_cons, marks_append hhead, marks_cons (by decide), ih]

/-- **The marks of a definition** are those of the column's other options. -/
theorem Field.marks_definition {f : Field} (width : Nat) (inlineKey : Bool)
    (hname : '%' ∉ f.name) (htype : '%' ∉ f.columnType) :
    marks (f.definition width inlineKey) = f.extras.flatMap marks := by
  have hfront := f.not_mem_definitionFront (by decide) (by decide) width inlineKey hname htype
  rw [definition_eq, marks_trimEnd, marks_append_of_not_mem hfront, marks_extras]

/-- Definitions in lines of their own have the marks that they have. -/
theorem Struct.marks_separated {gap : Text} (hgap : '%' ∉ gap) (definitions : List Text)
    (after : Text) :
    marks ((separated definitions).flatMap (gap ++ ·) ++ after) =
      definitions.flatMap marks ++ marks after := by
  have hcut : ∀ (t : Text) (separator : Char) (rest : Text), separator.isDigit = false →
      separator ≠ '%' →
      marks (gap ++ (t ++ [separator]) ++ rest) = marks t ++ marks rest := by
    intro t separator rest hdigit hseparator
    rw [List.append_assoc, List.append_assoc, marks_append_of_not_mem hgap, List.singleton_append,
      marks_append_cons hdigit hseparator]
  fun_induction separated definitions with
  | case1 => rfl
  | case2 last =>
    rw [List.flatMap_singleton, List.flatMap_singleton, hcut _ _ _ (by decide) (by decide)]
  | case3 entry next rest ih =>
    rw [List.flatMap_cons, List.append_assoc, hcut _ _ _ (by decide) (by decide), ih,
      List.flatMap_cons (x := entry), List.append_assoc]

namespace Struct

variable {l : Layout} {d : Struct}

/-- What stands behind the table's place in the literal of a create builder. -/
def createRest (l : Layout) (d : Struct) : Text :=
  " (" ++ (separated d.definitions).flatMap (l.bodyIndent ++ ·) ++ (l.bodyIndent ++ "  )")

theorem createText_eq (l : Layout) (d : Struct) :
    d.createText l = "CREATE TABLE IF NOT EXISTS " ++ ("%1" ++ d.createRest l) := by
  have hopen : ("CREATE TABLE IF NOT EXISTS %1 (" : Text) =
      "CREATE TABLE IF NOT EXISTS " ++ ("%1" ++ " (") := by decide
  have htext : d.createText l =
      l.longText "CREATE TABLE IF NOT EXISTS %1 (" (separated d.definitions) "  )" :=
    (longText_separated l _ _ d.definitions).symm
  rw [htext, Layout.longText, hopen, createRest]
  simp only [List.append_assoc]

/-- The columns are named and typed without percent signs. -/
def IsPlain (d : Struct) : Prop := ∀ f ∈ d.columns, '%' ∉ f.name ∧ '%' ∉ f.columnType

/-- **The marks behind the table's place** are those of the columns' other options. -/
theorem marks_createRest (hl : l.Breaks) (hd : d.IsPlain) :
    marks (d.createRest l) = d.columns.flatMap fun f => f.extras.flatMap marks := by
  have hopen : '%' ∉ (" (" : Text) := by decide
  have hindent : '%' ∉ l.bodyIndent := fun hmem =>
    absurd (hl.isBlank_bodyIndent _ hmem) (by decide)
  have hclose : '%' ∉ l.bodyIndent ++ ("  )" : Text) := List.not_mem_append hindent (by decide)
  have hcolumns : (d.columns.map (Field.definition d.nameWidth d.hasInlineKey)).flatMap marks =
      d.columns.flatMap fun f => f.extras.flatMap marks := by
    rw [List.flatMap_map, List.flatMap_def, List.flatMap_def]
    congr 1
    refine List.map_congr_left ?_
    intro f hf
    exact Field.marks_definition _ _ (hd f hf).1 (hd f hf).2
  have hkey : (if 2 ≤ d.keyNames.length then [keyDefinition d.keyNames] else []).flatMap marks =
      [] := by
    split
    · have hnames : ∀ name ∈ d.keyNames, '%' ∉ name := by
        intro name hname
        obtain ⟨f, hf, rfl⟩ := List.mem_map.1 hname
        exact (hd f (List.mem_filter.1 hf).1).1
      rw [List.flatMap_singleton, marks_of_not_mem (not_mem_keyDefinition (by decide) hnames)]
    · rfl
  rw [createRest, List.append_assoc, marks_append_of_not_mem hopen, marks_separated hindent,
    marks_of_not_mem hclose, List.append_nil, definitions, List.flatMap_append, hcolumns, hkey,
    List.append_nil]

theorem noDigitHead_createRest (l : Layout) (d : Struct) : NoDigitHead (d.createRest l) := by
  intro c hc
  cases hc
  rfl

/-- **The lowest mark of the literal is the table's**: filling it in puts the table's name there,
and at the marks of the same number behind it. -/
theorem fillLowest_createText (table : Text) (l : Layout) (d : Struct) :
    fillLowest table (d.createText l) =
      "CREATE TABLE IF NOT EXISTS " ++ (table ++ fill 1 table (d.createRest l)) := by
  have hopen : '%' ∉ ("CREATE TABLE IF NOT EXISTS " : Text) := by decide
  have hmark : NoDigitHead (("%1" : Text) ++ d.createRest l) := by
    intro c hc
    cases hc
    rfl
  have hrest := noDigitHead_createRest l d
  have hmarks : marks (d.createText l) = 1 :: marks (d.createRest l) := by
    rw [createText_eq, marks_append_of_not_mem hopen, marks_append hrest]
    rfl
  have hmem : 1 ∈ marks (d.createText l) := hmarks ▸ List.mem_cons_self ..
  have hopened : fill 1 table "CREATE TABLE IF NOT EXISTS " = "CREATE TABLE IF NOT EXISTS " :=
    fill_of_not_mem table (by rw [marks_of_not_mem hopen]; exact List.not_mem_nil)
  have hfilled : fill 1 table "%1" = table := List.append_nil table
  rw [fillLowest_eq table hmem fun n hn => one_le_of_mem_marks hn, createText_eq,
    fill_append 1 table hmark, fill_append 1 table hrest, hopened, hfilled]

theorem exists_createStatement_eq (d : Struct) : ∃ rest, ∀ name : Text,
    d.createStatement name = "CREATE TABLE IF NOT EXISTS " ++ (name ++ rest) := by
  refine ⟨(" (" : Text) ++ join ", " d.definitions ++ [')'], fun name => ?_⟩
  unfold createStatement
  simp only [List.append_assoc]

/-- **The literal with the table filled in is the statement**, blanks apart, exactly if no option of
a column has a mark of the table's number. -/
theorem dense_fillLowest_eq_iff (hl : l.Breaks) (hd : d.IsPlain) {table : Text}
    (htable : '%' ∉ table) :
    dense (fillLowest table (d.createText l)) = dense (d.createStatement table) ↔
      ∀ f ∈ d.columns, ∀ e ∈ f.extras, 1 ∉ marks e := by
  obtain ⟨rest, hstatement⟩ := exists_createStatement_eq d
  have hsplit : ∀ front name rest : Text,
      dense (front ++ (name ++ rest)) = dense front ++ (dense name ++ dense rest) := by
    intro front name rest
    rw [dense_append, dense_append]
  have hrest : dense (d.createRest l) = dense rest := by
    have hboth := dense_createText_of_breaks hl d
    rw [createText_eq, hstatement, hsplit, hsplit] at hboth
    exact List.append_cancel_left (List.append_cancel_left hboth)
  have hmarks : 1 ∉ marks (d.createRest l) ↔ ∀ f ∈ d.columns, ∀ e ∈ f.extras, 1 ∉ marks e := by
    rw [marks_createRest hl hd]
    simp only [List.mem_flatMap, not_exists, not_and]
  have hhead : (dense table).head? ≠ some '%' := fun h =>
    htable (List.mem_of_mem_filter (List.mem_of_mem_head? h))
  rw [fillLowest_createText, hstatement, hsplit, hsplit, List.append_right_inj,
    List.append_right_inj, ← hrest, dense_fill_eq_iff hhead, hmarks]

/-! ## The emitted builder -/

/-- What a struct that was read by default spells in its columns. -/
theorem isPlain_of_structs {source : Text} {structs : List Struct}
    (h : Source.structs {} source = .ok structs) (hd : d ∈ structs) :
    d.IsPlain ∧ ∀ f ∈ d.columns, '\n' ∉ f.name ∧ '\n' ∉ f.columnType ∧
      ∀ e ∈ f.extras, '\n' ∉ e := by
  have hformed := (Source.isRead_of_structs h d hd).wellFormed
  have hcolumn : ∀ f ∈ d.columns, f.WellFormed {} ∧ f.IsColumn {} := by
    intro f hf
    obtain ⟨hmem, hpersisted⟩ := List.mem_filter.1 hf
    exact ⟨hformed.fields f hmem, (hformed.fields f hmem).column hpersisted⟩
  have htypes : ∀ t ∈ ({} : Spelling).datatypes, '%' ∉ t ∧ '\n' ∉ t := by decide
  have hname : ∀ {f : Field} {c : Char}, f.WellFormed {} → isIdentRest c = false → c ∉ f.name := by
    intro f c hf hc hmem
    exact Bool.eq_false_iff.1 hc ((mem_isIdent hf.name).2 c hmem)
  refine ⟨fun f hf => ?_, fun f hf => ?_⟩
  · obtain ⟨hformed, hcol⟩ := hcolumn f hf
    exact ⟨hname hformed (by decide), (htypes _ hcol.columnType).1⟩
  · obtain ⟨hformed, hcol⟩ := hcolumn f hf
    exact ⟨hname hformed (by decide), (htypes _ hcol.columnType).2,
      fun e he => (hcol.extras e he).noLineFeed⟩

/-- The create builder of the struct's own table. -/
def staticCreate (d : Struct) : Method where
  signature := Binding.classLevel.signature "create_table_sql" []
  body := [.defineLong "CREATE TABLE IF NOT EXISTS %1 (" (separated d.definitions) "  )"
    [.table .fixed], .giveSql]

theorem staticCreate_mem (h : d.definitions ≠ []) : d.staticCreate ∈ d.methods := by
  have hempty : ¬ d.definitions.isEmpty = true := fun e => h (List.isEmpty_iff.1 e)
  have hcreate : d.staticCreate ∈ d.createTable := by
    rw [createTable, builders, if_neg hempty]
    exact List.mem_cons_self ..
  unfold methods
  simp only [List.mem_append, hcreate, true_or, or_true]

theorem staticCreate_signature (d : Struct) :
    d.staticCreate.signature = "static QString static_create_table_sql()" := by
  have hsignature : Binding.classLevel.signature "create_table_sql" [] =
      "static QString static_create_table_sql()" := by decide
  exact hsignature

/-- **The literal of the static builder** stands for the definitions of the table. -/
theorem firstLiteral_staticCreate (hl : l.Breaks) (hd : ∀ f ∈ d.columns,
      '\n' ∉ f.name ∧ '\n' ∉ f.columnType ∧ ∀ e ∈ f.extras, '\n' ∉ e) :
    firstLiteral? ('\\' :: l.lineEnding) (l.render d.staticCreate.lines) =
      some (d.createText l) := by
  have hbody : d.staticCreate.body =
      [] ++ [.defineLong "CREATE TABLE IF NOT EXISTS %1 (" (separated d.definitions) "  )"
        [.table .fixed], .giveSql] := rfl
  obtain ⟨after, htext⟩ := render_lines_of_body (l := l) hbody
  have hquote : '"' ∉ l.indent := fun hmem => absurd (hl.indent _ hmem) (by decide)
  have hending : '"' ∉ l.lineEnding := by
    rcases hl.lineEnding with h | h
    · rw [h]
      decide
    · rw [h]
      decide
  have hline : ∀ t : Text, '"' ∉ t → '"' ∉ l.line ⟨1, t⟩ := by
    intro t ht
    have hindent : '"' ∉ (List.replicate 1 l.indent).flatten := by
      rwa [List.replicate_one, List.flatten_singleton]
    exact List.not_mem_append (List.not_mem_append hindent ht) hending
  have hbefore : '"' ∉ l.render [⟨1, d.staticCreate.signature⟩, ⟨1, "\x7b"⟩] ++
      (l.indent ++ l.indent ++ "QString sql = QObject::tr(") := by
    refine List.not_mem_append ?_ (List.not_mem_append (List.not_mem_append hquote hquote) ?_)
    · rw [Layout.render, List.flatMap_cons, List.flatMap_singleton]
      rw [staticCreate_signature]
      exact List.not_mem_append (hline _ (by decide)) (hline _ (by decide))
    · decide
  have hdecoded : without l.continuation
        (l.longBody "CREATE TABLE IF NOT EXISTS %1 (" (separated d.definitions) "  )") =
      literalBody (l.longText "CREATE TABLE IF NOT EXISTS %1 (" (separated d.definitions) "  )") :=
    hl.without_longBody (by decide) (not_mem_separated (not_mem_definitions_of_columns hd))
      (by decide)
  have hrender : l.render d.staticCreate.lines =
      l.render [⟨1, d.staticCreate.signature⟩, ⟨1, "\x7b"⟩] ++
          (l.indent ++ l.indent ++ "QString sql = QObject::tr(") ++
        '"' :: (l.longBody "CREATE TABLE IF NOT EXISTS %1 (" (separated d.definitions) "  )" ++
          '"' :: (").QString::arg(" ++ after)) := by
    rw [htext]
    simp only [List.append_assoc]
    rfl
  rw [hrender, firstLiteral?_eq hbefore (hl.isLiteralBody_longBody _ _ _)]
  exact (congrArg unescape hdecoded).trans
    ((unescape_literalBody _).trans (congrArg some (longText_separated l _ _ d.definitions)))

/-- **The create builder with its table filled in** is the statement that creates the table, blanks
apart, exactly if no option of a column has a place mark of the table's number. -/
theorem createTable_filled {arg : Text → Text → Text} (harg : FillsLowest arg) {source : Text}
    {structs : List Struct} (h : Source.structs {} source = .ok structs) (hd : d ∈ structs)
    (hcolumn : ∃ f ∈ d.fields, f.persisted = true) (hl : l.Breaks) {table : Text}
    (htable : ∀ c ∈ table, isIdentRest c = true) :
    ∃ m ∈ d.methods, m.signature = "static QString static_create_table_sql()" ∧
      ∃ decoded, firstLiteral? ('\\' :: l.lineEnding) (l.render m.lines) = some decoded ∧
        (dense (arg decoded table) = dense (d.createStatement table) ↔
          ∀ f ∈ d.columns, ∀ e ∈ f.extras, 1 ∉ marks e) := by
  obtain ⟨hplain, hfeeds⟩ := isPlain_of_structs h hd
  have hpercent : '%' ∉ table := fun hmem => absurd (htable _ hmem) (by decide)
  refine ⟨d.staticCreate, staticCreate_mem (definitions_ne_nil hcolumn),
    d.staticCreate_signature, d.createText l, firstLiteral_staticCreate hl hfeeds, ?_⟩
  rw [harg]
  exact dense_fillLowest_eq_iff hl hplain hpercent

/-- A struct whose options have percent signs, but no place mark of the table's number. -/
def pattern : Struct where
  typeName := "P"
  tableName := "p"
  fields :=
    [{ hostType := "int", name := "id", persisted := true, columnType := "INTEGER",
       primaryKey := true, extras := ["CHECK(id%10=0)", "CHECK(id% 1=0)"] },
      { hostType := "QString", name := "s", persisted := true, columnType := "TEXT",
        nullable := true, extras := ["CHECK(s LIKE '%\"2\\%')"] }]

def patternSource : Text :=
  [("struct P //\x60p\x60" : String), "\x7b",
    "int id; //\x60INTEGER,PK,CHECK(id%10=0),CHECK(id% 1=0)\x60",
    "QString s; //\x60TEXT,NULL,CHECK(s LIKE '%\"2\\%')\x60", "\x7d;"].flatMap
      fun line => line.toList ++ ['\n']

/-- A layout that indents with an ideographic space and breaks the line there. -/
def broken : Layout := { indent := "\u3000\n", lineEnding := "\n" }

theorem createTable_filled_pattern :
    Source.structs {} patternSource = .ok [pattern] ∧
      ∃ m ∈ pattern.methods, m.signature = "static QString static_create_table_sql()" ∧
        ∃ decoded, firstLiteral? "\\\n" (broken.render m.lines) = some decoded ∧
          dense (fillLowest "p_2" decoded) = dense (pattern.createStatement "p_2") := by
  have hread : Source.structs {} patternSource = .ok [pattern] := by decide +kernel
  have hcolumn : ∃ f ∈ pattern.fields, f.persisted = true := by decide
  have hblank : ("\u3000\n" : Text).all isBlank = true := by decide
  have hbreaks : broken.Breaks := ⟨.inl rfl, List.all_eq_true.1 hblank⟩
  have htable : ("p_2" : Text).all isIdentRest = true := by decide
  have hmarks : ∀ f ∈ pattern.columns, ∀ e ∈ f.extras, 1 ∉ marks e := by decide +kernel
  have harg : FillsLowest fun template value => fillLowest value template := fun _ _ => rfl
  obtain ⟨m, hm, hsignature, decoded, hdecoded, hfilled⟩ :=
    createTable_filled harg hread (List.mem_singleton_self _) hcolumn hbreaks
      (List.all_eq_true.1 htable)
  exact ⟨hread, m, hm, hsignature, decoded, hdecoded, hfilled.2 hmarks⟩

/-- A struct with an option that has a place mark of the table's number. -/
def remainder : Struct where
  typeName := "T"
  tableName := "t"
  fields :=
    [{ hostType := "int", name := "id", persisted := true, columnType := "INTEGER",
       extras := ["CHECK(id%1=0)"] }]

def remainderSource : Text :=
  [("struct T //\x60t\x60" : String), "\x7b", "int id; //\x60INTEGER,CHECK(id%1=0)\x60",
    "\x7d;"].flatMap fun line => line.toList ++ ['\n']

/-- What the literal of its create builder stands for. -/
def remainderText : Text :=
  "CREATE TABLE IF NOT EXISTS %1 (        id INTEGER NOT NULL CHECK(id%1=0)           )"

/-- **The table's name gets into an option** that has a place mark of its number: the builder then
gives another statement than the one that creates the table. -/
theorem createTable_filled_remainder :
    Source.structs {} remainderSource = .ok [remainder] ∧
      (∃ f ∈ remainder.fields, f.persisted = true) ∧
      (∃ m ∈ remainder.methods, m.signature = "static QString static_create_table_sql()" ∧
        firstLiteral? "\\\r\n" (Layout.render {} m.lines) = some remainderText) ∧
      ∀ arg, FillsLowest arg →
        arg remainderText "t" =
          "CREATE TABLE IF NOT EXISTS t (        id INTEGER NOT NULL CHECK(idt=0)           )" ∧
        dense (arg remainderText "t") ≠ dense (remainder.createStatement "t") := by
  have hread : Source.structs {} remainderSource = .ok [remainder] := by decide +kernel
  have hcolumn : ∃ f ∈ remainder.fields, f.persisted = true := by decide
  have hfeeds := (isPlain_of_structs hread (List.mem_singleton_self _)).2
  have hblank : ("    " : Text).all isBlank = true := by decide
  have hbreaks : ({} : Layout).Breaks := ⟨.inr rfl, List.all_eq_true.1 hblank⟩
  have htext : remainder.createText {} = remainderText := by decide +kernel
  have hliteral := htext ▸ firstLiteral_staticCreate hbreaks hfeeds
  refine ⟨hread, hcolumn, ⟨remainder.staticCreate,
    staticCreate_mem (definitions_ne_nil hcolumn), remainder.staticCreate_signature, hliteral⟩,
    fun arg harg => ?_⟩
  rw [harg]
  exact ⟨by decide +kernel, by decide +kernel⟩

end Struct

end TableBinding
