import TableBinding.Proofs.Class.FieldInsertion

/-!
# The field that names the table

A struct without a field that names the table gets the variants about the table of the object by one
more field, and nothing else of its class changes (`Struct.gainsVariants_insertField`): the field
brings its member and its flag, the accessor of the table's name, one more variant of each of the
six builders, and one more line of `flush_flag`; and what executes a statement chooses between its
variants.

The shape of the argument: the two variants of a builder are written by the same body about another
table (`Struct.builders`), so it is enough to see, for each of the six bodies, at which place the
table is called (`Line.Exchanged`); the rest is made of what the field does not touch
(`Struct.SameTable`).
-/

namespace TableBinding

open Text

/-! ## One text in the place of another -/

/-- The lines differ in one place, where one has the old text and the other has the new one. -/
def Line.Exchanged (old new : Text) (lines lines' : List Line) : Prop :=
  ∃ (before : List Line) (depth : Nat) (front back : Text) (after : List Line),
    lines = before ++ ⟨depth, front ++ old ++ back⟩ :: after ∧
    lines' = before ++ ⟨depth, front ++ new ++ back⟩ :: after

namespace Line.Exchanged

variable {old new : Text} {lines lines' : List Line}

theorem append_left (h : Exchanged old new lines lines') (more : List Line) :
    Exchanged old new (more ++ lines) (more ++ lines') := by
  obtain ⟨before, depth, front, back, after, rfl, rfl⟩ := h
  exact ⟨more ++ before, depth, front, back, after, by simp, by simp⟩

theorem append_right (h : Exchanged old new lines lines') (more : List Line) :
    Exchanged old new (lines ++ more) (lines' ++ more) := by
  obtain ⟨before, depth, front, back, after, rfl, rfl⟩ := h
  exact ⟨before, depth, front, back, after ++ more, by simp, by simp⟩

theorem line (depth : Nat) (front back : Text) :
    Exchanged old new [⟨depth, front ++ old ++ back⟩] [⟨depth, front ++ new ++ back⟩] :=
  ⟨[], depth, front, back, [], rfl, rfl⟩

end Line.Exchanged

/-- The place of the table is filled with the table that the object names. -/
abbrev Line.Readdressed : List Line → List Line → Prop :=
  Exchanged ".QString::arg(static_table_name())" ".QString::arg(object_table_name())"

/-- The call that fills the place of the table. -/
def TableRef.fillCall : TableRef → Text
  | fixed => ".QString::arg(static_table_name())"
  | chosen => ".QString::arg(object_table_name())"

theorem fillCalls_table (before after : List Operand) (table : TableRef) :
    fillCalls (before ++ .table table :: after) =
      fillCalls before ++ table.fillCall ++ fillCalls after := by
  have hcall : ".QString::arg(" ++ (Operand.table table).expr ++ [')'] = table.fillCall := by
    cases table <;> decide
  simp only [fillCalls, List.flatMap_append, List.flatMap_cons, hcall]
  rw [List.append_assoc]

theorem readdressed_define (template : Text) (before after : List Operand) :
    Line.Readdressed (Statement.define template (before ++ .table .fixed :: after)).lines
      (Statement.define template (before ++ .table .chosen :: after)).lines := by
  have hline : ∀ table : TableRef,
      (Statement.define template (before ++ .table table :: after)).lines =
        [⟨2, "QString sql = " ++ ("QObject::tr(\"" ++ template ++ "\")" ++ fillCalls before) ++
          table.fillCall ++ (fillCalls after ++ [';'])⟩] := by
    intro table
    have hfilled : (Statement.define template (before ++ .table table :: after)).lines =
        [⟨2, "QString sql = " ++ ("QObject::tr(\"" ++ template ++ "\")" ++
          fillCalls (before ++ .table table :: after)) ++ [';']⟩] := rfl
    rw [hfilled, fillCalls_table]
    simp only [List.append_assoc]
  rw [hline, hline]
  exact .line 2 _ _

theorem readdressed_defineLong (first : Text) (middle : List Text) (last : Text)
    (before after : List Operand) :
    Line.Readdressed
      (Statement.defineLong first middle last (before ++ .table .fixed :: after)).lines
      (Statement.defineLong first middle last (before ++ .table .chosen :: after)).lines := by
  have hlast : ∀ table : TableRef,
      literalBody last ++ "\")" ++ fillCalls (before ++ .table table :: after) ++ [';'] =
        (literalBody last ++ "\")" ++ fillCalls before) ++ table.fillCall ++
          (fillCalls after ++ [';']) := by
    intro table
    simp only [fillCalls_table, List.append_assoc]
  simp only [Statement.lines, hlast]
  exact .append_left (.line 2 _ _) _

/-! ## Variants -/

/-- The second method is the variant of the first about the table that the object names: its own
signature, the demand of the flag, and the lines of the first about the other table. -/
def Method.IsVariant (flag : Flag) (method params : Text)
    (readdressed : List Line → List Line → Prop) (m variant : Method) : Prop :=
  ∃ body body' : List Line,
    m.lines = [⟨1, m.signature⟩, ⟨1, "\x7b"⟩] ++ body ++ [⟨2, "return sql;"⟩, ⟨1, "\x7d;"⟩] ∧
    variant.lines =
      [⟨1, "QString " ++ ("object_" ++ method ++ ['('] ++ params ++ [')'])⟩, ⟨1, "\x7b"⟩] ++
      ⟨2, "if (this->" ++ flag.member ++ " == false) \x7b return \"\"; \x7d"⟩ :: body' ++
      [⟨2, "return sql;"⟩, ⟨1, "\x7d;"⟩] ∧
    readdressed body body'

/-- A builder gets a variant. -/
def Method.Doubled (flag : Flag) (method params : Text)
    (readdressed : List Line → List Line → Prop) (ms ms' : List Method) : Prop :=
  ∃ builder variant : Method, ms = [builder] ∧ ms' = [builder, variant] ∧
    builder.IsVariant flag method params readdressed variant

/-- A builder gets a variant, and the method that executes what the builder gives chooses: its call
becomes the choice between the calls of the variants. -/
def Method.DoubledAndChosen (flag : Flag) (method params args : Text) (ms ms' : List Method) :
    Prop :=
  ∃ builder variant executing executing' : Method,
    ms = [builder, executing] ∧ ms' = [builder, variant, executing'] ∧
    builder.IsVariant flag method params Line.Readdressed variant ∧
    Line.Exchanged (method ++ ['('] ++ args ++ [')'])
      ("this->" ++ flag.member ++ " ? " ++ ("object_" ++ method ++ ['('] ++ args ++ [')']) ++
        " : " ++ (method ++ ['('] ++ args ++ [')'])) executing.lines executing'.lines

namespace Struct

variable {d e : Struct} {flag : Flag} {method params args : Text}

theorem doubled_builders (hd : d.redirection? = none) (he : e.redirection? = some flag)
    {binding : Binding} {body : TableRef → List Statement}
    {readdressed : List Line → List Line → Prop}
    (hbody : readdressed ((body .fixed).flatMap Statement.lines)
      ((body .chosen).flatMap Statement.lines)) :
    Method.Doubled flag method params readdressed (d.builders method params binding body)
      (e.builders method params binding body) := by
  have hlines : ∀ (signature : Text) (front sts : List Statement),
      Method.lines { signature, body := front ++ sts ++ [.giveSql] } =
        [⟨1, signature⟩, ⟨1, "\x7b"⟩] ++ (front.flatMap Statement.lines ++
          sts.flatMap Statement.lines) ++ [⟨2, "return sql;"⟩, ⟨1, "\x7d;"⟩] := by
    intro signature front sts
    simp only [Method.lines, List.flatMap_append, List.append_assoc]
    rfl
  unfold builders
  rw [hd, he]
  exact ⟨_, _, rfl, rfl, _, _, hlines _ [] _, hlines _ [.demand flag] _, hbody⟩

theorem expr_choose_of_none (hd : d.redirection? = none) :
    (d.choose method args).expr = callExpr method args := by
  simp only [Choice.expr, choose, hd]

theorem expr_choose_of_some (he : e.redirection? = some flag) :
    (e.choose method args).expr = "this->" ++ flag.member ++ " ? " ++
      callExpr (objectVariant method) args ++ " : " ++ callExpr method args := by
  simp only [Choice.expr, choose, he]

/-- What is written around the choice of a statement. -/
theorem doubledAndChosen (hd : d.redirection? = none) (he : e.redirection? = some flag)
    {ms ms' : List Method} (h : Method.Doubled flag method params Line.Readdressed ms ms')
    {signature front back : Text} {after : List Line} {executing : Choice → Statement}
    (hlines : ∀ choice, (executing choice).lines = ⟨2, front ++ choice.expr ++ back⟩ :: after) :
    Method.DoubledAndChosen flag method params args
      (ms ++ [{ signature, body := [executing (d.choose method args)] }])
      (ms' ++ [{ signature, body := [executing (e.choose method args)] }]) := by
  obtain ⟨builder, variant, rfl, rfl, hvariant⟩ := h
  have hmethod : ∀ choice, Method.lines { signature, body := [executing choice] } =
      [⟨1, signature⟩, ⟨1, "\x7b"⟩] ++ ⟨2, front ++ choice.expr ++ back⟩ ::
        (after ++ [⟨1, "\x7d;"⟩]) := by
    intro choice
    simp only [Method.lines, List.flatMap_singleton, hlines, List.append_assoc, List.cons_append]
  refine ⟨builder, variant, _, _, rfl, rfl, hvariant, ?_⟩
  rw [hmethod, hmethod, expr_choose_of_none hd, expr_choose_of_some he]
  exact ((Line.Exchanged.line 2 front back).append_right _).append_left _

/-! ## The six builders -/

section

variable (hd : d.redirection? = none) (he : e.redirection? = some flag) (hsame : SameTable d e)

include hd he

theorem doubled_dropTable :
    Method.Doubled flag "drop_table_sql" [] Line.Readdressed d.dropTable e.dropTable := by
  refine doubled_builders hd he ?_
  simp only [List.flatMap_singleton]
  exact readdressed_define _ [] []

include hsame

/-- Without columns there is no statement that is about a table. -/
theorem doubled_createTable :
    Method.Doubled flag "create_table_sql" []
      (fun body body' => (d.definitions ≠ [] → Line.Readdressed body body') ∧
        (d.definitions = [] → body' = body)) d.createTable e.createTable := by
  unfold createTable
  rw [hsame.definitions]
  refine doubled_builders hd he ⟨fun hne => ?_, fun hnil => ?_⟩
  · have hempty : d.definitions.isEmpty = false := List.isEmpty_eq_false_iff.2 hne
    simp only [hempty, Bool.false_eq_true, if_false, List.flatMap_singleton]
    exact readdressed_defineLong _ _ _ [] []
  · simp only [hnil, List.isEmpty_nil, if_true]

theorem doubled_insert :
    Method.DoubledAndChosen flag "insert_sql" "bool insertOrReplace" "insertOrReplace"
      d.insert e.insert := by
  unfold insert
  rw [hsame.columns]
  refine doubledAndChosen hd he (doubled_builders hd he ?_) (fun choice => rfl)
  simp only [List.flatMap_append, List.flatMap_cons, List.flatMap_nil, List.append_nil]
  refine .append_left (.append_left (.append_left ?_ _) _) _
  exact readdressed_define _ [.var .keyword] _

theorem doubled_delete :
    Method.DoubledAndChosen flag "delete_sql" [] [] d.delete e.delete := by
  unfold delete
  rw [hsame.conditions]
  refine doubledAndChosen hd he (doubled_builders hd he ?_) (fun choice => rfl)
  simp only [List.flatMap_cons]
  exact .append_right (readdressed_define _ [] []) _

theorem doubled_query :
    Method.DoubledAndChosen flag "query_sql" [] [] d.query e.query := by
  unfold query
  rw [hsame.conditions, hsame.typeName]
  refine doubledAndChosen hd he (doubled_builders hd he ?_) (fun choice => rfl)
  simp only [List.flatMap_cons]
  exact .append_right (readdressed_define _ [] []) _

theorem doubled_update :
    Method.DoubledAndChosen flag "update_sql" [] [] d.update e.update := by
  unfold update
  rw [hsame.columns, hsame.conditions]
  refine doubledAndChosen hd he (doubled_builders hd he ?_) (fun choice => rfl)
  simp only [List.flatMap_append, List.flatMap_cons, List.flatMap_nil, List.append_nil]
  exact .append_left (.append_left (readdressed_define _ [] _) _) _

end

/-! ## The class -/

/-- What a struct without a field that names the table gets by such a field at the place. -/
structure GainsVariants (d e : Struct) (i : Nat) (f : Field) : Prop where
  /-- The field brings its member and its flag. -/
  classLines : ∀ s, d.classLines s = d.linesBefore s i ++ (d.linesBetween s i ++ d.methodLines) ∧
    e.classLines s = d.linesBefore s i ++
      ([f.memberLine s, ⟨1, "bool " ++ ("otn_" ++ f.name) ++ [';']⟩] ++
        (d.linesBetween s i ++ e.methodLines))
  /-- The constructor, the reading of rows and the comparison of keys stay as they are. -/
  methods : e.methods = [d.constructorMethod] ++ e.tableNames ++ e.dropTable ++ e.createTable ++
    e.insert ++ e.delete ++ [d.readResult] ++ e.query ++ e.update ++ [e.flushFlags, d.compareKeys]
  tableNames : ∃ accessor : Method, e.tableNames = d.tableNames ++ [accessor] ∧
    accessor.lines = [⟨1, "QString object_table_name()"⟩, ⟨1, "\x7b"⟩,
      ⟨2, "return (this->" ++ ("otn_" ++ f.name) ++ " ? this->" ++ f.name ++ " : \"\");"⟩,
      ⟨1, "\x7d;"⟩]
  dropTable : Method.Doubled (.redirected f.name) "drop_table_sql" [] Line.Readdressed
    d.dropTable e.dropTable
  /-- Without columns no table is created, and there is no table to exchange. -/
  createTable : Method.Doubled (.redirected f.name) "create_table_sql" []
    (fun body body' => (d.definitions ≠ [] → Line.Readdressed body body') ∧
      (d.definitions = [] → body' = body)) d.createTable e.createTable
  insert : Method.DoubledAndChosen (.redirected f.name) "insert_sql" "bool insertOrReplace"
    "insertOrReplace" d.insert e.insert
  delete : Method.DoubledAndChosen (.redirected f.name) "delete_sql" [] [] d.delete e.delete
  query : Method.DoubledAndChosen (.redirected f.name) "query_sql" [] [] d.query e.query
  update : Method.DoubledAndChosen (.redirected f.name) "update_sql" [] [] d.update e.update
  /-- The flag is set behind those of the fields in front of it. -/
  flushFlags : e.flushFlags.lines =
    d.flushFlags.lines.insertIdx (2 + ((d.fields.take i).flatMap Field.flags).length)
      ⟨2, "this->" ++ ("otn_" ++ f.name) ++ " = flagValue;"⟩

variable {i : Nat} {f : Field}

theorem flags_of_namesTable (hf : f.persisted = false) (hnames : f.namesTable = true) :
    f.flags = [.redirected f.name] := by
  simp only [Field.flags, hf, hnames, Bool.false_eq_true, if_false, if_true]

theorem exists_accessor (hsame : SameTable d e) (hd : d.tableField? = none)
    (he : e.tableField? = some f) :
    ∃ accessor : Method, e.tableNames = d.tableNames ++ [accessor] ∧
      accessor.lines = [⟨1, "QString object_table_name()"⟩, ⟨1, "\x7b"⟩,
        ⟨2, "return (this->" ++ ("otn_" ++ f.name) ++ " ? this->" ++ f.name ++ " : \"\");"⟩,
        ⟨1, "\x7d;"⟩] := by
  have hsignature : textSignature (objectVariant "table_name") [] =
      ("QString object_table_name()" : Text) := by decide
  refine ⟨{ signature := textSignature (objectVariant "table_name") []
            body := [.giveMember (.redirected f.name) f.name] }, ?_, ?_⟩
  · unfold Struct.tableNames
    rw [hd, he, hsame.tableName]
    rfl
  · rw [hsignature]
    rfl

theorem lines_flushFlags (flags : List Flag) :
    Method.lines { signature := "void flush_flag(bool flagValue)", body := flags.map .setFlag } =
      [⟨1, "void flush_flag(bool flagValue)"⟩, ⟨1, "\x7b"⟩] ++
        flags.map (fun flag => ⟨2, "this->" ++ flag.member ++ " = flagValue;"⟩) ++
        [⟨1, "\x7d;"⟩] := by
  have hlines : (flags.map Statement.setFlag).flatMap Statement.lines =
      flags.map fun flag => ⟨2, "this->" ++ flag.member ++ " = flagValue;"⟩ := by
    rw [List.flatMap_map, List.map_eq_flatMap]
    rfl
  simp only [Method.lines, hlines]

theorem lines_flushFlags_insertField (hi : i ≤ d.fields.length) (hflags : f.flags = [flag]) :
    (d.insertField i f).flushFlags.lines =
      d.flushFlags.lines.insertIdx (2 + ((d.fields.take i).flatMap Field.flags).length)
        ⟨2, "this->" ++ flag.member ++ " = flagValue;"⟩ := by
  let setLines (flags : List Flag) : List Line :=
    flags.map fun flag => ⟨2, "this->" ++ flag.member ++ " = flagValue;"⟩
  let front : List Line := [⟨1, "void flush_flag(bool flagValue)"⟩, ⟨1, "\x7b"⟩] ++
    setLines ((d.fields.take i).flatMap Field.flags)
  let back : List Line := setLines ((d.fields.drop i).flatMap Field.flags) ++ [⟨1, "\x7d;"⟩]
  have hfront : front.length = 2 + ((d.fields.take i).flatMap Field.flags).length := by
    simp only [front, setLines, List.length_append, List.length_map, List.length_cons,
      List.length_nil]
  have hold : d.flushFlags.lines = front ++ back := by
    have hsplit : d.flags = (d.fields.take i).flatMap Field.flags ++
        (d.fields.drop i).flatMap Field.flags := flatMap_take_drop Field.flags i
    unfold Struct.flushFlags
    rw [lines_flushFlags, hsplit, List.map_append]
    simp only [front, back, setLines, List.append_assoc]
  have hnew : (d.insertField i f).flushFlags.lines =
      front ++ ⟨2, "this->" ++ flag.member ++ " = flagValue;"⟩ :: back := by
    unfold Struct.flushFlags
    rw [lines_flushFlags, flags_insertField hi, hflags, List.map_append, List.map_append]
    simp only [front, back, setLines, List.append_assoc, List.map_cons, List.map_nil,
      List.cons_append, List.nil_append]
  rw [hold, hnew, ← hfront, insertIdx_length_append]

/-- **The field that names the table only adds the variants about the table of the object.** -/
theorem gainsVariants_insertField (d : Struct) (hd : d.tableField? = none)
    (hi : i ≤ d.fields.length) (hf : f.persisted = false) (hnames : f.namesTable = true) :
    GainsVariants d (d.insertField i f) i f := by
  have hsame := sameTable_insertField hi hf
  have htable : (d.insertField i f).tableField? = some f :=
    find?_insertIdx_of_none hi hnames hd
  have hnone : d.redirection? = none := by
    rw [redirection?, hd, Option.map_none]
  have hsome : (d.insertField i f).redirection? = some (.redirected f.name) := by
    rw [redirection?, htable, Option.map_some]
  have hflags := flags_of_namesTable hf hnames
  refine ⟨fun s => ⟨d.classLines_eq s i, ?_⟩, ?_, exists_accessor hsame hd htable,
    doubled_dropTable hnone hsome, doubled_createTable hnone hsome hsame,
    doubled_insert hnone hsome hsame, doubled_delete hnone hsome hsame,
    doubled_query hnone hsome hsame, doubled_update hnone hsome hsame, lines_flushFlags_insertField hi hflags⟩
  · rw [classLines_insertField hi, Field.memberLines, hflags]
    rfl
  · rw [Struct.methods, hsame.constructorMethod, hsame.readResult, hsame.compareKeys]

/-- A column and a transient field. -/
def shelf : Struct where
  typeName := "Shelf"
  tableName := "shelves"
  fields :=
    [{ hostType := "int", name := "id", persisted := true, columnType := "INTEGER" },
      { hostType := "int", name := "row" }]

def shelfTable : Field where
  hostType := "QString"
  name := "site"
  namesTable := true

theorem gainsVariants_shelf :
    GainsVariants shelf (shelf.insertField 1 shelfTable) 1 shelfTable ∧
      (shelf.insertField 1 shelfTable).flushFlags.lines.map (·.text) =
        (["void flush_flag(bool flagValue)", "\x7b", "this->iuq_id = flagValue;",
          "this->w_id = flagValue;", "this->idq_id = flagValue;", "this->otn_site = flagValue;",
          "\x7d;"] : List Text) := by
  have h := gainsVariants_insertField shelf (i := 1) (f := shelfTable) rfl (by decide) rfl rfl
  refine ⟨h, ?_⟩
  rw [h.flushFlags]
  decide +kernel

end Struct

end TableBinding
