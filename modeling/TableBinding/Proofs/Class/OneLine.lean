import TableBinding.Class.Definition
import TableBinding.Proofs.Class.CreateTable
import TableBinding.Proofs.Class.Declarations
import TableBinding.Proofs.Text.LineEndings

/-!
# Every line of a class is one line

The lines of a class are written one below the other, each behind its indentation and in front of
its line ending. None of them holds a line feed of its own, whatever the method, if neither the
names, types and options of the struct nor the tokens that stand in its member lines do
(`Struct.OneLine.classLines`).

The shape of the argument: what a statement holds of the struct is named once for each constructor
(`Statement.OneLine`), and the rest of its lines is fixed (`Statement.oneLine_lines`); what the
statements of every method hold are names, types, options and definitions of the struct
(`Struct.OneLine.methods`).
-/

namespace TableBinding

open Text

/-! ## Statements -/

/-- What the statement holds of the struct is in one line. -/
def Statement.OneLine : Statement → Prop
  | setAllFlags | declare _ | chooseKeyword | dropLast _ | giveSql => True
  | giveText t => Text.OneLine t
  | giveMember flag name => Text.OneLine flag.member ∧ Text.OneLine name
  | demand flag => Text.OneLine flag.member
  | setFlag flag => Text.OneLine flag.member
  | addIf flag parts => Text.OneLine flag.member ∧ ∀ part ∈ parts, Text.OneLine part.2.expr
  | define template operands => Text.OneLine template ∧ ∀ o ∈ operands, Text.OneLine o.expr
  | defineLong first middle last operands => Text.OneLine first ∧
      (∀ piece ∈ middle, Text.OneLine piece) ∧ Text.OneLine last ∧
      ∀ o ∈ operands, Text.OneLine o.expr
  | execute choice => Text.OneLine choice.expr
  | executeAndRead choice => Text.OneLine choice.expr
  | readRows type columns => Text.OneLine type ∧
      ∀ column ∈ columns, ∀ t ∈ column.texts, Text.OneLine t
  | compare members => ∀ name ∈ members, Text.OneLine name

theorem oneLine_localName (v : Local) : OneLine v.name := by
  cases v <;> decide

theorem oneLine_fillCalls {operands : List Operand} (h : ∀ o ∈ operands, OneLine o.expr) :
    OneLine (fillCalls operands) := by
  simp only [fillCalls, oneLine_flatMap, oneLine_append]
  intro o ho
  exact ⟨⟨by decide, h o ho⟩, by decide⟩

theorem oneLine_filled {template : Text} {operands : List Operand} (htemplate : OneLine template)
    (hoperands : ∀ o ∈ operands, OneLine o.expr) : OneLine (filled template operands) := by
  have hopen : OneLine "QObject::tr(\"" := by decide
  have hclose : OneLine "\")" := by decide
  exact ((hopen.append htemplate).append hclose).append (oneLine_fillCalls hoperands)

theorem oneLine_addition {part : Local × Piece} (h : OneLine part.2.expr) :
    OneLine (addition part) := by
  simp only [addition, oneLine_append]
  exact ⟨⟨⟨oneLine_localName part.1, by decide⟩, h⟩, by decide⟩

namespace Statement

theorem oneLine_declare (vars : List Local) :
    ∀ line ∈ (declare vars).lines, Text.OneLine line.text := by
  have hnames : Text.OneLine (join ", " (vars.map Local.name)) := by
    refine .join (by decide) fun t ht => ?_
    obtain ⟨v, -, rfl⟩ := List.mem_map.1 ht
    exact oneLine_localName v
  simp only [lines, List.forall_mem_singleton, oneLine_append]
  exact ⟨⟨by decide, hnames⟩, by decide⟩

theorem oneLine_addIf {flag : Flag} {parts : List (Local × Piece)}
    (hflag : Text.OneLine flag.member) (hparts : ∀ part ∈ parts, Text.OneLine part.2.expr) :
    ∀ line ∈ (addIf flag parts).lines, Text.OneLine line.text := by
  have hadditions : Text.OneLine (join " " (parts.map addition)) := by
    refine .join (by decide) fun t ht => ?_
    obtain ⟨part, hpart, rfl⟩ := List.mem_map.1 ht
    exact oneLine_addition (hparts part hpart)
  simp only [lines, List.forall_mem_singleton, oneLine_append]
  exact ⟨⟨⟨⟨by decide, hflag⟩, by decide⟩, hadditions⟩, by decide⟩

theorem oneLine_defineLong {first last : Text} {middle : List Text} {operands : List Operand}
    (hfirst : Text.OneLine first) (hmiddle : ∀ piece ∈ middle, Text.OneLine piece)
    (hlast : Text.OneLine last) (hoperands : ∀ o ∈ operands, Text.OneLine o.expr) :
    ∀ line ∈ (defineLong first middle last operands).lines, Text.OneLine line.text := by
  simp only [lines, List.forall_mem_append, List.forall_mem_cons, List.forall_mem_map,
    oneLine_append]
  refine ⟨⟨⟨⟨by decide, hfirst.literalBody⟩, by decide⟩, ?_⟩, ?_⟩
  · intro piece hpiece
    exact ⟨(hmiddle piece hpiece).literalBody, by decide⟩
  · exact ⟨⟨⟨⟨hlast.literalBody, by decide⟩, oneLine_fillCalls hoperands⟩, by decide⟩,
      fun _ h => absurd h List.not_mem_nil⟩

theorem oneLine_readRows {type : Text} {columns : List ColumnRead} (htype : Text.OneLine type)
    (hcolumns : ∀ column ∈ columns, ∀ t ∈ column.texts, Text.OneLine t) :
    ∀ line ∈ (readRows type columns).lines, Text.OneLine line.text := by
  simp only [lines, List.forall_mem_append, List.forall_mem_cons, List.forall_mem_map,
    List.forall_mem_flatMap, oneLine_append]
  refine ⟨⟨⟨by decide, by decide, by decide, ⟨htype, by decide⟩, by decide, ?_⟩, hcolumns⟩,
    by decide, by decide, ?_⟩
  · exact fun _ h => absurd h List.not_mem_nil
  · exact fun _ h => absurd h List.not_mem_nil

theorem oneLine_compare {members : List Text} (h : ∀ name ∈ members, Text.OneLine name) :
    ∀ line ∈ (compare members).lines, Text.OneLine line.text := by
  cases members with
  | nil => decide
  | cons first others =>
    have hagree : Text.OneLine (join " && " ((first :: others).map fun name =>
        "(this->" ++ name ++ " == other." ++ name ++ [')'])) := by
      refine .join (by decide) fun t ht => ?_
      obtain ⟨name, hname, rfl⟩ := List.mem_map.1 ht
      simp only [oneLine_append]
      exact ⟨⟨⟨⟨by decide, h name hname⟩, by decide⟩, h name hname⟩, by decide⟩
    simp only [lines, List.forall_mem_singleton, oneLine_append]
    exact ⟨⟨by decide, hagree⟩, by decide⟩

/-- **A statement is written in lines without a line feed**, if what it holds of the struct has
none. -/
theorem oneLine_lines {statement : Statement} (h : statement.OneLine) :
    ∀ line ∈ statement.lines, Text.OneLine line.text := by
  cases statement with
  | setAllFlags => decide
  | giveText t =>
    simp only [lines, List.forall_mem_singleton, oneLine_append]
    exact ⟨⟨by decide, h⟩, by decide⟩
  | giveMember flag name =>
    simp only [lines, List.forall_mem_singleton, oneLine_append]
    exact ⟨⟨⟨⟨by decide, h.1⟩, by decide⟩, h.2⟩, by decide⟩
  | demand flag =>
    simp only [lines, List.forall_mem_singleton, oneLine_append]
    exact ⟨⟨by decide, h⟩, by decide⟩
  | declare vars => exact oneLine_declare vars
  | chooseKeyword =>
    simp only [lines, List.forall_mem_singleton, oneLine_append]
    exact ⟨by decide, by decide⟩
  | addIf flag parts => exact oneLine_addIf h.1 h.2
  | dropLast v =>
    simp only [lines, List.forall_mem_singleton, oneLine_append]
    exact ⟨oneLine_localName v, by decide⟩
  | define template operands =>
    simp only [lines, List.forall_mem_singleton, oneLine_append]
    exact ⟨⟨by decide, oneLine_filled h.1 h.2⟩, by decide⟩
  | defineLong first middle last operands => exact oneLine_defineLong h.1 h.2.1 h.2.2.1 h.2.2.2
  | giveSql => decide
  | execute choice =>
    simp only [lines, List.forall_mem_singleton, oneLine_append]
    exact ⟨⟨by decide, h⟩, by decide⟩
  | executeAndRead choice =>
    simp only [lines, List.forall_mem_cons, oneLine_append]
    refine ⟨⟨⟨by decide, h⟩, by decide⟩, by decide, by decide, by decide, ?_⟩
    exact fun _ hmem => absurd hmem List.not_mem_nil
  | readRows type columns => exact oneLine_readRows h.1 h.2
  | setFlag flag =>
    simp only [lines, List.forall_mem_singleton, oneLine_append]
    exact ⟨⟨by decide, h⟩, by decide⟩
  | compare members => exact oneLine_compare h

end Statement

/-! ## Methods -/

/-- No text of the field holds a line feed. -/
structure Field.OneLine (f : Field) : Prop where
  hostType : Text.OneLine f.hostType
  name : Text.OneLine f.name
  columnType : Text.OneLine f.columnType
  extras : ∀ e ∈ f.extras, Text.OneLine e

/-- No text of the struct holds a line feed. -/
structure Struct.OneLine (d : Struct) : Prop where
  typeName : Text.OneLine d.typeName
  tableName : Text.OneLine d.tableName
  fields : ∀ f ∈ d.fields, f.OneLine

structure Method.OneLine (m : Method) : Prop where
  signature : Text.OneLine m.signature
  body : ∀ statement ∈ m.body, statement.OneLine

theorem Method.OneLine.lines {m : Method} (h : m.OneLine) :
    ∀ line ∈ m.lines, Text.OneLine line.text := by
  simp only [Method.lines, List.forall_mem_append, List.forall_mem_cons, List.forall_mem_flatMap]
  refine ⟨⟨⟨h.signature, by decide, ?_⟩, ?_⟩, by decide, ?_⟩
  · exact fun _ hmem => absurd hmem List.not_mem_nil
  · exact fun statement hstatement => Statement.oneLine_lines (h.body statement hstatement)
  · exact fun _ hmem => absurd hmem List.not_mem_nil

theorem oneLine_callExpr {method args : Text} (hmethod : OneLine method) (hargs : OneLine args) :
    OneLine (callExpr method args) := by
  have hopen : OneLine ['('] := by decide
  have hclose : OneLine [')'] := by decide
  exact ((hmethod.append hopen).append hargs).append hclose

theorem oneLine_objectVariant {method : Text} (h : OneLine method) :
    OneLine (objectVariant method) := OneLine.append (by decide) h

theorem Binding.oneLine_signature (b : Binding) {method params : Text} (hmethod : OneLine method)
    (hparams : OneLine params) : OneLine (b.signature method params) := by
  have htext : OneLine "QString " := by decide
  cases b with
  | classLevel =>
    have hstatic : OneLine "static " := by decide
    have hvariant : OneLine (staticVariant method) := OneLine.append (by decide) hmethod
    exact hstatic.append (htext.append (oneLine_callExpr hvariant hparams))
  | instanceLevel => exact htext.append (oneLine_callExpr hmethod hparams)

/-- The field that the flag is about. -/
def Flag.field : Flag → Text
  | written name | required name | received name | redirected name => name

theorem Flag.oneLine_member {flag : Flag} (h : OneLine flag.field) : OneLine flag.member := by
  cases flag with
  | written name => exact OneLine.append (by decide) h
  | required name => exact OneLine.append (by decide) h
  | received name => exact OneLine.append (by decide) h
  | redirected name => exact OneLine.append (by decide) h

theorem Flag.field_of_mem {flag : Flag} {f : Field} (h : flag ∈ f.flags) : flag.field = f.name := by
  unfold Field.flags at h
  split at h
  · simp only [List.mem_cons, List.not_mem_nil, or_false] at h
    rcases h with rfl | rfl | rfl <;> rfl
  · split at h
    · cases List.mem_singleton.1 h
      rfl
    · cases h

theorem Flag.oneLine_of_mem {flag : Flag} {f : Field} (h : flag ∈ f.flags) (hf : f.OneLine) :
    Text.OneLine flag.member := by
  apply oneLine_member
  rw [field_of_mem h]
  exact hf.name

theorem TableRef.oneLine_expr (table : TableRef) : OneLine (Operand.table table).expr := by
  cases table <;> decide

theorem Local.oneLine_expr (v : Local) : OneLine (Operand.var v).expr := oneLine_localName v

/-- The template of a single member. -/
theorem oneLine_template {template name : Text} (htemplate : OneLine template)
    (hname : OneLine name) : OneLine (Piece.template template name).expr := by
  have hmember : OneLine (Operand.member name).expr := OneLine.append (by decide) hname
  exact oneLine_filled htemplate (List.forall_mem_singleton.2 hmember)

namespace Struct

variable {d : Struct} {f : Field}

theorem OneLine.column (hd : d.OneLine) (hf : f ∈ d.columns) : f.OneLine :=
  hd.fields f (List.mem_of_mem_filter hf)

theorem OneLine.tableField (hd : d.OneLine) (hf : f ∈ d.tableField?) : f.OneLine :=
  hd.fields f (List.mem_of_find?_eq_some hf)

theorem OneLine.redirection (hd : d.OneLine) :
    ∀ flag ∈ d.redirection?, Text.OneLine flag.member := by
  intro flag hflag
  obtain ⟨f, hf, rfl⟩ := Option.map_eq_some_iff.1 hflag
  exact Flag.oneLine_member (hd.tableField hf).name

theorem OneLine.builders (hd : d.OneLine) {method params : Text} {binding : Binding}
    {body : TableRef → List Statement} (hmethod : Text.OneLine method)
    (hparams : Text.OneLine params) (hbody : ∀ table, ∀ st ∈ body table, st.OneLine) :
    ∀ m ∈ d.builders method params binding body, m.OneLine := by
  intro m hm
  rcases List.mem_cons.1 hm with rfl | hm
  · refine ⟨binding.oneLine_signature hmethod hparams, ?_⟩
    exact List.forall_mem_append.2 ⟨hbody .fixed, List.forall_mem_singleton.2 trivial⟩
  · obtain ⟨flag, hflag, rfl⟩ := List.mem_map.1 hm
    have hdemand : (Statement.demand flag).OneLine :=
      hd.redirection flag (Option.mem_toList.1 hflag)
    refine ⟨?_, List.forall_mem_append.2 ⟨List.forall_mem_cons.2 ⟨hdemand, hbody .chosen⟩,
      List.forall_mem_singleton.2 trivial⟩⟩
    exact Binding.instanceLevel.oneLine_signature (oneLine_objectVariant hmethod) hparams

theorem OneLine.choose (hd : d.OneLine) {method args : Text} (hmethod : Text.OneLine method)
    (hargs : Text.OneLine args) : Text.OneLine (d.choose method args).expr := by
  have hcall := oneLine_callExpr hmethod hargs
  unfold Choice.expr
  split
  · exact hcall
  · next flag hflag =>
    have hobject := oneLine_callExpr (oneLine_objectVariant hmethod) hargs
    have hthis : Text.OneLine "this->" := by decide
    have hthen : Text.OneLine " ? " := by decide
    have helse : Text.OneLine " : " := by decide
    exact ((((hthis.append (hd.redirection flag hflag)).append hthen).append hobject).append
      helse).append hcall

theorem OneLine.tableNames (hd : d.OneLine) : ∀ m ∈ d.tableNames, m.OneLine := by
  intro m hm
  rcases List.mem_cons.1 hm with rfl | hm
  · exact ⟨Binding.classLevel.oneLine_signature (by decide) oneLine_nil,
      List.forall_mem_singleton.2 hd.tableName⟩
  · obtain ⟨f, hf, rfl⟩ := List.mem_map.1 hm
    have hname := (hd.tableField (Option.mem_toList.1 hf)).name
    exact ⟨Binding.instanceLevel.oneLine_signature (oneLine_objectVariant (by decide)) oneLine_nil,
      List.forall_mem_singleton.2 ⟨Flag.oneLine_member hname, hname⟩⟩

theorem OneLine.conditions (hd : d.OneLine) (v : Local) : ∀ st ∈ d.conditions v, st.OneLine := by
  intro st hst
  obtain ⟨f, hf, rfl⟩ := List.mem_map.1 hst
  have hname := (hd.column hf).name
  refine ⟨Flag.oneLine_member hname, List.forall_mem_singleton.2 (oneLine_template ?_ hname)⟩
  have hfront : Text.OneLine "AND " := by decide
  exact (hfront.append hname).append (by decide)

theorem oneLine_insertion (hf : f.OneLine) : (insertion f).OneLine := by
  refine ⟨Flag.oneLine_member hf.name, List.forall_mem_cons.2 ⟨?_, List.forall_mem_singleton.2 ?_⟩⟩
  · have hquote : Text.OneLine ['"'] := by decide
    exact hquote.append ((hf.name.append (by decide)).append hquote)
  · exact oneLine_template (by decide) hf.name

theorem oneLine_assignment (hf : f.OneLine) : (assignment f).OneLine :=
  ⟨Flag.oneLine_member hf.name,
    List.forall_mem_singleton.2 (oneLine_template (hf.name.append (by decide)) hf.name)⟩

theorem oneLine_readInto {name conversion : Text} (hname : Text.OneLine name)
    (hconversion : Text.OneLine conversion) : Text.OneLine (readInto name conversion) := by
  have hrow : Text.OneLine "currData." := by decide
  have hvalue : Text.OneLine " = query.value(\"" := by decide
  have hcall : Text.OneLine "\")." := by decide
  exact (((((hrow.append hname).append hvalue).append hname).append hcall).append
    hconversion).append (by decide)

theorem oneLine_columnRead (hf : f.OneLine) : ∀ t ∈ (columnRead f).texts, Text.OneLine t := by
  have hconversion : ∀ host : HostType, Text.OneLine host.conversion := by
    intro host
    cases host <;> decide
  have hzero : ∀ host : HostType, Text.OneLine host.zero := by
    intro host
    cases host <;> decide
  unfold columnRead
  split
  · refine List.forall_mem_singleton.2 (oneLine_readInto hf.name ?_)
    have hfront : Text.OneLine "value<" := by decide
    exact (hfront.append hf.hostType).append (by decide)
  · next host _ =>
    split
    · have hreset : Text.OneLine "isOk = false;" := by decide
      have htest : Text.OneLine "if (!isOk) \x7b currData." := by decide
      have hclear : Text.OneLine " = false; currData." := by decide
      have hassign : Text.OneLine " = " := by decide
      have hflag : Text.OneLine (Flag.received f.name).member := Flag.oneLine_member hf.name
      refine List.forall_mem_cons.2 ⟨hreset, List.forall_mem_cons.2
        ⟨oneLine_readInto hf.name ((hconversion host).append (by decide)),
          List.forall_mem_singleton.2 ?_⟩⟩
      exact (((((htest.append hflag).append hclear).append hf.name).append hassign).append
        (hzero host)).append (by decide)
    · exact List.forall_mem_singleton.2
        (oneLine_readInto hf.name ((hconversion host).append (by decide)))

theorem OneLine.dropTable (hd : d.OneLine) : ∀ m ∈ d.dropTable, m.OneLine := by
  refine hd.builders (by decide) oneLine_nil fun table => ?_
  exact List.forall_mem_singleton.2 ⟨by decide, List.forall_mem_singleton.2 table.oneLine_expr⟩

theorem OneLine.createTable (hd : d.OneLine) : ∀ m ∈ d.createTable, m.OneLine := by
  have hdefinitions : ∀ definition ∈ d.definitions, '\n' ∉ definition := by
    refine not_mem_definitions_of_columns fun f hf => ?_
    exact ⟨(hd.column hf).name, (hd.column hf).columnType, (hd.column hf).extras⟩
  refine hd.builders (by decide) oneLine_nil fun table st hst => ?_
  split at hst
  · cases List.mem_singleton.1 hst
    trivial
  · cases List.mem_singleton.1 hst
    exact ⟨by decide, not_mem_separated hdefinitions, by decide,
      List.forall_mem_singleton.2 table.oneLine_expr⟩

theorem oneLine_executing {signature : Text} {executing : Statement}
    (hsignature : Text.OneLine signature) (h : executing.OneLine) :
    ∀ m ∈ [({ signature, body := [executing] } : Method)], m.OneLine :=
  List.forall_mem_singleton.2 ⟨hsignature, List.forall_mem_singleton.2 h⟩

theorem OneLine.insert (hd : d.OneLine) : ∀ m ∈ d.insert, m.OneLine := by
  refine List.forall_mem_append.2 ⟨hd.builders (by decide) (by decide) fun table => ?_,
    oneLine_executing (by decide) (hd.choose (by decide) (by decide))⟩
  refine List.forall_mem_append.2 ⟨List.forall_mem_append.2 ⟨?_, ?_⟩, ?_⟩
  · exact List.forall_mem_cons.2 ⟨trivial, List.forall_mem_singleton.2 trivial⟩
  · intro st hst
    obtain ⟨f, hf, rfl⟩ := List.mem_map.1 hst
    exact oneLine_insertion (hd.column hf)
  · refine List.forall_mem_cons.2 ⟨trivial, List.forall_mem_cons.2 ⟨trivial,
      List.forall_mem_singleton.2 ⟨by decide, ?_⟩⟩⟩
    exact List.forall_mem_cons.2 ⟨Local.oneLine_expr .keyword, List.forall_mem_cons.2
      ⟨table.oneLine_expr, List.forall_mem_cons.2 ⟨Local.oneLine_expr .keys,
        List.forall_mem_singleton.2 (Local.oneLine_expr .values)⟩⟩⟩

theorem OneLine.delete (hd : d.OneLine) : ∀ m ∈ d.delete, m.OneLine := by
  refine List.forall_mem_append.2 ⟨hd.builders (by decide) oneLine_nil fun table => ?_,
    oneLine_executing (by decide) (hd.choose (by decide) oneLine_nil)⟩
  exact List.forall_mem_cons.2
    ⟨⟨by decide, List.forall_mem_singleton.2 table.oneLine_expr⟩, hd.conditions .sql⟩

theorem OneLine.readResult (hd : d.OneLine) : d.readResult.OneLine := by
  have hfront : Text.OneLine "static void get_data(QSqlQuery& query, QList<" := by decide
  refine ⟨(hfront.append hd.typeName).append (by decide),
    List.forall_mem_singleton.2 ⟨hd.typeName, fun column hcolumn => ?_⟩⟩
  obtain ⟨f, hf, rfl⟩ := List.mem_map.1 hcolumn
  exact oneLine_columnRead (hd.column hf)

theorem OneLine.query (hd : d.OneLine) : ∀ m ∈ d.query, m.OneLine := by
  have hfront : Text.OneLine "void query_data(QSqlQuery& query, QList<" := by decide
  refine List.forall_mem_append.2 ⟨hd.builders (by decide) oneLine_nil fun table => ?_,
    oneLine_executing ((hfront.append hd.typeName).append (by decide))
      (hd.choose (by decide) oneLine_nil)⟩
  exact List.forall_mem_cons.2
    ⟨⟨by decide, List.forall_mem_singleton.2 table.oneLine_expr⟩, hd.conditions .sql⟩

theorem OneLine.update (hd : d.OneLine) : ∀ m ∈ d.update, m.OneLine := by
  refine List.forall_mem_append.2 ⟨hd.builders (by decide) oneLine_nil fun table => ?_,
    oneLine_executing (by decide) (hd.choose (by decide) oneLine_nil)⟩
  refine List.forall_mem_cons.2 ⟨trivial, List.forall_mem_append.2
    ⟨List.forall_mem_append.2 ⟨?_, hd.conditions .conditions⟩, ?_⟩⟩
  · intro st hst
    obtain ⟨f, hf, rfl⟩ := List.mem_map.1 hst
    exact oneLine_assignment (hd.column hf)
  · refine List.forall_mem_cons.2 ⟨trivial, List.forall_mem_singleton.2 ⟨by decide, ?_⟩⟩
    exact List.forall_mem_cons.2 ⟨table.oneLine_expr, List.forall_mem_cons.2
      ⟨Local.oneLine_expr .assignments,
        List.forall_mem_singleton.2 (Local.oneLine_expr .conditions)⟩⟩

theorem OneLine.flushFlags (hd : d.OneLine) : d.flushFlags.OneLine := by
  have hsignature : Text.OneLine "void flush_flag(bool flagValue)" := by decide
  refine ⟨hsignature, fun st hst => ?_⟩
  obtain ⟨flag, hflag, rfl⟩ := List.mem_map.1 hst
  obtain ⟨f, hf, hflag⟩ := List.mem_flatMap.1 hflag
  exact Flag.oneLine_of_mem hflag (hd.fields f hf)

theorem OneLine.compareKeys (hd : d.OneLine) : d.compareKeys.OneLine := by
  have hfront : Text.OneLine "bool pk_equal(const " := by decide
  refine ⟨(hfront.append hd.typeName).append (by decide),
    List.forall_mem_singleton.2 fun name hname => ?_⟩
  obtain ⟨f, hf, rfl⟩ := List.mem_map.1 hname
  exact (hd.column (List.mem_of_mem_filter hf)).name

/-- **Every method of a class is written without line feeds of its own.** -/
theorem OneLine.methods (hd : d.OneLine) : ∀ m ∈ d.methods, m.OneLine := by
  intro m hm
  rcases mem_methods.1 hm with
    rfl | hm | hm | hm | hm | hm | rfl | hm | hm | rfl | rfl
  · exact ⟨hd.typeName.append (by decide), List.forall_mem_singleton.2 trivial⟩
  · exact hd.tableNames m hm
  · exact hd.dropTable m hm
  · exact hd.createTable m hm
  · exact hd.insert m hm
  · exact hd.delete m hm
  · exact hd.readResult
  · exact hd.query m hm
  · exact hd.update m hm
  · exact hd.flushFlags
  · exact hd.compareKeys

end Struct

/-! ## Classes -/

/-- No line feed gets into a member line from the tokens that stand in it. -/
structure Spelling.OneLine (s : Spelling) (d : Struct) : Prop where
  delimiter : Text.OneLine s.delimiter
  tableMark : ∀ f ∈ d.fields, f.namesTable = true → Text.OneLine s.tableMark

theorem Field.OneLine.columnTokens {f : Field} (hf : f.OneLine) :
    ∀ t ∈ f.columnTokens, Text.OneLine t := by
  have hnull : Text.OneLine f.nullConstraint := by
    unfold Field.nullConstraint
    split
    · split <;> decide
    · exact oneLine_nil
  have hkey : ∀ t ∈ (if f.primaryKey then ["PRIMARY KEY"] else [] : List Text), Text.OneLine t := by
    split
    · exact List.forall_mem_singleton.2 (by decide)
    · exact fun _ h => absurd h List.not_mem_nil
  refine List.forall_mem_append.2 ⟨List.forall_mem_append.2 ⟨?_, hkey⟩, hf.extras⟩
  exact List.forall_mem_cons.2 ⟨hf.columnType, List.forall_mem_singleton.2 hnull⟩

theorem Field.OneLine.canonicalOptions {s : Spelling} {f : Field} (hf : f.OneLine)
    (hmark : f.namesTable = true → Text.OneLine s.tableMark) :
    Text.OneLine (f.canonicalOptions s) := by
  unfold Field.canonicalOptions
  split
  · next hnames => exact hmark hnames
  · split
    · exact .join (by decide) hf.columnTokens
    · exact oneLine_nil

theorem Field.OneLine.memberLines {s : Spelling} {f : Field} (hf : f.OneLine)
    (hdelimiter : Text.OneLine s.delimiter)
    (hmark : f.namesTable = true → Text.OneLine s.tableMark) :
    ∀ line ∈ f.memberLines s, Text.OneLine line.text := by
  refine List.forall_mem_cons.2 ⟨?_, fun line hline => ?_⟩
  · have hspace : Text.OneLine " " := by decide
    have hcomment : Text.OneLine ";//" := by decide
    have hannotation := (hdelimiter.append (hf.canonicalOptions hmark)).append hdelimiter
    exact (((hf.hostType.append hspace).append hf.name).append hcomment).append hannotation
  · obtain ⟨flag, hflag, rfl⟩ := List.mem_map.1 hline
    have hbool : Text.OneLine "bool " := by decide
    exact (hbool.append (Flag.oneLine_of_mem hflag hf)).append (by decide)

/-- **No line of a class holds a line feed of its own.** -/
theorem Struct.OneLine.classLines {s : Spelling} {d : Struct} (hd : d.OneLine)
    (hs : s.OneLine d) : ∀ line ∈ d.classLines s, Text.OneLine line.text := by
  have hclass : Text.OneLine "class " := by decide
  have hmembers : ∀ line ∈ d.fields.flatMap (Field.memberLines s), Text.OneLine line.text := by
    intro line hline
    obtain ⟨f, hf, hline⟩ := List.mem_flatMap.1 hline
    exact (hd.fields f hf).memberLines hs.delimiter (hs.tableMark f hf) line hline
  have hmethods : ∀ line ∈ d.methods.flatMap Method.lines, Text.OneLine line.text := by
    intro line hline
    obtain ⟨m, hm, hline⟩ := List.mem_flatMap.1 hline
    exact (hd.methods m hm).lines line hline
  simp only [Struct.classLines, List.forall_mem_append, List.forall_mem_cons]
  refine ⟨⟨⟨⟨⟨hclass.append hd.typeName, by decide, by decide, ?_⟩, hmembers⟩, by decide, ?_⟩,
    hmethods⟩, by decide, ?_⟩
  all_goals exact fun _ h => absurd h List.not_mem_nil

end TableBinding
