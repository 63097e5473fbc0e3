import TableBinding.Class.Definition
import TableBinding.Proofs.Class.CreateTable
import TableBinding.Proofs.Class.Declarations

/-!
# Lines that are continued

A line that ends with a backslash is continued on the next one. In a class these are the lines of
the literals that create the table (`Struct.literalLines`), once for each method that does, and
those member lines that end so because the delimiter does (`Struct.filter_classLines`).

The shape of the argument: every statement but the one with a long literal ends its lines with a
character of its own (`Statement.IsShort.isClosed_lines`), and only the methods that create the
table hold such a statement (`Struct.exists_methods_eq`). What a line looks like when it is laid
out is left open here: the result holds of every test that tells backslashes from other ends
(`FindsBackslash`).
-/

namespace TableBinding

open Text

/-! ## Ends of lines -/

namespace Text

variable {t u : Text}

/-- The text ends with a backslash. -/
def isContinued (t : Text) : Bool := t.getLast? == some '\\'

/-- The text ends with a character that neither continues a line nor belongs to its ending. -/
def isClosed (t : Text) : Bool := t.getLast?.any fun c => c != '\\' && c != '\r'

theorem isClosed_iff :
    isClosed t = true ↔ ∃ c, t.getLast? = some c ∧ c ≠ '\\' ∧ c ≠ '\r' := by
  rw [isClosed, Option.any_eq_true]
  simp only [Bool.and_eq_true, bne_iff_ne]

theorem isClosed_append (t : Text) (h : isClosed u = true) : isClosed (t ++ u) = true := by
  obtain ⟨c, hlast, -⟩ := isClosed_iff.1 h
  have hne : u ≠ [] := by
    rintro rfl
    cases hlast
  rw [isClosed, List.getLast?_append_of_ne_nil t hne]
  exact h

end Text

/-- A test of lines that finds those which end with a backslash, and none that end otherwise. -/
structure FindsBackslash (p : Line → Bool) : Prop where
  blank : p .blank = false
  closed : ∀ line : Line, line.text.isClosed = true → p line = false
  continued : ∀ line : Line, line.text.getLast? = some '\\' → p line = true

variable {p : Line → Bool}

theorem FindsBackslash.filter_closed (hp : FindsBackslash p) {lines : List Line}
    (h : ∀ line ∈ lines, line.text.isClosed = true) : lines.filter p = [] :=
  List.filter_eq_nil_iff.2 fun line hline => Bool.eq_false_iff.1 (hp.closed line (h line hline))

/-! ## Statements -/

namespace Statement

/-- The statement holds no literal over several lines. -/
def IsShort : Statement → Prop
  | defineLong .. => False
  | _ => True

theorem isClosed_readInto (name conversion : Text) : isClosed (readInto name conversion) = true :=
  isClosed_append _ rfl

theorem isClosed_columnTexts (column : ColumnRead) :
    ∀ t ∈ column.texts, isClosed t = true := by
  cases column with
  | checked name conversion zero =>
    refine List.forall_mem_cons.2 ⟨by decide, List.forall_mem_cons.2
      ⟨isClosed_readInto name _, List.forall_mem_singleton.2 (isClosed_append _ (by decide))⟩⟩
  | plain name conversion => exact List.forall_mem_singleton.2 (isClosed_readInto name _)
  | cast name type => exact List.forall_mem_singleton.2 (isClosed_readInto name _)

/-- **A short statement ends its lines itself**, whatever it holds of the struct. -/
theorem IsShort.isClosed_lines {statement : Statement} (h : statement.IsShort) :
    ∀ line ∈ statement.lines, line.text.isClosed = true := by
  cases statement with
  | setAllFlags => decide
  | giveText t => exact List.forall_mem_singleton.2 (isClosed_append _ (by decide))
  | giveMember flag name => exact List.forall_mem_singleton.2 (isClosed_append _ (by decide))
  | demand flag => exact List.forall_mem_singleton.2 (isClosed_append _ (by decide))
  | declare vars => exact List.forall_mem_singleton.2 (isClosed_append _ (by decide))
  | chooseKeyword => exact List.forall_mem_singleton.2 (isClosed_append _ (by decide))
  | addIf flag parts => exact List.forall_mem_singleton.2 (isClosed_append _ (by decide))
  | dropLast v => exact List.forall_mem_singleton.2 (isClosed_append _ (by decide))
  | define template operands => exact List.forall_mem_singleton.2 (isClosed_append _ (by decide))
  | defineLong first middle last operands => exact h.elim
  | giveSql => decide
  | execute choice => exact List.forall_mem_singleton.2 (isClosed_append _ (by decide))
  | executeAndRead choice =>
    exact List.forall_mem_cons.2 ⟨isClosed_append _ (by decide), by decide⟩
  | readRows type columns =>
    refine List.forall_mem_append.2 ⟨List.forall_mem_append.2 ⟨?_, ?_⟩, by decide⟩
    · simp only [List.forall_mem_cons]
      exact ⟨by decide, by decide, by decide, isClosed_append _ (by decide), by decide,
        fun _ hline => absurd hline List.not_mem_nil⟩
    · rintro _ hline
      obtain ⟨t, ht, rfl⟩ := List.mem_map.1 hline
      obtain ⟨column, -, ht⟩ := List.mem_flatMap.1 ht
      exact isClosed_columnTexts column t ht
  | setFlag flag => exact List.forall_mem_singleton.2 (isClosed_append _ (by decide))
  | compare members =>
    cases members with
    | nil => decide
    | cons first others => exact List.forall_mem_singleton.2 (isClosed_append _ (by decide))

theorem filter_defineLong (hp : FindsBackslash p) (first : Text) (middle : List Text) (last : Text)
    (operands : List Operand) :
    (defineLong first middle last operands).lines.filter p =
      ⟨2, "QString sql = QObject::tr(\"" ++ literalBody first ++ ['\\']⟩ ::
        middle.map fun piece => ⟨2, literalBody piece ++ ['\\']⟩ := by
  have hlast : isClosed (literalBody last ++ "\")" ++ fillCalls operands ++ [';']) = true :=
    isClosed_append _ rfl
  have hmiddle : ∀ line ∈ middle.map fun piece => (⟨2, literalBody piece ++ ['\\']⟩ : Line),
      p line = true := by
    intro line hline
    obtain ⟨piece, -, rfl⟩ := List.mem_map.1 hline
    exact hp.continued _ List.getLast?_concat
  rw [lines, List.cons_append, List.filter_cons_of_pos (hp.continued _ List.getLast?_concat),
    List.filter_append, List.filter_eq_self.2 hmiddle,
    hp.filter_closed (List.forall_mem_singleton.2 hlast), List.append_nil]

end Statement

/-! ## Methods -/

/-- The method holds no literal over several lines, and its signature ends with a character of its
own. -/
structure Method.IsPlain (m : Method) : Prop where
  signature : m.signature.isClosed = true
  body : ∀ statement ∈ m.body, statement.IsShort

theorem Method.IsPlain.isClosed_lines {m : Method} (h : m.IsPlain) :
    ∀ line ∈ m.lines, line.text.isClosed = true := by
  refine List.forall_mem_append.2 ⟨List.forall_mem_append.2 ⟨?_, ?_⟩, by decide⟩
  · exact List.forall_mem_cons.2 ⟨h.signature, by decide⟩
  · intro line hline
    obtain ⟨statement, hstatement, hline⟩ := List.mem_flatMap.1 hline
    exact (h.body statement hstatement).isClosed_lines line hline

theorem isClosed_callExpr (method params : Text) : isClosed (callExpr method params) = true :=
  isClosed_append _ rfl

theorem Binding.isClosed_signature (b : Binding) (method params : Text) :
    isClosed (b.signature method params) = true := by
  cases b with
  | classLevel => exact isClosed_append _ (isClosed_append _ (isClosed_callExpr _ params))
  | instanceLevel => exact isClosed_append _ (isClosed_callExpr method params)

namespace Struct

variable {d : Struct}

theorem isClosed_signature_of_mem_builders {method params : Text} {binding : Binding}
    {body : TableRef → List Statement} :
    ∀ m ∈ d.builders method params binding body, m.signature.isClosed = true := by
  refine List.forall_mem_cons.2 ⟨binding.isClosed_signature method params, fun m hm => ?_⟩
  obtain ⟨flag, -, rfl⟩ := List.mem_map.1 hm
  exact isClosed_append _ (isClosed_callExpr _ params)

theorem plain_builders {method params : Text} {binding : Binding}
    {body : TableRef → List Statement} (hbody : ∀ table, ∀ st ∈ body table, st.IsShort) :
    ∀ m ∈ d.builders method params binding body, m.IsPlain := by
  intro m hm
  refine ⟨isClosed_signature_of_mem_builders m hm, ?_⟩
  have hgive : ∀ st ∈ [Statement.giveSql], st.IsShort := List.forall_mem_singleton.2 trivial
  rcases List.mem_cons.1 hm with rfl | hm
  · exact List.forall_mem_append.2 ⟨hbody .fixed, hgive⟩
  · obtain ⟨flag, -, rfl⟩ := List.mem_map.1 hm
    exact List.forall_mem_append.2 ⟨List.forall_mem_cons.2 ⟨trivial, hbody .chosen⟩, hgive⟩

theorem plain_single {signature : Text} {statement : Statement} (h : isClosed signature = true)
    (hstatement : statement.IsShort) :
    ∀ m ∈ [({ signature, body := [statement] } : Method)], m.IsPlain :=
  List.forall_mem_singleton.2 ⟨h, List.forall_mem_singleton.2 hstatement⟩

theorem short_map {α : Type} (statement : α → Statement) (h : ∀ x, (statement x).IsShort)
    (xs : List α) : ∀ st ∈ xs.map statement, st.IsShort := by
  intro st hst
  obtain ⟨x, -, rfl⟩ := List.mem_map.1 hst
  exact h x

theorem short_conditions (v : Local) : ∀ st ∈ d.conditions v, st.IsShort :=
  short_map (condition v) (fun _ => trivial) d.columns

theorem plain_tableNames : ∀ m ∈ d.tableNames, m.IsPlain := by
  intro m hm
  rcases List.mem_cons.1 hm with rfl | hm
  · exact ⟨Binding.classLevel.isClosed_signature "table_name" [],
      List.forall_mem_singleton.2 trivial⟩
  · obtain ⟨f, -, rfl⟩ := List.mem_map.1 hm
    exact ⟨isClosed_append _ (isClosed_callExpr _ []), List.forall_mem_singleton.2 trivial⟩

theorem plain_dropTable : ∀ m ∈ d.dropTable, m.IsPlain :=
  plain_builders fun _ => List.forall_mem_singleton.2 trivial

theorem plain_insert : ∀ m ∈ d.insert, m.IsPlain := by
  refine List.forall_mem_append.2 ⟨plain_builders fun table => ?_, plain_single (by decide) trivial⟩
  refine List.forall_mem_append.2 ⟨List.forall_mem_append.2 ⟨?_, ?_⟩, ?_⟩
  · exact List.forall_mem_cons.2 ⟨trivial, List.forall_mem_singleton.2 trivial⟩
  · exact short_map insertion (fun _ => trivial) d.columns
  · exact List.forall_mem_cons.2
      ⟨trivial, List.forall_mem_cons.2 ⟨trivial, List.forall_mem_singleton.2 trivial⟩⟩

theorem plain_delete : ∀ m ∈ d.delete, m.IsPlain := by
  refine List.forall_mem_append.2 ⟨plain_builders fun table => ?_, plain_single (by decide) trivial⟩
  exact List.forall_mem_cons.2 ⟨trivial, short_conditions .sql⟩

theorem plain_query : ∀ m ∈ d.query, m.IsPlain := by
  refine List.forall_mem_append.2 ⟨plain_builders fun table => ?_,
    plain_single (isClosed_append _ (by decide)) trivial⟩
  exact List.forall_mem_cons.2 ⟨trivial, short_conditions .sql⟩

theorem plain_update : ∀ m ∈ d.update, m.IsPlain := by
  refine List.forall_mem_append.2 ⟨plain_builders fun table => ?_, plain_single (by decide) trivial⟩
  refine List.forall_mem_cons.2 ⟨trivial, List.forall_mem_append.2
    ⟨List.forall_mem_append.2 ⟨?_, short_conditions .conditions⟩, ?_⟩⟩
  · exact short_map assignment (fun _ => trivial) d.columns
  · exact List.forall_mem_cons.2 ⟨trivial, List.forall_mem_singleton.2 trivial⟩

theorem plain_flushFlags : d.flushFlags.IsPlain := by
  have hsignature : isClosed "void flush_flag(bool flagValue)" = true := by decide
  exact ⟨hsignature, short_map Statement.setFlag (fun _ => trivial) d.flags⟩

/-- **Only the methods that create the table hold a literal over several lines.** -/
theorem exists_methods_eq (d : Struct) : ∃ front back, d.methods = front ++ d.createTable ++ back ∧
    (∀ m ∈ front, m.IsPlain) ∧ ∀ m ∈ back, m.IsPlain := by
  have hconstructor : d.constructorMethod.IsPlain :=
    ⟨isClosed_append _ (by decide), List.forall_mem_singleton.2 trivial⟩
  have hread : d.readResult.IsPlain :=
    ⟨isClosed_append _ (by decide), List.forall_mem_singleton.2 trivial⟩
  have hcompare : d.compareKeys.IsPlain :=
    ⟨isClosed_append _ (by decide), List.forall_mem_singleton.2 trivial⟩
  refine ⟨[d.constructorMethod] ++ d.tableNames ++ d.dropTable,
    d.insert ++ (d.delete ++ ([d.readResult] ++ (d.query ++ (d.update ++
      [d.flushFlags, d.compareKeys])))), ?_, ?_, ?_⟩
  · simp only [methods, List.append_assoc]
  · simp only [List.forall_mem_append, List.forall_mem_singleton]
    exact ⟨⟨hconstructor, plain_tableNames⟩, plain_dropTable⟩
  · simp only [List.forall_mem_append, List.forall_mem_singleton, List.forall_mem_cons]
    exact ⟨plain_insert, plain_delete, hread, plain_query, plain_update, plain_flushFlags, hcompare⟩

/-! ## Literals -/

/-- The lines of the literal that holds the table's definition, but for the last. There is no
literal without a column. -/
def literalLines (d : Struct) : List Line :=
  if d.definitions.isEmpty then []
  else
    ⟨2, "QString sql = QObject::tr(\"CREATE TABLE IF NOT EXISTS %1 (\\"⟩ ::
      (separated d.definitions).map fun entry => ⟨2, literalBody entry ++ ['\\']⟩

theorem filter_lines_of_mem_createTable (hp : FindsBackslash p) {m : Method}
    (hm : m ∈ d.createTable) : m.lines.filter p = d.literalLines := by
  have hsignature : m.signature.isClosed = true := isClosed_signature_of_mem_builders m hm
  -- without a column there is no long literal
  by_cases hnone : d.definitions = []
  · have hplain : m.IsPlain := by
      refine plain_builders (fun table => ?_) m hm
      rw [hnone]
      exact List.forall_mem_singleton.2 trivial
    rw [hp.filter_closed hplain.isClosed_lines, literalLines, hnone]
    rfl
  · obtain ⟨demands, table, hdemands, hbody⟩ := exists_of_mem_createTable hnone hm
    have hdemand : (demands.flatMap Statement.lines).filter p = [] := by
      refine hp.filter_closed fun line hline => ?_
      obtain ⟨demand, hmem, hline⟩ := List.mem_flatMap.1 hline
      obtain ⟨flag, -, rfl⟩ := hdemands demand hmem
      have hshort : (Statement.demand flag).IsShort := trivial
      exact hshort.isClosed_lines line hline
    have hfront : [(⟨1, m.signature⟩ : Line), ⟨1, "\x7b"⟩].filter p = [] :=
      hp.filter_closed (List.forall_mem_cons.2 ⟨hsignature, by decide⟩)
    have hgive : Statement.giveSql.lines.filter p = [] := hp.filter_closed (by decide)
    have hend : [(⟨1, "\x7d;"⟩ : Line)].filter p = [] := hp.filter_closed (by decide)
    have hopening : ("QString sql = QObject::tr(\"" ++
        literalBody "CREATE TABLE IF NOT EXISTS %1 (" ++ ['\\'] : Text) =
        "QString sql = QObject::tr(\"CREATE TABLE IF NOT EXISTS %1 (\\" := by decide
    rw [Method.lines, hbody, List.flatMap_append, List.flatMap_cons, List.flatMap_singleton,
      List.filter_append, List.filter_append, List.filter_append, List.filter_append, hfront,
      hdemand, Statement.filter_defineLong hp, hgive, hend, hopening, literalLines,
      if_neg (fun e => hnone (List.isEmpty_iff.1 e))]
    simp only [List.nil_append, List.append_nil]

/-- Of the methods, those that create the table have lines that are continued. -/
theorem filter_methodLines (hp : FindsBackslash p) (d : Struct) :
    (d.methods.flatMap Method.lines).filter p = d.createTable.flatMap fun _ => d.literalLines := by
  have hplain : ∀ ms : List Method, (∀ m ∈ ms, m.IsPlain) →
      (ms.flatMap Method.lines).filter p = [] := by
    intro ms hms
    refine hp.filter_closed fun line hline => ?_
    obtain ⟨m, hm, hline⟩ := List.mem_flatMap.1 hline
    exact (hms m hm).isClosed_lines line hline
  obtain ⟨front, back, hmethods, hfront, hback⟩ := exists_methods_eq d
  rw [hmethods, List.flatMap_append, List.flatMap_append, List.filter_append, List.filter_append,
    hplain front hfront, hplain back hback, List.nil_append, List.append_nil, List.filter_flatMap]
  exact List.flatMap_congr fun m hm => filter_lines_of_mem_createTable hp hm

/-- Of the member lines, those of the flags are not continued. -/
theorem filter_memberLines (hp : FindsBackslash p) (s : Spelling) (fields : List Field) :
    (fields.flatMap (Field.memberLines s)).filter p =
      (fields.map (Field.memberLine s)).filter p := by
  induction fields with
  | nil => rfl
  | cons f fields ih =>
    have hflags : (f.flags.map Flag.memberLine).filter p = [] := by
      refine hp.filter_closed fun line hline => ?_
      obtain ⟨flag, -, rfl⟩ := List.mem_map.1 hline
      exact isClosed_append _ (by decide)
    rw [List.flatMap_cons, List.filter_append, ih, Field.memberLines, List.filter_cons, hflags,
      List.map_cons, List.filter_cons]
    split <;> rfl

/-- **The lines of a class that are continued** are member lines and the lines of the literals that
create the table. -/
theorem filter_classLines (hp : FindsBackslash p) (s : Spelling) {d : Struct}
    (hd : d.typeName.isClosed = true) :
    (d.classLines s).filter p = (d.fields.map (Field.memberLine s)).filter p ++
      d.createTable.flatMap fun _ => d.literalLines := by
  have hopening : [(⟨0, "class " ++ d.typeName⟩ : Line), ⟨0, "\x7b"⟩, ⟨0, "public:"⟩].filter p =
      [] :=
    hp.filter_closed (List.forall_mem_cons.2 ⟨isClosed_append _ hd, by decide⟩)
  have hpublic : [(⟨0, "public:"⟩ : Line)].filter p = [] := hp.filter_closed (by decide)
  have hend : [(⟨0, "\x7d;"⟩ : Line)].filter p = [] := hp.filter_closed (by decide)
  simp only [classLines, List.filter_append]
  rw [hopening, hpublic, hend, filter_memberLines hp, filter_methodLines hp, List.nil_append,
    List.append_nil, List.append_nil]

end Struct

end TableBinding
