import TableBinding.Proofs.Annotation.CanonicalFile
import TableBinding.Proofs.Class.DeclaredMembers
import TableBinding.Proofs.Class.Effects
import TableBinding.Proofs.Text.PlaceMarks

/-!
# What the builders of statements put together

The builders of INSERT, UPDATE, DELETE and SELECT put their statements together from the columns
whose flags the object has set: the columns that take part are named, given values and assigned, the
columns that are required are conditions, all in order of declaration and with separators between
them only (`Struct.flags_select`). So the flag of a column decides about this column and about no
other.

The shape of the argument: a builder gives back what the effect of its body makes of empty variables
(`Struct.leaves_of_runs`); the effects of its additions are those of the columns whose flags are set,
each of which adds its name, its value or its condition (`Struct.runs_insertions`,
`Struct.runs_assignments`, `Struct.runs_conditions`); and the comma that is one too many is
dropped.
-/

namespace TableBinding

open Text Code Program

/-! ## What columns add -/

namespace Program.Context

/-- The value of a column, in quotes. -/
def quoted (c : Context) (f : Field) : Text := '\'' :: c.member f.name ++ ['\'']

/-- The name of a column and its value. -/
def assigned (c : Context) (f : Field) : Text := f.name ++ '=' :: c.quoted f

/-- The condition that a column has its value. -/
def condition (c : Context) (f : Field) : Text := "AND " ++ c.assigned f ++ [' ']

end Program.Context

section
variable {arg : Text → Text → Text} {c : Context}

/-- A place mark in quotes is filled with the value in quotes. -/
theorem Text.FillsOnce.quoted (harg : FillsOnce arg) {front : Text} (hfront : '%' ∉ front)
    (value : Text) {separator : Char} (hseparator : separator ≠ '%') :
    arg (front ++ ['\'', '%', '1', '\'', separator]) value =
      front ++ '\'' :: value ++ ['\''] ++ [separator] := by
  have hquoted : '%' ∉ front ++ ['\''] := List.not_mem_append hfront (by decide)
  have hbehind : '%' ∉ ['\'', separator] := by simpa using hseparator.symm
  have hhead : NoDigitHead ['\'', separator] := by
    intro c hc
    cases hc
    rfl
  have hfill := harg (front ++ ['\'']) value ['\'', separator] hquoted hbehind hhead
  have hmark : ("%1" : Text) = ['%', '1'] := by decide
  rw [hmark] at hfill
  simpa only [List.append_assoc, List.cons_append, List.nil_append] using hfill

theorem Code.IsName.not_mem_percent {name : Text} (h : IsName name) : '%' ∉ name := fun hmem =>
  absurd (h.2 _ hmem) (by decide)

theorem added_of_ne {v : Local} {parts : List (Local × Piece)} (h : ∀ part ∈ parts, part.1 ≠ v) :
    added arg c v parts = [] :=
  List.flatMap_eq_nil_iff.2 fun part hpart => if_neg (h part hpart)

theorem added_keys (f : Field) :
    added arg c .keys [(.keys, .literal (f.name ++ [','])), (.values, .template "'%1'," f.name)] =
      f.name ++ [','] := List.append_nil _

theorem added_values (harg : FillsOnce arg) (f : Field) :
    added arg c .values [(.keys, .literal (f.name ++ [','])), (.values, .template "'%1'," f.name)] =
      c.quoted f ++ [','] :=
  (List.append_nil _).trans (harg.quoted List.not_mem_nil (c.member f.name) (by decide))

theorem added_assignment (harg : FillsOnce arg) {f : Field} (hf : IsName f.name) :
    added arg c .assignments [(.assignments, .template (f.name ++ "='%1',") f.name)] =
      c.assigned f ++ [','] := by
  have hfront : '%' ∉ f.name ++ ['='] := List.not_mem_append hf.not_mem_percent (by decide)
  have htemplate : f.name ++ "='%1'," = f.name ++ ['='] ++ ['\'', '%', '1', '\'', ','] := by
    rw [List.append_assoc]
    rfl
  have hadded : added arg c .assignments [(.assignments, .template (f.name ++ "='%1',") f.name)] =
      arg (f.name ++ "='%1',") (c.member f.name) := List.append_nil _
  rw [hadded, htemplate, harg.quoted hfront _ (by decide)]
  unfold Context.assigned Context.quoted
  simp only [List.append_assoc, List.cons_append, List.nil_append]

theorem added_condition (harg : FillsOnce arg) (v : Local) {f : Field} (hf : IsName f.name) :
    added arg c v [(v, .template ("AND " ++ f.name ++ "='%1' ") f.name)] = c.condition f := by
  have hfront : '%' ∉ "AND " ++ (f.name ++ ['=']) :=
    List.not_mem_append (by decide) (List.not_mem_append hf.not_mem_percent (by decide))
  have htemplate : "AND " ++ f.name ++ "='%1' " =
      "AND " ++ (f.name ++ ['=']) ++ ['\'', '%', '1', '\'', ' '] := by
    rw [List.append_assoc, List.append_assoc, List.append_assoc]
    rfl
  have hadded : added arg c v [(v, .template ("AND " ++ f.name ++ "='%1' ") f.name)] =
      arg ("AND " ++ f.name ++ "='%1' ") (c.member f.name) := by
    rw [added, List.flatMap_singleton, if_pos rfl]
    rfl
  rw [hadded, htemplate, harg.quoted hfront _ (by decide)]
  unfold Context.condition Context.assigned Context.quoted
  simp only [List.append_assoc, List.cons_append, List.nil_append]

/-- Flags of different names or kinds are different members. -/
theorem Flag.member_inj {first second : Flag} (h : first.member = second.member) :
    first = second := by
  revert h
  unfold Flag.member
  cases first with
  | _ =>
    cases second with
    | _ => simp

end

/-! ## The builders -/

/-- The name of a method's variant about the table. -/
def TableRef.variant : TableRef → Text → Text
  | fixed, method => method
  | chosen, method => objectVariant method

namespace Struct

section
variable (c : Context) (d : Struct)

/-- The object has the table: that of the struct always, another if the flag of the field that names
it is set. -/
def Offers : TableRef → Prop
  | .fixed => True
  | .chosen => ∃ flag ∈ d.redirection?, c.flag flag.member = true

/-- The columns that take part in INSERT and UPDATE. -/
def written : List Field := d.columns.filter fun f => c.flag (Flag.written f.name).member

/-- The columns that are conditions of WHERE. -/
def required : List Field := d.columns.filter fun f => c.flag (Flag.required f.name).member

/-- The columns and the flag that redirects the object have names. -/
structure IsNamed : Prop where
  columns : ∀ f ∈ d.columns, IsName f.name
  redirection : ∀ flag ∈ d.redirection?, IsName flag.member

end

variable {arg : Text → Text → Text} {c : Context} {d : Struct} {ref : TableRef}

theorem IsNamed.of_structs {s : Spelling} {source : Text} {structs : List Struct}
    (h : Source.structs s source = .ok structs) (hd : d ∈ structs) : d.IsNamed := by
  have hformed := (Source.isRead_of_structs h d hd).wellFormed
  exact ⟨fun f hf => mem_isIdent (hformed.fields f (List.mem_of_mem_filter hf)).name,
    fun flag hflag => (isFlag_of_redirection? hformed hflag).isName⟩

/-- The method's variant about the table, run on the object, ends in such a state. -/
def Leaves (arg : Text → Text → Text) (c : Context) (d : Struct) (ref : TableRef)
    (method params : Text) (post : State → Prop) : Prop :=
  ∃ m ∈ d.methods, m.signature = textSignature (ref.variant method) params ∧
    ∃ program, m.program? = some program ∧ post (run arg c program)

/-- **A builder runs its body** and gives the statement back, for the struct's table and for the one
that the object has. -/
theorem leaves_of_runs {method params : Text} {body : TableRef → List Statement}
    {effect : Vars → Vars} {post : State → Prop} (hd : d.IsNamed) (href : d.Offers c ref)
    (hmem : ∀ m ∈ d.builders method params .instanceLevel body, m ∈ d.methods)
    (hruns : Runs arg c (body ref) effect)
    (hpost : ∀ last : State, (∀ v : Local, last.value v.name = effect (fun _ => []) v) →
      last.given? = some (effect (fun _ => []) .sql) → post last) :
    d.Leaves arg c ref method params post := by
  have hgives : ∀ {body : List Statement}, Runs arg c body effect → ∃ program,
      (codeOf (body ++ [.giveSql])).mapM Command.ofText? = some program ∧
        post (run arg c program) := by
    intro body hbody
    obtain ⟨program, hread, hholds⟩ := hbody
    obtain ⟨hunderWay, hvalue⟩ := hholds {} _ .start
    have hgive : Command.ofText? "return sql;" = some (.give Local.sql.name) := by decide +kernel
    refine ⟨program ++ [.give Local.sql.name], ?_, ?_⟩
    · rw [codeOf, List.flatMap_append, List.mapM_append]
      unfold codeOf at hread
      rw [hread]
      have hlast : ([Statement.giveSql].flatMap fun statement => statement.lines.map Line.text) =
          [("return sql;" : Text)] := rfl
      rw [hlast, List.mapM_cons, hgive]
      rfl
    · rw [run_append, run_cons hunderWay]
      exact hpost _ hvalue (congrArg some (hvalue .sql))
  cases ref with
  | fixed =>
    obtain ⟨program, hread, hstate⟩ := hgives hruns
    refine ⟨_, hmem _ (List.mem_cons_self ..), rfl, program, ?_, hstate⟩
    rw [Method.program?, Method.code_eq]
    exact hread
  | chosen =>
    obtain ⟨flag, hflag, hset⟩ := href
    have hvariant : { signature := textSignature (objectVariant method) params
                      body := .demand flag :: body .chosen ++ [.giveSql] : Method } ∈
        d.builders method params .instanceLevel body :=
      List.mem_cons_of_mem _ (List.mem_map.2 ⟨flag, Option.mem_toList.2 hflag, rfl⟩)
    have hdemand : Runs arg c [.demand flag] id := Runs.demand (hd.redirection flag hflag) hset
    obtain ⟨program, hread, hstate⟩ := hgives (hdemand.cons hruns)
    refine ⟨_, hmem _ hvariant, rfl, program, ?_, hstate⟩
    rw [Method.program?, Method.code_eq]
    exact hread

/-- A variable that no column adds to is left as it is. -/
theorem append_added_of_ne {fs : List Field} {parts : Field → List (Local × Piece)} {v : Local}
    (t : Text) (h : ∀ f, ∀ part ∈ parts f, part.1 ≠ v) :
    (t ++ fs.flatMap fun f => added arg c v (parts f)) = t := by
  have hnone : (fs.flatMap fun f => added arg c v (parts f)) = [] :=
    List.flatMap_eq_nil_iff.2 fun f _ => added_of_ne (h f)
  rw [hnone, List.append_nil]

theorem runs_conditions (harg : FillsOnce arg) (hd : d.IsNamed) (v : Local) :
    Runs arg c (d.conditions v) fun vars =>
      Function.update vars v (vars v ++ (d.required c).flatMap c.condition) := by
  refine (Runs.additions (fun f hf => ?_) (fun f hf => ?_) fun f => List.cons_ne_nil _ _).congr
    fun vars => ?_
  · exact IsName.append (by decide) (hd.columns f hf)
  · refine List.forall_mem_singleton.2 ⟨?_, hd.columns f hf⟩
    exact (IsBare.append (by decide) (.of_isName (hd.columns f hf))).append (by decide)
  · funext w
    by_cases hw : w = v
    · subst hw
      rw [Function.update_self]
      refine congrArg (vars w ++ ·) (List.flatMap_congr fun f hf => ?_)
      exact added_condition harg w (hd.columns f (List.mem_of_mem_filter hf))
    · rw [Function.update_of_ne hw]
      exact append_added_of_ne _ fun f => List.forall_mem_singleton.2 (Ne.symm hw)

theorem runs_insertions (harg : FillsOnce arg) (hd : d.IsNamed) :
    Runs arg c (d.columns.map insertion) fun vars =>
      Function.update
        (Function.update vars .keys
          (vars .keys ++ (d.written c).flatMap fun f => f.name ++ [',']))
        .values (vars .values ++ (d.written c).flatMap fun f => c.quoted f ++ [',']) := by
  refine (Runs.additions (fun f hf => ?_) (fun f hf => ?_) fun f => List.cons_ne_nil _ _).congr
    fun vars => ?_
  · exact IsName.append (by decide) (hd.columns f hf)
  · have hkey : (Piece.literal (f.name ++ [','])).IsBare :=
      IsBare.append (.of_isName (hd.columns f hf)) (by decide)
    have hvalue : (Piece.template "'%1'," f.name).IsBare := ⟨by decide, hd.columns f hf⟩
    exact List.forall_mem_cons.2 ⟨hkey, List.forall_mem_singleton.2 hvalue⟩
  · funext v
    by_cases hvalues : v = .values
    · rw [hvalues, Function.update_self]
      exact congrArg (vars .values ++ ·) (List.flatMap_congr fun f _ => added_values harg f)
    rw [Function.update_of_ne hvalues]
    by_cases hkeys : v = .keys
    · rw [hkeys, Function.update_self]
      exact congrArg (vars .keys ++ ·) (List.flatMap_congr fun f _ => added_keys f)
    · rw [Function.update_of_ne hkeys]
      exact append_added_of_ne _ fun f =>
        List.forall_mem_cons.2 ⟨Ne.symm hkeys, List.forall_mem_singleton.2 (Ne.symm hvalues)⟩

theorem runs_assignments (harg : FillsOnce arg) (hd : d.IsNamed) :
    Runs arg c (d.columns.map assignment) fun vars =>
      Function.update vars .assignments
        (vars .assignments ++ (d.written c).flatMap fun f => c.assigned f ++ [',']) := by
  refine (Runs.additions (fun f hf => ?_) (fun f hf => ?_) fun f => List.cons_ne_nil _ _).congr
    fun vars => ?_
  · exact IsName.append (by decide) (hd.columns f hf)
  · refine List.forall_mem_singleton.2 ⟨?_, hd.columns f hf⟩
    exact IsBare.append (.of_isName (hd.columns f hf)) (by decide)
  · funext v
    by_cases hv : v = .assignments
    · rw [hv, Function.update_self]
      refine congrArg (vars .assignments ++ ·) (List.flatMap_congr fun f hf => ?_)
      exact added_assignment harg (hd.columns f (List.mem_of_mem_filter hf))
    · rw [Function.update_of_ne hv]
      exact append_added_of_ne _ fun f => List.forall_mem_singleton.2 (Ne.symm hv)

/-- **The builder of an INSERT statement** leaves the names and the values of the columns that take
part, and fills its template with them. -/
theorem leaves_insert (harg : FillsOnce arg) (hd : d.IsNamed) (href : d.Offers c ref) :
    d.Leaves arg c ref "insert_sql" "bool insertOrReplace" fun last =>
      last.value "strKey" = join "," ((d.written c).map Field.name) ∧
      last.value "strVal" = join "," ((d.written c).map c.quoted) ∧
      last.given? = some (arg (arg (arg (arg "%1 %2(%3) VALUES(%4)" c.keyword)
        (c.call ref.method)) (join "," ((d.written c).map Field.name)))
        (join "," ((d.written c).map c.quoted))) := by
  have hmem : ∀ m ∈ d.insert, m ∈ d.methods := mem_methods_of_mem_builders (by simp)
  have hdeclare : Runs arg c [.declare [.keys, .values]] _ := Runs.declare (by decide +kernel)
  have hdefine : Runs arg c [.define "%1 %2(%3) VALUES(%4)"
      [.var .keyword, .table ref, .var .keys, .var .values]] _ :=
    Runs.define (by cases ref <;> decide +kernel)
  refine leaves_of_runs hd href (List.forall_mem_append.1 hmem).1
    (((Runs.chooseKeyword.cons hdeclare).append (runs_insertions harg hd)).append
      ((Runs.dropLast .keys).cons ((Runs.dropLast .values).cons hdefine))) ?_
  intro last hvalue hgiven
  have hkeys := hvalue .keys
  have hvalues := hvalue .values
  simp only [Function.comp_apply, List.foldl_cons, List.foldl_nil, List.map_cons, List.map_nil,
    Function.update_apply, reduceCtorEq, reduceIte, Operand.text, List.nil_append,
    dropLast_flatMap_comma] at hkeys hvalues hgiven
  exact ⟨hkeys, hvalues, hgiven⟩

/-- **The builder of an UPDATE statement** leaves the assignments of the columns that take part and
the conditions, and fills its template with them. -/
theorem leaves_update (harg : FillsOnce arg) (hd : d.IsNamed) (href : d.Offers c ref) :
    d.Leaves arg c ref "update_sql" [] fun last =>
      last.value "strSet" = join "," ((d.written c).map c.assigned) ∧
      last.value "strWhere" = (d.required c).flatMap c.condition ∧
      last.given? = some (arg (arg (arg "UPDATE %1 SET %2 WHERE 1=1 %3" (c.call ref.method))
        (join "," ((d.written c).map c.assigned))) ((d.required c).flatMap c.condition)) := by
  have hmem : ∀ m ∈ d.update, m ∈ d.methods := mem_methods_of_mem_builders (by simp)
  have hdeclare : Runs arg c [.declare [.assignments, .conditions]] _ :=
    Runs.declare (by decide +kernel)
  have hdefine : Runs arg c [.define "UPDATE %1 SET %2 WHERE 1=1 %3"
      [.table ref, .var .assignments, .var .conditions]] _ :=
    Runs.define (by cases ref <;> decide +kernel)
  have hassigned := hdeclare.cons (runs_assignments harg hd)
  have hfinish := (Runs.dropLast .assignments).cons hdefine
  refine leaves_of_runs hd href (List.forall_mem_append.1 hmem).1
    ((hassigned.append (runs_conditions harg hd .conditions)).append hfinish) ?_
  intro last hvalue hgiven
  have hassignments := hvalue .assignments
  have hconditions := hvalue .conditions
  simp only [Function.comp_apply, List.foldl_cons, List.foldl_nil, List.map_cons, List.map_nil,
    Function.update_apply, reduceCtorEq, reduceIte, Operand.text, List.nil_append,
    dropLast_flatMap_comma] at hassignments hconditions hgiven
  exact ⟨hassignments, hconditions, hgiven⟩

/-- **A builder that adds the conditions to its template** gives the filled template with the
conditions behind. -/
theorem leaves_filter (harg : FillsOnce arg) (hd : d.IsNamed) (href : d.Offers c ref)
    {method front : Text} (hfront : '%' ∉ front)
    (hmem : ∀ m ∈ d.builders method [] .instanceLevel (fun table =>
      .define (front ++ ("%1" ++ " WHERE 1=1 ")) [.table table] :: d.conditions .sql),
        m ∈ d.methods)
    (hread : Command.ofText? ("QString sql = " ++
        filled (front ++ ("%1" ++ " WHERE 1=1 ")) [.table ref] ++ [';']) =
      some (.define Local.sql.name
        ⟨front ++ ("%1" ++ " WHERE 1=1 "), [.table ref].map Operand.term⟩)) :
    d.Leaves arg c ref method [] fun last =>
      last.given? = some (front ++ (c.call ref.method ++ " WHERE 1=1 ") ++
        (d.required c).flatMap c.condition) := by
  have hhead : NoDigitHead " WHERE 1=1 " := by decide
  refine leaves_of_runs hd href hmem ((Runs.define hread).cons (runs_conditions harg hd .sql)) ?_
  intro last _ hgiven
  simp only [Function.comp_apply, List.foldl_cons, List.foldl_nil, List.map_cons, List.map_nil,
    Function.update_apply, reduceIte, Operand.text, harg _ _ _ hfront (by decide) hhead] at hgiven
  exact hgiven

/-! ## Flags -/

/-- What the four builders put together on the object: the columns `written` in the lists of INSERT
and UPDATE, and the columns `required` in the conditions of UPDATE, DELETE and SELECT. -/
structure PutsTogether (arg : Text → Text → Text) (c : Context) (d : Struct) (ref : TableRef)
    (written required : List Field) : Prop where
  insert : d.Leaves arg c ref "insert_sql" "bool insertOrReplace" fun last =>
    last.value "strKey" = join "," (written.map Field.name) ∧
      last.value "strVal" = join "," (written.map c.quoted)
  update : d.Leaves arg c ref "update_sql" [] fun last =>
    last.value "strSet" = join "," (written.map c.assigned) ∧
      last.value "strWhere" = required.flatMap c.condition
  delete : d.Leaves arg c ref "delete_sql" [] fun last =>
    last.given? = some ("DELETE FROM " ++ (c.call ref.method ++ " WHERE 1=1 ") ++
      required.flatMap c.condition)
  query : d.Leaves arg c ref "query_sql" [] fun last =>
    last.given? = some ("SELECT * FROM " ++ (c.call ref.method ++ " WHERE 1=1 ") ++
      required.flatMap c.condition)

theorem Leaves.mono {method params : Text} {post weaker : State → Prop}
    (h : d.Leaves arg c ref method params post) (hpost : ∀ last, post last → weaker last) :
    d.Leaves arg c ref method params weaker := by
  obtain ⟨m, hm, hsignature, program, hread, hlast⟩ := h
  exact ⟨m, hm, hsignature, program, hread, hpost _ hlast⟩

theorem putsTogether_of_isNamed (harg : FillsOnce arg) (hd : d.IsNamed) (href : d.Offers c ref) :
    d.PutsTogether arg c ref (d.written c) (d.required c) where
  insert := (leaves_insert harg hd href).mono fun _ h => ⟨h.1, h.2.1⟩
  update := (leaves_update harg hd href).mono fun _ h => ⟨h.1, h.2.1⟩
  delete := by
    have hmem : ∀ m ∈ d.delete, m ∈ d.methods := mem_methods_of_mem_builders (by simp)
    have htemplate : ("DELETE FROM %1 WHERE 1=1 " : Text) =
        "DELETE FROM " ++ ("%1" ++ " WHERE 1=1 ") := by decide
    unfold Struct.delete at hmem
    rw [htemplate] at hmem
    exact leaves_filter harg hd href (by decide) (List.forall_mem_append.1 hmem).1
      (by cases ref <;> decide +kernel)
  query := by
    have hmem : ∀ m ∈ d.query, m ∈ d.methods := mem_methods_of_mem_builders (by simp)
    have htemplate : ("SELECT * FROM %1 WHERE 1=1 " : Text) =
        "SELECT * FROM " ++ ("%1" ++ " WHERE 1=1 ") := by decide
    unfold Struct.query at hmem
    rw [htemplate] at hmem
    exact leaves_filter harg hd href (by decide) (List.forall_mem_append.1 hmem).1
      (by cases ref <;> decide +kernel)

/-- Without its flag, a column is left out. -/
theorem filter_clear {flag : Text → Flag} (hflag : Function.Injective flag) (c : Context)
    (fs : List Field) (name : Text) :
    (fs.filter fun f => (c.clear (flag name).member).flag (flag f.name).member) =
      (fs.filter fun f => c.flag (flag f.name).member).filter (·.name ≠ name) := by
  rw [List.filter_filter]
  refine List.filter_congr fun f _ => ?_
  by_cases hf : f.name = name
  · simp [Context.clear, hf]
  · have hmember : (flag f.name).member ≠ (flag name).member := fun h =>
      hf (hflag (Flag.member_inj h))
    rw [Context.clear_flag_of_ne hmember]
    simp [hf]

/-- The flag of another kind decides about no column. -/
theorem filter_clear_of_ne {flag : Text → Flag} {other : Flag} (hother : ∀ name, flag name ≠ other)
    (c : Context) (fs : List Field) :
    (fs.filter fun f => (c.clear other.member).flag (flag f.name).member) =
      fs.filter fun f => c.flag (flag f.name).member :=
  List.filter_congr fun _ _ => Context.clear_flag_of_ne fun h => hother _ (Flag.member_inj h)

theorem Offers.clear (href : d.Offers c ref) {other : Flag}
    (hother : ∀ name, Flag.redirected name ≠ other) : d.Offers (c.clear other.member) ref := by
  cases ref with
  | fixed => trivial
  | chosen =>
    obtain ⟨flag, hflag, hset⟩ := href
    obtain ⟨f, -, rfl⟩ := Option.map_eq_some_iff.1 hflag
    have hmember : (Flag.redirected f.name).member ≠ other.member := fun h =>
      hother _ (Flag.member_inj h)
    exact ⟨_, hflag, (Context.clear_flag_of_ne hmember).trans hset⟩

/-- **Flags select columns.** For every struct that was read, whatever flags its object has set and
whatever its members hold, the builders put together the columns whose flags are set, in order of
declaration; and without the flag of one column, they put together what they did before without this
column, and everything else as before. -/
theorem flags_select (harg : FillsOnce arg) {s : Spelling} {source : Text} {structs : List Struct}
    (h : Source.structs s source = .ok structs) (hd : d ∈ structs) (href : d.Offers c ref) :
    d.PutsTogether arg c ref (d.written c) (d.required c) ∧ ∀ name : Text,
      d.PutsTogether arg (c.clear (Flag.written name).member) ref
        ((d.written c).filter (·.name ≠ name)) (d.required c) ∧
      d.PutsTogether arg (c.clear (Flag.required name).member) ref
        (d.written c) ((d.required c).filter (·.name ≠ name)) := by
  have hnamed := IsNamed.of_structs h hd
  refine ⟨putsTogether_of_isNamed harg hnamed href, fun name => ⟨?_, ?_⟩⟩
  · have hoffers : d.Offers (c.clear (Flag.written name).member) ref :=
      href.clear fun _ => Flag.noConfusion
    have hputs := putsTogether_of_isNamed harg hnamed hoffers
    unfold written required at hputs ⊢
    rwa [filter_clear (fun _ _ => Flag.written.inj) c d.columns name,
      filter_clear_of_ne (fun _ => Flag.noConfusion) c d.columns] at hputs
  · have hoffers : d.Offers (c.clear (Flag.required name).member) ref :=
      href.clear fun _ => Flag.noConfusion
    have hputs := putsTogether_of_isNamed harg hnamed hoffers
    unfold written required at hputs ⊢
    rwa [filter_clear (fun _ _ => Flag.required.inj) c d.columns name,
      filter_clear_of_ne (fun _ => Flag.noConfusion) c d.columns] at hputs

/-- A struct whose objects can name another table. -/
def note : Struct where
  typeName := "Note"
  tableName := "notes"
  fields :=
    [{ hostType := "int", name := "id", persisted := true, columnType := "INTEGER",
       primaryKey := true },
      { hostType := "QString", name := "place", namesTable := true },
      { hostType := "QString", name := "body", persisted := true, columnType := "TEXT" }]

def noteSource : Text :=
  [("struct Note //\x60notes\x60" : String), "\x7b", "int id; //\x60INTEGER,PK\x60",
    "QString place; //\x60ZX_TABLENAME\x60", "QString body; //\x60TEXT\x60",
    "\x7d;"].flatMap fun line => line.toList ++ ['\n']

/-- An object of it with all flags set, and with a place mark in the text. -/
def noteObject : Context where
  flag := fun _ => true
  member := fun name => if name = "body" then "50%1, 'x'" else "7"
  call := fun _ => "notes_2"
  parameter := fun _ => false

theorem flags_select_note :
    Source.structs {} noteSource = .ok [note] ∧ note.Offers noteObject .chosen ∧
      note.Leaves (fun template value => fillLowest value template) (noteObject.clear "iuq_id")
        .chosen "update_sql" [] fun last =>
          last.value "strSet" = "body='50%1, 'x''" ∧
            last.value "strWhere" = "AND id='7' AND body='50%1, 'x'' " := by
  have hread : Source.structs {} noteSource = .ok [note] := by decide +kernel
  have hoffers : note.Offers noteObject .chosen := ⟨.redirected "place", by decide +kernel, rfl⟩
  have harg : FillsLowest fun template value => fillLowest value template := fun _ _ => rfl
  have hset : join "," (((note.written noteObject).filter (·.name ≠ ("id" : Text))).map
      (noteObject.clear "iuq_id").assigned) = "body='50%1, 'x''" := by decide +kernel
  have hwhere : (note.required noteObject).flatMap (noteObject.clear "iuq_id").condition =
      "AND id='7' AND body='50%1, 'x'' " := by decide +kernel
  obtain ⟨-, hclear⟩ := flags_select harg.fillsOnce hread (List.mem_singleton_self _) hoffers
  refine ⟨hread, hoffers, (hclear "id").1.update.mono fun last hlast => ?_⟩
  exact ⟨hlast.1.trans hset, hlast.2.trans hwhere⟩

end Struct

end TableBinding
