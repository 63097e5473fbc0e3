import TableBinding.Proofs.Annotation.CanonicalFile
import TableBinding.Proofs.Class.Declarations
import TableBinding.Proofs.Class.References
import TableBinding.Proofs.Run.FirstFault

/-!
# A class refers to what it declares

The code of a generated class accesses no member that the class does not declare, looks at no flag
that it does not also set, and calls no method that it does not emit
(`Settings.references_declared`). The flags are named in many places but declared in one, and there
a column comes before a field that names the table; so this rests on what reading a declaration
guarantees: no field is both (`Struct.redirected_of_tableField?`). The bodies are read between line
feeds, and mention the same as they stand in the generated text (`Settings.mentions_generated`).

The shape of the argument: the parts of every statement name what is there
(`Struct.names_of_mem_methods`), this is what the methods mention (`Statement.yields`,
`Struct.mentions_eq`), and what is there is declared (`Struct.declaredFlags_eq`,
`Struct.declaredMembers_eq`).
-/

namespace TableBinding

open Text Code

variable {s : Spelling} {d : Struct} {f : Field}

namespace Struct

/-- What the bodies of the methods mention, read one line below the other. -/
def mentions (d : Struct) : List Mention :=
  Code.mentions (lexemes (Layout.plain.render
    (d.methods.flatMap fun m => m.body.flatMap Statement.lines)))

/-- What there is to mention. -/
def Knows (d : Struct) : Mention → Prop
  | .member name =>
    name ∈ d.fields.map (·.name) ∨ name ∈ d.flags.map Flag.member ∨ name ∈ d.methodNames
  | .flag name => name ∈ d.flags.map Flag.member
  | .call name => name ∈ d.methodNames

/-! ## What there is to name -/

theorem isMember_of_mem (hd : d.WellFormed s) (hf : f ∈ d.fields) : IsMember d.Knows f.name :=
  ⟨mem_isIdent (hd.fields f hf).name, .inl (List.mem_map_of_mem hf)⟩

theorem isFlag_of_mem (hd : d.WellFormed s) {flag : Flag} (h : flag ∈ d.flags) :
    IsFlag d.Knows flag.member :=
  have hflag : flag.member ∈ d.flags.map Flag.member := List.mem_map_of_mem h
  ⟨⟨mem_isIdent (isIdent_of_mem_flags hd flag h), .inr (.inl hflag)⟩, hflag⟩

/-- The flags of a column. -/
theorem flags_of_column (h : f ∈ d.columns) :
    .written f.name ∈ d.flags ∧ .required f.name ∈ d.flags ∧ .received f.name ∈ d.flags := by
  obtain ⟨hmem, hpersisted⟩ := List.mem_filter.1 h
  have hflags : f.flags = [.written f.name, .required f.name, .received f.name] := if_pos hpersisted
  have hsub : ∀ flag ∈ f.flags, flag ∈ d.flags := fun flag hflag =>
    List.mem_flatMap.2 ⟨f, hmem, hflag⟩
  rw [hflags] at hsub
  exact ⟨hsub _ (by simp), hsub _ (by simp), hsub _ (by simp)⟩

/-- **The flag of a field that names the table is declared**: such a field is no column, whose
flags would come before. -/
theorem redirected_of_tableField? (hd : d.WellFormed s) (h : d.tableField? = some f) :
    f ∈ d.fields ∧ .redirected f.name ∈ d.flags := by
  have hmem := List.mem_of_find?_eq_some h
  have hnames : f.namesTable = true := List.find?_some h
  -- A column that named the table would declare its own three flags, and not this one.
  have hpersisted : ¬ f.persisted = true := by
    intro hpersisted
    have hno := ((hd.fields f hmem).column hpersisted).noTableName
    exact absurd (hnames.symm.trans hno) (by decide)
  have hflags : f.flags = [.redirected f.name] := by
    rw [Field.flags, if_neg hpersisted, if_pos hnames]
  exact ⟨hmem, List.mem_flatMap.2 ⟨f, hmem, hflags ▸ List.mem_singleton_self _⟩⟩

theorem isFlag_of_redirection? (hd : d.WellFormed s) {flag : Flag}
    (h : d.redirection? = some flag) :
    IsFlag d.Knows flag.member := by
  obtain ⟨f, hf, rfl⟩ := Option.map_eq_some_iff.1 h
  exact isFlag_of_mem hd (redirected_of_tableField? hd hf).2

/-- The methods that name the tables are there to be called. -/
theorem knows_tableRef : d.Knows (.call TableRef.fixed.method) ∧
    ∀ flag ∈ d.redirection?, d.Knows (.call TableRef.chosen.method) := by
  refine ⟨?_, fun flag hflag => ?_⟩
  · exact mem_methodNames (tableNames_subset _ (List.mem_cons_self ..))
      (Binding.classLevel.nameBefore?_signature (by decide) [])
  · obtain ⟨f, hf, rfl⟩ := Option.map_eq_some_iff.1 hflag
    have hmem : { signature := textSignature (objectVariant "table_name") []
                  body := [.giveMember (.redirected f.name) f.name] : Method } ∈ d.tableNames :=
      List.mem_cons_of_mem _ (List.mem_map.2 ⟨f, Option.mem_toList.2 hf, rfl⟩)
    exact mem_methodNames (tableNames_subset _ hmem)
      (nameBefore?_callExpr (isIdent_objectVariant (by decide)) (by decide) (by decide))

/-! ## What the methods name -/

/-- The variants of a builder name what is there, if the body does about any table there is. -/
theorem names_of_mem_builders (hd : d.WellFormed s) {method params : Text} {binding : Binding}
    {body : TableRef → List Statement}
    (hbody : ∀ table, d.Knows (.call table.method) → ∀ st ∈ body table, st.Names d.Knows) :
    ∀ m ∈ d.builders method params binding body, ∀ st ∈ m.body, st.Names d.Knows := by
  intro m hm st hst
  rcases List.mem_cons.1 hm with rfl | hm
  · rcases List.mem_append.1 hst with hst | hst
    · exact hbody .fixed knows_tableRef.1 st hst
    · cases List.mem_singleton.1 hst
      exact trivial
  · obtain ⟨flag, hflag, rfl⟩ := List.mem_map.1 hm
    have hflag := Option.mem_toList.1 hflag
    rcases List.mem_append.1 hst with hst | hst
    · rcases List.mem_cons.1 hst with rfl | hst
      · exact isFlag_of_redirection? hd hflag
      · exact hbody .chosen (knows_tableRef.2 flag hflag) st hst
    · cases List.mem_singleton.1 hst
      exact trivial

/-- A builder and the method that executes what its variants give name what is there, if the body
and the choice between the variants do. -/
theorem names_of_mem_executed (hd : d.WellFormed s) {method params signature : Text}
    {body : TableRef → List Statement} {executing : Statement} (args : Text)
    (h : ∀ m ∈ d.builders method params .instanceLevel body ++ [⟨signature, [executing]⟩],
      m ∈ d.methods)
    (hmethod : isIdent method = true) (hcalled : method ∉ keywords)
    (hargs : args.all isIdentRest = true)
    (hbody : ∀ table, d.Knows (.call table.method) → ∀ st ∈ body table, st.Names d.Knows)
    (hexecuting : (d.choose method args).Names d.Knows → executing.Names d.Knows) :
    ∀ m ∈ d.builders method params .instanceLevel body ++ [⟨signature, [executing]⟩],
      ∀ st ∈ m.body, st.Names d.Knows := by
  rw [List.forall_mem_append] at h ⊢
  obtain ⟨hcall, hobject⟩ := variants_mem hmethod h.1
  have hchoice : (d.choose method args).Names d.Knows :=
    ⟨mem_isIdent hmethod, hcalled, List.all_eq_true.1 hargs, hcall,
      fun flag hflag => ⟨isFlag_of_redirection? hd hflag, hobject flag hflag⟩⟩
  exact ⟨names_of_mem_builders hd hbody,
    List.forall_mem_singleton.2 (List.forall_mem_singleton.2 (hexecuting hchoice))⟩

theorem names_tableNames (hd : d.WellFormed s) :
    ∀ m ∈ d.tableNames, ∀ st ∈ m.body, st.Names d.Knows := by
  intro m hm st hst
  rcases List.mem_cons.1 hm with rfl | hm
  · cases List.mem_singleton.1 hst
    exact isLiteralBody_of_isIdentRest hd.tableName.2
  · obtain ⟨f, hf, rfl⟩ := List.mem_map.1 hm
    cases List.mem_singleton.1 hst
    obtain ⟨hmem, hflag⟩ := redirected_of_tableField? hd (Option.mem_toList.1 hf)
    exact ⟨isFlag_of_mem hd hflag, isMember_of_mem hd hmem⟩

theorem names_conditions (hd : d.WellFormed s) (v : Local) :
    ∀ st ∈ d.conditions v, st.Names d.Knows := by
  intro st hst
  obtain ⟨f, hf, rfl⟩ := List.mem_map.1 hst
  have hname := isMember_of_mem hd (List.mem_of_mem_filter hf)
  refine ⟨isFlag_of_mem hd (flags_of_column hf).2.1, fun part hpart => ?_⟩
  cases List.mem_singleton.1 hpart
  refine ⟨(IsLiteralBody.append (.of_all (by decide)) ?_).append (.of_all (by decide)), hname⟩
  exact isLiteralBody_of_isIdentRest hname.isName.2

theorem names_insertion (hd : d.WellFormed s) (hf : f ∈ d.columns) :
    (insertion f).Names d.Knows := by
  have hname := isMember_of_mem hd (List.mem_of_mem_filter hf)
  refine ⟨isFlag_of_mem hd (flags_of_column hf).1, fun part hpart => ?_⟩
  rcases List.mem_pair.1 hpart with rfl | rfl
  · exact (isLiteralBody_of_isIdentRest hname.isName.2).append (.of_all (by decide))
  · exact ⟨.of_all (by decide), hname⟩

theorem names_assignment (hd : d.WellFormed s) (hf : f ∈ d.columns) :
    (assignment f).Names d.Knows := by
  have hname := isMember_of_mem hd (List.mem_of_mem_filter hf)
  refine ⟨isFlag_of_mem hd (flags_of_column hf).1, fun part hpart => ?_⟩
  cases List.mem_singleton.1 hpart
  exact ⟨(isLiteralBody_of_isIdentRest hname.isName.2).append (.of_all (by decide)), hname⟩

/-- A column is read back by the conversion of its host type: another type is not read. -/
theorem names_columnRead (hd : d.WellFormed s) (hf : f ∈ d.columns) :
    (columnRead f).Names d.Knows := by
  obtain ⟨hmem, hpersisted⟩ := List.mem_filter.1 hf
  have hhost := ((hd.fields f hmem).column hpersisted).hostType
  have hname := isMember_of_mem hd hmem
  have hflag := isFlag_of_mem hd (flags_of_column hf).2.2
  have hconversion : ∀ host : HostType, IsName host.conversion := by
    intro host
    refine mem_isIdent ?_
    cases host with
    | _ => decide
  unfold columnRead
  split
  · next hnone => exact absurd hnone hhost
  · next host _ =>
    split
    · next hchecked =>
      refine ⟨hname, hflag, hconversion host, ?_⟩
      cases host with
      | string => cases hchecked
      | bool => cases hchecked
      | _ => rfl
    · exact ⟨hname, hconversion host⟩

theorem names_dropTable (hd : d.WellFormed s) :
    ∀ m ∈ d.dropTable, ∀ st ∈ m.body, st.Names d.Knows := by
  refine names_of_mem_builders hd fun table htable st hst => ?_
  cases List.mem_singleton.1 hst
  exact ⟨.of_all (by decide), List.forall_mem_singleton.2 htable⟩

theorem names_createTable (hd : d.WellFormed s) :
    ∀ m ∈ d.createTable, ∀ st ∈ m.body, st.Names d.Knows := by
  refine names_of_mem_builders hd fun table htable st hst => ?_
  split at hst
  · cases List.mem_singleton.1 hst
    exact trivial
  · cases List.mem_singleton.1 hst
    exact List.forall_mem_singleton.2 htable

theorem names_insert (hd : d.WellFormed s) :
    ∀ m ∈ d.insert, ∀ st ∈ m.body, st.Names d.Knows := by
  have hmethods : ∀ m ∈ d.insert, m ∈ d.methods := mem_methods_of_mem_builders (by simp)
  refine names_of_mem_executed hd "insertOrReplace" hmethods (by decide) (by decide) (by decide)
    (fun table htable => ?_) fun hchoice => hchoice
  refine List.forall_mem_append.2 ⟨List.forall_mem_append.2 ⟨?_, ?_⟩, ?_⟩
  · exact List.forall_mem_cons.2 ⟨trivial, List.forall_mem_singleton.2 trivial⟩
  · intro st hst
    obtain ⟨f, hf, rfl⟩ := List.mem_map.1 hst
    exact names_insertion hd hf
  · refine List.forall_mem_cons.2 ⟨trivial, List.forall_mem_cons.2 ⟨trivial,
      List.forall_mem_singleton.2 ⟨.of_all (by decide), fun o ho => ?_⟩⟩⟩
    simp only [List.mem_cons, List.not_mem_nil, or_false] at ho
    rcases ho with rfl | rfl | rfl | rfl
    · exact trivial
    · exact htable
    · exact trivial
    · exact trivial

theorem names_delete (hd : d.WellFormed s) :
    ∀ m ∈ d.delete, ∀ st ∈ m.body, st.Names d.Knows := by
  have hmethods : ∀ m ∈ d.delete, m ∈ d.methods := mem_methods_of_mem_builders (by simp)
  refine names_of_mem_executed hd [] hmethods (by decide) (by decide) (by decide)
    (fun table htable => ?_) fun hchoice => hchoice
  exact List.forall_mem_cons.2 ⟨⟨.of_all (by decide), List.forall_mem_singleton.2 htable⟩,
    names_conditions hd .sql⟩

theorem names_readResult (hd : d.WellFormed s) : ∀ st ∈ d.readResult.body, st.Names d.Knows := by
  refine List.forall_mem_singleton.2 ⟨hd.typeName.2, .inr (.inr flush_flag_mem), ?_⟩
  intro column hcolumn
  obtain ⟨f, hf, rfl⟩ := List.mem_map.1 hcolumn
  exact names_columnRead hd hf

theorem names_query (hd : d.WellFormed s) :
    ∀ m ∈ d.query, ∀ st ∈ m.body, st.Names d.Knows := by
  have hmethods : ∀ m ∈ d.query, m ∈ d.methods := mem_methods_of_mem_builders (by simp)
  refine names_of_mem_executed hd [] hmethods (by decide) (by decide) (by decide)
    (fun table htable => ?_) fun hchoice => ⟨hchoice, get_data_mem⟩
  exact List.forall_mem_cons.2 ⟨⟨.of_all (by decide), List.forall_mem_singleton.2 htable⟩,
    names_conditions hd .sql⟩

theorem names_update (hd : d.WellFormed s) :
    ∀ m ∈ d.update, ∀ st ∈ m.body, st.Names d.Knows := by
  have hmethods : ∀ m ∈ d.update, m ∈ d.methods := mem_methods_of_mem_builders (by simp)
  refine names_of_mem_executed hd [] hmethods (by decide) (by decide) (by decide)
    (fun table htable => ?_) fun hchoice => hchoice
  refine List.forall_mem_cons.2 ⟨trivial, List.forall_mem_append.2
    ⟨List.forall_mem_append.2 ⟨?_, names_conditions hd .conditions⟩, ?_⟩⟩
  · intro st hst
    obtain ⟨f, hf, rfl⟩ := List.mem_map.1 hst
    exact names_assignment hd hf
  · refine List.forall_mem_cons.2 ⟨trivial,
      List.forall_mem_singleton.2 ⟨.of_all (by decide), fun o ho => ?_⟩⟩
    simp only [List.mem_cons, List.not_mem_nil, or_false] at ho
    rcases ho with rfl | rfl | rfl
    · exact htable
    · exact trivial
    · exact trivial

/-- **Every statement of every method names what is there.** -/
theorem names_of_mem_methods (hd : d.WellFormed s) :
    ∀ m ∈ d.methods, ∀ st ∈ m.body, st.Names d.Knows := by
  intro m hm
  rcases mem_methods.1 hm with
    rfl | hm | hm | hm | hm | hm | rfl | hm | hm | rfl | rfl
  · exact List.forall_mem_singleton.2 flush_flag_mem
  · exact names_tableNames hd m hm
  · exact names_dropTable hd m hm
  · exact names_createTable hd m hm
  · exact names_insert hd m hm
  · exact names_delete hd m hm
  · exact names_readResult hd
  · exact names_query hd m hm
  · exact names_update hd m hm
  · intro st hst
    obtain ⟨flag, hflag, rfl⟩ := List.mem_map.1 hst
    exact isFlag_of_mem hd hflag
  · refine List.forall_mem_singleton.2 fun name hname => ?_
    obtain ⟨f, hf, rfl⟩ := List.mem_map.1 hname
    exact isMember_of_mem hd (List.mem_of_mem_filter (List.mem_of_mem_filter hf))

/-- **The methods mention what their statements name**, one after the other. -/
theorem mentions_eq (hd : d.WellFormed s) :
    d.mentions = d.methods.flatMap fun m => m.body.flatMap Statement.mentions := by
  have hlines : Layout.plain.render (d.methods.flatMap fun m => m.body.flatMap Statement.lines) =
      d.methods.flatMap fun m => m.body.flatMap fun st => Layout.plain.render st.lines := by
    unfold Layout.render
    rw [List.flatMap_assoc]
    refine List.flatMap_congr fun m _ => ?_
    rw [List.flatMap_assoc]
  rw [mentions, hlines]
  refine Yields.mentions_eq (.flatMap fun m hm => .flatMap fun st hst => ?_)
  exact Statement.yields (names_of_mem_methods hd m hm st hst)

/-- **Laid out between blanks, the bodies mention the same**, and each by itself. -/
theorem mentions_eq_laidOut (hd : d.WellFormed s) {l : Layout} (hl : l.IsBlank) :
    d.mentions = d.methods.flatMap fun m =>
      Code.mentions (lexemes (l.render (m.body.flatMap Statement.lines))) := by
  rw [mentions_eq hd]
  refine List.flatMap_congr fun m hm => ?_
  have hbody : Yields (Layout.plain.render (m.body.flatMap Statement.lines))
      (m.body.flatMap Statement.mentions) := by
    rw [Layout.render, List.flatMap_assoc]
    exact .flatMap fun st hst => Statement.yields (names_of_mem_methods hd m hm st hst)
  rw [Layout.lexemes_render hl, hbody.mentions_eq]

theorem knows_of_mem_mentions (hd : d.WellFormed s) : ∀ x ∈ d.mentions, d.Knows x := by
  rw [mentions_eq hd]
  refine List.forall_mem_flatMap.2 fun m hm => List.forall_mem_flatMap.2 fun st hst => ?_
  exact Statement.good_of_mem (names_of_mem_methods hd m hm st hst)

/-- The method that sets the flags mentions all of them. -/
theorem mentions_of_mem_flags (hd : d.WellFormed s) {flag : Flag} (h : flag ∈ d.flags) :
    .flag flag.member ∈ d.mentions := by
  rw [mentions_eq hd]
  have hmethod : d.flushFlags ∈ d.methods := by
    rw [mem_methods]
    simp only [true_or, or_true]
  refine List.mem_flatMap.2 ⟨_, hmethod, List.mem_flatMap.2 ⟨_, List.mem_map_of_mem h, ?_⟩⟩
  exact List.mem_cons_of_mem _ (List.mem_singleton_self _)

end Struct

/-! ## Structs that were read -/

/-- The body of a method as it is written. -/
def Method.bodyText (l : Layout) (m : Method) : Text := l.render (m.body.flatMap Statement.lines)

theorem Struct.body_isInfix_classLines (s : Spelling) {m : Method} (hm : m ∈ d.methods) :
    m.body.flatMap Statement.lines <:+: d.classLines s := by
  have hbody : m.body.flatMap Statement.lines <:+: m.lines := ⟨[_, _], [_], rfl⟩
  have hmethod : m.lines <:+: d.methods.flatMap Method.lines :=
    List.infix_of_mem_flatten (List.mem_map_of_mem hm)
  have hclass : d.methods.flatMap Method.lines <:+: d.classLines s := ⟨_, [_], rfl⟩
  exact (hbody.trans hmethod).trans hclass

namespace Settings

/-- **The bodies stand in the generated text**, and its layout changes nothing in what they mention,
under any blank indentation and with either line ending. -/
theorem mentions_generated {settings : Settings} {source : Text} {structs : List Struct}
    (h : settings.structs source = .ok structs) (hd : d ∈ structs)
    (hlayout : settings.layout.IsBlank) :
    (∀ m ∈ d.methods, m.bodyText settings.layout <:+: settings.generated structs) ∧
    d.mentions = d.methods.flatMap fun m =>
      Code.mentions (lexemes (m.bodyText settings.layout)) := by
  have hformed := (Source.isRead_of_structs (structs_eq_ok h).2 d hd).wellFormed
  refine ⟨fun m hm => ?_, Struct.mentions_eq_laidOut hformed hlayout⟩
  have hstruct : d.classLines settings.spelling ++ [.blank] <:+:
      structs.flatMap fun d => d.classLines settings.spelling ++ [.blank] :=
    List.infix_of_mem_flatten (List.mem_map_of_mem hd)
  have hclass : d.classLines settings.spelling <:+:
      settings.layout.fileLines settings.spelling structs :=
    ((List.prefix_append _ [.blank]).isInfix.trans hstruct).trans
      (List.suffix_append settings.layout.headerLines _).isInfix
  exact ((Struct.body_isInfix_classLines settings.spelling hm).trans hclass).flatMap _

/-- **The class of a struct that was read refers to what it declares**: the flags that are looked at
or set are those with a member line; `flush_flag` sets the declared flags, one by one in their
order; a method that is called is emitted; and a member that is accessed has a member line, or is a
method that is emitted. -/
theorem references_declared {settings : Settings} {source : Text} {structs : List Struct}
    (h : settings.structs source = .ok structs) (hd : d ∈ structs) :
    (∀ name, .flag name ∈ d.mentions ↔ name ∈ d.declaredFlags settings.spelling) ∧
    d.setFlags = d.declaredFlags settings.spelling ∧
    (∀ method, .call method ∈ d.mentions → method ∈ d.methodNames) ∧
    ∀ name, .member name ∈ d.mentions →
      name ∈ d.declaredMembers settings.spelling ∨ name ∈ d.methodNames := by
  have hformed := (Source.isRead_of_structs (structs_eq_ok h).2 d hd).wellFormed
  have hknows := Struct.knows_of_mem_mentions hformed
  rw [Struct.setFlags_eq hformed, Struct.declaredFlags_eq hformed,
    Struct.declaredMembers_eq hformed]
  refine ⟨fun name => ⟨hknows _, fun hname => ?_⟩, rfl, fun method => hknows _,
    fun name hname => ?_⟩
  · obtain ⟨flag, hflag, rfl⟩ := List.mem_map.1 hname
    exact Struct.mentions_of_mem_flags hformed hflag
  · rcases hknows _ hname with hfield | hflag | hmethod
    · obtain ⟨f, hf, rfl⟩ := List.mem_map.1 hfield
      exact .inl (List.mem_flatMap.2 ⟨f, hf, List.mem_cons_self ..⟩)
    · obtain ⟨flag, hdeclared, rfl⟩ := List.mem_map.1 hflag
      obtain ⟨f, hf, hdeclared⟩ := List.mem_flatMap.1 hdeclared
      exact .inl (List.mem_flatMap.2
        ⟨f, hf, List.mem_cons_of_mem _ (List.mem_map_of_mem hdeclared)⟩)
    · exact .inr hmethod

/-- A struct with a member of each kind. -/
def order : Struct where
  typeName := "shop::Order"
  tableName := "orders"
  fields :=
    [{ hostType := "struct Note", name := "note" },
      { hostType := "QString", name := "table", namesTable := true },
      { hostType := "unsigned int", name := "id", persisted := true, columnType := "INTEGER",
        primaryKey := true }]

def orderSource : Text :=
  [("struct shop::Order //\x60orders\x60" : String), "\x7b", " struct Note note; //\x60\x60",
    "QString table; //\x60ZX_TABLENAME\x60", "unsigned int id; //\x60INTEGER,PK\x60",
    "\x7d;"].flatMap fun line => line.toList ++ ['\n']

/-- The flags of its column and of the field that names its table. -/
def orderFlags : List Text := ["otn_table", "iuq_id", "w_id", "idq_id"]

theorem references_declared_order :
    ({} : Settings).structs orderSource = .ok [order] ∧
      order.declaredFlags {} = orderFlags ∧ order.setFlags = orderFlags ∧
      (∀ name, .flag name ∈ order.mentions ↔ name ∈ orderFlags) ∧
      .call (objectVariant "insert_sql") ∈ order.mentions ∧
      objectVariant "insert_sql" ∈ order.methodNames := by
  have hread : ({} : Settings).structs orderSource = .ok [order] := by decide +kernel
  have hformed := (Source.isRead_of_structs (structs_eq_ok hread).2 order
    (List.mem_singleton_self order)).wellFormed
  have hdeclared : order.declaredFlags ({} : Settings).spelling = orderFlags := by decide
  have hcall : .call (objectVariant "insert_sql") ∈ order.mentions := by
    rw [Struct.mentions_eq hformed]
    decide +kernel
  obtain ⟨hflags, hset, hcalls, -⟩ := references_declared hread (List.mem_singleton_self order)
  rw [hdeclared] at hset
  simp only [hdeclared] at hflags
  exact ⟨hread, hdeclared, hset, hflags, hcall, hcalls _ hcall⟩

end Settings

end TableBinding
