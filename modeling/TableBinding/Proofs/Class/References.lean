import TableBinding.Class.Method
import TableBinding.Proofs.Class.CreateTable
import TableBinding.Proofs.Text.Code

/-!
# What statements refer to

Each statement of a generated method, as it is written, mentions the flags, members and methods that
its parts name, all of them and no others (`Statement.yields`): one case for every constructor.
`Statement.mentions` lists what a statement names, and `Statement.Names` says of its parts that they
can be read, and that what they name is there. A statement is read with its lines one below the
other, as a literal may reach over several of them.
-/

namespace TableBinding

open Text Code

/-! ## What a statement names -/

/-- A flag that is looked at or set. -/
def Flag.mentions (flag : Flag) : List Mention := [.member flag.member, .flag flag.member]

/-- The method that gives the name of the table. -/
def TableRef.method : TableRef → Text
  | fixed => staticVariant "table_name"
  | chosen => objectVariant "table_name"

def Operand.mentions : Operand → List Mention
  | table ref => [.call ref.method]
  | var _ => []
  | member name => [.member name]

def Piece.mentions : Piece → List Mention
  | literal _ => []
  | template _ name => [.member name]

def Choice.mentions (c : Choice) : List Mention :=
  match c.flag? with
  | none => [.call c.method]
  | some flag => flag.mentions ++ [.call (objectVariant c.method), .call c.method]

def ColumnRead.mentions : ColumnRead → List Mention
  | checked name _ _ => .member name :: (Flag.received name).mentions ++ [.member name]
  | plain name _ => [.member name]
  | cast name _ => [.member name]

def Statement.mentions : Statement → List Mention
  | setAllFlags => [.call "flush_flag"]
  | giveMember flag name => flag.mentions ++ [.member name]
  | demand flag => flag.mentions
  | addIf flag parts => flag.mentions ++ parts.flatMap (·.2.mentions)
  | define _ operands => operands.flatMap Operand.mentions
  | defineLong _ _ _ operands => operands.flatMap Operand.mentions
  | execute choice => choice.mentions
  | executeAndRead choice => choice.mentions ++ [.call "get_data"]
  | readRows _ columns => .member "flush_flag" :: columns.flatMap ColumnRead.mentions
  | setFlag flag => flag.mentions
  | compare members => members.flatMap fun name => [.member name, .member name]
  | giveText _ | declare _ | chooseKeyword | dropLast _ | giveSql => []

/-! ## Statements that can be read -/

section
variable (good : Mention → Prop)

/-- A member that may be accessed. -/
structure Code.IsMember (member : Text) : Prop where
  isName : IsName member
  known : good (.member member)

/-- A flag that may be looked at and set. -/
structure Code.IsFlag (flag : Text) : Prop extends IsMember good flag where
  knownFlag : good (.flag flag)

def Operand.Names : Operand → Prop
  | table ref => good (.call ref.method)
  | var _ => True
  | member name => IsMember good name

def Piece.Names : Piece → Prop
  | literal t => IsLiteralBody t
  | template t name => IsLiteralBody t ∧ IsMember good name

structure Choice.Names (c : Choice) : Prop where
  method : IsName c.method
  notKeyword : c.method ∉ keywords
  args : ∀ ch ∈ c.args, isIdentRest ch = true
  call : good (.call c.method)
  flag : ∀ flag ∈ c.flag?, IsFlag good flag.member ∧ good (.call (objectVariant c.method))

/-- A column is read back by a conversion, and a failed one leaves a zero. -/
def ColumnRead.Names : ColumnRead → Prop
  | checked name conversion zero =>
    IsMember good name ∧ IsFlag good (Flag.received name).member ∧ IsName conversion ∧ zero = "0"
  | plain name conversion => IsMember good name ∧ IsName conversion
  | cast _ _ => False

/-- What the statement names is there, and its literals can stand in quotes. -/
def Statement.Names : Statement → Prop
  | setAllFlags => good (.call "flush_flag")
  | giveText t => IsLiteralBody t
  | giveMember flag name => IsFlag good flag.member ∧ IsMember good name
  | demand flag => IsFlag good flag.member
  | declare _ => True
  | chooseKeyword => True
  | addIf flag parts => IsFlag good flag.member ∧ ∀ part ∈ parts, part.2.Names good
  | dropLast _ => True
  | define template operands => IsLiteralBody template ∧ ∀ o ∈ operands, o.Names good
  | defineLong _ _ _ operands => ∀ o ∈ operands, o.Names good
  | giveSql => True
  | execute choice => choice.Names good
  | executeAndRead choice => choice.Names good ∧ good (.call "get_data")
  | readRows type columns =>
    (∀ c ∈ type, isTypeChar c = true) ∧ good (.member "flush_flag") ∧
      ∀ column ∈ columns, column.Names good
  | setFlag flag => IsFlag good flag.member
  | compare members => ∀ name ∈ members, IsMember good name

end

variable {good : Mention → Prop}

theorem Code.IsFlag.good_of_mem {flag : Flag} (h : IsFlag good flag.member) :
    ∀ x ∈ flag.mentions, good x := by
  intro x hx
  rcases List.mem_pair.1 hx with rfl | rfl
  · exact h.known
  · exact h.knownFlag

theorem Operand.good_of_mem {o : Operand} (h : o.Names good) : ∀ x ∈ o.mentions, good x := by
  cases o with
  | table ref => exact List.forall_mem_singleton.2 h
  | var v => exact fun x hx => absurd hx List.not_mem_nil
  | member name => exact List.forall_mem_singleton.2 (IsMember.known h)

theorem Piece.good_of_mem {piece : Piece} (h : piece.Names good) :
    ∀ x ∈ piece.mentions, good x := by
  cases piece with
  | literal t => exact fun x hx => absurd hx List.not_mem_nil
  | template t name => exact List.forall_mem_singleton.2 h.2.known

theorem Choice.good_of_mem {c : Choice} (h : c.Names good) : ∀ x ∈ c.mentions, good x := by
  unfold mentions
  split
  · exact List.forall_mem_singleton.2 h.call
  · next flag hflag =>
    obtain ⟨hknown, hobject⟩ := h.flag flag hflag
    exact List.forall_mem_append.2 ⟨hknown.good_of_mem,
      List.forall_mem_cons.2 ⟨hobject, List.forall_mem_singleton.2 h.call⟩⟩

theorem ColumnRead.good_of_mem {column : ColumnRead} (h : column.Names good) :
    ∀ x ∈ column.mentions, good x := by
  cases column with
  | checked name conversion zero =>
    have hname := IsMember.known h.1
    exact List.forall_mem_append.2 ⟨List.forall_mem_cons.2 ⟨hname, IsFlag.good_of_mem h.2.1⟩,
      List.forall_mem_singleton.2 hname⟩
  | plain name conversion => exact List.forall_mem_singleton.2 (IsMember.known h.1)
  | cast name type => exact h.elim

/-- **What a statement names is there**, if its parts name what is. -/
theorem Statement.good_of_mem {statement : Statement} (h : statement.Names good) :
    ∀ x ∈ statement.mentions, good x := by
  have hnone : ∀ x ∈ ([] : List Mention), good x := fun x hx => absurd hx List.not_mem_nil
  cases statement with
  | setAllFlags => exact List.forall_mem_singleton.2 h
  | giveText t => exact hnone
  | giveMember flag name =>
    exact List.forall_mem_append.2 ⟨h.1.good_of_mem, List.forall_mem_singleton.2 h.2.known⟩
  | demand flag => exact IsFlag.good_of_mem h
  | declare vars => exact hnone
  | chooseKeyword => exact hnone
  | addIf flag parts =>
    refine List.forall_mem_append.2 ⟨h.1.good_of_mem, List.forall_mem_flatMap.2 ?_⟩
    exact fun part hpart => Piece.good_of_mem (h.2 part hpart)
  | dropLast v => exact hnone
  | define template operands =>
    exact List.forall_mem_flatMap.2 fun o ho => Operand.good_of_mem (h.2 o ho)
  | defineLong first middle last operands =>
    exact List.forall_mem_flatMap.2 fun o ho => Operand.good_of_mem (h o ho)
  | giveSql => exact hnone
  | execute choice => exact Choice.good_of_mem h
  | executeAndRead choice =>
    exact List.forall_mem_append.2 ⟨Choice.good_of_mem h.1, List.forall_mem_singleton.2 h.2⟩
  | readRows type columns =>
    refine List.forall_mem_cons.2 ⟨h.2.1, List.forall_mem_flatMap.2 ?_⟩
    exact fun column hcolumn => ColumnRead.good_of_mem (h.2.2 column hcolumn)
  | setFlag flag => exact IsFlag.good_of_mem h
  | compare members =>
    refine List.forall_mem_flatMap.2 fun name hname => ?_
    have hknown := IsMember.known (h name hname)
    exact List.forall_mem_cons.2 ⟨hknown, List.forall_mem_singleton.2 hknown⟩

/-! ## Lines -/

/-- Lines as they are, each ended by a line feed. -/
def Layout.plain : Layout := { indent := [], lineEnding := ['\n'] }

theorem Layout.plain_line (line : Line) : plain.line line = line.text ++ ['\n'] := by
  have hindent : ∀ n : Nat, (List.replicate n ([] : Text)).flatten = [] := by
    intro n
    induction n with
    | zero => rfl
    | succ n ih => exact ih
  rw [Layout.line, plain, hindent]
  rfl

/-- A layout that puts nothing but blanks around the lines. -/
structure Layout.IsBlank (l : Layout) : Prop where
  indent : ∀ c ∈ l.indent, Text.isBlank c = true
  ending : ∀ c ∈ l.lineEnding, Text.isBlank c = true
  ends : l.lineEnding ≠ []

theorem Layout.isBlank_plain : plain.IsBlank where
  indent := List.forall_mem_nil _
  ending := List.forall_mem_singleton.2 rfl
  ends := List.cons_ne_nil _ _

/-- A line begun where nothing is open but a literal is read the same in every blank layout. -/
theorem Layout.exists_reads_line {mode : Mode} (hmode : mode.IsSettled) (line : Line) :
    ∃ ws next, next.IsSettled ∧ ∀ l : Layout, l.IsBlank → Reads mode (l.line line) ws next := by
  obtain ⟨vs, next, hnext, hending⟩ := Reads.exists_ending (run mode line.text).2
  refine ⟨[] ++ (run mode line.text).1 ++ vs, next, hnext, ?_⟩
  intro l hl
  have hsteps : ∀ c ∈ (List.replicate line.depth l.indent).flatten, Text.isBlank c = true := by
    intro c hc
    obtain ⟨step, hstep, hc⟩ := List.mem_flatten.1 hc
    exact hl.indent c (List.eq_of_mem_replicate hstep ▸ hc)
  exact ((Reads.blanks hmode hsteps).append (.fixed mode line.text)).append
    (hending _ hl.ends hl.ending)

theorem Layout.exists_reads_render {mode : Mode} (hmode : mode.IsSettled) (lines : List Line) :
    ∃ ws next, ∀ l : Layout, l.IsBlank → Reads mode (l.render lines) ws next := by
  induction lines generalizing mode with
  | nil => exact ⟨[], mode, fun l _ => rfl⟩
  | cons line lines ih =>
    obtain ⟨ws, middle, hmiddle, hline⟩ := exists_reads_line hmode line
    obtain ⟨vs, next, hlines⟩ := ih hmiddle
    exact ⟨ws ++ vs, next, fun l hl => (hline l hl).append (hlines l hl)⟩

/-- **Lines are read the same in every blank layout**: under any indentation, and with either line
ending. -/
theorem Layout.lexemes_render {l : Layout} (hl : l.IsBlank) (lines : List Line) :
    lexemes (l.render lines) = lexemes (plain.render lines) := by
  obtain ⟨ws, next, hreads⟩ := exists_reads_render (.inl rfl : (Mode.code []).IsSettled) lines
  rw [lexemes, lexemes, hreads l hl, hreads plain isBlank_plain]

section
variable {depth : Nat} {t : Text} {lines : List Line} {xs ys : List Mention}

theorem Code.Yields.line (h : Yields t xs) : Yields (Layout.plain.render [⟨depth, t⟩]) xs := by
  have hfeed : Yields ['\n'] [] := .fixed rfl rfl rfl
  have hline := h.append hfeed
  rw [List.append_nil] at hline
  rwa [Layout.render, List.flatMap_singleton, Layout.plain_line]

theorem Code.Yields.cons (h : Yields t xs) (hlines : Yields (Layout.plain.render lines) ys) :
    Yields (Layout.plain.render (⟨depth, t⟩ :: lines)) (xs ++ ys) := by
  have hcut : (⟨depth, t⟩ :: lines : List Line) = [⟨depth, t⟩] ++ lines := rfl
  rw [hcut, Layout.render_append]
  exact h.line.append hlines

end

/-! ## The parts of a statement -/

theorem Local.isName (v : Local) : IsName v.name := by
  cases v with
  | _ => decide

/-- The call that fills a place mark. -/
theorem Operand.yields {o : Operand} (h : o.Names good) :
    Yields (".QString::arg(" ++ o.expr ++ [')']) o.mentions := by
  cases o with
  | table ref =>
    cases ref with
    | fixed => exact ⟨_, .fixed _ ".QString::arg(static_table_name())", rfl, rfl⟩
    | chosen => exact ⟨_, .fixed _ ".QString::arg(object_table_name())", rfl, rfl⟩
  | var v =>
    have hreads := ((Reads.fixed (.code []) ".QString::arg(").append (.name v.isName)).append
      (.behind v.isName (by decide) (.fixed (.code []) [')']))
    exact ⟨_, hreads, rfl, rfl⟩
  | member name =>
    have hname := IsMember.isName h
    have hreads := ((Reads.fixed (.code []) ".QString::arg(").append
      ((Reads.fixed (.code []) "this->").append (.name hname))).append
      (.behind hname (by decide) (.fixed (.code []) [')']))
    exact ⟨_, hreads, rfl, rfl⟩

theorem yields_fillCalls {operands : List Operand} (h : ∀ o ∈ operands, o.Names good) :
    Yields (fillCalls operands) (operands.flatMap Operand.mentions) :=
  .flatMap fun o ho => Operand.yields (h o ho)

/-- The template of a definition, filled. -/
theorem yields_filled {template : Text} {operands : List Operand}
    (htemplate : IsLiteralBody template) (h : ∀ o ∈ operands, o.Names good) :
    Yields ("QString sql = " ++ filled template operands ++ [';'])
      (operands.flatMap Operand.mentions) := by
  have hreads := (Reads.fixed (.code []) "QString sql = ").append
    (((Reads.fixed (.code []) "QObject::tr(\"").append (.body htemplate)).append
      (.fixed .literal "\")"))
  have hbegin : Yields ("QString sql = " ++ ("QObject::tr(\"" ++ template ++ "\")")) [] :=
    ⟨_, hreads, rfl, rfl⟩
  have hend : Yields [';'] [] := .fixed rfl rfl rfl
  have htext : "QString sql = " ++ filled template operands ++ [';'] =
      ("QString sql = " ++ ("QObject::tr(\"" ++ template ++ "\")")) ++ fillCalls operands ++
        [';'] := by
    unfold filled
    simp only [List.append_assoc]
  have hyields := (hbegin.append (yields_fillCalls h)).append hend
  rwa [List.nil_append, List.append_nil, ← htext] at hyields

/-- What is added to a variable. -/
theorem yields_addition {part : Local × Piece} (h : part.2.Names good) :
    Yields (addition part) part.2.mentions := by
  obtain ⟨v, piece⟩ := part
  have hname := v.isName
  have hvar := (Reads.name hname).append (.behind hname (by decide) (.fixed (.code []) " += "))
  cases piece with
  | literal t =>
    have hliteral := ((Reads.fixed (.code []) ['"']).append (.body h)).append
      (.fixed .literal ['"'])
    exact ⟨_, (hvar.append hliteral).append (.fixed (.code []) [';']), rfl, rfl⟩
  | template t name =>
    have htemplate := ((Reads.fixed (.code []) "QObject::tr(\"").append (.body h.1)).append
      (.fixed .literal "\")")
    have hbegin : Yields (v.name ++ " += " ++ ("QObject::tr(\"" ++ t ++ "\")")) [] :=
      ⟨_, hvar.append htemplate, rfl, rfl⟩
    have hfill : Yields (fillCalls [.member name]) [.member name] :=
      yields_fillCalls (List.forall_mem_singleton.2 h.2)
    have hend : Yields [';'] [] := .fixed rfl rfl rfl
    have htext : addition (v, .template t name) =
        (v.name ++ " += " ++ ("QObject::tr(\"" ++ t ++ "\")")) ++ fillCalls [.member name] ++
          [';'] := by
      unfold addition Piece.expr filled
      simp only [List.append_assoc]
    rw [htext]
    exact (hbegin.append hfill).append hend

/-- The additions under a flag. -/
theorem yields_addIf {flag : Flag} {parts : List (Local × Piece)}
    (hflag : IsFlag good flag.member) (hparts : ∀ part ∈ parts, part.2.Names good) :
    Yields ("if (this->" ++ flag.member ++ ") \x7b " ++
      Text.join " " (parts.map addition) ++ " \x7d")
      (flag.mentions ++ parts.flatMap (·.2.mentions)) := by
  have hreads := ((Reads.fixed (.code []) "if (this->").append (.name hflag.isName)).append
    (.behind hflag.isName (by decide) (.fixed (.code []) ") \x7b "))
  have htest : Yields ("if (this->" ++ flag.member ++ ") \x7b ") flag.mentions :=
    ⟨_, hreads, rfl, rfl⟩
  have hend : Yields " \x7d" [] := .fixed rfl rfl rfl
  have hspace : Yields " " [] := .fixed rfl rfl rfl
  have haddition : ∀ part ∈ parts, Yields (addition part) part.2.mentions :=
    fun part hpart => yields_addition (hparts part hpart)
  have hadditions : Yields (Text.join " " (parts.map addition))
      (parts.flatMap (·.2.mentions)) := by
    by_cases hnone : parts = []
    · rw [hnone]
      exact .nil
    · have hjoin : Yields ([] ++ Text.join " " (parts.map addition))
          (parts.flatMap (·.2.mentions)) :=
        .join haddition (fun part hpart => hspace.append (haddition part hpart)) hnone
      exact hjoin
  have hyields := (htest.append hadditions).append hend
  rwa [List.append_nil] at hyields

/-- A call, with an argument or without. -/
theorem exists_reads_callExpr {args : Text} (hargs : ∀ c ∈ args, isIdentRest c = true) :
    ∃ ws, (ws = [] ∨ ws = [.name args]) ∧ ∀ method, IsName method →
      Reads (.code []) (callExpr method args) (.name method :: .sign '(' :: (ws ++ [.sign ')']))
        (.code []) := by
  have hopen : ∀ method, IsName method →
      Reads (.code []) (method ++ ['(']) [.name method, .sign '('] (.code []) := by
    intro method hmethod
    exact (Reads.name hmethod).append (.behind hmethod (by decide) (.fixed (.code []) ['(']))
  by_cases hnone : args = []
  · refine ⟨[], .inl rfl, fun method hmethod => ?_⟩
    rw [callExpr, hnone, List.append_nil]
    exact (hopen method hmethod).append (.fixed (.code []) [')'])
  · have hname : IsName args := ⟨hnone, hargs⟩
    refine ⟨[.name args], .inr rfl, fun method hmethod => ?_⟩
    exact ((hopen method hmethod).append (.name hname)).append
      (.behind hname (by decide) (.fixed (.code []) [')']))

theorem objectVariant_not_mem_keywords (method : Text) : objectVariant method ∉ keywords := by
  intro h
  have hfirst : ∀ word ∈ keywords, word.head? ≠ some 'o' := by decide
  exact hfirst _ h rfl

/-- The call that a choice gives, behind the query that executes it. -/
theorem Choice.yields {c : Choice} (h : c.Names good) {front : Text}
    (hfront : front = "return query.exec(" ∨ front = "if (query.exec(") :
    Yields (front ++ c.expr) c.mentions := by
  obtain ⟨flag?, method, args⟩ := c
  -- What is read stays open only in the names and in `ws`, so for either front and either `ws` the
  -- mentions are found by computing.
  obtain ⟨ws, hws, hreads⟩ := exists_reads_callExpr h.args
  have hcall := hreads method h.method
  cases flag? with
  | none =>
    have hmentions : ∀ {ws before}, isQualified before = false →
        Code.mentions ws = (called before method ++ []) ++ [] →
        Code.mentions ws = [.call method] := by
      intro ws before hbefore hws
      rw [hws, called_eq hbefore h.notKeyword]
      rfl
    rcases hfront with rfl | rfl
    · have hexec := (Reads.fixed (.code []) "return query.exec(").append hcall
      rcases hws with rfl | rfl
      · exact ⟨_, hexec, rfl, hmentions rfl rfl⟩
      · exact ⟨_, hexec, rfl, hmentions rfl rfl⟩
    · have hexec := (Reads.fixed (.code []) "if (query.exec(").append hcall
      rcases hws with rfl | rfl
      · exact ⟨_, hexec, rfl, hmentions rfl rfl⟩
      · exact ⟨_, hexec, rfl, hmentions rfl rfl⟩
  | some flag =>
    obtain ⟨hflag, -⟩ := h.flag flag rfl
    have hvariant : IsName (objectVariant method) := IsName.append (by decide) h.method
    have hmentions : ∀ {ws before after}, isQualified before = false → isQualified after = false →
        Code.mentions ws = .member flag.member :: .flag flag.member ::
          ((called before (objectVariant method) ++ []) ++ ((called after method ++ []) ++ [])) →
        Code.mentions ws =
          flag.mentions ++ [.call (objectVariant method), .call method] := by
      intro ws before after hbefore hafter hws
      rw [hws, called_eq hbefore (objectVariant_not_mem_keywords method),
        called_eq hafter h.notKeyword]
      rfl
    have hchoice := (((((Reads.fixed (.code []) "this->").append (.name hflag.isName)).append
      (.behind hflag.isName (by decide) (.fixed (.code []) " ? "))).append
      (hreads _ hvariant)).append (.fixed (.code []) " : ")).append hcall
    rcases hfront with rfl | rfl
    · have hexec := (Reads.fixed (.code []) "return query.exec(").append hchoice
      rcases hws with rfl | rfl
      · exact ⟨_, hexec, rfl, hmentions rfl rfl rfl⟩
      · exact ⟨_, hexec, rfl, hmentions rfl rfl rfl⟩
    · have hexec := (Reads.fixed (.code []) "if (query.exec(").append hchoice
      rcases hws with rfl | rfl
      · exact ⟨_, hexec, rfl, hmentions rfl rfl rfl⟩
      · exact ⟨_, hexec, rfl, hmentions rfl rfl rfl⟩

/-- The query that is executed and read. -/
theorem yields_executeAndRead {choice : Choice} (h : choice.Names good) :
    Yields (Layout.plain.render (Statement.executeAndRead choice).lines)
      (choice.mentions ++ [.call "get_data"]) := by
  have hend : Yields "))" [] := .fixed rfl rfl rfl
  have hexec := (choice.yields h (.inr rfl)).append hend
  rw [List.append_nil] at hexec
  have hopen : Yields "\x7b" [] := .fixed rfl rfl rfl
  have hread : Yields "get_data(query, dataOut);" [.call "get_data"] := .fixed rfl rfl rfl
  have hclose : Yields "\x7d" [] := .fixed rfl rfl rfl
  exact .cons hexec (.cons hopen (.cons hread (.line hclose)))

/-- The assignment of a result column's value. -/
theorem yields_readInto {name conversion args : Text} (hname : IsName name)
    (hconversion : IsName conversion) (hargs : args = "()" ∨ args = "(&isOk)") :
    Yields (readInto name (conversion ++ args)) [.member name] := by
  have hvalue := ((((Reads.fixed (.code []) "currData.").append (.name hname)).append
    (.behind hname (by decide) (.fixed (.code []) " = query.value(\""))).append
    (.body (isLiteralBody_of_isIdentRest hname.2))).append (.fixed .literal "\").")
  rcases hargs with rfl | rfl
  · have hcall := (Reads.name hconversion).append
      (.behind hconversion (by decide) (.fixed (.code []) "()"))
    exact ⟨_, (hvalue.append hcall).append (.fixed (.code []) [';']), rfl, rfl⟩
  · have hcall := (Reads.name hconversion).append
      (.behind hconversion (by decide) (.fixed (.code []) "(&isOk)"))
    exact ⟨_, (hvalue.append hcall).append (.fixed (.code []) [';']), rfl, rfl⟩

/-- The lines that read a column. -/
theorem ColumnRead.yields {column : ColumnRead} (h : column.Names good) :
    Yields (Layout.plain.render (column.texts.map (⟨3, ·⟩))) column.mentions := by
  cases column with
  | cast name type => exact h.elim
  | plain name conversion => exact .line (yields_readInto h.1.isName h.2 (.inl rfl))
  | checked name conversion zero =>
    obtain ⟨⟨hname, -⟩, hflag, hconversion, rfl⟩ := h
    have hreset : Yields "isOk = false;" [] := .fixed rfl rfl rfl
    have hread := yields_readInto hname hconversion (.inr rfl)
    have hreads := ((((((Reads.fixed (.code []) "if (!isOk) \x7b currData.").append
      (.name hflag.isName)).append
      (.behind hflag.isName (by decide) (.fixed (.code []) " = false; currData."))).append
      (.name hname)).append (.behind hname (by decide) (.fixed (.code []) " = "))).append
      (.fixed (.code []) "0")).append (.fixed _ "; \x7d")
    have hfailed : Yields ("if (!isOk) \x7b currData." ++ (Flag.received name).member ++
        " = false; currData." ++ name ++ " = " ++ "0" ++ "; \x7d")
        ((Flag.received name).mentions ++ [.member name]) := ⟨_, hreads, rfl, rfl⟩
    have hyields : Yields
        (Layout.plain.render ((ColumnRead.checked name conversion "0").texts.map (⟨3, ·⟩)))
        ([] ++ ([.member name] ++ ((Flag.received name).mentions ++ [.member name]))) :=
      .cons hreset (.cons hread (.line hfailed))
    exact hyields

theorem isQuiet_of_isIdentRest {c : Char} (h : isIdentRest c = true) : isQuiet c = true := by
  rw [isQuiet, h]
  rfl

theorem isQuiet_of_isTypeChar {c : Char} (h : isTypeChar c = true) : isQuiet c = true := by
  rcases Bool.or_eq_true_iff.1 h with h | h
  · exact isQuiet_of_isIdentRest h
  · rw [isQuiet, h, Bool.or_true]

/-- The loop over the rows of a result. -/
theorem yields_readRows {type : Text} {columns : List ColumnRead}
    (htype : ∀ c ∈ type, isTypeChar c = true) (hcolumns : ∀ column ∈ columns, column.Names good) :
    Yields (Layout.plain.render (Statement.readRows type columns).lines)
      (.member "flush_flag" :: columns.flatMap ColumnRead.mentions) := by
  have hwhile : Yields "while (query.next())" [] := .fixed rfl rfl rfl
  have hopen : Yields "\x7b" [] := .fixed rfl rfl rfl
  have hreset : Yields "bool isOk = false;" [] := .fixed rfl rfl rfl
  have hdeclare : Yields (type ++ " currData;") [] := by
    have htext : type ++ " currData;" = type ++ (" currData" : Text) ++ [';'] := by
      rw [List.append_assoc]
      rfl
    rw [htext]
    exact .quiet (List.forall_mem_append.2
      ⟨fun c hc => isQuiet_of_isTypeChar (htype c hc), List.all_eq_true.1 rfl⟩)
  have hflush : Yields "currData.flush_flag(true);" [.member "flush_flag"] := .fixed rfl rfl rfl
  have happend : Yields "dataOut.append(currData);" [] := .fixed rfl rfl rfl
  have hclose : Yields "\x7d" [] := .fixed rfl rfl rfl
  have hbegin : Yields (Layout.plain.render [⟨2, "while (query.next())"⟩, ⟨2, "\x7b"⟩,
      ⟨3, "bool isOk = false;"⟩, ⟨3, type ++ " currData;"⟩, ⟨3, "currData.flush_flag(true);"⟩])
      [.member "flush_flag"] :=
    .cons hwhile (.cons hopen (.cons hreset (.cons hdeclare (.line hflush))))
  have hread : Yields
      (columns.flatMap fun column => Layout.plain.render (column.texts.map (⟨3, ·⟩)))
      (columns.flatMap ColumnRead.mentions) :=
    .flatMap fun column hcolumn => ColumnRead.yields (hcolumns column hcolumn)
  have hend : Yields (Layout.plain.render [⟨2, "dataOut.append(currData);"⟩, ⟨2, "\x7d"⟩]) [] :=
    .cons happend (.line hclose)
  have hlines : Layout.plain.render ((columns.flatMap ColumnRead.texts).map (⟨3, ·⟩)) =
      columns.flatMap fun column => Layout.plain.render (column.texts.map (⟨3, ·⟩)) := by
    rw [List.map_flatMap, Layout.render, List.flatMap_assoc]
    rfl
  have hyields := (hbegin.append hread).append hend
  rw [List.append_nil, ← hlines] at hyields
  have htext : Layout.plain.render (Statement.readRows type columns).lines =
      Layout.plain.render [⟨2, "while (query.next())"⟩, ⟨2, "\x7b"⟩,
        ⟨3, "bool isOk = false;"⟩, ⟨3, type ++ " currData;"⟩, ⟨3, "currData.flush_flag(true);"⟩] ++
      Layout.plain.render ((columns.flatMap ColumnRead.texts).map (⟨3, ·⟩)) ++
      Layout.plain.render [⟨2, "dataOut.append(currData);"⟩, ⟨2, "\x7d"⟩] := by
    rw [Statement.lines, Layout.render_append, Layout.render_append]
    rfl
  rw [htext]
  exact hyields

/-- The declaration of variables. -/
theorem yields_declare (vars : List Local) :
    Yields ("QString " ++ Text.join ", " (vars.map Local.name) ++ [';']) [] := by
  refine .quiet (List.forall_mem_append.2 ⟨List.all_eq_true.1 rfl, fun c hc => ?_⟩)
  rcases mem_join hc with hc | ⟨name, hname, hc⟩
  · have hseparator : ∀ c ∈ (", " : Text), isQuiet c = true := List.all_eq_true.1 rfl
    exact hseparator c hc
  · obtain ⟨v, -, rfl⟩ := List.mem_map.1 hname
    exact isQuiet_of_isIdentRest (v.isName.2 c hc)

/-- The comparison of a member with another object's. -/
theorem yields_agree {name front : Text} (hname : IsName name)
    (hfront : front = "return " ∨ front = " && ") :
    Yields (front ++ ("(this->" ++ name ++ " == other." ++ name ++ [')']))
      [.member name, .member name] := by
  have hagree := ((((Reads.fixed (.code []) "(this->").append (.name hname)).append
    (.behind hname (by decide) (.fixed (.code []) " == other."))).append
    (.name hname)).append (.behind hname (by decide) (.fixed (.code []) [')']))
  rcases hfront with rfl | rfl
  · exact ⟨_, (Reads.fixed (.code []) "return ").append hagree, rfl, rfl⟩
  · exact ⟨_, (Reads.fixed (.code []) " && ").append hagree, rfl, rfl⟩

/-- The comparison of two objects. -/
theorem yields_compare {members : List Text} (h : ∀ name ∈ members, IsName name) :
    Yields (Layout.plain.render (Statement.compare members).lines)
      (members.flatMap fun name => [.member name, .member name]) := by
  cases members with
  | nil => exact .line (.fixed rfl rfl rfl)
  | cons first others =>
    have hend : Yields [';'] [] := .fixed rfl rfl rfl
    have hjoin : Yields ("return " ++ Text.join " && " ((first :: others).map fun name =>
        "(this->" ++ name ++ " == other." ++ name ++ [')']))
        ((first :: others).flatMap fun name => [.member name, .member name]) :=
      .join (fun name hname => yields_agree (h name hname) (.inl rfl))
        (fun name hname => yields_agree (h name hname) (.inr rfl)) (List.cons_ne_nil _ _)
    have hyields := hjoin.append hend
    rw [List.append_nil] at hyields
    exact .line hyields

/-- The literal over several lines is one literal. -/
theorem yields_defineLong {first last : Text} {middle : List Text} {operands : List Operand}
    (h : ∀ o ∈ operands, o.Names good) :
    Yields (Layout.plain.render (Statement.defineLong first middle last operands).lines)
      (operands.flatMap Operand.mentions) := by
  have hbreaks : Layout.plain.Breaks := ⟨.inl rfl, fun _ hc => absurd hc List.not_mem_nil⟩
  have hbody := hbreaks.isLiteralBody_longBody first middle last
  have hreads := ((Reads.fixed (.code []) "QString sql = QObject::tr(\"").append
    (.body hbody)).append (.fixed .literal "\")")
  have hbegin : Yields ("QString sql = QObject::tr(\"" ++
      Layout.plain.longBody first middle last ++ "\")") [] := ⟨_, hreads, rfl, rfl⟩
  have hend : Yields [';', '\n'] [] := .fixed rfl rfl rfl
  have htext : Layout.plain.render (Statement.defineLong first middle last operands).lines =
      ("QString sql = QObject::tr(\"" ++ Layout.plain.longBody first middle last ++ "\")") ++
        fillCalls operands ++ [';', '\n'] := by
    have hopen : ("QString sql = QObject::tr(\"" : Text) =
        "QString sql = QObject::tr(" ++ ['"'] := by decide
    have hclose : ("\")" : Text) = ['"', ')'] := by decide
    rw [Layout.render_defineLong, hopen, hclose]
    simp only [Layout.plain, Layout.bodyIndent, List.append_assoc, List.cons_append,
      List.nil_append]
  have hyields := (hbegin.append (yields_fillCalls h)).append hend
  rwa [List.nil_append, List.append_nil, ← htext] at hyields

/-! ## Statements -/

/-- **A statement mentions what its parts name**, all of it and nothing else. -/
theorem Statement.yields {statement : Statement} (h : statement.Names good) :
    Yields (Layout.plain.render statement.lines) statement.mentions := by
  cases statement with
  | setAllFlags => exact .line (.fixed rfl rfl rfl)
  | giveText t =>
    have hreads := ((Reads.fixed (.code []) "return \"").append (.body h)).append
      (.fixed .literal "\";")
    exact .line ⟨_, hreads, rfl, rfl⟩
  | giveMember flag name =>
    obtain ⟨hflag, hname⟩ := h
    have hreads := ((((Reads.fixed (.code []) "return (this->").append
      (.name hflag.isName)).append
      (.behind hflag.isName (by decide) (.fixed (.code []) " ? this->"))).append
      (.name hname.isName)).append
      (.behind hname.isName (by decide) (.fixed (.code []) " : \"\");"))
    exact .line ⟨_, hreads, rfl, rfl⟩
  | demand flag =>
    have hreads := ((Reads.fixed (.code []) "if (this->").append (.name h.isName)).append
      (.behind h.isName (by decide) (.fixed (.code []) " == false) \x7b return \"\"; \x7d"))
    exact .line ⟨_, hreads, rfl, rfl⟩
  | declare vars => exact .line (yields_declare vars)
  | chooseKeyword => exact .line (.fixed rfl rfl rfl)
  | addIf flag parts => exact .line (yields_addIf h.1 h.2)
  | dropLast v =>
    cases v with
    | _ => exact .line (.fixed rfl rfl rfl)
  | define template operands => exact .line (yields_filled h.1 h.2)
  | defineLong first middle last operands => exact yields_defineLong h
  | giveSql => exact .line (.fixed rfl rfl rfl)
  | execute choice =>
    have hend : Yields ");" [] := .fixed rfl rfl rfl
    have hyields := (choice.yields h (.inl rfl)).append hend
    rw [List.append_nil] at hyields
    exact .line hyields
  | executeAndRead choice => exact yields_executeAndRead h.1
  | readRows type columns => exact yields_readRows h.1 h.2.2
  | setFlag flag =>
    have hreads := ((Reads.fixed (.code []) "this->").append (.name h.isName)).append
      (.behind h.isName (by decide) (.fixed (.code []) " = flagValue;"))
    exact .line ⟨_, hreads, rfl, rfl⟩
  | compare members => exact yields_compare fun name hname => (h name hname).isName

end TableBinding
