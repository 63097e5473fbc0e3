import TableBinding.Proofs.Class.Declarations
import TableBinding.Proofs.Class.References
import TableBinding.Proofs.Text.Program

/-!
# What statements do

The statements of a body are read, line by line, as commands of a program, and what this program
makes of the local variables is told statement by statement (`Runs`): a statement has an effect on
what the variables hold, and statements that follow each other have their effects one after the
other (`Runs.append`). A run of additions under flags adds to each variable what those of them add
whose flag is set, in order (`Runs.additions`).
-/

namespace TableBinding

open Text Code Program

/-! ## The programs of methods -/

/-- The lines of statements, without their indentation. -/
def codeOf (body : List Statement) : List Text :=
  body.flatMap fun statement => statement.lines.map Line.text

/-- The commands that the lines between the braces of a method are read as. -/
def Method.program? (m : Method) : Option (List Command) := m.code.mapM Command.ofText?

/-- What an INSERT statement begins with. -/
def Program.Context.keyword (c : Context) : Text :=
  if c.parameter "insertOrReplace" then "INSERT OR REPLACE INTO" else "INSERT INTO"

/-- What the local variables hold. -/
abbrev Vars := Local → Text

/-- The program is under way, and its variables hold these texts. -/
structure Program.State.Holds (e : State) (vars : Vars) : Prop where
  underWay : e.given? = none
  value : ∀ v : Local, e.value v.name = vars v

/-- The statements are read as a program that changes what the variables hold in this way. -/
def Runs (arg : Text → Text → Text) (c : Context) (body : List Statement) (effect : Vars → Vars) :
    Prop :=
  ∃ program, (codeOf body).mapM Command.ofText? = some program ∧
    ∀ (e : State) (vars : Vars), e.Holds vars → (run arg c program e).Holds (effect vars)

section
variable (arg : Text → Text → Text) (c : Context)

/-- What fills a template. -/
def Operand.text (vars : Vars) : Operand → Text
  | table ref => c.call ref.method
  | var v => vars v
  | member name => c.member name

/-- What a piece adds. -/
def Piece.text : Piece → Text
  | literal t => t
  | template t name => arg t (c.member name)

/-- What pieces add to a variable. -/
def added (v : Local) (parts : List (Local × Piece)) : Text :=
  parts.flatMap fun part => if part.1 = v then part.2.text arg c else []

end

section
variable {arg : Text → Text → Text} {c : Context} {e : State} {vars : Vars}

theorem Local.name_inj {v w : Local} : v.name = w.name ↔ v = w := by
  constructor
  · cases v <;> cases w <;> decide
  · exact congrArg name

namespace Program.State.Holds

theorem start : State.Holds {} fun _ => [] := ⟨rfl, fun _ => rfl⟩

/-- A variable is set, and the others are left as they are. -/
theorem set (h : e.Holds vars) (v : Local) (t : Text) :
    (e.set v.name t).Holds (Function.update vars v t) := by
  refine ⟨h.underWay, fun w => ?_⟩
  unfold State.set
  dsimp only
  by_cases hw : w = v
  · rw [hw, Function.update_self, Function.update_self]
  · have hname : w.name ≠ v.name := fun heq => hw (Local.name_inj.1 heq)
    rw [Function.update_of_ne hname, Function.update_of_ne hw, h.value]

/-- Pieces are added to their variables, one after the other. -/
theorem add (h : e.Holds vars) (parts : List (Local × Piece)) :
    (parts.foldl (fun e part => e.set part.1.name (e.value part.1.name ++ part.2.text arg c))
      e).Holds fun v => vars v ++ added arg c v parts := by
  induction parts generalizing e vars with
  | nil =>
    refine ⟨h.underWay, fun v => ?_⟩
    exact (h.value v).trans (List.append_nil _).symm
  | cons part parts ih =>
    have hrest := ih (h.set part.1 (vars part.1 ++ part.2.text arg c))
    rw [List.foldl_cons, h.value]
    refine ⟨hrest.underWay, fun v => ?_⟩
    rw [hrest.value, added, added, List.flatMap_cons]
    by_cases hv : part.1 = v
    · rw [← hv, Function.update_self, if_pos rfl, List.append_assoc]
    · rw [Function.update_of_ne (fun heq => hv heq.symm), if_neg hv, List.nil_append]

end Program.State.Holds

namespace Runs

variable {statement : Statement} {command : Command} {front back : List Statement} {t : Text}
  {f g : Vars → Vars}

theorem nil : Runs arg c [] id := ⟨[], rfl, fun _ _ h => h⟩

theorem single (htext : statement.lines.map Line.text = [t])
    (hread : Command.ofText? t = some command)
    (hstep : ∀ (e : State) (vars : Vars), e.Holds vars → (command.step arg c e).Holds (f vars)) :
    Runs arg c [statement] f := by
  refine ⟨[command], ?_, fun e vars h => ?_⟩
  · rw [codeOf, List.flatMap_singleton, htext, List.mapM_cons, hread]
    rfl
  · rw [run_cons h.underWay]
    exact hstep e vars h

theorem congr (h : Runs arg c front f) (hfg : ∀ vars, f vars = g vars) : Runs arg c front g :=
  funext hfg ▸ h

/-- **Statements run one after the other.** -/
theorem append (hfront : Runs arg c front f) (hback : Runs arg c back g) :
    Runs arg c (front ++ back) (g ∘ f) := by
  obtain ⟨p, hp, hf⟩ := hfront
  obtain ⟨q, hq, hg⟩ := hback
  refine ⟨p ++ q, ?_, fun e vars h => ?_⟩
  · rw [codeOf, List.flatMap_append, List.mapM_append]
    unfold codeOf at hp hq
    rw [hp, hq]
    rfl
  · rw [run_append]
    exact hg _ _ (hf _ _ h)

theorem cons (hfront : Runs arg c [statement] f) (hback : Runs arg c back g) :
    Runs arg c (statement :: back) (g ∘ f) := append hfront hback

end Runs

/-! ## Statements -/

/-- A term that fills a template. -/
def Operand.term : Operand → Term
  | table ref => .call ref.method
  | var v => .var v.name
  | member name => .member name

/-- What is added to a variable. -/
def Piece.value : Piece → Expr
  | literal t => { template := t }
  | template t name => ⟨t, [.member name]⟩

/-- A piece without quotes and backslashes, of a member that has a name. -/
def Piece.IsBare : Piece → Prop
  | literal t => Program.IsBare t
  | template t name => Program.IsBare t ∧ IsName name

theorem Piece.expr?_append {p : Piece} (h : p.IsBare) (u : Text) :
    expr? (p.expr ++ ';' :: u) = some (p.value, ';' :: u) := by
  cases p with
  | literal t =>
    have hcut : (Piece.literal t).expr ++ ';' :: u = '"' :: t ++ '"' :: ';' :: u := by
      rw [expr, List.append_assoc]
      rfl
    rw [hcut]
    exact expr?_literal h _
  | template t name =>
    have hterm : ∀ o ∈ [Operand.member name], ∀ u,
        term? (o.expr ++ ')' :: u) = some (o.term, ')' :: u) := by
      intro o ho u
      cases List.mem_singleton.1 ho
      have hcut : (Operand.member name).expr ++ ')' :: u = "this->" ++ (name ++ ')' :: u) :=
        List.append_assoc ..
      exact (congrArg term? hcut).trans (term?_member h.2 rfl)
    exact expr?_template h.1 hterm (by simp)

theorem Piece.value_eq (p : Piece) (e : State) : p.value.value arg c e = p.text arg c := by
  cases p <;> rfl

theorem Operand.value_eq (h : e.Holds vars) (o : Operand) :
    o.term.value c e = o.text c vars := by
  cases o with
  | table ref => rfl
  | var v => exact h.value v
  | member name => rfl

namespace Runs

theorem chooseKeyword : Runs arg c [.chooseKeyword] fun vars =>
    Function.update vars .keyword c.keyword := by
  have hread : Command.ofText?
      ("QString sqlKeyword = insertOrReplace ? QObject::tr(\"INSERT OR REPLACE INTO\")" ++
        " : QObject::tr(\"INSERT INTO\");") =
      some (.choose Local.keyword.name "insertOrReplace" { template := "INSERT OR REPLACE INTO" }
        { template := "INSERT INTO" }) := by decide +kernel
  refine single rfl hread fun e vars h => ?_
  have hvalue : (if c.parameter "insertOrReplace" then
        ({ template := "INSERT OR REPLACE INTO" } : Expr)
      else { template := "INSERT INTO" }).value arg c e = c.keyword := by
    unfold Context.keyword
    split
    · rfl
    · rfl
  rw [Command.step, hvalue]
  exact h.set .keyword _

theorem declare {vs : List Local}
    (hread : Command.ofText? ("QString " ++ join ", " (vs.map Local.name) ++ [';']) =
      some (.declare (vs.map Local.name))) :
    Runs arg c [.declare vs] fun vars => vs.foldl (Function.update · · []) vars := by
  refine single rfl hread fun e vars h => ?_
  have hfold : ∀ (e : State) (vars : Vars), e.Holds vars →
      ((vs.map Local.name).foldl (·.set · []) e).Holds
        (vs.foldl (Function.update · · []) vars) := by
    clear hread
    induction vs with
    | nil => exact fun e vars h => h
    | cons v vs ih => exact fun e vars h => ih _ _ (h.set v [])
  exact hfold e vars h

theorem demand {flag : Flag} (hflag : IsName flag.member) (hset : c.flag flag.member = true) :
    Runs arg c [.demand flag] id := by
  refine single rfl (Command.ofText?_demand hflag) fun e vars h => ?_
  rw [Command.step, if_pos hset]
  exact h

/-- What is added under a flag is added if the flag is set. -/
theorem addIf {flag : Flag} {parts : List (Local × Piece)} (hflag : IsName flag.member)
    (hparts : ∀ part ∈ parts, part.2.IsBare) (hne : parts ≠ []) :
    Runs arg c [.addIf flag parts] fun vars v =>
      if c.flag flag.member then vars v ++ added arg c v parts else vars v := by
  have hadditions : ∀ part ∈ parts, ∀ u,
      addition? (addition part ++ [' '] ++ u) = some ((part.1.name, part.2.value), u) := by
    intro part hpart u
    exact addition?_append part.1.isName (Piece.expr?_append (hparts part hpart)) u
  refine single rfl (Command.ofText?_addIf hflag hadditions hne) fun e vars h => ?_
  rw [Command.step]
  split
  · rw [List.foldl_map]
    simp only [Piece.value_eq]
    exact h.add parts
  · exact h

theorem dropLast (v : Local) : Runs arg c [.dropLast v] fun vars =>
    Function.update vars v (vars v).dropLast := by
  have hread : Command.ofText? (v.name ++ ".chop(1);") = some (.dropLast v.name) := by
    cases v with
    | _ => decide +kernel
  refine single rfl hread fun e vars h => ?_
  rw [Command.step, h.value]
  exact h.set v _

theorem define {template : Text} {operands : List Operand}
    (hread : Command.ofText? ("QString sql = " ++ filled template operands ++ [';']) =
      some (.define Local.sql.name ⟨template, operands.map Operand.term⟩)) :
    Runs arg c [.define template operands] fun vars =>
      Function.update vars .sql ((operands.map (Operand.text c vars)).foldl arg template) := by
  refine single rfl hread fun e vars h => ?_
  have hvalue : Expr.value arg c e ⟨template, operands.map Operand.term⟩ =
      (operands.map (Operand.text c vars)).foldl arg template := by
    rw [Expr.value, List.map_map]
    congr 1
    exact List.map_congr_left fun o _ => Operand.value_eq h o
  rw [Command.step, hvalue]
  exact h.set .sql _

/-- **Additions under flags** run one after the other: each variable gets what those of them add
whose flag is set, in order. -/
theorem additions {fs : List Field} {flag : Field → Flag} {parts : Field → List (Local × Piece)}
    (hflag : ∀ f ∈ fs, IsName (flag f).member)
    (hparts : ∀ f ∈ fs, ∀ part ∈ parts f, part.2.IsBare) (hne : ∀ f, parts f ≠ []) :
    Runs arg c (fs.map fun f => .addIf (flag f) (parts f)) fun vars v =>
      vars v ++ (fs.filter fun f => c.flag (flag f).member).flatMap fun f =>
        added arg c v (parts f) := by
  induction fs with
  | nil =>
    refine nil.congr fun vars => ?_
    funext v
    exact (List.append_nil _).symm
  | cons f fs ih =>
    rw [List.forall_mem_cons] at hflag hparts
    refine (cons (addIf hflag.1 hparts.1 (hne f)) (ih hflag.2 hparts.2)).congr fun vars => ?_
    funext v
    rw [Function.comp_apply, List.filter_cons]
    split
    · rw [List.flatMap_cons, List.append_assoc]
    · rfl

end Runs

end

end TableBinding
