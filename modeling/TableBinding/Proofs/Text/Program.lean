import Mathlib.Logic.Function.Basic
import TableBinding.Proofs.Text.Code

/-!
# Programs on texts

The bodies of the generated methods that put a statement of SQL together are programs on texts: they
declare local variables, add literals and filled templates to them under flags, and give one back.
Every line of such a body is read as a `Command` (`Command.ofText?`), and commands are run on the
object whose method it is (`run`). How a template is filled is left open, as the type that does it
belongs to a library.

A reader takes what it reads off the front of a text and gives what stands behind; each has a lemma
for the text it accounts for, with any text behind that cannot be mistaken for more of it
(`name?_append`, `literal?_append`, `Reader.many_append`).
-/

namespace TableBinding.Program

open Text Code

/-! ## Commands -/

/-- What stands for a text. -/
inductive Term where
  /-- A member of the object. -/
  | member (name : Text)
  /-- What a method of the object gives, called without arguments. -/
  | call (method : Text)
  /-- A local variable. -/
  | var (name : Text)
  deriving DecidableEq, Repr

/-- A literal, or a template and what fills it, one after the other. -/
structure Expr where
  template : Text
  terms : List Term := []
  deriving DecidableEq, Repr

/-- A line of a program. -/
inductive Command where
  /-- Declares empty variables. -/
  | declare (vars : List Text)
  /-- Declares a variable with a value. -/
  | define (var : Text) (value : Expr)
  /-- Declares a variable with one of two values, as the parameter decides. -/
  | choose (var parameter : Text) (yes no : Expr)
  /-- Gives an empty text back unless the flag is set. -/
  | demand (flag : Text)
  /-- Adds to variables if the flag is set. -/
  | addIf (flag : Text) (additions : List (Text × Expr))
  /-- Drops the last character of a variable. -/
  | dropLast (var : Text)
  /-- Gives a variable back. -/
  | give (var : Text)
  deriving DecidableEq, Repr

/-! ## Reading commands -/

/-- Takes something off the front of a text, and gives the text behind it. -/
abbrev Reader (α : Type) := Text → Option (α × Text)

/-- Reads as often as it can, but no more often than the bound. -/
def Reader.many {α : Type} (read? : Reader α) : Nat → Text → List α × Text
  | 0, t => ([], t)
  | bound + 1, t =>
    match read? t with
    | none => ([], t)
    | some (a, rest) =>
      let (as, last) := many read? bound rest
      (a :: as, last)

/-- A name. -/
def name? : Reader Text := fun t =>
  let name := t.takeWhile isIdentRest
  if name.isEmpty then none else some (name, t.dropWhile isIdentRest)

/-- A string literal. -/
def literal? : Reader Text := fun t => do
  let (body, rest) ← literalAt? (← after? "\"" t)
  return (← unescape body, rest)

def term? : Reader Term := fun t => do
  let (name, rest) ← name? t
  if name = "this" then
    let (member, rest) ← name? (← after? "->" rest)
    return (.member member, rest)
  match after? "()" rest with
  | some rest => return (.call name, rest)
  | none => return (.var name, rest)

/-- A call that fills a template. -/
def fill? : Reader Term := fun t => do
  let (term, rest) ← term? (← after? ".QString::arg(" t)
  return (term, ← after? ")" rest)

def expr? : Reader Expr := fun t =>
  match after? "QObject::tr(" t with
  | none => do
    let (template, rest) ← literal? t
    return ({ template }, rest)
  | some inner => do
    let (template, rest) ← literal? inner
    let rest ← after? ")" rest
    let (terms, rest) := Reader.many fill? rest.length rest
    return ({ template, terms }, rest)

/-- An addition to a variable, with the space behind it. -/
def addition? : Reader (Text × Expr) := fun t => do
  let (var, rest) ← name? t
  let (value, rest) ← expr? (← after? " += " rest)
  return ((var, value), ← after? "; " rest)

/-- What stands behind a flag that is demanded. -/
def refusal : Text := " == false) \x7b return \"\"; \x7d"

/-- What is done about a flag. -/
def onFlag? (flag t : Text) : Option Command :=
  if t = refusal then some (.demand flag)
  else do
    let inner ← after? ") \x7b " t
    let (additions, rest) := Reader.many addition? inner.length inner
    if rest = "\x7d" then return .addIf flag additions else none

/-- A line that tests a flag. -/
def test? (t : Text) : Option Command := do
  let (flag, rest) ← name? (← after? "if (this->" t)
  onFlag? flag rest

/-- The value that a variable is declared with. -/
def definition? (var t : Text) : Option Command :=
  match expr? t with
  | some (value, rest) => if rest = ";" then some (.define var value) else none
  | none => do
    let (parameter, rest) ← name? t
    let (yes, rest) ← expr? (← after? " ? " rest)
    let (no, rest) ← expr? (← after? " : " rest)
    if rest = ";" then return .choose var parameter yes no else none

/-- A line that declares variables. -/
def declaration? (t : Text) : Option Command := do
  let (var, rest) ← name? (← after? "QString " t)
  match after? " = " rest with
  | some value => definition? var value
  | none =>
    let (vars, rest) := Reader.many (fun t => (after? ", " t).bind name?) rest.length rest
    if rest = ";" then return .declare (var :: vars) else none

/-- A line that gives a variable back. -/
def ending? (t : Text) : Option Command := do
  let (var, rest) ← name? (← after? "return " t)
  if rest = ";" then return .give var else none

/-- A line that drops the last character of a variable. -/
def chop? (t : Text) : Option Command := do
  let (var, rest) ← name? t
  if rest = ".chop(1);" then return .dropLast var else none

/-- The command of a line. -/
def Command.ofText? (t : Text) : Option Command :=
  (test? t).or <| (declaration? t).or <| (ending? t).or <| chop? t

/-! ## Running commands -/

/-- The object on which a method is called, and its arguments. -/
structure Context where
  /-- The members that are flags. -/
  flag : Text → Bool
  /-- The other members, as texts. -/
  member : Text → Text
  /-- What the methods without parameters give. -/
  call : Text → Text
  /-- The arguments that are truth values. -/
  parameter : Text → Bool

/-- A program under way. -/
structure State where
  /-- What the variables hold. -/
  value : Text → Text := fun _ => []
  /-- What the program has given back. -/
  given? : Option Text := none

def State.set (e : State) (var t : Text) : State :=
  { e with value := Function.update e.value var t }

/-- The flag is cleared, and everything else left as it is. -/
def Context.clear (c : Context) (flag : Text) : Context :=
  { c with flag := Function.update c.flag flag false }

theorem Context.clear_flag_of_ne {c : Context} {flag other : Text} (h : flag ≠ other) :
    (c.clear other).flag flag = c.flag flag := by
  unfold clear
  exact Function.update_of_ne h _ _

section
variable (arg : Text → Text → Text) (c : Context)

def Term.value (e : State) : Term → Text
  | member name => c.member name
  | call method => c.call method
  | var name => e.value name

/-- The template, filled by what fills templates, which comes first. -/
def Expr.value (e : State) (x : Expr) : Text := (x.terms.map (Term.value c e)).foldl arg x.template

/-- What a command makes of a program under way. -/
def Command.step (e : State) : Command → State
  | declare vars => vars.foldl (·.set · []) e
  | define var x => e.set var (x.value arg c e)
  | choose var parameter yes no =>
    e.set var ((if c.parameter parameter then yes else no).value arg c e)
  | demand flag => if c.flag flag then e else { e with given? := some [] }
  | addIf flag additions =>
    if c.flag flag then
      additions.foldl (fun e (var, x) => e.set var (e.value var ++ x.value arg c e)) e
    else e
  | dropLast var => e.set var (e.value var).dropLast
  | give var => { e with given? := some (e.value var) }

/-- Runs the commands, up to the first that gives something back. -/
def run (program : List Command) (e : State := {}) : State :=
  program.foldl (fun e command => if e.given?.isSome then e else command.step arg c e) e

end

section
variable {arg : Text → Text → Text} {c : Context} {e : State}

theorem run_append (front back : List Command) :
    run arg c (front ++ back) e = run arg c back (run arg c front e) := List.foldl_append ..

theorem run_cons (h : e.given? = none) (command : Command) (rest : List Command) :
    run arg c (command :: rest) e = run arg c rest (command.step arg c e) := by
  rw [run, List.foldl_cons, h]
  rfl

end

/-! ## What readers account for -/

section
variable {name u t : Text}

theorem name?_append (hname : IsName name) (hu : EndsName u) :
    name? (name ++ u) = some (name, u) := by
  have htake : (name ++ u).takeWhile isIdentRest = name := by
    rw [List.takeWhile_append_of_pos hname.2]
    cases u with
    | nil => cases hu
    | cons c u =>
      have hc : (!isIdentRest c) = true := hu
      rw [List.takeWhile_cons_of_neg (by simpa using hc), List.append_nil]
  have hdrop : (name ++ u).dropWhile isIdentRest = u := by
    have hboth := List.takeWhile_append_dropWhile (p := isIdentRest) (l := name ++ u)
    rw [htake] at hboth
    exact List.append_cancel_left hboth
  have hne : ¬ name.isEmpty = true := fun h => hname.1 (List.isEmpty_iff.1 h)
  unfold name?
  dsimp only
  rw [htake, hdrop, if_neg hne]

/-- No quote and no backslash. -/
def IsBare (t : Text) : Prop := ∀ c ∈ t, ¬(c = '\\' ∨ c = '"')

instance (t : Text) : Decidable (IsBare t) := List.decidableBAll ..

theorem IsBare.of_isName (h : IsName name) : IsBare name := fun c hc =>
  not_special_of_isIdentRest (h.2 c hc)

theorem IsBare.append (ht : IsBare t) (hu : IsBare u) : IsBare (t ++ u) :=
  List.forall_mem_append.2 ⟨ht, hu⟩

theorem literal?_append (ht : IsBare t) (u : Text) :
    literal? ('"' :: t ++ '"' :: u) = some (t, u) := by
  have hopen : after? ['"'] ('"' :: t ++ '"' :: u) = some (t ++ '"' :: u) := after?_append ..
  have hquote : ("\"" : Text) = ['"'] := by decide
  have hbody : unescape t = some t := by
    have h := unescape_literalBody t
    rwa [literalBody_eq_self ht] at h
  have hread : literalAt? (t ++ '"' :: u) = some (t, u) :=
    (IsLiteralBody.of_plain ht).literalAt?_eq u
  unfold literal?
  rw [hquote, hopen]
  simp only [Option.bind_eq_bind, Option.bind_some, hread, hbody]
  rfl

theorem term?_member (hname : IsName name) (hu : EndsName u) :
    term? ("this->" ++ (name ++ u)) = some (.member name, u) := by
  have hthis : name? (("this" : Text) ++ ("->" ++ (name ++ u))) =
      some (("this" : Text), "->" ++ (name ++ u)) := name?_append (by decide) rfl
  have hcut : ("this->" : Text) ++ (name ++ u) = "this" ++ ("->" ++ (name ++ u)) := by
    rw [← List.append_assoc]
    rfl
  unfold term?
  rw [hcut, hthis]
  simp only [Option.bind_eq_bind, Option.bind_some, after?_append, name?_append hname hu]
  rfl

end

section
variable {α β : Type} {read? : Reader α} {text : β → Text} {meaning : β → α} {bs : List β}
  {last : Text}

/-- **What stands there again and again is read as often**, if nothing more of it follows. -/
theorem Reader.many_append (hread : ∀ b ∈ bs, ∀ u, read? (text b ++ u) = some (meaning b, u))
    (htext : ∀ b ∈ bs, text b ≠ []) (hlast : read? last = none) :
    read?.many (bs.flatMap text ++ last).length (bs.flatMap text ++ last) =
      (bs.map meaning, last) := by
  have hbound : ∀ bound, (bs.flatMap text ++ last).length ≤ bound →
      read?.many bound (bs.flatMap text ++ last) = (bs.map meaning, last) := by
    induction bs with
    | nil =>
      intro bound _
      cases bound with
      | zero => rfl
      | succ bound =>
        rw [List.flatMap_nil, List.nil_append, many, hlast]
        rfl
    | cons b bs ih =>
      intro bound hlength
      rw [List.forall_mem_cons] at hread htext
      have hpos := List.length_pos_iff.2 htext.1
      rw [List.flatMap_cons, List.append_assoc] at hlength ⊢
      rw [List.length_append] at hlength
      obtain ⟨rest, rfl⟩ : ∃ rest, bound = rest + 1 := ⟨bound - 1, by omega⟩
      rw [many, hread.1]
      dsimp only
      rw [ih hread.2 htext.2 rest (by omega)]
      rfl
  exact hbound _ (Nat.le_refl _)

end

section
variable {α : Type} {template flag var t u : Text} {x : Expr} {terms : List α} {text : α → Text}

theorem expr?_literal (ht : IsBare t) (u : Text) :
    expr? ('"' :: t ++ '"' :: u) = some ({ template := t }, u) := by
  have hopen : after? "QObject::tr(" ('"' :: t ++ '"' :: u) = none := rfl
  unfold expr?
  rw [hopen]
  simp only [literal?_append ht]
  rfl

/-- A template is read with all that fills it. -/
theorem expr?_template {meaning : α → Term} (htemplate : IsBare template)
    (hterms : ∀ a ∈ terms, ∀ u, term? (text a ++ ')' :: u) = some (meaning a, ')' :: u))
    (hu : u.head? ≠ some '.') :
    expr? (("QObject::tr(\"" : Text) ++ template ++ "\")" ++
        terms.flatMap (fun a => (".QString::arg(" : Text) ++ text a ++ [')']) ++ u) =
      some (⟨template, terms.map meaning⟩, u) := by
  have hfill : ∀ a ∈ terms, ∀ u,
      fill? ((".QString::arg(" : Text) ++ text a ++ [')'] ++ u) = some (meaning a, u) := by
    intro a ha u
    unfold fill?
    rw [List.append_assoc, List.append_assoc, after?_append, List.singleton_append]
    simp only [Option.bind_eq_bind, Option.bind_some, hterms a ha u]
    rfl
  have hnone : fill? u = none := by
    have hafter : after? ".QString::arg(" u = none := by
      cases u with
      | nil => rfl
      | cons c u => exact if_neg fun e => hu (congrArg some e.symm)
    unfold fill?
    rw [hafter]
    rfl
  have hwritten : ∀ a ∈ terms, (".QString::arg(" : Text) ++ text a ++ [')'] ≠ [] := fun a _ =>
    List.append_ne_nil_of_right_ne_nil _ (List.cons_ne_nil _ _)
  have hmany := Reader.many_append hfill hwritten hnone
  have hcut : ("QObject::tr(\"" : Text) ++ template ++ "\")" ++
        terms.flatMap (fun a => (".QString::arg(" : Text) ++ text a ++ [')']) ++ u =
      ("QObject::tr(" : Text) ++ ('"' :: template ++ '"' ::
        (")" ++ (terms.flatMap (fun a => (".QString::arg(" : Text) ++ text a ++ [')']) ++ u))) := by
    have hopen : ("QObject::tr(\"" : Text) = "QObject::tr(" ++ ['"'] := by decide
    have hclose : ("\")" : Text) = '"' :: ")" := by decide
    rw [hopen, hclose]
    simp only [List.append_assoc, List.cons_append, List.nil_append]
  unfold expr?
  rw [hcut, after?_append]
  simp only [Option.bind_eq_bind, Option.bind_some, literal?_append htemplate, after?_append, hmany]
  rfl

theorem addition?_append (hvar : IsName var) (hx : ∀ u, expr? (t ++ ';' :: u) = some (x, ';' :: u))
    (u : Text) : addition? (var ++ " += " ++ t ++ [';'] ++ [' '] ++ u) = some ((var, x), u) := by
  have hname : name? (var ++ (" += " ++ (t ++ ';' :: ' ' :: u))) =
      some (var, " += " ++ (t ++ ';' :: ' ' :: u)) := name?_append hvar rfl
  have hcut : var ++ " += " ++ t ++ [';'] ++ [' '] ++ u =
      var ++ (" += " ++ (t ++ ';' :: ' ' :: u)) := by
    simp only [List.append_assoc, List.cons_append, List.nil_append]
  have hend : after? "; " (';' :: ' ' :: u) = some u := rfl
  unfold addition?
  rw [hcut, hname]
  simp only [Option.bind_eq_bind, Option.bind_some, after?_append, hx, hend]
  rfl

theorem test?_append (hflag : IsName flag) (hu : EndsName u) :
    test? ("if (this->" ++ (flag ++ u)) = onFlag? flag u := by
  unfold test?
  rw [after?_append]
  simp only [Option.bind_eq_bind, Option.bind_some, name?_append hflag hu]

theorem Command.ofText?_of_test? {command : Command} (h : test? t = some command) :
    ofText? t = some command := by
  rw [ofText?, h, Option.some_or]

/-- A line that gives nothing back unless a flag is set. -/
theorem Command.ofText?_demand (hflag : IsName flag) :
    ofText? ("if (this->" ++ flag ++ refusal) = some (.demand flag) := by
  refine ofText?_of_test? ?_
  rw [List.append_assoc, test?_append hflag (by decide)]
  exact if_pos rfl

/-- **A line that adds to variables under a flag** is read with all its additions. -/
theorem Command.ofText?_addIf {meaning : α → Text × Expr} (hflag : IsName flag)
    (hparts : ∀ a ∈ terms, ∀ u, addition? (text a ++ [' '] ++ u) = some (meaning a, u))
    (hne : terms ≠ []) :
    ofText? ("if (this->" ++ flag ++ ") \x7b " ++ join " " (terms.map text) ++ " \x7d") =
      some (.addIf flag (terms.map meaning)) := by
  have hwritten : ∀ a ∈ terms, text a ++ [' '] ≠ [] := fun a _ =>
    List.append_ne_nil_of_right_ne_nil _ (List.cons_ne_nil _ _)
  have hlast : addition? "\x7d" = none := rfl
  have hmany := Reader.many_append hparts hwritten hlast
  have hjoin : join " " (terms.map text) ++ " \x7d" =
      terms.flatMap (fun a => text a ++ [' ']) ++ "\x7d" := by
    have hmap : terms.map text ≠ [] := mt List.map_eq_nil_iff.1 hne
    have h := flatMap_append_separator hmap " "
    rw [List.flatMap_map] at h
    have hlast : (" \x7d" : Text) = " " ++ "\x7d" := by decide
    rw [hlast, ← List.append_assoc, ← h]
    rfl
  have honFlag : onFlag? flag (") \x7b " ++ (join " " (terms.map text) ++ " \x7d")) =
      some (.addIf flag (terms.map meaning)) := by
    have hother : ") \x7b " ++ (join " " (terms.map text) ++ " \x7d") ≠ refusal := by
      intro h
      exact absurd (List.cons.inj h).1 (by decide)
    unfold onFlag?
    rw [if_neg hother, after?_append, hjoin]
    simp only [Option.bind_eq_bind, Option.bind_some, hmany]
    rfl
  refine ofText?_of_test? ?_
  have hends : EndsName (") \x7b " ++ (join " " (terms.map text) ++ " \x7d")) := rfl
  rw [List.append_assoc, List.append_assoc, List.append_assoc, test?_append hflag hends, honFlag]

example : Command.ofText?
    ("if (this->w_a) \x7b sql += QObject::tr(\"a='%1' \").QString::arg(this->a); " ++ "\x7d") =
      some (.addIf "w_a" [("sql", ⟨"a='%1' ", [.member "a"]⟩)]) := by
  decide +kernel

end

end TableBinding.Program
