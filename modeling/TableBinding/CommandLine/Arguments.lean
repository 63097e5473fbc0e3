import TableBinding.Storage.Path

/-!
# Command line arguments

Options with a value are written `-i FILE`, `-iFILE`, `-i=FILE`, `--input FILE` or `--input=FILE`,
and each at most once; the value is not empty and, where it is an argument of its own, does not
begin with a dash. A command comes behind the options. The version is asked for by `-V` or
`--version`, in front of the command and of any mistake.
-/

namespace TableBinding.CommandLine

/-- What the program is to do. -/
inductive Command where
  | generate
  | check
  | inspect (json : Bool)
  deriving DecidableEq, Repr

/-- The options with a value. -/
inductive ValueOption where
  | config
  | input
  | output
  deriving DecidableEq, Repr

/-- What the arguments say. -/
structure Arguments where
  config : Option Path := none
  input : Option Path := none
  output : Option Path := none
  dryRun : Bool := false
  command : Command := .generate
  deriving DecidableEq, Repr

/-- What the arguments ask for. -/
inductive Request where
  | run (arguments : Arguments)
  | showVersion
  /-- They are not understood. -/
  | misuse
  deriving DecidableEq, Repr

namespace ValueOption

/-- The option that a letter stands for. -/
def ofLetter? : Char → Option ValueOption
  | 'c' => some config
  | 'i' => some input
  | 'o' => some output
  | _ => none

/-- The option that a word stands for. -/
def ofWord? (word : Text) : Option ValueOption :=
  if word == "config" then some config
  else if word == "input" then some input
  else if word == "output" then some output
  else none

/-- The value that the option was given. -/
def get? (a : Arguments) : ValueOption → Option Path
  | config => a.config
  | input => a.input
  | output => a.output

/-- The arguments with a value for the option, which must not have had one. -/
def set? (a : Arguments) (o : ValueOption) (value : Text) : Option Arguments :=
  if value.isEmpty || (o.get? a).isSome then none
  else
    match o with
    | config => some { a with config := some value }
    | input => some { a with input := some value }
    | output => some { a with output := some value }

end ValueOption

/-- Whether an argument can be the value of the option in front of it. -/
def isValue (t : Text) : Bool := t.head? != some '-' || t == ['-']

/-- An argument by its form. -/
inductive Argument where
  /-- An option whose value is the next argument. -/
  | opens (o : ValueOption)
  /-- An option with its value. -/
  | gives (o : ValueOption) (value : Text)
  | dryRun
  | version
  /-- Ends the options. -/
  | ends
  | word (t : Text)
  | unknown
  deriving DecidableEq, Repr

/-- The form of an argument with two dashes in front. -/
def Argument.ofLong (t : Text) : Argument :=
  let word := t.takeWhile (· != '=')
  match ValueOption.ofWord? word, t.dropWhile (· != '=') with
  | some o, [] => .opens o
  | some o, _ :: value => .gives o value
  | none, [] =>
    if word == "dry-run" then .dryRun else if word == "version" then .version else .unknown
  | none, _ => .unknown

/-- The form of an argument with one dash in front. -/
def Argument.ofShort : Text → Argument
  | 'V' :: _ => .version
  | letter :: rest =>
    match ValueOption.ofLetter? letter, rest with
    | some o, [] => .opens o
    | some o, '=' :: value => .gives o value
    | some o, value => .gives o value
    | none, _ => .unknown
  | [] => .unknown

/-- The form of an argument. -/
def Argument.ofText : Text → Argument
  | ['-', '-'] => .ends
  | '-' :: '-' :: t => ofLong t
  | ['-'] => .unknown
  | '-' :: t => ofShort t
  | t => .word t

/-- The command of a word and the arguments behind it. -/
def readCommand? (word : Text) (rest : List Text) : Option Command :=
  let rest := if rest.getLast? = some ['-', '-'] then rest.dropLast else rest
  let json : List Text := ["--json"]
  if word == "generate" && rest.isEmpty then some .generate
  else if word == "check" && rest.isEmpty then some .check
  else if word == "inspect" && rest.isEmpty then some (.inspect false)
  else if word == "inspect" && rest == json then some (.inspect true)
  else none

/-- What the arguments from here on ask for, together with those before. -/
def readFrom (a : Arguments) : List Text → Request
  | [] => .run a
  | t :: rest =>
    match Argument.ofText t with
    | .opens o =>
      match rest with
      | [] => .misuse
      | value :: rest =>
        if isValue value then
          match o.set? a value with
          | some a => readFrom a rest
          | none => .misuse
        else .misuse
    | .gives o value =>
      match o.set? a value with
      | some a => readFrom a rest
      | none => .misuse
    | .dryRun => if a.dryRun then .misuse else readFrom { a with dryRun := true } rest
    | .version => .showVersion
    | .ends => if rest.isEmpty then .run a else .misuse
    | .word word =>
      match readCommand? word rest with
      | some command => .run { a with command }
      | none => .misuse
    | .unknown => .misuse

/-- What the arguments ask for. -/
def Request.ofArguments (arguments : List Text) : Request := readFrom {} arguments

end TableBinding.CommandLine
