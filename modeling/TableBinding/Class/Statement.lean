import TableBinding.Class.Flag
import TableBinding.Class.Layout

/-!
# The statements of a generated class

The bodies of the generated methods use few kinds of statements. `Statement` has one constructor
for each kind, and `Statement.lines` is how it is written. A statement of SQL is put together in
local variables, from literal pieces and from templates whose place marks are filled one after the
other.
-/

namespace TableBinding

/-- The local variables of a method that builds a statement of SQL. -/
inductive Local where
  /-- The statement. -/
  | sql
  /-- What an INSERT statement begins with. -/
  | keyword
  /-- The names of the columns to insert. -/
  | keys
  /-- The values to insert. -/
  | values
  /-- The assignments of an UPDATE statement. -/
  | assignments
  /-- The conditions of an UPDATE statement. -/
  | conditions
  deriving DecidableEq, Repr

/-- The name of the variable. -/
def Local.name : Local → Text
  | sql => "sql"
  | keyword => "sqlKeyword"
  | keys => "strKey"
  | values => "strVal"
  | assignments => "strSet"
  | conditions => "strWhere"

/-- Which table a statement of SQL is about. -/
inductive TableRef where
  /-- The table of the struct. -/
  | fixed
  /-- The table that the object names. -/
  | chosen
  deriving DecidableEq, Repr

/-- The call that gives the name of the table. -/
def TableRef.call : TableRef → Text
  | fixed => "static_table_name()"
  | chosen => "object_table_name()"

/-- What a place mark is filled with. -/
inductive Operand where
  | table (ref : TableRef)
  | var (v : Local)
  | member (name : Text)
  deriving DecidableEq, Repr

/-- The expression of an operand. -/
def Operand.expr : Operand → Text
  | table ref => ref.call
  | var v => v.name
  | member name => "this->" ++ name

/-- The characters of a literal, with a backslash in front of quotes and backslashes. -/
def literalBody (t : Text) : Text :=
  t.flatMap fun c => if c == '\\' || c == '"' then ['\\', c] else [c]

/-- The calls that fill the place marks of a template, from left to right. -/
def fillCalls (operands : List Operand) : Text :=
  operands.flatMap fun o => ".QString::arg(" ++ o.expr ++ [')']

/-- The expression of a template with its place marks filled. -/
def filled (template : Text) (operands : List Operand) : Text :=
  "QObject::tr(\"" ++ template ++ "\")" ++ fillCalls operands

/-- What can be added to a variable. -/
inductive Piece where
  /-- The text itself. -/
  | literal (t : Text)
  /-- The template, filled with the value of the member. -/
  | template (t member : Text)
  deriving DecidableEq, Repr

/-- The expression of a piece. -/
def Piece.expr : Piece → Text
  | literal t => '"' :: t ++ ['"']
  | template t m => filled t [.member m]

/-- The choice between the statement about the struct's table and the one about the table that the
object names. -/
structure Choice where
  /-- The flag that decides, if the struct has a field for the table's name. -/
  flag? : Option Flag
  /-- The method of the struct's table. -/
  method : Text
  args : Text
  deriving DecidableEq, Repr

/-- The name of a method's variant for the table that the object names. -/
def objectVariant (method : Text) : Text := "object_" ++ method

/-- The name of a method's variant that needs no object. -/
def staticVariant (method : Text) : Text := "static_" ++ method

/-- A call. -/
def callExpr (method args : Text) : Text := method ++ ['('] ++ args ++ [')']

/-- The expression of a choice. -/
def Choice.expr (c : Choice) : Text :=
  match c.flag? with
  | none => callExpr c.method c.args
  | some flag =>
    "this->" ++ flag.member ++ " ? " ++ callExpr (objectVariant c.method) c.args ++ " : " ++
      callExpr c.method c.args

/-- How a column of a result row is read into the member of its name. -/
inductive ColumnRead where
  /-- By a conversion that may fail; then the member is `zero` and its flag is cleared. -/
  | checked (name conversion zero : Text)
  /-- By a conversion that always gives a value. -/
  | plain (name conversion : Text)
  /-- By a cast to the type. -/
  | cast (name type : Text)
  deriving DecidableEq, Repr

/-- The assignment of a result column's value to the member of its name. -/
def readInto (name conversion : Text) : Text :=
  "currData." ++ name ++ " = query.value(\"" ++ name ++ "\")." ++ conversion ++ [';']

/-- The lines that read a column. -/
def ColumnRead.texts : ColumnRead → List Text
  | checked name conversion zero =>
    ["isOk = false;",
      readInto name (conversion ++ "(&isOk)"),
      "if (!isOk) \x7b currData." ++ (Flag.received name).member ++ " = false; currData." ++ name ++
        " = " ++ zero ++ "; \x7d"]
  | plain name conversion => [readInto name (conversion ++ "()")]
  | cast name type => [readInto name ("value<" ++ type ++ ">()")]

/-- A statement of a generated method. -/
inductive Statement where
  /-- Sets every flag. -/
  | setAllFlags
  /-- Gives the text back. -/
  | giveText (t : Text)
  /-- Gives the member back if the flag is set, and nothing else. -/
  | giveMember (flag : Flag) (member : Text)
  /-- Gives nothing back unless the flag is set. -/
  | demand (flag : Flag)
  /-- Declares empty variables. -/
  | declare (vars : List Local)
  /-- Chooses what an INSERT statement begins with. -/
  | chooseKeyword
  /-- Adds to variables if the flag is set. -/
  | addIf (flag : Flag) (parts : List (Local × Piece))
  /-- Drops the last character of a variable. -/
  | dropLast (v : Local)
  /-- Defines the statement of SQL by a template. -/
  | define (template : Text) (operands : List Operand)
  /-- Defines it by a template over several lines. -/
  | defineLong (first : Text) (middle : List Text) (last : Text) (operands : List Operand)
  /-- Gives the statement of SQL back. -/
  | giveSql
  /-- Executes the statement of SQL that the choice gives. -/
  | execute (choice : Choice)
  /-- Executes it and reads the rows of its result. -/
  | executeAndRead (choice : Choice)
  /-- Reads every row of a result into an object of the type. -/
  | readRows (type : Text) (columns : List ColumnRead)
  /-- Gives the flag the value of the parameter. -/
  | setFlag (flag : Flag)
  /-- Gives back whether both objects agree in the members; without members, they do not. -/
  | compare (members : List Text)
  deriving Repr

/-- An addition to a variable. -/
def addition (part : Local × Piece) : Text := part.1.name ++ " += " ++ part.2.expr ++ [';']

/-- The lines of a statement, in the body of a method. -/
def Statement.lines : Statement → List Line
  | setAllFlags => [⟨2, "flush_flag(true);"⟩]
  | giveText t => [⟨2, "return \"" ++ t ++ "\";"⟩]
  | giveMember flag m => [⟨2, "return (this->" ++ flag.member ++ " ? this->" ++ m ++ " : \"\");"⟩]
  | demand flag =>
    [⟨2, "if (this->" ++ flag.member ++ " == false) \x7b return \"\"; \x7d"⟩]
  | declare vars => [⟨2, "QString " ++ Text.join ", " (vars.map Local.name) ++ [';']⟩]
  | chooseKeyword =>
    [⟨2, "QString sqlKeyword = insertOrReplace ? QObject::tr(\"INSERT OR REPLACE INTO\")" ++
      " : QObject::tr(\"INSERT INTO\");"⟩]
  | addIf flag parts =>
    [⟨2, "if (this->" ++ flag.member ++ ") \x7b " ++ Text.join " " (parts.map addition) ++
      " \x7d"⟩]
  | dropLast v => [⟨2, v.name ++ ".chop(1);"⟩]
  | define template operands => [⟨2, "QString sql = " ++ filled template operands ++ [';']⟩]
  | defineLong first middle last operands =>
    ⟨2, "QString sql = QObject::tr(\"" ++ literalBody first ++ ['\\']⟩ ::
      middle.map (fun piece => ⟨2, literalBody piece ++ ['\\']⟩) ++
      [⟨2, literalBody last ++ "\")" ++ fillCalls operands ++ [';']⟩]
  | giveSql => [⟨2, "return sql;"⟩]
  | execute choice => [⟨2, "return query.exec(" ++ choice.expr ++ ");"⟩]
  | executeAndRead choice =>
    [⟨2, "if (query.exec(" ++ choice.expr ++ "))"⟩, ⟨2, "\x7b"⟩,
      ⟨3, "get_data(query, dataOut);"⟩, ⟨2, "\x7d"⟩]
  | readRows type columns =>
    [⟨2, "while (query.next())"⟩, ⟨2, "\x7b"⟩, ⟨3, "bool isOk = false;"⟩,
        ⟨3, type ++ " currData;"⟩, ⟨3, "currData.flush_flag(true);"⟩] ++
      (columns.flatMap ColumnRead.texts).map (⟨3, ·⟩) ++
      [⟨3, "dataOut.append(currData);"⟩, ⟨2, "\x7d"⟩]
  | setFlag flag => [⟨2, "this->" ++ flag.member ++ " = flagValue;"⟩]
  | compare [] => [⟨2, "return false;"⟩]
  | compare members =>
    let agree (m : Text) : Text := "(this->" ++ m ++ " == other." ++ m ++ [')']
    [⟨2, "return " ++ Text.join " && " (members.map agree) ++ [';']⟩]

end TableBinding
