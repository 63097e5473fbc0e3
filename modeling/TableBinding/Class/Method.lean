import TableBinding.Class.Statement
import TableBinding.Schema.Ddl
import TableBinding.Schema.HostType

/-!
# The methods of a generated class

A method that builds a statement of SQL has a variant for each table that the statement can be
about: the table of the struct and, if a field holds a table name, the table that the object names.
The variants differ in their signatures, in the table, and in that the second demands the flag of
the field (`builders`).
-/

namespace TableBinding

/-- A method of a generated class. -/
structure Method where
  signature : Text
  body : List Statement
  deriving Repr

/-- The lines of a method. -/
def Method.lines (m : Method) : List Line :=
  [⟨1, m.signature⟩, ⟨1, "\x7b"⟩] ++ m.body.flatMap Statement.lines ++ [⟨1, "\x7d;"⟩]

/-- Whether a method about the struct's table needs an object. -/
inductive Binding where
  | classLevel
  | instanceLevel
  deriving DecidableEq, Repr

/-- The signature of a method that gives a text back. -/
def textSignature (method params : Text) : Text := "QString " ++ callExpr method params

/-- The signature of the variant about the struct's table. -/
def Binding.signature (b : Binding) (method params : Text) : Text :=
  match b with
  | .classLevel => "static " ++ textSignature (staticVariant method) params
  | .instanceLevel => textSignature method params

namespace Struct

/-- The flag that redirects an object to the table it names. -/
def redirection? (s : Struct) : Option Flag := s.tableField?.map (fun f => .redirected f.name)

/-- The variants of a method that leaves a statement of SQL in its variable. -/
def builders (s : Struct) (method params : Text) (binding : Binding)
    (body : TableRef → List Statement) : List Method :=
  { signature := binding.signature method params, body := body .fixed ++ [.giveSql] } ::
    s.redirection?.toList.map fun flag =>
      { signature := textSignature (objectVariant method) params
        body := .demand flag :: body .chosen ++ [.giveSql] }

/-- The choice between the variants of a method. -/
def choose (s : Struct) (method args : Text) : Choice := { flag? := s.redirection?, method, args }

/-- The constructor. -/
def constructorMethod (s : Struct) : Method :=
  { signature := s.typeName ++ "()", body := [.setAllFlags] }

/-- The methods that give the names of the tables. -/
def tableNames (s : Struct) : List Method :=
  { signature := Binding.classLevel.signature "table_name" []
    body := [.giveText s.tableName] } ::
    s.tableField?.toList.map fun f =>
      { signature := textSignature (objectVariant "table_name") []
        body := [.giveMember (.redirected f.name) f.name] }

/-- Drops the table. -/
def dropTable (s : Struct) : List Method :=
  s.builders "drop_table_sql" [] .classLevel fun table =>
    [.define "DROP TABLE IF EXISTS %1" [.table table]]

/-- The entries of the table's definition, all but the last with a comma behind. -/
def separated : List Text → List Text
  | [] => []
  | [last] => [last ++ [' ']]
  | entry :: next :: rest => (entry ++ [',']) :: separated (next :: rest)

/-- Creates the table. Without columns there is nothing to create. -/
def createTable (s : Struct) : List Method :=
  s.builders "create_table_sql" [] .classLevel fun table =>
    if s.definitions.isEmpty then [.declare [.sql]]
    else
      [.defineLong "CREATE TABLE IF NOT EXISTS %1 (" (separated s.definitions) "  )"
        [.table table]]

/-- The condition of a column, added to the variable. -/
def condition (v : Local) (f : Field) : Statement :=
  .addIf (.required f.name) [(v, .template ("AND " ++ f.name ++ "='%1' ") f.name)]

/-- The conditions of the columns, added to the variable. -/
def conditions (s : Struct) (v : Local) : List Statement := s.columns.map (condition v)

/-- The name and the value of a column, added to the lists of an INSERT statement. -/
def insertion (f : Field) : Statement :=
  .addIf (.written f.name)
    [(.keys, .literal (f.name ++ [','])), (.values, .template "'%1'," f.name)]

/-- The assignment of a column, added to the list of an UPDATE statement. -/
def assignment (f : Field) : Statement :=
  .addIf (.written f.name) [(.assignments, .template (f.name ++ "='%1',") f.name)]

/-- Inserts the object. -/
def insert (s : Struct) : List Method :=
  s.builders "insert_sql" "bool insertOrReplace" .instanceLevel (fun table =>
    [.chooseKeyword, .declare [.keys, .values]] ++ s.columns.map insertion ++
      [.dropLast .keys, .dropLast .values,
        .define "%1 %2(%3) VALUES(%4)"
          [.var .keyword, .table table, .var .keys, .var .values]]) ++
  [{ signature := "bool insert_data(QSqlQuery& query, bool insertOrReplace = false)"
     body := [.execute (s.choose "insert_sql" "insertOrReplace")] }]

/-- Deletes the rows under the conditions. -/
def delete (s : Struct) : List Method :=
  s.builders "delete_sql" [] .instanceLevel (fun table =>
    .define "DELETE FROM %1 WHERE 1=1 " [.table table] :: s.conditions .sql) ++
  [{ signature := "bool delete_data(QSqlQuery& query)"
     body := [.execute (s.choose "delete_sql" [])] }]

/-- How a column is read back: by the conversion of its host type, or by a cast to any other. -/
def columnRead (f : Field) : ColumnRead :=
  match HostType.ofName? f.hostType with
  | none => .cast f.name f.hostType
  | some host =>
    if host.isChecked then .checked f.name host.conversion host.zero
    else .plain f.name host.conversion

/-- Reads the rows of a result. -/
def readResult (s : Struct) : Method :=
  { signature := "static void get_data(QSqlQuery& query, QList<" ++ s.typeName ++ ">& dataOut)"
    body := [.readRows s.typeName (s.columns.map columnRead)] }

/-- Queries the rows under the conditions. -/
def query (s : Struct) : List Method :=
  s.builders "query_sql" [] .instanceLevel (fun table =>
    .define "SELECT * FROM %1 WHERE 1=1 " [.table table] :: s.conditions .sql) ++
  [{ signature := "void query_data(QSqlQuery& query, QList<" ++ s.typeName ++ ">& dataOut)"
     body := [.executeAndRead (s.choose "query_sql" [])] }]

/-- Updates the rows under the conditions. -/
def update (s : Struct) : List Method :=
  s.builders "update_sql" [] .instanceLevel (fun table =>
    .declare [.assignments, .conditions] :: s.columns.map assignment ++
      s.conditions .conditions ++
      [.dropLast .assignments,
        .define "UPDATE %1 SET %2 WHERE 1=1 %3"
          [.table table, .var .assignments, .var .conditions]]) ++
  [{ signature := "bool update_data(QSqlQuery& query)"
     body := [.execute (s.choose "update_sql" [])] }]

/-- The flags of the class, in order of declaration. -/
def flags (s : Struct) : List Flag := s.fields.flatMap Field.flags

/-- Sets or clears every flag. -/
def flushFlags (s : Struct) : Method :=
  { signature := "void flush_flag(bool flagValue)", body := s.flags.map .setFlag }

/-- Compares the primary keys of two objects. -/
def compareKeys (s : Struct) : Method :=
  { signature := "bool pk_equal(const " ++ s.typeName ++ "& other) const"
    body := [.compare s.keyNames] }

/-- Every method of the class, in order. -/
def methods (s : Struct) : List Method :=
  [s.constructorMethod] ++ s.tableNames ++ s.dropTable ++ s.createTable ++ s.insert ++ s.delete ++
    [s.readResult] ++ s.query ++ s.update ++ [s.flushFlags, s.compareKeys]

end Struct

end TableBinding
