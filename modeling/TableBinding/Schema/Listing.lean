import TableBinding.Schema.Ddl
import TableBinding.Text.Json
import TableBinding.Text.Lines

/-!
# Listings

Structs as they are shown to a reader, as plain text or as JSON.
-/

namespace TableBinding

/-- The members of a field in a listing. -/
def Field.toJson (f : Field) : Json :=
  .object [("host_type", .string f.hostType), ("host_name", .string f.name),
    ("persisted", .truth f.persisted), ("dynamic_table_name", .truth f.namesTable),
    ("column_type", .string f.columnType), ("nullable", .truth f.nullable),
    ("primary_key", .truth f.primaryKey), ("extra_options", .array (f.extras.map .string))]

/-- The members of a struct in a listing. -/
def Struct.toJson (s : Struct) : Json :=
  .object [("type_name", .string s.typeName), ("table_name", .string s.tableName),
    ("fields", .array (s.fields.map Field.toJson))]

/-- The lines about a field. -/
def Field.listing (f : Field) : List Text :=
  let declaration : Text := "    - " ++ f.hostType ++ " " ++ f.name
  if f.namesTable then [declaration ++ " [dynamic table name]"]
  else if !f.persisted then [declaration ++ " [transient]"]
  else
    let key : Text := if f.primaryKey then " PRIMARY KEY" else []
    let extras : List Text :=
      if f.extras.isEmpty then [] else ["      extra: " ++ Text.quoteList f.extras]
    (declaration ++ " -> " ++ f.columnType ++ " " ++ f.nullConstraint ++ key) :: extras

/-- The lines about a struct. -/
def Struct.listing (s : Struct) : List Text :=
  let key : List Text :=
    if s.keyNames.isEmpty then [] else ["  Primary Key: " ++ Text.quoteList s.keyNames]
  let ddl : List Text :=
    if s.columns.isEmpty then []
    else "  DDL:" :: (Text.lines (s.createStatement s.tableName)).map (fun line => "    " ++ line)
  ["Struct: " ++ s.typeName ++ " (table " ++ s.tableName ++ [')'], "  Fields:"] ++
    s.fields.flatMap Field.listing ++ key ++ ddl ++ [[]]

/-- A listing of structs as plain text. -/
def Struct.plainListing (structs : List Struct) : Text :=
  let lines : List Text :=
    ["Parsed " ++ Text.ofNat structs.length ++ " structs:", []] ++ structs.flatMap Struct.listing
  lines.flatMap (· ++ ['\n'])

/-- A listing of structs as JSON. -/
def Struct.jsonListing (structs : List Struct) : Text :=
  (Json.array (structs.map Struct.toJson)).print 0 ++ ['\n']

end TableBinding
