import TableBinding.Text.Basic

/-!
# Struct declarations

What a declaration file says: a struct with its table and its fields. A field is a column
(`persisted`), or names the table at run time (`namesTable`), or is transient.
-/

namespace TableBinding

/-- One member of a struct. -/
structure Field where
  /-- The type of the member, with single spaces between its words. -/
  hostType : Text := []
  /-- The name of the member, and of its column. -/
  name : Text := []
  /-- Whether the member is a column of the table. -/
  persisted : Bool := false
  /-- Whether the member holds the name of the table to use. -/
  namesTable : Bool := false
  /-- The column type. -/
  columnType : Text := []
  /-- Whether the column accepts NULL. -/
  nullable : Bool := false
  /-- Whether the column belongs to the primary key. -/
  primaryKey : Bool := false
  /-- The other options of the column, verbatim and in order. -/
  extras : List Text := []
  deriving DecidableEq, Repr, Inhabited

/-- The nullability of a column as its definition writes it; nothing for other members. -/
def Field.nullConstraint (f : Field) : Text :=
  if f.persisted then if f.nullable then "NULL" else "NOT NULL" else []

/-- A struct bound to a table. -/
structure Struct where
  /-- The name of the struct. -/
  typeName : Text
  /-- The table that it is bound to. -/
  tableName : Text
  /-- The members, in order of declaration. -/
  fields : List Field := []
  deriving DecidableEq, Repr, Inhabited

namespace Struct

/-- The members that are columns. -/
def columns (s : Struct) : List Field := s.fields.filter (·.persisted)

/-- The names of the columns that form the primary key. -/
def keyNames (s : Struct) : List Text := (s.columns.filter (·.primaryKey)).map (·.name)

/-- The first member that holds a table name. -/
def tableField? (s : Struct) : Option Field := s.fields.find? (·.namesTable)

/-- The member of that name. -/
def field? (s : Struct) (name : Text) : Option Field := s.fields.find? (·.name == name)

/-- The longest column name, in bytes of UTF-8. -/
def nameWidth (s : Struct) : Nat := (s.columns.map (Text.byteLength ·.name)).foldr max 0

end Struct

end TableBinding
