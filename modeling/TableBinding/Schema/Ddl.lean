import TableBinding.Schema.Struct
import TableBinding.Text.Blank

/-!
# The table of a struct

The definitions of the table's columns and the statement that creates the table. Names, types and
constraints stand in columns of their own. A single key column is declared where it is defined, two
or more in an entry of their own behind the columns.
-/

namespace TableBinding

/-- The definition of a column. Names take `width` characters; `inlineKey` says that the table has
no other key column. -/
def Field.definition (width : Nat) (inlineKey : Bool) (f : Field) : Text :=
  let key : Text := if inlineKey && f.primaryKey then " PRIMARY KEY" else []
  Text.trimEnd (Text.padEnd width f.name ++ [' '] ++ Text.padEnd 7 f.columnType ++ [' '] ++
    Text.padStart 8 f.nullConstraint ++ key ++ f.extras.flatMap (' ' :: ·))

/-- The entry that declares the columns of these names the primary key. -/
def keyDefinition (names : List Text) : Text := "PRIMARY KEY(" ++ Text.join [','] names ++ [')']

namespace Struct

/-- Whether the primary key is declared on its column. -/
def hasInlineKey (s : Struct) : Bool := s.keyNames.length == 1

/-- The entries of the table's definition. -/
def definitions (s : Struct) : List Text :=
  s.columns.map (Field.definition s.nameWidth s.hasInlineKey) ++
    (if 2 ≤ s.keyNames.length then [keyDefinition s.keyNames] else [])

/-- The statement that creates the struct's table under the name. -/
def createStatement (s : Struct) (table : Text) : Text :=
  "CREATE TABLE IF NOT EXISTS " ++ table ++ " (" ++ Text.join ", " s.definitions ++ [')']

end Struct

end TableBinding
