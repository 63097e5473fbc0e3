import TableBinding.Annotation.Spelling
import TableBinding.Schema.Struct

/-!
# Canonical annotations

The annotation that a field would have been read from, with its options in a fixed order, and the
declaration file that a list of structs would have been read from.
-/

namespace TableBinding

/-- The options of a column: its type, its nullability, the key, and the rest in order. -/
def Field.columnTokens (f : Field) : List Text :=
  let key : List Text := if f.primaryKey then ["PRIMARY KEY"] else []
  [f.columnType, f.nullConstraint] ++ key ++ f.extras

/-- The body of the canonical annotation. -/
def Field.canonicalOptions (s : Spelling) (f : Field) : Text :=
  if f.namesTable then s.tableMark
  else if f.persisted then Text.join [','] f.columnTokens
  else []

/-- A body between delimiters. -/
def Spelling.delimit (s : Spelling) (body : Text) : Text := s.delimiter ++ body ++ s.delimiter

/-- The canonical annotation of a field. -/
def Field.canonicalAnnotation (s : Spelling) (f : Field) : Text :=
  s.comment ++ s.delimit (f.canonicalOptions s)

/-- The line that declares a field. -/
def Field.canonicalLine (s : Spelling) (f : Field) : Text :=
  "    " ++ f.hostType ++ " " ++ f.name ++ "; " ++ f.canonicalAnnotation s

/-- The lines that declare a struct. -/
def Struct.canonicalLines (s : Spelling) (d : Struct) : List Text :=
  [s.keyword ++ " " ++ d.typeName ++ " " ++ s.comment ++ s.delimit d.tableName, s.blockOpen] ++
    d.fields.map (Field.canonicalLine s) ++ [s.blockEnd]

/-- The declaration file of a list of structs. -/
def Source.canonical (s : Spelling) (structs : List Struct) : Text :=
  (structs.flatMap (Struct.canonicalLines s)).flatMap (· ++ ['\n'])

end TableBinding
