import TableBinding.Text.Basic

/-!
# Faults of a declaration file

Every fault belongs to one line of the file.
-/

namespace TableBinding

/-- A line of a declaration file. -/
structure SourceLine where
  /-- Counted from one. -/
  number : Nat
  /-- Without its ending. -/
  text : Text
  deriving DecidableEq, Repr, Inhabited

/-- The two names that a header gives. -/
inductive HeaderPart where
  | typeName
  | tableName
  deriving DecidableEq, Repr

/-- How a message calls a part of the header. -/
def HeaderPart.label : HeaderPart → Text
  | .typeName => "type name"
  | .tableName => "table name"

/-- What can be wrong with a declaration file. -/
inductive Fault where
  /-- No option of the column is a column type. -/
  | missingDatatype (line : SourceLine)
  /-- The line is no field. -/
  | unreadable (line : SourceLine)
  /-- A struct has at most one field that holds a table name. -/
  | secondTableField (line : SourceLine) (field first : Text)
  /-- The header lacks one of its names. -/
  | incompleteHeader (line : SourceLine) (part : HeaderPart)
  /-- The header stands in the block of another struct. -/
  | nestedHeader (line : SourceLine) (outer : Text)
  /-- The file ends inside the block of the struct that was opened on the line. -/
  | unclosed (number : Nat) (typeName : Text)
  /-- A column of this type can not be read back. -/
  | unsupportedHostType (line : SourceLine) (hostType : Text)
  deriving DecidableEq, Repr

namespace Fault

/-- The number of the line that the fault belongs to. -/
def lineNumber : Fault → Nat
  | missingDatatype l | unreadable l | secondTableField l _ _ | incompleteHeader l _
  | nestedHeader l _ | unsupportedHostType l _ => l.number
  | unclosed n _ => n

/-- A name as messages show it. -/
def cite (name : Text) : Text := '\x60' :: name ++ ['\x60']

/-- What is wrong, without the place. -/
def reason : Fault → Text
  | missingDatatype l => "no SQLite datatype among the column options: " ++ l.text
  | unreadable l => "can not parse line: " ++ l.text
  | secondTableField l field first =>
    "field " ++ cite field ++ " is a second dynamic table name field (first was " ++ cite first ++
      "): " ++ l.text
  | incompleteHeader l part => "struct header is missing its " ++ part.label ++ ": " ++ l.text
  | nestedHeader l outer => "struct header inside an open struct " ++ cite outer ++ ": " ++ l.text
  | unclosed _ typeName => "struct " ++ cite typeName ++ " is never closed"
  | unsupportedHostType l hostType =>
    "host type " ++ cite hostType ++ " can not be read from a query result: " ++ l.text

/-- The place and what is wrong there. -/
def message (f : Fault) : Text := "line " ++ Text.ofNat f.lineNumber ++ ": " ++ f.reason

end Fault

end TableBinding
