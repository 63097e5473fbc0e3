import TableBinding.Text.Blank
import TableBinding.Text.Quoted

/-!
# The spelling of the annotation language

A declaration file is read with a `Spelling`: the keyword of a header, the marks around an
annotation, the tokens of a column and the lines around a block are all free. `Spelling.fault?` says
what stops a spelling from being usable, `Spelling.Valid` that nothing does.
-/

namespace TableBinding

/-- The tokens of the annotation language. -/
structure Spelling where
  /-- Begins a header line. -/
  keyword : Text := "struct"
  /-- Stands in front of an annotation. -/
  comment : Text := "//"
  /-- Stands on both sides of an annotation's body. -/
  delimiter : Text := "`"
  /-- Marks the member that holds a table name. -/
  tableMark : Text := "ZX_TABLENAME"
  /-- The column types. -/
  datatypes : List Text := ["INTEGER", "REAL", "TEXT", "BLOB"]
  /-- The line that opens a block. -/
  blockOpen : Text := "\x7b"
  /-- Begins the line that closes a block. -/
  blockEnd : Text := "\x7d;"
  deriving DecidableEq, Repr

/-- What can be wrong with a spelling. -/
inductive SpellingFault where
  /-- The token of this key holds nothing but blanks. -/
  | blankToken (key : Text)
  /-- There is no column type. -/
  | noDatatype
  /-- The column type is empty, or holds a comma or a blank. -/
  | brokenDatatype (datatype : Text)
  /-- The delimiter holds a comma. -/
  | commaInDelimiter
  /-- The table mark is also a column option. -/
  | markIsOption (mark : Text)
  deriving DecidableEq, Repr

/-- The wording of a fault. -/
def SpellingFault.message : SpellingFault → Text
  | .blankToken key => "syntax." ++ key ++ " must not be empty"
  | .noDatatype => "syntax.datatypes must name at least one datatype"
  | .brokenDatatype d => "syntax.datatypes contains an invalid token: " ++ Text.quote d
  | .commaInDelimiter => "syntax.delimiter must not contain ','"
  | .markIsOption m =>
    "syntax.table_name_marker `" ++ m ++ "` collides with a column option keyword"

namespace Spelling

/-- The tokens that must not be blank, under their keys. -/
def required (s : Spelling) : List (Text × Text) :=
  [("struct_keyword", s.keyword), ("comment_marker", s.comment), ("delimiter", s.delimiter),
    ("table_name_marker", s.tableMark), ("block_open", s.blockOpen), ("block_end", s.blockEnd)]

/-- Whether a column type can not stand among the options of an annotation. -/
def isBroken (datatype : Text) : Bool :=
  datatype.isEmpty || datatype.any (fun c => c == ',' || Text.isBlank c)

/-- The short column options, which a table mark must not repeat. -/
def reservedMarks : List Text := ["NULL", "PK"]

/-- Whether the token is a column type. -/
def isDatatype (s : Spelling) (token : Text) : Bool := s.datatypes.contains token

/-- The first fault of the spelling. -/
def fault? (s : Spelling) : Option SpellingFault :=
  match s.required.find? (fun entry => Text.allBlank entry.2) with
  | some (key, _) => some (.blankToken key)
  | none =>
    if s.datatypes.isEmpty then some .noDatatype
    else
      match s.datatypes.find? isBroken with
      | some d => some (.brokenDatatype d)
      | none =>
        if s.delimiter.contains ',' then some .commaInDelimiter
        else if s.isDatatype s.tableMark || reservedMarks.contains s.tableMark then
          some (.markIsOption s.tableMark)
        else none

/-- Nothing stops the spelling from being used. -/
def Valid (s : Spelling) : Prop := s.fault? = none

instance (s : Spelling) : Decidable s.Valid := inferInstanceAs (Decidable (s.fault? = none))

end Spelling

end TableBinding
