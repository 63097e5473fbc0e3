import TableBinding.Annotation.Spelling

/-!
# The form of lines

A line of a declaration file is recognised by its form alone: it opens a block, closes one, is a
header, or declares a field.

A header is the keyword, gaps, a type name, gaps, the comment mark and the table name between
delimiters. Where the marks share characters with the names, each name is as long as the rest of
the form permits (`HeaderForm.read?`).

A field is gaps, the words of a type, a name, gaps, a semicolon, gaps, the comment mark and the
options between delimiters (`FieldForm.read?`). The options reach to the first delimiter.
-/

namespace TableBinding

/-- What a header line gives. -/
structure HeaderForm where
  typeName : Text
  tableName : Text
  deriving DecidableEq, Repr

/-- What a field line gives, as it is written. -/
structure FieldForm where
  hostType : Text
  name : Text
  options : Text
  deriving DecidableEq, Repr

namespace Text

/-- The characters of an identifier behind its first. -/
def isIdentRest (c : Char) : Bool := c.isAlphanum || c == '_'

/-- The characters an identifier may begin with. -/
def isIdentStart (c : Char) : Bool := c.isAlpha || c == '_'

/-- The characters of a type name. -/
def isTypeChar (c : Char) : Bool := c.isAlphanum || c == '_' || c == ':'

/-- Letters, digits and underscores, the first no digit. -/
def isIdent : Text → Bool
  | [] => false
  | c :: t => isIdentStart c && t.all isIdentRest

end Text

namespace Spelling

/-- Whether the line begins with the keyword and a gap. -/
def isHeader (s : Spelling) (line : Text) : Bool :=
  match Text.after? s.keyword line with
  | some (c :: _) => Text.isGap c
  | _ => false

/-- Whether the line closes a block: blanks and the block end begin it. -/
def closesBlock (s : Spelling) (line : Text) : Bool :=
  Text.startsWith s.blockEnd (Text.trimStart line)

/-- Whether the line opens a block: between blanks it holds nothing else. -/
def opensBlock (s : Spelling) (line : Text) : Bool := Text.trim line == s.blockOpen

/-- What a header line holds behind its keyword and the gaps there. -/
def headerBody? (s : Spelling) (line : Text) : Option Text :=
  if s.isHeader line then (Text.after? s.keyword line).map Text.dropGaps else none

/-- Whether the header names a type. -/
def namesType (s : Spelling) (line : Text) : Bool :=
  match s.headerBody? line with
  | some (c :: _) => Text.isTypeChar c
  | _ => false

/-- What stands in front of an annotation's body. -/
def opening (s : Spelling) : Text := s.comment ++ s.delimiter

/-- The table name at the front of the text, a delimiter behind it. -/
def tableNameAt? (s : Spelling) (t : Text) : Option Text :=
  ((Text.behindRun? Text.isIdentRest (Text.after? s.delimiter) t).map (·.1)).filter
    (fun name => !name.isEmpty)

/-- The table name of an annotation at the front of the text, behind gaps. -/
def tableAnnotationAt? (s : Spelling) (t : Text) : Option Text :=
  (Text.behindRun? Text.isGap (fun rest => (Text.after? s.opening rest).bind s.tableNameAt?) t).map
    (·.2)

/-- The options of an annotation at the front of the text, behind gaps. -/
def optionsAt? (s : Spelling) (t : Text) : Option Text :=
  (Text.behindRun? Text.isGap
    (fun rest => (Text.after? s.opening rest).bind (Text.cutAt? s.delimiter)) t).map (·.2)

end Spelling

/-- Both names of a header line. -/
def HeaderForm.read? (s : Spelling) (line : Text) : Option HeaderForm :=
  (s.headerBody? line).bind fun body =>
    ((Text.behindRun? Text.isTypeChar s.tableAnnotationAt? body).map fun (typeName, tableName) =>
      { typeName, tableName }).filter (fun form => !form.typeName.isEmpty)

/-- The type and the name that a declaration consists of: the name is the last of its words, and
the type is what stands in front. -/
def FieldForm.declaration? (t : Text) : Option (Text × Text) :=
  let body := Text.trimGaps t
  let name := (body.reverse.takeWhile (fun c => !Text.isGap c)).reverse
  let hostType := Text.dropGapsEnd (body.reverse.dropWhile (fun c => !Text.isGap c)).reverse
  if !hostType.isEmpty && hostType.all (fun c => Text.isTypeChar c || Text.isGap c) &&
      Text.isIdent name then
    some (hostType, name)
  else none

/-- The parts of a field line. -/
def FieldForm.read? (s : Spelling) (line : Text) : Option FieldForm :=
  match line.dropWhile (· != ';') with
  | [] => none
  | _ :: rest =>
    (FieldForm.declaration? (line.takeWhile (· != ';'))).bind fun (hostType, name) =>
      (s.optionsAt? rest).map (⟨hostType, name, ·⟩)

end TableBinding
