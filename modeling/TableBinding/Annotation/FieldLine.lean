import TableBinding.Annotation.Fault
import TableBinding.Annotation.Form
import TableBinding.Annotation.Options
import TableBinding.Schema.HostType
import TableBinding.Schema.Struct

/-!
# Field lines

What a line declares. Without options the field is transient. With the table mark among its
options it holds a table name, whatever the others are. Else it is a column: one option is its
column type, and its host type can be read back.
-/

namespace TableBinding

/-- The field with the options of a column. -/
def Field.withOptions (f : Field) (o : ColumnOptions) : Field :=
  { f with
    persisted := true
    columnType := o.columnType
    nullable := o.nullable
    primaryKey := o.primaryKey
    extras := o.extras }

/-- The field that a line of this form declares. -/
def Field.ofForm (s : Spelling) (line : SourceLine) (form : FieldForm) : Except Fault Field :=
  let field : Field := { hostType := Text.squeeze form.hostType, name := form.name }
  if form.options.isEmpty then .ok field
  else if (Text.options form.options).contains s.tableMark then
    .ok { field with namesTable := true }
  else
    match ColumnOptions.ofBody? s form.options with
    | none => .error (.missingDatatype line)
    | some o =>
      match HostType.ofName? field.hostType with
      | none => .error (.unsupportedHostType line field.hostType)
      | some _ => .ok (field.withOptions o)

/-- The field that the line declares. -/
def Field.read (s : Spelling) (line : SourceLine) : Except Fault Field :=
  match FieldForm.read? s line.text with
  | none => .error (.unreadable line)
  | some form => Field.ofForm s line form

end TableBinding
