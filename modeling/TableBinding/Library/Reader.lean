import TableBinding.Library.Toml.Document
import TableBinding.Settings.Sources

/-!
# The reader of documents

The library's own `DocumentReader`. Settings are taken for what they are written as: a text is a
string, a truth value a boolean, a list an array, and a group a table or an array.
-/

namespace TableBinding.Toml

/-- The group that a value is. A date is a group that gives no setting. -/
def Value.group? : Value → Option (Group Value)
  | .table entries => some (.named entries)
  | .array items => some (.ordered items)
  | .datetime _ => some (.named [])
  | _ => none

/-- Every value is taken for what it is written as. -/
def strictReading : Reading Value where
  text? v := match v with
    | .string t => some t
    | _ => none
  truth? v := match v with
    | .boolean b => some b
    | _ => none
  list? v := match v with
    | .array items => some items
    | _ => none
  group? := Value.group?
  isNothing _ := false

/-- The reader of documents. -/
def reader : DocumentReader where
  table? := read? .dotted
  reading := strictReading

end TableBinding.Toml
