import TableBinding.Library.Tree

/-!
# Variables as entries

The rest of a variable's name is the key, in lower case and with dots between its parts. A value
that is neither a truth value nor a number is a list for the settings that are lists, and a text for
all others.
-/

namespace TableBinding.Variables

variable (c : Convention)

/-- The key that a variable's name stands for. -/
def key? (name : Text) : Option Text :=
  (Text.after? (Text.toLower (c.start ++ c.startSeparator)) (Text.toLower name)).map fun rest =>
    Text.join "." (Text.piecesAt c.separator rest)

/-- What the value of a variable stands for, as the setting of the key. -/
def interpret (key value : Text) : Tree :=
  if c.triesValues then
    match Scalar.ofText value with
    | .text t =>
      if c.listKeys.contains key then .array ((Text.piecesAt c.listSeparator t).map .text)
      else .text t
    | scalar => .ofScalar scalar
  else .text value

/-- The entries that an environment gives. -/
def entries (env : Environment) : List (Text × Tree) :=
  env.filterMap fun (name, value) => (key? c name).map fun key => (key, interpret c key value)

end TableBinding.Variables
