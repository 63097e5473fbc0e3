import TableBinding.Schema.Struct

/-!
# Flags

A generated class has a boolean member for every choice that an object makes about one of its
fields.
-/

namespace TableBinding

/-- A choice about the field of this name. -/
inductive Flag where
  /-- The column takes part in INSERT and UPDATE. -/
  | written (field : Text)
  /-- The column is a condition of WHERE. -/
  | required (field : Text)
  /-- The column was read successfully. -/
  | received (field : Text)
  /-- The table that the field names is used. -/
  | redirected (field : Text)
  deriving DecidableEq, Repr

/-- The member that holds the flag. -/
def Flag.member : Flag → Text
  | written f => "iuq_" ++ f
  | required f => "w_" ++ f
  | received f => "idq_" ++ f
  | redirected f => "otn_" ++ f

/-- The flags of a field, in order of declaration. -/
def Field.flags (f : Field) : List Flag :=
  if f.persisted then [.written f.name, .required f.name, .received f.name]
  else if f.namesTable then [.redirected f.name]
  else []

end TableBinding
