import TableBinding.Number.Literal

/-!
# TOML values

What a TOML document says: a table of values under keys.
-/

namespace TableBinding.Toml

/-- A value of a TOML document. -/
inductive Value where
  | string (t : Text)
  | integer (n : Int)
  | float (x : Binary64)
  | boolean (b : Bool)
  /-- A date, a time of day, or both, in its standard form. -/
  | datetime (t : Text)
  | array (items : List Value)
  | table (entries : List (Text × Value))
  deriving Repr, Inhabited

/-- A table, with its keys in order of definition. -/
abbrev Table := List (Text × Value)

end TableBinding.Toml
