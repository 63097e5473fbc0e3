import TableBinding.Text.Blank

/-!
# Host types

The member types whose value a query result can be converted to.
-/

namespace TableBinding

/-- A member type that a column can be read into. -/
inductive HostType where
  | string
  | bool
  | int
  | unsignedInt
  | longLong
  | unsignedLongLong
  | float
  | double
  deriving DecidableEq, Repr

namespace HostType

/-- Every host type with its declaration. -/
def declarations : List (Text × HostType) :=
  [("QString", string), ("bool", bool), ("int", int), ("unsigned int", unsignedInt),
    ("long long", longLong), ("unsigned long long", unsignedLongLong), ("float", float),
    ("double", double)]

/-- The host type that a declaration names; how its words are spaced does not matter. -/
def ofName? (declared : Text) : Option HostType := declarations.lookup (Text.squeeze declared)

/-- The conversion of a result value to the type. -/
def conversion : HostType → Text
  | string => "toString"
  | bool => "toBool"
  | int => "toInt"
  | unsignedInt => "toUInt"
  | longLong => "toLongLong"
  | unsignedLongLong => "toULongLong"
  | float => "toFloat"
  | double => "toDouble"

/-- Whether the conversion reports if it succeeded. -/
def isChecked : HostType → Bool
  | string | bool => false
  | _ => true

/-- The value that stands for a failed conversion. -/
def zero : HostType → Text
  | string => "QString()"
  | bool => "false"
  | _ => "0"

end HostType

end TableBinding
