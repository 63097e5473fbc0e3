import TableBinding.Number.Literal

/-!
# Settings from environment variables

Which variables give settings (`Variables.convention`), and what the value of one can stand for: it
is tried as a truth value, a whole number and a number, in this order (`Scalar.ofText`), and each of
these has one form in which it is written (`Scalar.written`).
-/

namespace TableBinding

/-- A single value. -/
inductive Scalar where
  | truth (b : Bool)
  | integer (n : Int)
  | float (x : Binary64)
  | text (t : Text)
  deriving DecidableEq, Repr

namespace Scalar

/-- The truth value that the text is, in any case. -/
def readTruth? (t : Text) : Option Bool :=
  if Text.toLower t == "true" then some true
  else if Text.toLower t == "false" then some false
  else none

/-- The whole number of 64 bits that the text is. -/
def readInteger? (t : Text) : Option Int := (Number.readInt? t).filter Number.fitsInt64

/-- What the text stands for. -/
def ofText (t : Text) : Scalar :=
  match readTruth? t with
  | some b => truth b
  | none =>
    match readInteger? t with
    | some n => integer n
    | none =>
      match Number.readBinary64? t with
      | some x => float x
      | none => text t

/-- The scalar as it is written. -/
def written : Scalar → Text
  | truth b => if b then "true" else "false"
  | integer n => Text.ofInt n
  | float x => Number.write x
  | text t => t

end Scalar

namespace Variables

/-- The variables of an environment, each a name and a value. -/
abbrev Environment := List (Text × Text)

/-- The value of the variable of exactly that name. -/
def get? (env : Environment) (name : Text) : Option Text := env.lookup name

/-- How variables give settings: by names that begin in the same way, in any case, and go on with
the keys that lead to the setting. -/
structure Convention where
  /-- What the names begin with. -/
  start : Text
  /-- What stands behind that. -/
  startSeparator : Text
  /-- What stands between the keys. -/
  separator : Text
  /-- What stands between the items of a list. -/
  listSeparator : Text
  /-- The settings that are lists, with a dot between their keys. -/
  listKeys : List Text
  /-- Whether a value may be more than a text. -/
  triesValues : Bool

/-- The variables that give settings of a run, as in `QTORM_CODEGEN_SYNTAX__DELIMITER`. -/
def convention : Convention where
  start := "QTORM_CODEGEN"
  startSeparator := "_"
  separator := "__"
  listSeparator := ","
  listKeys := ["syntax.datatypes", "output.includes"]
  triesValues := true

end Variables

end TableBinding
