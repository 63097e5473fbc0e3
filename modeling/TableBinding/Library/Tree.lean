import TableBinding.Settings.Reading
import TableBinding.Settings.Variables
import TableBinding.Toml.Value

/-!
# Trees of settings

The values of the library's own collector of settings. What comes from several sources is put
together in a `Tree`, where a later source is laid over the earlier ones key by key
(`Tree.overlay`). From the tree, settings are read leniently: a number or a truth value can be taken
for a text, and a text or a number for a truth value.
-/

namespace TableBinding

/-- A value that a source of settings gives. -/
inductive Tree where
  | nothing
  | truth (b : Bool)
  | integer (n : Int)
  | float (x : Binary64)
  | text (t : Text)
  | array (items : List Tree)
  | table (entries : List (Text × Tree))
  deriving Repr, Inhabited

namespace Tree

/-- A scalar as a tree. -/
def ofScalar : Scalar → Tree
  | .truth b => truth b
  | .integer n => integer n
  | .float x => float x
  | .text t => text t

/-- The entries of a table; any other tree has none. -/
def entries : Tree → List (Text × Tree)
  | table entries => entries
  | _ => []

/-- The items of an array; any other tree has none. -/
def items : Tree → List Tree
  | array items => items
  | _ => []

/-- The tree under the key. -/
def find (key : Text) (entries : List (Text × Tree)) : Tree := (entries.lookup key).getD nothing

/-- The entries with the tree under the key, in the place of one that stood there. -/
def setKey (key : Text) (t : Tree) : List (Text × Tree) → List (Text × Tree)
  | [] => [(key, t)]
  | (k, old) :: rest => if k = key then (key, t) :: rest else (k, old) :: setKey key t rest

mutual

/-- The tree with another laid over it: tables are merged key by key, and all else is replaced. -/
def overlay (base : Tree) : Tree → Tree
  | table incoming => table (overlayEntries base.entries incoming)
  | other => other

/-- The entries with others laid over them, one after the other. -/
def overlayEntries (base : List (Text × Tree)) : List (Text × Tree) → List (Text × Tree)
  | [] => base
  | (key, t) :: rest => overlayEntries (setKey key (overlay (find key base) t) base) rest

end

/-- Which trees can be taken for what. -/
def lenientText? : Tree → Option Text
  | text t => some t
  | truth b => some (if b then "true" else "false")
  | integer n => some (Text.ofInt n)
  | float x => some (Number.write x)
  | nothing | array _ | table _ => none

/-- The words for a truth value. -/
def truthWords : List (Text × Bool) :=
  [("1", true), ("true", true), ("on", true), ("yes", true), ("0", false), ("false", false),
    ("off", false), ("no", false)]

/-- The truth value that a tree can be taken for: a number that is not zero is true. -/
def lenientTruth? : Tree → Option Bool
  | truth b => some b
  | integer n => some (n != 0)
  | float x => some !x.isZero
  | text t => truthWords.lookup (Text.toLower t)
  | nothing | array _ | table _ => none

/-- The lenient reading of trees. -/
def lenientReading : Reading Tree where
  text? := lenientText?
  truth? := lenientTruth?
  list? t := match t with
    | array items => some items
    | _ => none
  group? t := match t with
    | table entries => some (.named entries)
    | array items => some (.ordered items)
    | _ => none
  isNothing t := match t with
    | nothing => true
    | _ => false

mutual

/-- The tree of a TOML value, if its whole numbers take no more than 64 bits. -/
def ofValue? : Toml.Value → Option Tree
  | .string t => some (text t)
  | .integer n => if Number.fitsInt64 n then some (integer n) else none
  | .float x => some (float x)
  | .boolean b => some (truth b)
  | .datetime t => some (text t)
  | .array items => (ofValues? items).map array
  | .table entries => (ofEntries? entries).map table

/-- The trees of TOML values. -/
def ofValues? : List Toml.Value → Option (List Tree)
  | [] => some []
  | v :: rest =>
    match ofValue? v, ofValues? rest with
    | some t, some ts => some (t :: ts)
    | _, _ => none

/-- The entries of a TOML table. -/
def ofEntries? : List (Text × Toml.Value) → Option (List (Text × Tree))
  | [] => some []
  | (key, v) :: rest =>
    match ofValue? v, ofEntries? rest with
    | some t, some ts => some ((key, t) :: ts)
    | _, _ => none

end

end Tree

end TableBinding
