import TableBinding.Library.Tree

/-!
# Key paths

A key that a source gives may lead deeper than one level: `a.b` is the key `b` in the table under
`a`, and `a[1]` the second item of the array there; a negative index counts from the end. A text
that is no such path is a key as it stands.
-/

namespace TableBinding

/-- One step into a tree. -/
inductive KeyStep where
  | key (name : Text)
  | index (n : Int)
  deriving DecidableEq, Repr

namespace KeyPath

/-- The characters of a name in a path. -/
def isNameChar (c : Char) : Bool := c.isAlphanum || c == '_' || c == '-'

/-- The index that the text is: digits behind an optional minus sign, for a number of 64 bits. -/
def index? (t : Text) : Option Int :=
  if t.head? == some '+' then none else (Number.readInt? t).filter Number.fitsInt64

/-- The steps that the text is, each behind a dot or in brackets. -/
def steps? : Text → Option (List KeyStep)
  | [] => some []
  | '.' :: t =>
    if (t.takeWhile isNameChar).isEmpty then none
    else
      (steps? (t.dropWhile isNameChar)).map (.key (t.takeWhile isNameChar) :: ·)
  | '[' :: t =>
    match index? (Text.trimGaps (t.takeWhile (· != ']'))), t.dropWhile (· != ']') with
    | some n, _ :: _ => (steps? ((t.dropWhile (· != ']')).drop 1)).map (.index n :: ·)
    | _, _ => none
  | _ => none
termination_by t => t.length
decreasing_by
  · have shorter := (List.dropWhile_suffix isNameChar (l := t)).length_le
    simp only [List.length_cons]
    omega
  · have shorter := (List.dropWhile_suffix (fun c : Char => c != ']') (l := t)).length_le
    simp only [List.length_cons, List.length_drop]
    omega

/-- The steps of a path. -/
def ofText (t : Text) : List KeyStep :=
  if (t.takeWhile isNameChar).isEmpty then [.key t]
  else
    match steps? (t.dropWhile isNameChar) with
    | some steps => .key (t.takeWhile isNameChar) :: steps
    | none => [.key t]

end KeyPath

namespace Tree

/-- The items with `change` made at the index. Items that are missing up to there are nothing. -/
def changeAt (change : Tree → Tree) (index : Int) (items : List Tree) : List Tree :=
  if 0 ≤ index then
    let padded := items ++ List.replicate (index.toNat + 1 - items.length) nothing
    padded.modify index.toNat change
  else
    let padded := List.replicate ((-index).toNat - items.length) nothing ++ items
    padded.modify (padded.length - (-index).toNat) change

/-- The tree with `change` made where the path leads. A table or an array on the way takes the place
of what is none. -/
def changeWithin (change : Tree → Tree) : List KeyStep → Tree → Tree
  | [], t => change t
  | .key name :: path, t =>
    table (setKey name (changeWithin change path (find name t.entries)) t.entries)
  | .index n :: path, t => array (changeAt (changeWithin change path) n t.items)

/-- The tree with another laid over what the key leads to. -/
def put (t : Tree) (key : Text) (incoming : Tree) : Tree :=
  changeWithin (fun old => overlay old incoming) (KeyPath.ofText key) t

/-- The tree with the entries of a source, each where its key leads, one after the other. -/
def putAll (t : Tree) (source : List (Text × Tree)) : Tree :=
  source.foldl (fun t entry => t.put entry.1 entry.2) t

end Tree

end TableBinding
