import TableBinding.Text.Basic

/-!
# Paths

A path is text. Slashes separate its parts; empty parts, and parts that are a single dot, say
nothing, except that a relative path may begin with a dot. What a path leads to is for the storage
to say; here paths are only taken apart and put together.
-/

namespace TableBinding

/-- A path, as it is written. -/
abbrev Path := Text

namespace Path

/-- Whether the path starts at the root. -/
def isAbsolute (p : Path) : Bool := p.head? == some '/'

/-- The pieces between the slashes. -/
def pieces (p : Path) : List Text := Text.splitWhen (· == '/') p

/-- The parts of a path that say something. -/
def parts (p : Path) : List Text :=
  match p.pieces with
  | [] => []
  | first :: rest =>
    let rest := rest.filter (fun piece => !piece.isEmpty && piece != ['.'])
    if first.isEmpty then rest else first :: rest

/-- The path of the parts. -/
def ofParts (absolute : Bool) (parts : List Text) : Path :=
  (if absolute then ['/'] else []) ++ Text.join ['/'] parts

/-- The path without its last part, if it has one. -/
def parent? (p : Path) : Option Path :=
  if p.parts.isEmpty then none else some (ofParts p.isAbsolute p.parts.dropLast)

/-- The last part, if it is the name of an entry. -/
def fileName? (p : Path) : Option Text :=
  match p.parts.getLast? with
  | some name => if name == ".." || name == "." then none else some name
  | none => none

/-- A name as what stands in front of its last dot and what stands behind it. A name that begins
with its only dot, or has none, is not divided. -/
def divide (name : Text) : Text × Option Text :=
  let behind := (name.reverse.takeWhile (· != '.')).reverse
  let front := (name.reverse.dropWhile (· != '.')).tail.reverse
  if front.isEmpty then (name, none) else (front, some behind)

/-- The file's name without its extension. -/
def stem? (p : Path) : Option Text := p.fileName?.map fun name => (divide name).1

/-- The extension of the file's name. -/
def extension? (p : Path) : Option Text := p.fileName?.bind fun name => (divide name).2

/-- The path with an extension behind the file's name. -/
def addExtension? (p : Path) (extension : Text) : Option Path :=
  p.fileName?.map fun name =>
    ofParts p.isAbsolute (p.parts.dropLast ++ [name ++ ['.'] ++ extension])

/-- The second path as seen from the first. -/
def join (base p : Path) : Path :=
  if p.isAbsolute then p
  else if base.isEmpty || base.getLast? == some '/' then base ++ p
  else base ++ ['/'] ++ p

end Path

end TableBinding
