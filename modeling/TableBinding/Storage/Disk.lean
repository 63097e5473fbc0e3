import TableBinding.Storage.Fault
import TableBinding.Storage.Path
import TableBinding.Text.Utf8

/-!
# A disk

Files and directories as a value. An entry stands at a `Location`, the names on the way from the
root. A path is followed from the working directory (`Disk.walk`): every name but the last has to
lead to a directory.
-/

namespace TableBinding

/-- The names on the way from the root. -/
abbrev Location := List Text

/-- What stands at a location. -/
inductive Entry where
  | directory
  | file (content : ByteArray)

/-- The entries of a disk and the working directory. -/
structure Disk where
  entries : List (Location × Entry) := []
  here : Location := []

namespace Disk

/-- What stands at the location. The root is a directory. -/
def entry? (d : Disk) (l : Location) : Option Entry :=
  if l.isEmpty then some .directory else d.entries.lookup l

/-- The disk without the entry at the location. -/
def erase (d : Disk) (l : Location) : Disk :=
  { d with entries := d.entries.filter (fun entry => entry.1 != l) }

/-- The disk with the entry at the location, and all others as they were. -/
def put (d : Disk) (l : Location) (e : Entry) : Disk :=
  { d with entries := (l, e) :: (d.erase l).entries }

/-- A path of more bytes than this is refused. -/
def longestPath : Nat := 4095

/-- A name of more bytes than this is refused. -/
def longestName : Nat := 255

/-- One step: what the name leads to, seen from the location. -/
def step (d : Disk) (l : Location) (name : Text) : Except StorageFault Location :=
  match d.entry? l with
  | none => .error .missing
  | some (.file _) => .error .notDirectory
  | some .directory =>
    if name = ['.'] then .ok l
    else if name = ['.', '.'] then .ok l.dropLast
    else if longestName < Text.byteLength name then .error .nameTooLong
    else if (d.entry? (l ++ [name])).isSome then .ok (l ++ [name])
    else .error .missing

/-- Where the names lead, seen from the location. -/
def walk (d : Disk) (l : Location) : List Text → Except StorageFault Location
  | [] => .ok l
  | name :: names => (d.step l name).bind fun next => d.walk next names

/-- The names in a path, a dot for a slash at its end, and where they start. -/
def route (d : Disk) (p : Path) : Except StorageFault (Location × List Text) :=
  if p.contains '\x00' then .error .nulInName
  else if p.isEmpty then .error .missing
  else if longestPath < Text.byteLength p then .error .nameTooLong
  else
    let names := p.pieces.filter (fun piece => !piece.isEmpty)
    let names := if p.getLast? = some '/' then names ++ [['.']] else names
    .ok (if p.isAbsolute then [] else d.here, names)

/-- Where the path leads. -/
def find (d : Disk) (p : Path) : Except StorageFault Location :=
  (d.route p).bind fun (start, names) => d.walk start names

/-- Whether something stands where the path leads. -/
def isPresent (d : Disk) (p : Path) : Bool :=
  match d.find p with
  | .ok _ => true
  | .error _ => false

/-- What stands where the path leads. -/
def at? (d : Disk) (p : Path) : Option Entry :=
  match d.find p with
  | .ok l => d.entry? l
  | .error _ => none

/-- Whether the path leads to a file. -/
def isFile (d : Disk) (p : Path) : Bool :=
  match d.at? p with
  | some (.file _) => true
  | _ => false

/-- Whether the path leads to a directory. -/
def isDirectory (d : Disk) (p : Path) : Bool :=
  match d.at? p with
  | some .directory => true
  | _ => false

/-- The content of the file that the path leads to. -/
def read (d : Disk) (p : Path) : Except StorageFault ByteArray :=
  match d.find p with
  | .error fault => .error fault
  | .ok l =>
    match d.entry? l with
    | none => .error .missing
    | some .directory => .error .isDirectory
    | some (.file content) => .ok content

/-- Where an entry of the path belongs: the directory and the name in it. -/
def place (d : Disk) (p : Path) : Except StorageFault (Location × Text) :=
  (d.route p).bind fun (start, names) =>
    let names := if p.getLast? = some '/' then names.dropLast else names
    match names.getLast? with
    | none => .ok (start, ['.'])
    | some name =>
      (d.walk start names.dropLast).bind fun parent =>
        match d.entry? parent with
        | some .directory => .ok (parent, name)
        | _ => .error .notDirectory

/-- The disk with one more directory. -/
def makeDirectory (d : Disk) (p : Path) : Except StorageFault Disk :=
  (d.place p).bind fun (parent, name) =>
    match d.step parent name with
    | .ok _ => .error .present
    | .error .missing => .ok (d.put (parent ++ [name]) .directory)
    | .error fault => .error fault

/-- The disk with a directory at the path, where none stands already. A failure comes with the disk
as it is then. -/
def ensureDirectory (d : Disk) (p : Path) : Except (StorageFault × Disk) Disk :=
  match d.makeDirectory p with
  | .ok made => .ok made
  | .error .present => if d.isDirectory p then .ok d else .error (.present, d)
  | .error fault => .error (fault, d)

/-- The disk with a directory of every path of the list, the first being the innermost: behind the
first that stands already, or can be made, the outer ones are not looked at. What was made before a
failure stays. -/
def makeNested (d : Disk) : List Path → Except (StorageFault × Disk) Disk
  | [] => .ok d
  | p :: outer =>
    match d.ensureDirectory p with
    | .ok made => .ok made
    | .error (.missing, _) => (d.makeNested outer).bind (·.ensureDirectory p)
    | .error failure => .error failure

/-- The path and the paths of its parents, but neither the root nor the empty path. -/
def ancestry (p : Path) : List Path :=
  (List.range p.parts.length).map fun n =>
    Path.ofParts p.isAbsolute (p.parts.take (p.parts.length - n))

/-- The disk with a directory at the path and at every path on the way. -/
def makeDirectories (d : Disk) (p : Path) : Except (StorageFault × Disk) Disk :=
  d.makeNested (ancestry p)

/-- The disk with a file of this content at the path, in place of a file that stands there. -/
def write (d : Disk) (p : Path) (content : ByteArray) : Except StorageFault Disk :=
  (d.place p).bind fun (parent, name) =>
    if p.getLast? = some '/' then .error .isDirectory
    else
      match d.step parent name with
      | .ok l =>
        match d.entry? l with
        | some .directory => .error .isDirectory
        | _ => .ok (d.put l (.file content))
      | .error .missing => .ok (d.put (parent ++ [name]) (.file content))
      | .error fault => .error fault

end Disk

end TableBinding
