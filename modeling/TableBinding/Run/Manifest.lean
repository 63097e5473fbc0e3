import TableBinding.Library.Reader
import TableBinding.Run.Generate

/-!
# Runs set up by a package manifest

A build runs the generator with the settings of its package's manifest. Relative paths are seen from
the directory of the manifest, and without an output file in the manifest the generated file goes to
the build's output directory. The build is told on which files the result depends.
-/

namespace TableBinding

/-- What a manifest says about the run. -/
structure ManifestSection where
  input : Option Text := none
  output : Option Text := none
  tableMark : Option Text := none
  lineEnding : Option Text := none
  includes : List Text := []
  deriving DecidableEq, Repr

/-- What the group gives under the key, if it gives anything; an ordered group gives a value at
every position. -/
def Group.optional? {V : Type} (position : Nat) (key : Text) : Group V → Option (Option V)
  | named entries => some (entries.lookup key)
  | ordered items => (items[position]?).map some

namespace ManifestSection

/-- What a value can be taken for by `read?`, if there is one. -/
def ifGiven {V α : Type} (read? : V → Option α) : Option V → Option (Option α)
  | none => some none
  | some v => (read? v).map some

section

variable {V : Type} (r : Reading V)

/-- The group under the key of a group, if there is one. -/
def groupIn? (g : Group V) (key : Text) : Option (Option (Group V)) :=
  (g.optional? 0 key).bind (ifGiven r.group?)

/-- The section that a group of settings gives. -/
def ofGroup? (g : Group V) : Option ManifestSection := do
  let input ← (g.optional? 0 "input_file").bind (ifGiven r.text?)
  let output ← (g.optional? 1 "output_file").bind (ifGiven r.text?)
  let tableMark ← (g.optional? 2 "table_name_marker").bind (ifGiven r.text?)
  let lineEnding ← (g.optional? 3 "line_ending").bind (ifGiven r.text?)
  let includes ← Reading.getD r.texts? g 4 "includes" []
  pure { input, output, tableMark, lineEnding, includes }

/-- The section of a manifest, if there is one. -/
def ofManifest? (manifest : Group V) : Option (Option ManifestSection) := do
  let some package ← groupIn? r manifest "package" | pure none
  let some metadata ← groupIn? r package "metadata" | pure none
  let some group ← groupIn? r metadata "qtorm-codegen" | pure none
  (ofGroup? r group).map some

end

/-- The name of the generated file for an input. -/
def outputName (input : Path) : Text := (input.stem?.getD "output") ++ ".cpp.txt"

/-- The settings of a run with these files. -/
def settings (s : ManifestSection) (input output : Path) : Settings :=
  let d : Settings := {}
  { d with
    input
    output
    spelling := { d.spelling with tableMark := s.tableMark.getD d.spelling.tableMark }
    layout :=
      { d.layout with
        lineEnding := s.lineEnding.getD d.layout.lineEnding
        includes := if s.includes.isEmpty then d.layout.includes else s.includes } }

end ManifestSection

/-- The line that tells the build of a file on which the result depends. -/
def dependencyLine (file : Path) : Text := "cargo:rerun-if-changed=" ++ file ++ ['\n']

namespace Manifest

variable {m : Type → Type} [Monad m] [Storage m]

/-- The value of a variable that the build sets. -/
def demand (env : Variables.Environment) (name : Text) : Except Failure Text :=
  match Variables.get? env name with
  | some value => .ok value
  | none => .error (.configuration (.noVariable name))

/-- The section of the manifest at the path. -/
def readSection (reader : DocumentReader) (path : Path) : Task m ManifestSection := do
  let bytes ← Task.ofStorage (Storage.read path)
  match Utf8.decode? bytes with
  | none => throw (.storage .notText)
  | some document =>
    let section? := (reader.table? document).bind fun table =>
      ManifestSection.ofManifest? reader.reading (.named table)
    match section? with
    | none => throw (.configuration (.unreadable path))
    | some none => throw (.configuration (.noSection path))
    | some (some manifest) => pure manifest

/-- The generated file: as the section says, or in the build's output directory. -/
def outputPath (env : Variables.Environment) (directory : Path) (s : ManifestSection)
    (input : Path) : Except Failure Path :=
  match s.output with
  | some output => .ok (Path.join directory output)
  | none => (demand env "OUT_DIR").map fun out =>
    Path.join out (ManifestSection.outputName input)

/-- Generates as the manifest of the package says. -/
def runWith (reader : DocumentReader) (env : Variables.Environment) : Task m Unit := do
  let directory ← Task.ofExcept (demand env "CARGO_MANIFEST_DIR")
  let manifest : Path := Path.join directory "Cargo.toml"
  let found ← readSection reader manifest
  let some named := found.input | throw (.configuration .noInputKey)
  let input := Path.join directory named
  let output ← Task.ofExcept (outputPath env directory found input)
  (Storage.print (dependencyLine input ++ dependencyLine manifest) : m Unit)
  (found.settings input output).run

/-- The same, with the library's own reader of documents. -/
def run (env : Variables.Environment) : Task m Unit := runWith Toml.reader env

end Manifest

end TableBinding
