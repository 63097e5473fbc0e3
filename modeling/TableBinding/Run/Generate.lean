import TableBinding.Run.Source
import TableBinding.Storage.Basic

/-!
# Runs

Reading, checking and generating with the files that the settings name. The generated file is
touched last, when its text is known.
-/

namespace TableBinding.Settings

variable {m : Type → Type} [Monad m] [Storage m]

/-- The text of the declaration file. -/
def readInput (s : Settings) : Task m Text := do
  let bytes ← Task.ofStorage (Storage.read s.input)
  match Utf8.decode? bytes with
  | some text => pure text
  | none => throw (.storage .notText)

/-- The structs of the declaration file. -/
def structsOfInput (s : Settings) : Task m (List Struct) := do
  let source ← s.readInput
  Task.ofExcept (s.structs source)

/-- What a check of the declaration file finds. -/
def checkInput (s : Settings) : Task m Report := do
  let source ← s.readInput
  Task.ofExcept (s.check source)

/-- Fails if the settings are not fit for a run. -/
def demandFit (s : Settings) : Task m Unit := do
  let inputPresent ← (Storage.isPresent s.input : m Bool)
  match s.fault? inputPresent with
  | some fault => throw (.settings fault)
  | none => pure ()

/-- Writes the generated file, and makes the directories on the way to it. -/
def writeOutput (s : Settings) (text : Text) : Task m Unit := do
  match s.output.parent? with
  | some parent =>
    if !parent.isEmpty then Task.ofStorage (Storage.makeDirectories parent)
  | none => pure ()
  Task.ofStorage (Storage.write s.output (Utf8.encode text))

/-- Generates: the text for the declaration file is printed or written. -/
def run (s : Settings) : Task m Unit := do
  s.demandFit
  let structs ← s.structsOfInput
  if s.dryRun then (Storage.print (s.generated structs) : m Unit)
  else s.writeOutput (s.generated structs)

end TableBinding.Settings
