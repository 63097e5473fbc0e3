import TableBinding.CommandLine.Arguments
import TableBinding.Library.Collector
import TableBinding.Run.Generate
import TableBinding.Schema.Listing

/-!
# The program

What the program does for a list of arguments: it loads the settings, lets the arguments take
precedence, and runs the command. It ends with an exit code and what goes to the error output.
-/

namespace TableBinding.CommandLine

/-- How the program ended. -/
structure Outcome where
  code : Nat := 0
  /-- What goes to the error output. -/
  complaint : Text := []
  deriving DecidableEq, Repr

/-- The name and the version of the program. -/
def versionLine : Text := "qtorm-codegen 0.1.0\n"

/-- What the program says to arguments that it does not understand. -/
def usage : Text :=
  "Usage: qtorm-codegen [-c FILE] [-i FILE] [-o FILE] [--dry-run] " ++
    "[generate | check | inspect [--json]]\n"

/-- The settings with what the arguments say. -/
def Arguments.apply (a : Arguments) (s : Settings) : Settings :=
  { s with
    input := a.input.getD s.input
    output := a.output.getD s.output
    dryRun := a.dryRun || s.dryRun }

/-- How a failed run is reported. -/
def failureReport (f : Failure) : Text :=
  let cause : Text :=
    match f.cause? with
    | some cause => "\nCaused by:\n    " ++ cause ++ ['\n']
    | none => []
  "Error: " ++ f.message ++ ['\n'] ++ cause

/-- What a failed run ends with. -/
def Outcome.ofFailure (f : Failure) : Outcome := { code := 1, complaint := failureReport f }

/-- What a check with faults ends with. -/
def Outcome.ofFaults (input : Path) (faults : List Fault) : Outcome :=
  let line (f : Fault) : Text := input ++ ": " ++ f.message ++ ['\n']
  { code := 1
    complaint := faults.flatMap line ++ "Error: " ++ Text.ofNat faults.length ++ " error(s) in " ++
      input ++ ['\n'] }

/-- The line that reports a check without faults. -/
def cleanLine (input : Path) (structs : List Struct) : Text :=
  input ++ ": " ++ Text.ofNat structs.length ++ " structs ok\n"

variable {m : Type → Type} [Monad m] [Storage m]

/-- Checks the declaration file. -/
def check (s : Settings) : Task m Outcome := do
  let report ← s.checkInput
  if report.isClean then
    (Storage.print (cleanLine s.input report.structs) : m Unit)
    pure {}
  else pure (Outcome.ofFaults s.input report.faults)

/-- Lists the structs of the declaration file. -/
def inspect (s : Settings) (json : Bool) : Task m Outcome := do
  let structs ← s.structsOfInput
  let listing := if json then Struct.jsonListing structs else Struct.plainListing structs
  (Storage.print listing : m Unit)
  pure {}

/-- Generates. -/
def generate (s : Settings) : Task m Outcome := do
  s.run
  pure {}

/-- Runs the command. -/
def runCommand (s : Settings) : Command → Task m Outcome
  | .generate => generate s
  | .check => check s
  | .inspect json => inspect s json

section

variable {T : Type} (collector : Collector m T)

/-- Does what the arguments say. -/
def runArguments (env : Variables.Environment) (a : Arguments) : Task m Outcome := do
  let settings ← Settings.loadWith collector env a.config
  runCommand (a.apply settings) a.command

/-- The program, over any collector of settings. -/
def runWith (env : Variables.Environment) (arguments : List Text) : m Outcome := do
  match Request.ofArguments arguments with
  | .misuse => pure { code := 2, complaint := usage }
  | .showVersion =>
    Storage.print versionLine
    pure {}
  | .run a =>
    match ← (runArguments collector env a).run with
    | .ok outcome => pure outcome
    | .error failure => pure (Outcome.ofFailure failure)

end

/-- The program. -/
def run (env : Variables.Environment) (arguments : List Text) : m Outcome :=
  runWith Tree.collector env arguments

end TableBinding.CommandLine
