import TableBinding.Annotation.Spelling
import TableBinding.Class.Layout
import TableBinding.Storage.Path

/-!
# Settings

What a run needs to know: the two files, the spelling of the annotations, the layout of the
generated text, and whether to print that text instead of writing it.
-/

namespace TableBinding

/-- The settings of a run. -/
structure Settings where
  /-- The declaration file. -/
  input : Path := "input.orm"
  /-- The generated file. -/
  output : Path := "output.cpp.txt"
  spelling : Spelling := {}
  layout : Layout := {}
  /-- Whether the generated text is printed and no file written. -/
  dryRun : Bool := false
  /-- How much is logged. -/
  logLevel : Option Text := none
  deriving DecidableEq, Repr

/-- What can be wrong with the settings of a run. -/
inductive SettingsFault where
  | noInput
  | inputMissing (path : Path)
  | noOutput
  | spelling (fault : SpellingFault)
  deriving DecidableEq, Repr

/-- The wording of a fault. -/
def SettingsFault.message : SettingsFault → Text
  | noInput => "input_file is required"
  | inputMissing path => "Input file not found: " ++ path
  | noOutput => "output_file is required unless dry_run is set"
  | spelling fault => fault.message

/-- The first fault of the settings, where `inputPresent` says if the input stands where its path
leads. -/
def Settings.fault? (s : Settings) (inputPresent : Bool) : Option SettingsFault :=
  if s.input.isEmpty then some .noInput
  else if !inputPresent then some (.inputMissing s.input)
  else if !s.dryRun && s.output.isEmpty then some .noOutput
  else s.spelling.fault?.map .spelling

end TableBinding
