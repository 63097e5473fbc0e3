import TableBinding.Annotation.Fault
import TableBinding.Settings.Basic
import TableBinding.Storage.Fault

/-!
# Failures

Why a run failed: a fault of the declaration file, of the settings, of the place the settings come
from, or of storage.
-/

namespace TableBinding

/-- Why there are no settings. -/
inductive ConfigurationFault where
  /-- The sources of the settings do not give settings. -/
  | unreadable (source : Text)
  /-- A variable of the build is not set. -/
  | noVariable (name : Text)
  /-- The package manifest says nothing about the run. -/
  | noSection (manifest : Path)
  /-- The package manifest does not name the input. -/
  | noInputKey
  deriving DecidableEq, Repr

/-- The wording of a fault. -/
def ConfigurationFault.message : ConfigurationFault → Text
  | unreadable source => "can not read settings from " ++ source
  | noVariable name => name ++ " not set - are you running from build.rs?"
  | noSection manifest =>
    manifest ++ ": Configuration error: " ++
      "Missing [package.metadata.qtorm-codegen] section in Cargo.toml"
  | noInputKey => "input_file is required in [package.metadata.qtorm-codegen]"

/-- Why a run failed. -/
inductive Failure where
  | source (fault : Fault)
  | settings (fault : SettingsFault)
  | configuration (fault : ConfigurationFault)
  | storage (fault : StorageFault)
  deriving DecidableEq, Repr

/-- What the user is told. -/
def Failure.message : Failure → Text
  | source fault => fault.message
  | settings fault => "Validation error: " ++ fault.message
  | configuration fault => "Configuration error: " ++ fault.message
  | storage fault => "IO error: " ++ fault.message

/-- What the failure goes back to, where that is a failure of its own. -/
def Failure.cause? : Failure → Option Text
  | storage fault => some fault.message
  | _ => none

end TableBinding
