import TableBinding.Settings.Reading
import TableBinding.Settings.Variables
import TableBinding.Storage.Basic
import TableBinding.Toml.Value

/-!
# Where settings come from

Settings are either those of one TOML file, with the types they are written in
(`Settings.ofFileWith`), or those of a settings file with the environment variables laid over them
(`Settings.loadWith`). The settings file is looked for under a fixed name if it is not named, and
may then be missing.

How a document is read, and how sources are found and put together, is left to a `DocumentReader`
and a `Collector`, which may be any.
-/

namespace TableBinding

/-- What reads a TOML document. -/
structure DocumentReader where
  /-- The table that a document says. -/
  table? : Text → Option Toml.Table
  reading : Reading Toml.Value

/-- A file that settings come from. -/
structure SettingsFile where
  path : Path
  /-- Whether the file has to be there. -/
  required : Bool
  deriving DecidableEq, Repr

/-- What collects settings from several sources, as values of the type `T`. -/
structure Collector (m : Type → Type) (T : Type) where
  /-- The entries of a settings file, in whatever format it is written and in whatever order. -/
  entries? : SettingsFile → m (Option (List (Text × T)))
  /-- The entries that the variables of an environment give. -/
  ofEnvironment : Variables.Convention → Variables.Environment → List (Text × T)
  /-- What there is in front of the first source. -/
  empty : T
  /-- What there is, with the entries of one more source laid over it. -/
  lay : T → List (Text × T) → T
  reading : Reading T

variable {m : Type → Type} {T : Type}

/-- What there is behind the settings file. -/
def Collector.base (collector : Collector m T) (entries : List (Text × T)) : T :=
  collector.lay collector.empty entries

/-- The settings of the settings file's entries and the environment. -/
def Collector.settings? (collector : Collector m T) (env : Variables.Environment)
    (entries : List (Text × T)) : Option Settings :=
  let collected :=
    collector.lay (collector.base entries) (collector.ofEnvironment Variables.convention env)
  (collector.reading.group? collected).bind collector.reading.settings?

/-- The settings of a document. -/
def DocumentReader.settings? (reader : DocumentReader) (document : Text) : Option Settings :=
  (reader.table? document).bind fun table => reader.reading.settings? (.named table)

namespace Settings

/-- The path at which a settings file is looked for that is not named. -/
def usualFile : Path := "qtorm-codegen"

/-- The settings file that is meant: the named one, or the usual one if it is there. -/
def settingsFile : Option Path → SettingsFile
  | some path => { path, required := true }
  | none => { path := usualFile, required := false }

variable [Monad m]

/-- The settings of the file. -/
def ofFileWith [Storage m] (reader : DocumentReader) (path : Path) : Task m Settings := do
  let bytes ← Task.ofStorage (Storage.read path)
  match Utf8.decode? bytes with
  | none => throw (.storage .notText)
  | some document =>
    match reader.settings? document with
    | some settings => pure settings
    | none => throw (.configuration (.unreadable path))

/-- The settings of the settings file and the environment. -/
def loadWith (collector : Collector m T) (env : Variables.Environment) (path? : Option Path) :
    Task m Settings := do
  let entries? ← (collector.entries? (settingsFile path?) : m (Option (List (Text × T))))
  match entries?.bind (collector.settings? env) with
  | some settings => pure settings
  | none => throw (.configuration (.unreadable (settingsFile path?).path))

end Settings

end TableBinding
