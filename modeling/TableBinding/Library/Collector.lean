import TableBinding.Library.KeyPath
import TableBinding.Library.Reader
import TableBinding.Library.Variables

/-!
# The collector of settings

The library's own `Collector`, and the two ways to the settings of a run with it. It is one of those
that `Settings.loadWith` can take: another may read settings files of other formats too, and may
take the entries of a file in another order.

The only format of settings files that this one reads is TOML: of a file that is there the name has
to have the extension, and to a name under which no file is the extension is added. The entries are
taken in the order of the document.
-/

namespace TableBinding

namespace Tree

variable {m : Type → Type} [Monad m] [Storage m]

/-- The extension of a settings file. -/
def fileExtension : Text := "toml"

/-- The settings file that the path means. -/
def findFile (path : Path) : m (Option Path) := do
  if ← Storage.isFile path then
    pure (if path.extension? == some fileExtension then some path else none)
  else
    match path.addExtension? fileExtension with
    | none => pure none
    | some extended => do
      if ← Storage.isFile extended then pure (some extended) else pure none

/-- The text of a settings file: a byte order mark at its front is dropped, and what is not well
formed in it is replaced. -/
def documentOf (bytes : ByteArray) : Text :=
  match bytes.toList with
  | 0xef :: 0xbb :: 0xbf :: rest => Utf8.decodeLossy rest
  | bytes => Utf8.decodeLossy bytes

/-- The entries of a settings file's document. -/
def documentEntries? (document : Text) : Option (List (Text × Tree)) :=
  (Toml.read? .passed document).bind ofEntries?

/-- The entries of the settings file. One that may be missing has none then. -/
def fileEntries? (file : SettingsFile) : m (Option (List (Text × Tree))) := do
  match ← (findFile file.path : m (Option Path)) with
  | none => pure (if file.required then none else some [])
  | some path =>
    match ← (Storage.read path : m (Except StorageFault ByteArray)) with
    | .ok bytes => pure (documentEntries? (documentOf bytes))
    | .error _ => pure none

/-- The collector of settings. -/
def collector : Collector m Tree where
  entries? := fileEntries?
  ofEnvironment := Variables.entries
  empty := table []
  lay := putAll
  reading := lenientReading

end Tree

namespace Settings

variable {m : Type → Type} [Monad m] [Storage m]

/-- The settings of the file. -/
def ofFile (path : Path) : Task m Settings := ofFileWith Toml.reader path

/-- The settings of the settings file and the environment. -/
def load (env : Variables.Environment) (path? : Option Path) : Task m Settings :=
  loadWith Tree.collector env path?

end Settings

end TableBinding
