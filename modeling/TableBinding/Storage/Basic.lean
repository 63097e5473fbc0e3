import TableBinding.Failure
import TableBinding.Storage.Disk

/-!
# Storage

What a run needs of the system it runs on: files, directories and a place to print to. A run is a
`Task` over any system with these operations. A `Workspace` is such a system as a value: a disk and
what was printed so far.
-/

namespace TableBinding

/-- The operations on files and directories, and printing. -/
class Storage (m : Type → Type) where
  /-- Whether something stands where the path leads. -/
  isPresent : Path → m Bool
  /-- Whether the path leads to a file. -/
  isFile : Path → m Bool
  /-- The content of a file. -/
  read : Path → m (Except StorageFault ByteArray)
  /-- Makes a directory, and those on the way to it. -/
  makeDirectories : Path → m (Except StorageFault Unit)
  /-- Puts a file in the place of what it held before. -/
  write : Path → ByteArray → m (Except StorageFault Unit)
  /-- Prints. -/
  print : Text → m Unit

/-- Work that may fail. -/
abbrev Task (m : Type → Type) (α : Type) := ExceptT Failure m α

namespace Task

variable {m : Type → Type} [Monad m] {α : Type}

/-- Fails where the operation does. -/
def ofStorage (operation : m (Except StorageFault α)) : Task m α :=
  ExceptT.mk do
    match ← operation with
    | .ok a => pure (.ok a)
    | .error fault => pure (.error (.storage fault))

/-- Fails where the result is a failure. -/
def ofExcept (result : Except Failure α) : Task m α := ExceptT.mk (pure result)

end Task

/-- A disk, and what was printed. -/
structure Workspace where
  disk : Disk := {}
  printed : Text := []

namespace Workspace

/-- The result of a change of the disk, and the workspace with the disk as it is then. -/
def settle (w : Workspace) :
    Except (StorageFault × Disk) Disk → Except StorageFault Unit × Workspace
  | .ok disk => (.ok (), { w with disk })
  | .error (fault, disk) => (.error fault, { w with disk })

instance : Storage (StateM Workspace) where
  isPresent p := fun w => (w.disk.isPresent p, w)
  isFile p := fun w => (w.disk.isFile p, w)
  read p := fun w => (w.disk.read p, w)
  makeDirectories p := fun w => w.settle (w.disk.makeDirectories p)
  write p content := fun w => w.settle ((w.disk.write p content).mapError (·, w.disk))
  print t := fun w => ((), { w with printed := w.printed ++ t })

end Workspace

end TableBinding
