import TableBinding.Text.Basic

/-!
# Faults of storage

Why a file could not be read or written, in the words of the system.
-/

namespace TableBinding

/-- What can go wrong with a file or a directory. -/
inductive StorageFault where
  /-- Nothing stands there. -/
  | missing
  /-- Something stands there already. -/
  | present
  /-- The path leads through something else than a directory. -/
  | notDirectory
  /-- A directory stands where a file is wanted. -/
  | isDirectory
  /-- The path, or a name in it, is too long. -/
  | nameTooLong
  /-- The path holds the character NUL. -/
  | nulInName
  /-- The file is not text in UTF-8. -/
  | notText
  /-- Something else, in the words of the system. -/
  | other (words : Text)
  deriving DecidableEq, Repr

/-- The words of a fault. -/
def StorageFault.message : StorageFault → Text
  | missing => "No such file or directory (os error 2)"
  | present => "File exists (os error 17)"
  | notDirectory => "Not a directory (os error 20)"
  | isDirectory => "Is a directory (os error 21)"
  | nameTooLong => "File name too long (os error 36)"
  | nulInName => "file name contained an unexpected NUL byte"
  | notText => "stream did not contain valid UTF-8"
  | other words => words

end TableBinding
