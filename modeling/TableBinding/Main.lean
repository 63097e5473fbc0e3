import TableBinding.CommandLine.Program

/-!
# The executable

The program on the system it runs on. The environment is asked for the variables that can give a
setting, by their usual names.
-/

namespace TableBinding

/-- The fault that an error of the system stands for. -/
def StorageFault.ofError (e : IO.Error) : StorageFault :=
  match e with
  | .noFileOrDirectory .. => .missing
  | .alreadyExists .. => .present
  | e => .other (toString e).toList

/-- The result of an operation of the system. -/
def attempt {α : Type} (operation : IO α) : IO (Except StorageFault α) := do
  try
    return .ok (← operation)
  catch e => return .error (.ofError e)

/-- Whether the operation of the system succeeds. -/
def succeeds {α : Type} (operation : IO α) : IO Bool := do
  match ← attempt operation with
  | .ok _ => return true
  | .error _ => return false

instance : Storage IO where
  isPresent p := succeeds (IO.FS.Handle.mk (String.ofList p) .read)
  isFile p := succeeds (IO.FS.readBinFile (String.ofList p))
  read p := attempt (IO.FS.readBinFile (String.ofList p))
  makeDirectories p := attempt (IO.FS.createDirAll (String.ofList p))
  write p content := attempt (IO.FS.writeBinFile (String.ofList p) content)
  print t := IO.print (String.ofList t)

/-- The keys of all settings, as the names of variables write them. -/
def variableKeys : List String :=
  ["INPUT_FILE", "OUTPUT_FILE", "DRY_RUN", "LOG_LEVEL", "SYNTAX__STRUCT_KEYWORD",
    "SYNTAX__COMMENT_MARKER", "SYNTAX__DELIMITER", "SYNTAX__TABLE_NAME_MARKER", "SYNTAX__DATATYPES",
    "SYNTAX__BLOCK_OPEN", "SYNTAX__BLOCK_END", "OUTPUT__INDENT", "OUTPUT__LINE_ENDING",
    "OUTPUT__INCLUDES"]

/-- The variables that give settings. -/
def environment : IO Variables.Environment := do
  let found ← variableKeys.filterMapM fun key => do
    let name := "QTORM_CODEGEN_" ++ key
    return (← IO.getEnv name).map fun value => (name.toList, value.toList)
  return found

end TableBinding

/-- Runs the program. -/
def main (arguments : List String) : IO UInt32 := do
  let env ← TableBinding.environment
  let outcome ← TableBinding.CommandLine.run env (arguments.map String.toList)
  IO.eprint (String.ofList outcome.complaint)
  return outcome.code.toUInt32
