import TableBinding.Annotation.Source
import TableBinding.Class.Definition
import TableBinding.Failure

/-!
# From source text to generated text

What a run does once the declaration file is read: the spelling is checked, the structs are read,
and the classes are written. Nothing of this depends on where the text comes from or goes to.
-/

namespace TableBinding.Settings

/-- Does the work if the spelling can be used. A spelling without a fault always can: its tokens
stand in the patterns of the lines as they are written. That a pattern may be too large to be built
is left out. -/
def withSpelling {α : Type} (s : Settings) (work : Spelling → Except Failure α) :
    Except Failure α :=
  match s.spelling.fault? with
  | some fault => .error (.settings (.spelling fault))
  | none => work s.spelling

/-- The structs that the source text declares. -/
def structs (s : Settings) (source : Text) : Except Failure (List Struct) :=
  s.withSpelling fun spelling => (Source.structs spelling source).mapError .source

/-- What a check of the source text finds. -/
def check (s : Settings) (source : Text) : Except Failure Report :=
  s.withSpelling fun spelling => .ok (Source.check spelling source)

/-- The generated text for the structs. -/
def generated (s : Settings) (structs : List Struct) : Text :=
  s.layout.render (s.layout.fileLines s.spelling structs)

/-- The generated text for the source text. -/
def generate (s : Settings) (source : Text) : Except Failure Text :=
  (s.structs source).map s.generated

end TableBinding.Settings
