import TableBinding.Annotation.Canonical
import TableBinding.Class.Method

/-!
# Generated classes

The class of a struct declares its fields, each with its canonical annotation and followed by its
flags, and the methods. A generated file includes the headers and then defines a class for every
struct.
-/

namespace TableBinding

/-- The declaration of a field's member. -/
def Field.memberLine (s : Spelling) (f : Field) : Line :=
  ⟨1, f.hostType ++ " " ++ f.name ++ ";//" ++ s.delimit (f.canonicalOptions s)⟩

/-- The declaration of a flag's member. -/
def Flag.memberLine (flag : Flag) : Line := ⟨1, "bool " ++ flag.member ++ [';']⟩

/-- The members of a field. -/
def Field.memberLines (s : Spelling) (f : Field) : List Line :=
  f.memberLine s :: f.flags.map Flag.memberLine

/-- The lines of a struct's class. -/
def Struct.classLines (s : Spelling) (d : Struct) : List Line :=
  [⟨0, "class " ++ d.typeName⟩, ⟨0, "\x7b"⟩, ⟨0, "public:"⟩] ++
    d.fields.flatMap (Field.memberLines s) ++ [⟨0, "public:"⟩] ++
    d.methods.flatMap Method.lines ++ [⟨0, "\x7d;"⟩]

/-- The lines that include the headers. -/
def Layout.headerLines (l : Layout) : List Line :=
  l.includes.map (fun name => ⟨0, "#include <" ++ name ++ ['>']⟩) ++ [.blank, .blank]

/-- The lines of a generated file. -/
def Layout.fileLines (l : Layout) (s : Spelling) (structs : List Struct) : List Line :=
  l.headerLines ++ structs.flatMap fun d => d.classLines s ++ [.blank]

end TableBinding
