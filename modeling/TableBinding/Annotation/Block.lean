import TableBinding.Annotation.FieldLine

/-!
# Blocks

A `Block` is the place of a reader with respect to struct blocks: outside of any, or inside one
with the struct as far as it was read. `Block.feed` takes one line and either fails, which leaves
the block as it was, or says what the block is afterwards; `Block.finish` closes the block.
-/

namespace TableBinding

/-- Where a reader is. -/
inductive Block where
  /-- Between structs, in front of a header. -/
  | outside
  /-- Behind a header, with the fields so far. -/
  | inside (opened : Struct)
  deriving DecidableEq, Repr, Inhabited

/-- The struct that a header line opens. -/
def Struct.ofHeader (s : Spelling) (line : SourceLine) : Except Fault Struct :=
  match HeaderForm.read? s line.text with
  | some form => .ok { typeName := form.typeName, tableName := form.tableName }
  | none =>
    let part : HeaderPart := if s.namesType line.text then .tableName else .typeName
    .error (.incompleteHeader line part)

/-- The struct with one more field; it has at most one that holds a table name. -/
def Struct.add (line : SourceLine) (opened : Struct) (field : Field) : Except Fault Struct :=
  match field.namesTable, opened.tableField? with
  | true, some first => .error (.secondTableField line field.name first.name)
  | _, _ => .ok { opened with fields := opened.fields ++ [field] }

namespace Block

/-- The struct whose block was opened. -/
def struct? : Block → Option Struct
  | outside => none
  | inside opened => some opened

/-- The block behind one more line. Outside, all lines but headers are skipped. -/
def feed (s : Spelling) (line : SourceLine) : Block → Except Fault Block
  | outside =>
    if s.isHeader line.text then (Struct.ofHeader s line).map inside else .ok outside
  | inside opened =>
    if s.opensBlock line.text then .ok (inside opened)
    else
      match Field.read s line with
      | .error fault => .error fault
      | .ok field => (opened.add line field).map inside

/-- The block and the fault, if the line has one; a fault leaves the block as it was. -/
def feedKeeping (s : Spelling) (line : SourceLine) (b : Block) : Block × Option Fault :=
  match b.feed s line with
  | .ok next => (next, none)
  | .error fault => (b, some fault)

/-- Closes the block: nothing is open afterwards, and the struct is handed over. -/
def finish (b : Block) : Block × Option Struct := (outside, b.struct?)

end Block

end TableBinding
