import TableBinding.Annotation.Block
import TableBinding.Text.Lines

/-!
# Declaration files

A declaration file is a list of lines. `Source.structs` reads its structs and stops at the first
fault; `Source.check` goes on behind each fault with the next block and reports every fault beside
the structs without one.

Both run the same `Reader` over the lines. A header or a block end is one wherever it stands. A
fault inside a block drops the struct, and the lines up to the end of its block, or to the next
header, are skipped.
-/

namespace TableBinding

/-- The state of a reader between two lines. -/
structure Reader where
  /-- The struct being read. -/
  block : Block := .outside
  /-- The structs whose blocks were closed, in order. -/
  structs : List Struct := []
  /-- The line of the last header outside a block. -/
  headerLine : Nat := 0
  /-- Whether the lines of a block with a fault are being skipped. -/
  skipping : Bool := false
  deriving DecidableEq, Repr, Inhabited

namespace Reader

/-- Hands the line to the block. -/
def feed (s : Spelling) (r : Reader) (line : SourceLine) : Reader × Option Fault :=
  let (block, fault) := r.block.feedKeeping s line
  ({ r with block }, fault)

/-- The reader behind one more line, and the fault of that line. -/
def read (s : Spelling) (r : Reader) (line : SourceLine) : Reader × Option Fault :=
  if s.isHeader line.text then
    match r.block with
    | .inside outer => ({ r with skipping := false }, some (.nestedHeader line outer.typeName))
    | .outside => feed s { r with headerLine := line.number, skipping := false } line
  else if s.closesBlock line.text then
    let (block, closed) := r.block.finish
    ({ r with block, structs := r.structs ++ closed.toList, skipping := false }, none)
  else if r.skipping then (r, none)
  else feed s r line

/-- The reader behind a fault: an open struct is dropped, and what is left of its block skipped. -/
def recover (r : Reader) : Reader :=
  match r.block with
  | .outside => r
  | .inside _ => { r with block := .outside, skipping := true }

/-- The fault of a file that ends here. -/
def close (r : Reader) : Option Fault :=
  r.block.struct?.map fun opened => .unclosed r.headerLine opened.typeName

/-- The structs of the lines from here on, together with those read before. -/
def finishLines (s : Spelling) (r : Reader) : List SourceLine → Except Fault (List Struct)
  | [] =>
    match r.close with
    | some fault => .error fault
    | none => .ok r.structs
  | line :: lines =>
    match r.read s line with
    | (_, some fault) => .error fault
    | (next, none) => finishLines s next lines

/-- The reader behind the lines and the faults on the way, each of them recovered from. -/
def checkLines (s : Spelling) (r : Reader) : List SourceLine → Reader × List Fault
  | [] => (r, [])
  | line :: lines =>
    match r.read s line with
    | (next, none) => checkLines s next lines
    | (next, some fault) =>
      let (last, faults) := checkLines s next.recover lines
      (last, fault :: faults)

end Reader

/-- The lines of a text with their numbers. -/
def SourceLine.ofText (source : Text) : List SourceLine :=
  ((Text.lines source).zipIdx 1).map fun (text, number) => { number, text }

/-- What a check of a whole declaration file finds. -/
structure Report where
  /-- The structs without a fault. -/
  structs : List Struct
  /-- The faults, in the order of the lines. -/
  faults : List Fault
  deriving DecidableEq, Repr

/-- Whether nothing was found wrong. -/
def Report.isClean (r : Report) : Bool := r.faults.isEmpty

/-- The structs of a declaration file, or its first fault. -/
def Source.structs (s : Spelling) (source : Text) : Except Fault (List Struct) :=
  Reader.finishLines s {} (SourceLine.ofText source)

/-- The structs and the faults of a declaration file. -/
def Source.check (s : Spelling) (source : Text) : Report :=
  let (last, faults) := Reader.checkLines s {} (SourceLine.ofText source)
  { structs := last.structs, faults := faults ++ last.close.toList }

end TableBinding
