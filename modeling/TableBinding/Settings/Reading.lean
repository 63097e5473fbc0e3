import TableBinding.Settings.Basic

/-!
# Reading settings from values

Settings are read from values of some data format. A `Reading` says which values of the format can
be taken for a text, a truth value, a list, or a group of settings. A group gives its settings under
their keys, or as a list in a fixed order. What a group does not give keeps its default, and what it
gives besides is ignored.
-/

namespace TableBinding

/-- Settings as a data format groups them. -/
inductive Group (V : Type) where
  /-- Under their keys. -/
  | named (entries : List (Text × V))
  /-- In their order. -/
  | ordered (items : List V)

/-- The value that a group gives under the key, or at the position of an ordered group. -/
def Group.get? {V : Type} (position : Nat) (key : Text) : Group V → Option V
  | named entries => entries.lookup key
  | ordered items => items[position]?

/-- Which values of a data format can be taken for what. -/
structure Reading (V : Type) where
  text? : V → Option Text
  truth? : V → Option Bool
  list? : V → Option (List V)
  group? : V → Option (Group V)
  /-- Whether the value says that there is none. -/
  isNothing : V → Bool

namespace Reading

variable {V : Type} (r : Reading V)

/-- The list of texts that the value is. -/
def texts? (v : V) : Option (List Text) := (r.list? v).bind fun items => items.mapM r.text?

/-- What the group gives, as `read?` takes it, or the default. -/
def getD {α : Type} (read? : V → Option α) (g : Group V) (position : Nat) (key : Text)
    (default : α) : Option α :=
  match g.get? position key with
  | none => some default
  | some v => read? v

/-- The text that the value is, if it is not nothing. -/
def optionalText? (v : V) : Option (Option Text) :=
  if r.isNothing v then some none else (r.text? v).map some

/-- The spelling that a group of settings gives. -/
def spelling? (g : Group V) : Option Spelling := do
  let d : Spelling := {}
  let keyword ← getD r.text? g 0 "struct_keyword" d.keyword
  let comment ← getD r.text? g 1 "comment_marker" d.comment
  let delimiter ← getD r.text? g 2 "delimiter" d.delimiter
  let tableMark ← getD r.text? g 3 "table_name_marker" d.tableMark
  let datatypes ← getD r.texts? g 4 "datatypes" d.datatypes
  let blockOpen ← getD r.text? g 5 "block_open" d.blockOpen
  let blockEnd ← getD r.text? g 6 "block_end" d.blockEnd
  pure { keyword, comment, delimiter, tableMark, datatypes, blockOpen, blockEnd }

/-- The layout that a group of settings gives. -/
def layout? (g : Group V) : Option Layout := do
  let d : Layout := {}
  let indent ← getD r.text? g 0 "indent" d.indent
  let lineEnding ← getD r.text? g 1 "line_ending" d.lineEnding
  let includes ← getD r.texts? g 2 "includes" d.includes
  pure { indent, lineEnding, includes }

/-- The settings that a group of settings gives. -/
def settings? (g : Group V) : Option Settings := do
  let d : Settings := {}
  let input ← getD r.text? g 0 "input_file" d.input
  let output ← getD r.text? g 1 "output_file" d.output
  let spelling ← getD (fun v => (r.group? v).bind r.spelling?) g 2 "syntax" d.spelling
  let layout ← getD (fun v => (r.group? v).bind r.layout?) g 3 "output" d.layout
  let dryRun ← getD r.truth? g 4 "dry_run" d.dryRun
  let logLevel ← getD r.optionalText? g 5 "log_level" d.logLevel
  pure { input, output, spelling, layout, dryRun, logLevel }

end Reading

end TableBinding
