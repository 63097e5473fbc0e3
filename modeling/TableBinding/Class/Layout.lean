import TableBinding.Text.Basic

/-!
# The layout of generated text

Generated text is a list of lines, each at a depth of indentation. A `Layout` says how deep one
step of indentation is and how a line ends.
-/

namespace TableBinding

/-- How generated text is laid out. -/
structure Layout where
  /-- One step of indentation. -/
  indent : Text := "    "
  /-- Ends every line. -/
  lineEnding : Text := "\r\n"
  /-- The headers that the generated file includes. -/
  includes : List Text := ["QObject", "QString", "QVariant", "QSqlQuery"]
  deriving DecidableEq, Repr

/-- A line of generated text. -/
structure Line where
  /-- How many steps it is indented. -/
  depth : Nat
  text : Text
  deriving DecidableEq, Repr

namespace Layout

/-- A line as it is written. -/
def line (l : Layout) (line : Line) : Text :=
  (List.replicate line.depth l.indent).flatten ++ line.text ++ l.lineEnding

/-- Lines as they are written. -/
def render (l : Layout) (lines : List Line) : Text := lines.flatMap l.line

end Layout

/-- A line without text. -/
def Line.blank : Line := { depth := 0, text := [] }

end TableBinding
