import TableBinding.Text.Basic

/-!
# Lines

A line ends at a line feed or at the end of the text. A carriage return right before the line feed
belongs to the ending, and nothing after the last line feed is no line.
-/

namespace TableBinding.Text

/-- The line without a carriage return at its end. -/
def dropReturn (t : Text) : Text := if t.getLast? = some '\r' then t.dropLast else t

/-- The lines of a list of pieces, each but the last ended by a line feed. -/
def linesOfPieces : List Text → List Text
  | [] => []
  | [last] => if last.isEmpty then [] else [last]
  | piece :: next :: rest => dropReturn piece :: linesOfPieces (next :: rest)

/-- The lines of the text. -/
def lines (t : Text) : List Text := linesOfPieces (splitWhen (· == '\n') t)

end TableBinding.Text
