import TableBinding.Text.Plain
import TableBinding.Text.Basic

/-!
# Quoted text

Text between double quotes, with the quotes, backslashes and the characters that do not print by
themselves written as escapes: the form in which a message or a listing shows a text whose ends and
blanks matter.
-/

namespace TableBinding.Text

/-- The shortest hexadecimal digits of a number. -/
def hex (n : Nat) : Text := Nat.toDigits 16 n

/-- One character of a quoted text. -/
def escape (c : Char) : Text :=
  match c with
  | '\x00' => "\\0"
  | '\t' => "\\t"
  | '\n' => "\\n"
  | '\r' => "\\r"
  | '"' => "\\\""
  | '\\' => "\\\\"
  | c => if isPlain c then [c] else "\\u\x7b" ++ hex c.toNat ++ "\x7d"

/-- The text between double quotes. -/
def quote (t : Text) : Text := '"' :: t.flatMap escape ++ ['"']

/-- The quoted texts of a list between square brackets. -/
def quoteList (ts : List Text) : Text := '[' :: join ", " (ts.map quote) ++ [']']

end TableBinding.Text
