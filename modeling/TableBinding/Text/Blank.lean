import TableBinding.Text.Basic

/-!
# Blank characters

The characters with the Unicode property White_Space, and what is defined by them: the text without
the blanks at its ends, and its words.
-/

namespace TableBinding.Text

/-- The characters with the Unicode property White_Space. -/
def isBlank (c : Char) : Bool :=
  (9 ≤ c.val && c.val ≤ 13) || c.val == 0x20 || c.val == 0x85 || c.val == 0xa0 ||
    c.val == 0x1680 || (0x2000 ≤ c.val && c.val ≤ 0x200a) || c.val == 0x2028 || c.val == 0x2029 ||
    c.val == 0x202f || c.val == 0x205f || c.val == 0x3000

/-- The text behind its leading blanks. -/
def trimStart (t : Text) : Text := t.dropWhile isBlank

/-- The text up to its trailing blanks. -/
def trimEnd (t : Text) : Text := (t.reverse.dropWhile isBlank).reverse

/-- The text between its leading and its trailing blanks. -/
def trim (t : Text) : Text := trimEnd (trimStart t)

/-- Whether the text holds nothing but blanks. -/
def allBlank (t : Text) : Bool := t.all isBlank

/-- The longest pieces of the text without a blank, in order. -/
def words (t : Text) : List Text := (splitWhen isBlank t).filter (fun w => !w.isEmpty)

/-- The words of the text with one space between each two. -/
def squeeze (t : Text) : Text := join [' '] (words t)

end TableBinding.Text
