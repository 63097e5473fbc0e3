import TableBinding.Text.Quoted

/-!
# JSON

A JSON value as it is printed for a reader: one item or member a line, two spaces for each level,
and nothing between the brackets of an empty array.
-/

namespace TableBinding

/-- A JSON value without numbers. -/
inductive Json where
  | truth (b : Bool)
  | string (t : Text)
  | array (items : List Json)
  | object (members : List (Text × Json))

namespace Json

/-- One character of a JSON string. -/
def escape (c : Char) : Text :=
  match c with
  | '\x08' => "\\b"
  | '\t' => "\\t"
  | '\n' => "\\n"
  | '\x0c' => "\\f"
  | '\r' => "\\r"
  | '\x22' => "\\\""
  | '\\' => "\\\\"
  | c =>
    let digits := Text.hex c.toNat
    if c.toNat < 0x20 then "\\u" ++ List.replicate (4 - digits.length) '0' ++ digits else [c]

/-- A JSON string. -/
def quote (t : Text) : Text := '\x22' :: t.flatMap escape ++ ['\x22']

/-- The start of a line at the level. -/
def newLine (level : Nat) : Text := '\n' :: List.replicate (2 * level) ' '

mutual

/-- The value, where the line it begins on is at the level. -/
def print (level : Nat) : Json → Text
  | truth b => if b then "true" else "false"
  | string t => quote t
  | array [] => "[]"
  | array (item :: items) =>
    ['['] ++ newLine (level + 1) ++ print (level + 1) item ++ printItems (level + 1) items ++
      newLine level ++ [']']
  | object [] => "\x7b\x7d"
  | object ((key, value) :: members) =>
    ['\x7b'] ++ newLine (level + 1) ++ quote key ++ ": " ++ print (level + 1) value ++
      printMembers (level + 1) members ++ newLine level ++ ['\x7d']

/-- The items behind the first. -/
def printItems (level : Nat) : List Json → Text
  | [] => []
  | item :: items => [','] ++ newLine level ++ print level item ++ printItems level items

/-- The members behind the first. -/
def printMembers (level : Nat) : List (Text × Json) → Text
  | [] => []
  | (key, value) :: members =>
    [','] ++ newLine level ++ quote key ++ ": " ++ print level value ++ printMembers level members

end

end Json

end TableBinding
