/-!
# Text

Text is the list of its characters, so that what a line says can be stated by concatenation. This
module holds the operations the rest of the library is built from: reading behind a run of
characters (`behindRun?`), looking behind a given beginning (`after?`), cutting at the first
occurrence of a mark (`cutAt?`), splitting at separators (`splitWhen`, `piecesAt`), joining, and
padding to a width.
-/

namespace TableBinding

/-- Text, as the list of its characters. -/
abbrev Text := List Char

/-- A string literal stands for its characters wherever text is wanted. -/
scoped instance : Coe String Text := ⟨String.toList⟩

namespace Text

/-- The characters that may separate the words of a line: space and tab. -/
def isGap (c : Char) : Bool := c == ' ' || c == '\t'

/-- The text behind its leading gaps. -/
def dropGaps (t : Text) : Text := t.dropWhile isGap

/-- The text up to its trailing gaps. -/
def dropGapsEnd (t : Text) : Text := (t.reverse.dropWhile isGap).reverse

/-- The text between its leading and its trailing gaps. -/
def trimGaps (t : Text) : Text := dropGapsEnd (dropGaps t)

/-- The longest run of `p` characters at the front behind which `read?` gives something, and what it
gives there. The run may be empty. -/
def behindRun? {α : Type} (p : Char → Bool) (read? : Text → Option α) :
    Text → Option (Text × α)
  | [] => (read? []).map ([], ·)
  | c :: t =>
    match if p c then behindRun? p read? t else none with
    | some (run, a) => some (c :: run, a)
    | none => (read? (c :: t)).map ([], ·)

/-- What follows `head` in a text that begins with it. -/
def after? : (head t : Text) → Option Text
  | [], t => some t
  | _ :: _, [] => none
  | h :: head, c :: t => if h = c then after? head t else none

/-- Whether the text begins with `head`. -/
def startsWith (head t : Text) : Bool := (after? head t).isSome

/-- The text before the first occurrence of `mark`, provided that no line ends before it. -/
def cutAt? (mark : Text) : Text → Option Text
  | [] => if startsWith mark [] then some [] else none
  | c :: t =>
    if startsWith mark (c :: t) then some []
    else if c = '\n' then none
    else (cutAt? mark t).map (c :: ·)

/-- The pieces between the characters that satisfy `p`: always one more than there are such
characters. -/
def splitWhen (p : Char → Bool) : Text → List Text
  | [] => [[]]
  | c :: t => if p c then [] :: splitWhen p t else (splitWhen p t).modifyHead (c :: ·)

/-- The pieces between the occurrences of the mark, read from the left, behind the first `skipped`
characters. -/
def piecesBehind (mark : Text) : (skipped : Nat) → Text → List Text
  | _, [] => [[]]
  | skipped + 1, _ :: t => piecesBehind mark skipped t
  | 0, c :: t =>
    if startsWith mark (c :: t) then [] :: piecesBehind mark (mark.length - 1) t
    else (piecesBehind mark 0 t).modifyHead (c :: ·)

/-- The pieces between the occurrences of the mark. -/
def piecesAt (mark t : Text) : List Text := piecesBehind mark 0 t

/-- The texts one after the other, with `separator` between each two. -/
def join (separator : Text) : List Text → Text
  | [] => []
  | [t] => t
  | t :: u :: rest => t ++ separator ++ join separator (u :: rest)

/-- The text, followed by as many spaces as it lacks characters of the width. -/
def padEnd (width : Nat) (t : Text) : Text := t ++ List.replicate (width - t.length) ' '

/-- The text, after as many spaces as it lacks characters of the width. -/
def padStart (width : Nat) (t : Text) : Text := List.replicate (width - t.length) ' ' ++ t

/-- The decimal digits of a number. -/
def ofNat (n : Nat) : Text := Nat.toDigits 10 n

/-- The decimal digits of a number, after a minus sign if it is negative. -/
def ofInt : Int → Text
  | .ofNat n => ofNat n
  | .negSucc n => '-' :: ofNat (n + 1)

/-- The number of bytes of the text in UTF-8. -/
def byteLength (t : Text) : Nat := (t.map Char.utf8Size).foldr (· + ·) 0

/-- The text with the letters `A` to `Z`, and the Kelvin sign, in lower case: of the letters whose
lower case is an ASCII letter, all. -/
def toLower (t : Text) : Text := t.map fun c => if c = '\u212a' then 'k' else c.toLower

/-- The text with every occurrence of the two characters `a` and `b` in a row, read from the left,
replaced by `by`. -/
def replacePair (a b : Char) (new : Char) : Text → Text
  | c :: d :: t =>
    if c = a ∧ d = b then new :: replacePair a b new t else c :: replacePair a b new (d :: t)
  | t => t

end Text

end TableBinding
