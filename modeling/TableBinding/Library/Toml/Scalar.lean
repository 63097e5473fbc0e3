import TableBinding.Toml.Value

/-!
# TOML scalars

The values that a TOML document writes without brackets: strings in four forms, numbers, booleans,
dates and times.
-/

namespace TableBinding.Toml

/-- Space and tab, the white space of a line. -/
def dropSpace (t : Text) : Text := t.dropWhile Text.isGap

/-- Whether a string or a comment may hold the character: no control but the tab. -/
def isPrinting (c : Char) : Bool := c == '\t' || (0x20 ≤ c.val && c.val != 0x7f)

/-- The line ending that the text begins with, taken off. -/
def dropNewline? : Text → Option Text
  | '\n' :: t => some t
  | '\r' :: '\n' :: t => some t
  | _ => none

/-- The value of hexadecimal digits. -/
def hexValue? (digits : Text) : Option Nat :=
  digits.foldlM (fun n c =>
    if c.isDigit then some (16 * n + (c.toNat - '0'.toNat))
    else if 'a' ≤ c ∧ c ≤ 'f' then some (16 * n + (c.toNat - 'a'.toNat + 10))
    else if 'A' ≤ c ∧ c ≤ 'F' then some (16 * n + (c.toNat - 'A'.toNat + 10))
    else none) 0

/-- The character of a code point; half of a surrogate pair is none. -/
def charOf? (n : Nat) : Option Char := if n.isValidChar then some (Char.ofNat n) else none

/-- The character that stands for itself, or for a control, behind a backslash. -/
def simpleEscape? : Char → Option Char
  | 'b' => some '\x08'
  | 't' => some '\t'
  | 'n' => some '\n'
  | 'f' => some '\x0c'
  | 'r' => some '\r'
  | 'e' => some '\x1b'
  | '"' => some '"'
  | '\\' => some '\\'
  | _ => none

/-- How many hexadecimal digits follow the letter behind a backslash. -/
def hexEscapeLength? : Char → Option Nat
  | 'x' => some 2
  | 'u' => some 4
  | 'U' => some 8
  | _ => none

/-- Whether the character is white space or part of a line ending. -/
def isLayout (c : Char) : Bool := Text.isGap c || c == '\n' || c == '\r'

/-- The text with its escapes resolved. In a string over several lines (`multiline`), a backslash at
the end of a line stands for nothing, and neither does the white space up to the next character. -/
def unescape? (multiline : Bool) : Text → Option Text
  | [] => some []
  | ['\\'] => none
  | '\\' :: c :: t =>
    match simpleEscape? c, hexEscapeLength? c with
    | some e, _ => (unescape? multiline t).map (e :: ·)
    | none, some n =>
      if (t.take n).length < n then none
      else do
        let e ← (hexValue? (t.take n)).bind charOf?
        (unescape? multiline (t.drop n)).map (e :: ·)
    | none, none =>
      if multiline && (dropNewline? (dropSpace (c :: t))).isSome then
        unescape? multiline (t.dropWhile isLayout)
      else none
  | c :: t => (unescape? multiline t).map (c :: ·)
termination_by t => t.length
decreasing_by
  all_goals
    have shorter := (List.dropWhile_suffix isLayout (l := t)).length_le
    simp only [List.length_cons, List.length_drop]
    omega

/-- The body of a string that ends at a double quote on its line, and what follows. -/
def basicBody? : Text → Option (Text × Text)
  | [] => none
  | '"' :: t => some ([], t)
  | '\\' :: c :: t =>
    if isPrinting c then (basicBody? t).map fun (body, rest) => ('\\' :: c :: body, rest) else none
  | c :: t =>
    if isPrinting c then (basicBody? t).map fun (body, rest) => (c :: body, rest) else none

/-- The body of a string that ends at a single quote on its line, and what follows. -/
def literalBody? : Text → Option (Text × Text)
  | [] => none
  | '\x27' :: t => some ([], t)
  | c :: t =>
    if isPrinting c then (literalBody? t).map fun (body, rest) => (c :: body, rest) else none

/-- How many of the characters at the front of the text are the given one, counted up to five. -/
def leadingCount (c : Char) (t : Text) : Nat := min 5 (t.takeWhile (· == c)).length

/-- The body of a string over several lines, up to three of the quotes in a row of which two more
may precede the end, and what follows. Line endings stay as they are; with `escapes`, a backslash
takes the next character along. -/
def multilineBody? (quote : Char) (escapes : Bool) : Text → Option (Text × Text)
  | [] => none
  | '\r' :: '\n' :: t =>
    (multilineBody? quote escapes t).map fun (body, rest) => ('\r' :: '\n' :: body, rest)
  | c :: t =>
    if c = quote ∧ 3 ≤ leadingCount quote (c :: t) then
      some (List.replicate (leadingCount quote (c :: t) - 3) quote,
        (c :: t).drop (leadingCount quote (c :: t)))
    else if !(isPrinting c || c == '\n') then none
    else if escapes && c == '\\' && t.head? == some quote then
      match t with
      | [] => none
      | d :: t => (multilineBody? quote escapes t).map fun (body, rest) => (c :: d :: body, rest)
    else if escapes && c == '\\' && t.head? == some '\\' then
      match t with
      | [] => none
      | d :: t => (multilineBody? quote escapes t).map fun (body, rest) => (c :: d :: body, rest)
    else (multilineBody? quote escapes t).map fun (body, rest) => (c :: body, rest)

/-- The text behind a line ending at its front. -/
def skipNewline (t : Text) : Text := (dropNewline? t).getD t

/-- The string at the front of the text, and what follows. -/
def readString? : Text → Option (Text × Text)
  | '"' :: '"' :: '"' :: t => do
    let (body, rest) ← multilineBody? '"' true (skipNewline t)
    let value ← unescape? true body
    pure (value, rest)
  | '\x27' :: '\x27' :: '\x27' :: t => multilineBody? '\x27' false (skipNewline t)
  | '"' :: t => do
    let (body, rest) ← basicBody? t
    let value ← unescape? false body
    pure (value, rest)
  | '\x27' :: t => literalBody? t
  | _ => none

/-- The digits of a number without the underscores that may stand between two of them. -/
def digits? (isDigit : Char → Bool) (t : Text) : Option Text :=
  let groups := Text.splitWhen (· == '_') t
  if groups.all (fun g => !g.isEmpty && g.all isDigit) then some groups.flatten else none

/-- The decimal digits of a number; zero is the only one that begins with a zero. -/
def decimalDigits? (t : Text) : Option Text := do
  let digits ← digits? Char.isDigit t
  if digits.head? == some '0' && t.length != 1 then none else some digits

/-- A whole number to a base that is a power of two. -/
def baseInteger? (bits : Nat) (t : Text) : Option Int := do
  let isDigit (c : Char) : Bool :=
    match hexValue? [c] with
    | some n => n < Nat.pow 2 bits
    | none => false
  let digits ← digits? isDigit t
  pure (digits.foldl (fun n c => Nat.pow 2 bits * n + ((hexValue? [c]).getD 0 : Nat)) (0 : Nat))

/-- Whether a whole number can be held at all: by 128 bits, with a sign or without. -/
def isHeld (n : Int) : Bool := -(Nat.pow 2 127 : Int) ≤ n && n < (Nat.pow 2 128 : Int)

/-- A whole number. -/
def integer? (t : Text) : Option Int :=
  match t with
  | '0' :: 'x' :: t => baseInteger? 4 t
  | '0' :: 'o' :: t => baseInteger? 3 t
  | '0' :: 'b' :: t => baseInteger? 1 t
  | t => do
    let (negative, rest) := Number.takeSign t
    let n : Int := Number.ofDigits (← decimalDigits? rest)
    pure (if negative then -n else n)

/-- A decimal fraction: digits with a point between two of them, an exponent, or both. -/
def fraction? (t : Text) : Option Binary64 := do
  let (negative, rest) := Number.takeSign t
  let isMark (c : Char) : Bool := c == 'e' || c == 'E'
  let front := rest.takeWhile (fun c => !isMark c)
  let exponent ← match rest.dropWhile (fun c => !isMark c) with
    | [] => some 0
    | _ :: t =>
      let (below, t) := Number.takeSign t
      (digits? Char.isDigit t).map fun ds =>
        if below then -(Number.ofDigits ds : Int) else Number.ofDigits ds
  let whole ← decimalDigits? (front.takeWhile (· != '.'))
  let behind ← match front.dropWhile (· != '.') with
    | [] => some []
    | _ :: t => digits? Char.isDigit t
  match Number.Decimal.value negative { whole, behind, exponent } with
  | .infinite _ => none
  | x => some x

/-- A number of 64 bits. -/
def float? (t : Text) : Option Binary64 :=
  let (negative, rest) := Number.takeSign t
  if rest == "inf" then some (.infinite negative)
  else if rest == "nan" then some .nan
  else fraction? t

/-- A number of exactly that many digits at the front of the text, and what follows. -/
def fixedNat? (count : Nat) (t : Text) : Option (Nat × Text) :=
  if t.length < count then none
  else (Number.readNat? (t.take count)).map (·, t.drop count)

/-- What follows the character. -/
def afterChar? (c : Char) : Text → Option Text
  | d :: t => if d = c then some t else none
  | [] => none

/-- The number of days of a month. -/
def daysOf (year month : Nat) : Nat :=
  if month = 2 then
    if year % 4 = 0 ∧ (year % 100 ≠ 0 ∨ year % 400 = 0) then 29 else 28
  else if month = 4 ∨ month = 6 ∨ month = 9 ∨ month = 11 then 30
  else 31

/-- A date at the front of the text, in its standard form, and what follows. -/
def date? (t : Text) : Option (Text × Text) := do
  let (year, rest) ← fixedNat? 4 t
  let (month, rest) ← fixedNat? 2 (← afterChar? '-' rest)
  let (day, rest) ← fixedNat? 2 (← afterChar? '-' rest)
  if 1 ≤ month ∧ month ≤ 12 ∧ 1 ≤ day ∧ day ≤ daysOf year month then some (t.take 10, rest)
  else none

/-- The text without the zeros at its end. -/
def dropZerosEnd (t : Text) : Text := (t.reverse.dropWhile (· == '0')).reverse

/-- The digits behind the seconds of a time, with their point, up to nine of them and without the
zeros at their end, except that one digit stays, and what follows. -/
def subseconds? : Text → Option (Text × Text)
  | '.' :: t =>
    let digits := t.takeWhile Char.isDigit
    if digits.isEmpty then none
    else
      let kept := dropZerosEnd (digits.take 9)
      some ('.' :: if kept.isEmpty then ['0'] else kept, t.dropWhile Char.isDigit)
  | t => some ([], t)

/-- A time of day at the front of the text, in its standard form, and what follows. The seconds may
be left out. -/
def time? (t : Text) : Option (Text × Text) := do
  let (hour, rest) ← fixedNat? 2 t
  let (minute, rest) ← fixedNat? 2 (← afterChar? ':' rest)
  if 23 < hour ∨ 59 < minute then none
  else
    match afterChar? ':' rest with
    | none => some (t.take 5, rest)
    | some rest => do
      let (second, rest) ← fixedNat? 2 rest
      let (behind, rest) ← subseconds? rest
      if 60 < second then none else some (t.take 8 ++ behind, rest)

/-- The distance from universal time at the front of the text, in its standard form, and what
follows. -/
def offset? : Text → Option (Text × Text)
  | 'Z' :: t => some (['Z'], t)
  | 'z' :: t => some (['Z'], t)
  | sign :: t =>
    if sign = '+' ∨ sign = '-' then do
      let (hours, rest) ← fixedNat? 2 t
      let (minutes, rest) ← fixedNat? 2 (← afterChar? ':' rest)
      let sign := if hours = 0 ∧ minutes = 0 then '+' else sign
      if 23 < hours ∨ 59 < minutes then none else some (sign :: t.take 5, rest)
    else some ([], sign :: t)
  | [] => some ([], [])

/-- A date, a time of day, or both, in standard form. -/
def datetime? (t : Text) : Option Text :=
  match date? t with
  | some (date, []) => some date
  | some (date, c :: rest) =>
    if c = 'T' ∨ c = 't' ∨ c = ' ' then do
      let (time, rest) ← time? rest
      let (offset, rest) ← offset? rest
      if rest.isEmpty then some (date ++ ['T'] ++ time ++ offset) else none
    else none
  | none =>
    match time? t with
    | some (time, []) => some time
    | _ => none

/-- The characters of numbers, booleans, dates and times. -/
def isTokenChar (c : Char) : Bool :=
  c.isAlphanum || c == '_' || c == '+' || c == '-' || c == '.' || c == ':'

/-- The characters up to the end of a value without quotes, and what follows: a date may be followed
by a space and a time. -/
def takeToken (t : Text) : Text × Text :=
  let token := t.takeWhile isTokenChar
  let rest := t.dropWhile isTokenChar
  match (date? token).map (·.2), rest with
  | some [], ' ' :: c :: more =>
    if c.isDigit then
      (token ++ [' '] ++ (c :: more).takeWhile isTokenChar, (c :: more).dropWhile isTokenChar)
    else (token, rest)
  | _, _ => (token, rest)

/-- The value of a token. -/
def scalar? (token : Text) : Option Value :=
  if token == "true" then some (.boolean true)
  else if token == "false" then some (.boolean false)
  else
    match integer? token with
    | some n => if isHeld n then some (.integer n) else none
    | none =>
      match float? token with
      | some x => some (.float x)
      | none => (datetime? token).map .datetime

end TableBinding.Toml
