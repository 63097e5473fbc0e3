import TableBinding.Number.Binary64
import TableBinding.Text.Basic

/-!
# Numbers as text

Whole numbers and decimal fractions as they are read, and a number of 64 bits as it is written:
with the fewest digits that read back, all positions up to the point, no exponent, and no point
behind a whole number.
-/

namespace TableBinding.Number

/-- The value of a digit. -/
def digitValue (c : Char) : Nat := c.toNat - '0'.toNat

/-- The value of a list of decimal digits. -/
def ofDigits (t : Text) : Nat := t.foldl (fun n c => 10 * n + digitValue c) 0

/-- The value of a text that consists of decimal digits. -/
def readNat? (t : Text) : Option Nat :=
  if !t.isEmpty && t.all Char.isDigit then some (ofDigits t) else none

/-- The sign that a number begins with, and the rest. -/
def takeSign : Text → Bool × Text
  | '-' :: t => (true, t)
  | '+' :: t => (false, t)
  | t => (false, t)

/-- The whole number that the text is: digits behind an optional sign. -/
def readInt? (t : Text) : Option Int :=
  let (negative, digits) := takeSign t
  (readNat? digits).map fun n => if negative then -(n : Int) else n

/-- Whether a whole number takes no more than 64 bits, its sign included. -/
def fitsInt64 (n : Int) : Bool := -(Nat.pow 2 63 : Int) ≤ n && n < (Nat.pow 2 63 : Int)

/-- The parts of a decimal fraction: the digits in front of the point, those behind it, and the
exponent. -/
structure Decimal where
  whole : Text
  behind : Text
  exponent : Int

/-- The number nearest to a decimal fraction. -/
def Decimal.value (negative : Bool) (d : Decimal) : Binary64 :=
  Binary64.ofDecimal negative (ofDigits (d.whole ++ d.behind)) (d.exponent - d.behind.length)

/-- A decimal fraction without its sign: digits, of which some or all may stand behind a point, and
an optional exponent. -/
def readDecimal? (t : Text) : Option Decimal := do
  let isMark (c : Char) : Bool := c == 'e' || c == 'E'
  let front := t.takeWhile (fun c => !isMark c)
  let exponent ← match t.dropWhile (fun c => !isMark c) with
    | [] => some 0
    | _ :: rest => readInt? rest
  let whole := front.takeWhile (· != '.')
  let behind := (front.dropWhile (· != '.')).drop 1
  if (whole ++ behind).isEmpty || !(whole ++ behind).all Char.isDigit then none
  else some { whole, behind, exponent }

/-- The number that the text is: a decimal fraction, an infinity or no number, in any case and
behind an optional sign. -/
def readBinary64? (t : Text) : Option Binary64 :=
  let (negative, rest) := takeSign t
  let lower := Text.toLower rest
  if lower == "inf" || lower == "infinity" then some (.infinite negative)
  else if lower == "nan" then some .nan
  else (readDecimal? rest).map (Decimal.value negative)

/-- The decimal number `digits` times ten to the power of `exponent`, without an exponent. -/
def positional (digits : Nat) (exponent : Int) : Text :=
  let text := Text.ofNat digits
  if 0 ≤ exponent then text ++ List.replicate exponent.toNat '0'
  else
    let places := (-exponent).toNat
    let padded := List.replicate (places + 1 - text.length) '0' ++ text
    padded.take (padded.length - places) ++ ['.'] ++ padded.drop (padded.length - places)

/-- A number as it is written. -/
def write : Binary64 → Text
  | .nan => "NaN"
  | .infinite negative => if negative then "-inf" else "inf"
  | .finite negative mantissa exponent =>
    let sign : Text := if negative then ['-'] else []
    if mantissa = 0 then sign ++ ['0']
    else
      match Binary64.digits? mantissa exponent with
      | some (digits, e) => sign ++ positional digits e
      | none => sign ++ Text.ofNat mantissa

end TableBinding.Number
