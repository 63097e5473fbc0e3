import TableBinding.Text.Basic

/-!
# UTF-8

Text as bytes. `decode?` accepts well-formed UTF-8 only; `decodeLossy` puts U+FFFD in the place of
every longest piece that begins a character and does not complete it.
-/

namespace TableBinding.Utf8

/-- The bytes of the text. -/
def encode (t : Text) : ByteArray := (String.ofList t).toUTF8

/-- The text of the bytes, if they are well formed. -/
def decode? (bytes : ByteArray) : Option Text := (String.fromUTF8? bytes).map String.toList

/-- The bounds of the second byte behind a lead byte, and how many bytes follow the lead. -/
def expectation (lead : UInt8) : Option (UInt8 × UInt8 × Nat) :=
  if 0xc2 ≤ lead ∧ lead ≤ 0xdf then some (0x80, 0xbf, 1)
  else if lead = 0xe0 then some (0xa0, 0xbf, 2)
  else if lead = 0xed then some (0x80, 0x9f, 2)
  else if 0xe1 ≤ lead ∧ lead ≤ 0xef then some (0x80, 0xbf, 2)
  else if lead = 0xf0 then some (0x90, 0xbf, 3)
  else if 0xf1 ≤ lead ∧ lead ≤ 0xf3 then some (0x80, 0xbf, 3)
  else if lead = 0xf4 then some (0x80, 0x8f, 3)
  else none

/-- The value that up to `owed` further bytes complete, and how many of them were taken; the first
lies between `low` and `high`, the others between `80` and `BF`. -/
def continuation :
    (owed : Nat) → (low high : UInt8) → (value : Nat) → List UInt8 → Option Nat × Nat
  | 0, _, _, value, _ => (some value, 0)
  | _ + 1, _, _, _, [] => (none, 0)
  | owed + 1, low, high, value, b :: rest =>
    if low ≤ b ∧ b ≤ high then
      let (result, taken) := continuation owed 0x80 0xbf (value * 64 + b.toNat % 64) rest
      (result, taken + 1)
    else (none, 0)

/-- The character that the bytes begin with, or U+FFFD, and how many bytes behind the first it
takes. -/
def leading (lead : UInt8) (rest : List UInt8) : Char × Nat :=
  if lead < 0x80 then (Char.ofNat lead.toNat, 0)
  else
    match expectation lead with
    | none => ('\ufffd', 0)
    | some (low, high, owed) =>
      match continuation owed low high (lead.toNat % Nat.pow 2 (6 - owed)) rest with
      | (some value, taken) => (Char.ofNat value, taken)
      | (none, taken) => ('\ufffd', taken)

/-- The text of the bytes, with U+FFFD for what is not well formed. -/
def decodeLossy : List UInt8 → Text
  | [] => []
  | lead :: rest => (leading lead rest).1 :: decodeLossy (rest.drop (leading lead rest).2)
termination_by bytes => bytes.length
decreasing_by
  simp only [List.length_cons, List.length_drop]
  omega

end TableBinding.Utf8
