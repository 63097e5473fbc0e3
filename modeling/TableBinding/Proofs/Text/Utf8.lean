import Mathlib.Data.List.Basic
import TableBinding.Text.Utf8

/-!
# Text and its bytes

Well-formed bytes are the bytes of one text (`Utf8.toList_of_decode?`), and a reader that puts
U+FFFD in the place of what is not well formed reads that text from them
(`Utf8.decodeLossy_of_decode?`).

The shape of the argument: the lead byte of a character says how many bytes follow it, and no more
than those are taken (`Utf8.leading_utf8EncodeChar`); so the bytes of a text are read one character
after the other.
-/

namespace TableBinding.Utf8

/-! ## Bytes as a list -/

theorem toList_loop (bytes : ByteArray) (i : Nat) (taken : List UInt8) :
    ByteArray.toList.loop bytes i taken = taken.reverse ++ bytes.data.toList.drop i := by
  fun_induction ByteArray.toList.loop bytes i taken with
  | case1 i taken h ih =>
    have hi : i < bytes.data.toList.length := by simpa using h
    rw [ih, List.drop_eq_getElem_cons hi]
    simp [ByteArray.get!, h]
  | case2 i taken h =>
    rw [List.drop_eq_nil_of_le (by simpa using Nat.le_of_not_lt h)]
    simp

theorem toList_toByteArray (bytes : List UInt8) : bytes.toByteArray.toList = bytes := by
  rw [ByteArray.toList, toList_loop, List.toList_data_toByteArray]
  rfl

theorem toList_encode (t : Text) : (encode t).toList = t.flatMap String.utf8EncodeChar :=
  toList_toByteArray _

theorem toList_of_decode? {bytes : ByteArray} {t : Text} (h : decode? bytes = some t) :
    bytes.toList = t.flatMap String.utf8EncodeChar := by
  obtain ⟨s, hs, rfl⟩ := Option.map_eq_some_iff.mp h
  unfold String.fromUTF8? at hs
  split at hs
  · cases hs
    rw [← toList_encode, encode, String.ofList_toList]
    rfl
  · cases hs

/-! ## One character -/

theorem toNat_byte {n : Nat} (h : n < 256) : (UInt8.ofNat n).toNat = n := by
  rw [UInt8.toNat_ofNat']
  exact Nat.mod_eq_of_lt h

/-- A byte that goes on with a character adds its lower six bits. -/
theorem continuation_cons {owed n value : Nat} {low high : UInt8} {rest : List UInt8}
    (hlow : low.toNat ≤ n % 64 + 128) (hhigh : n % 64 + 128 ≤ high.toNat) :
    continuation (owed + 1) low high value (UInt8.ofNat (n % 64 + 128) :: rest) =
      ((continuation owed 0x80 0xbf (value * 64 + n % 64) rest).1,
        (continuation owed 0x80 0xbf (value * 64 + n % 64) rest).2 + 1) := by
  have hbyte : (UInt8.ofNat (n % 64 + 128)).toNat = n % 64 + 128 := toNat_byte (by omega)
  have hwithin : low ≤ UInt8.ofNat (n % 64 + 128) ∧ UInt8.ofNat (n % 64 + 128) ≤ high := by
    rw [UInt8.le_iff_toNat_le, UInt8.le_iff_toNat_le, hbyte]
    exact ⟨hlow, hhigh⟩
  have hbits : (UInt8.ofNat (n % 64 + 128)).toNat % 64 = n % 64 := by
    rw [hbyte]
    omega
  rw [continuation, if_pos hwithin, hbits]

theorem expectation_eq (n : Nat) (h : n < 256) :
    expectation (UInt8.ofNat n) =
      if 0xc2 ≤ n ∧ n ≤ 0xdf then some (0x80, 0xbf, 1)
      else if n = 0xe0 then some (0xa0, 0xbf, 2)
      else if n = 0xed then some (0x80, 0x9f, 2)
      else if 0xe1 ≤ n ∧ n ≤ 0xef then some (0x80, 0xbf, 2)
      else if n = 0xf0 then some (0x90, 0xbf, 3)
      else if 0xf1 ≤ n ∧ n ≤ 0xf3 then some (0x80, 0xbf, 3)
      else if n = 0xf4 then some (0x80, 0x8f, 3)
      else none := by
  unfold expectation
  simp only [UInt8.le_iff_toNat_le, ← UInt8.toNat_inj, toNat_byte h]
  rfl

/-- The lead byte of a character and the bytes behind it give the character back. -/
theorem leading_of_expectation {n value taken owed : Nat} {low high : UInt8} {rest : List UInt8}
    (hn : 0xc2 ≤ n ∧ n < 256) (hexpect : expectation (UInt8.ofNat n) = some (low, high, owed))
    (hbehind : continuation owed low high (n % Nat.pow 2 (6 - owed)) rest = (some value, taken)) :
    leading (UInt8.ofNat n) rest = (Char.ofNat value, taken) := by
  have hlead : (UInt8.ofNat n).toNat = n := toNat_byte hn.2
  have hhigh : ¬ UInt8.ofNat n < 0x80 := by
    rw [UInt8.lt_iff_toNat_lt, hlead]
    show ¬ n < 128
    omega
  unfold leading
  rw [if_neg hhigh, hexpect]
  simp only [hlead, hbehind]

/-- The second byte of a character of three bytes lies within the bounds that its lead byte sets. -/
theorem expectation_three {v : Nat} (hlow : 0x800 ≤ v) (hhigh : v ≤ 0xffff)
    (hvalid : v < 0xd800 ∨ 0xdfff < v) :
    ∃ low high : UInt8, expectation (UInt8.ofNat (v / 4096 % 16 + 224)) = some (low, high, 2) ∧
      low.toNat ≤ v / 64 % 64 + 128 ∧ v / 64 % 64 + 128 ≤ high.toNat := by
  rw [expectation_eq _ (by omega), if_neg (by omega)]
  by_cases hfirst : v / 4096 % 16 + 224 = 0xe0
  · rw [if_pos hfirst]
    exact ⟨0xa0, 0xbf, rfl, by show 160 ≤ _; omega, by show _ ≤ 191; omega⟩
  · rw [if_neg hfirst]
    by_cases hsurrogate : v / 4096 % 16 + 224 = 0xed
    · rw [if_pos hsurrogate]
      exact ⟨0x80, 0x9f, rfl, by show 128 ≤ _; omega, by show _ ≤ 159; omega⟩
    · rw [if_neg hsurrogate, if_pos (by omega)]
      exact ⟨0x80, 0xbf, rfl, by show 128 ≤ _; omega, by show _ ≤ 191; omega⟩

/-- The second byte of a character of four bytes lies within the bounds that its lead byte sets. -/
theorem expectation_four {v : Nat} (hlow : 0x10000 ≤ v) (hhigh : v < 0x110000) :
    ∃ low high : UInt8, expectation (UInt8.ofNat (v / 262144 % 8 + 240)) = some (low, high, 3) ∧
      low.toNat ≤ v / 4096 % 64 + 128 ∧ v / 4096 % 64 + 128 ≤ high.toNat := by
  rw [expectation_eq _ (by omega), if_neg (by omega), if_neg (by omega), if_neg (by omega),
    if_neg (by omega)]
  by_cases hfirst : v / 262144 % 8 + 240 = 0xf0
  · rw [if_pos hfirst]
    exact ⟨0x90, 0xbf, rfl, by show 144 ≤ _; omega, by show _ ≤ 191; omega⟩
  · rw [if_neg hfirst]
    by_cases hmiddle : v / 262144 % 8 + 240 ≤ 0xf3
    · rw [if_pos (by omega)]
      exact ⟨0x80, 0xbf, rfl, by show 128 ≤ _; omega, by show _ ≤ 191; omega⟩
    · rw [if_neg (by omega), if_pos (by omega)]
      exact ⟨0x80, 0x8f, rfl, by show 128 ≤ _; omega, by show _ ≤ 143; omega⟩

/-- **The bytes of a character** are read back as that character, whatever follows them. -/
theorem leading_utf8EncodeChar (c : Char) (rest : List UInt8) :
    ∃ lead more, String.utf8EncodeChar c = lead :: more ∧
      leading lead (more ++ rest) = (c, more.length) := by
  have hvalid : c.val.toNat < 0xd800 ∨ 0xdfff < c.val.toNat ∧ c.val.toNat < 0x110000 := c.valid
  have hself : Char.ofNat c.val.toNat = c := Char.ofNat_toNat c
  fun_cases String.utf8EncodeChar c with
  | case1 v hv =>
    refine ⟨_, _, rfl, ?_⟩
    have hlead : (UInt8.ofNat v).toNat = v := toNat_byte (by omega)
    have hlow : UInt8.ofNat v < 0x80 := by
      rw [UInt8.lt_iff_toNat_lt, hlead]
      show v < 128
      omega
    rw [leading, if_pos hlow, hlead, hself]
    rfl
  | case2 v hv₁ hv₂ =>
    refine ⟨_, _, rfl, ?_⟩
    have hexpect : expectation (UInt8.ofNat (v / 64 % 32 + 192)) = some (0x80, 0xbf, 1) := by
      rw [expectation_eq _ (by omega), if_pos (by omega)]
    have hvalue : (v / 64 % 32 + 192) % 32 * 64 + v % 64 = v := by omega
    have hbehind : continuation 1 0x80 0xbf ((v / 64 % 32 + 192) % Nat.pow 2 (6 - 1))
        ([UInt8.ofNat (v % 64 + 128)] ++ rest) = (some v, 1) := by
      show continuation 1 0x80 0xbf ((v / 64 % 32 + 192) % 32) _ = _
      rw [List.singleton_append, continuation_cons (by show 128 ≤ _; omega)
        (by show _ ≤ 191; omega), hvalue, continuation]
    rw [leading_of_expectation (by omega) hexpect hbehind, hself]
    rfl
  | case3 v hv₁ hv₂ hv₃ =>
    refine ⟨_, _, rfl, ?_⟩
    obtain ⟨low, high, hexpect, hlow, hhigh⟩ :=
      expectation_three (by omega) hv₃ (hvalid.imp_right And.left)
    have hvalue : ((v / 4096 % 16 + 224) % 16 * 64 + v / 64 % 64) * 64 + v % 64 = v := by omega
    have hbehind : continuation 2 low high ((v / 4096 % 16 + 224) % Nat.pow 2 (6 - 2))
        ([UInt8.ofNat (v / 64 % 64 + 128), UInt8.ofNat (v % 64 + 128)] ++ rest) = (some v, 2) := by
      show continuation 2 low high ((v / 4096 % 16 + 224) % 16) _ = _
      rw [List.cons_append, continuation_cons hlow hhigh, List.singleton_append,
        continuation_cons (by show 128 ≤ _; omega) (by show _ ≤ 191; omega), hvalue, continuation]
    rw [leading_of_expectation (by omega) hexpect hbehind, hself]
    rfl
  | case4 v hv₁ hv₂ hv₃ =>
    refine ⟨_, _, rfl, ?_⟩
    have hrange : v < 0x110000 := by
      show c.val.toNat < 0x110000
      omega
    obtain ⟨low, high, hexpect, hlow, hhigh⟩ := expectation_four (by omega) hrange
    have hvalue : (((v / 262144 % 8 + 240) % 8 * 64 + v / 4096 % 64) * 64 + v / 64 % 64) * 64 +
        v % 64 = v := by omega
    have hbehind : continuation 3 low high ((v / 262144 % 8 + 240) % Nat.pow 2 (6 - 3))
        ([UInt8.ofNat (v / 4096 % 64 + 128), UInt8.ofNat (v / 64 % 64 + 128),
          UInt8.ofNat (v % 64 + 128)] ++ rest) = (some v, 3) := by
      show continuation 3 low high ((v / 262144 % 8 + 240) % 8) _ = _
      rw [List.cons_append, continuation_cons hlow hhigh, List.cons_append,
        continuation_cons (by show 128 ≤ _; omega) (by show _ ≤ 191; omega), List.singleton_append,
        continuation_cons (by show 128 ≤ _; omega) (by show _ ≤ 191; omega), hvalue, continuation]
    rw [leading_of_expectation (by omega) hexpect hbehind, hself]
    rfl

/-! ## A whole text -/

theorem decodeLossy_flatMap (t : Text) : decodeLossy (t.flatMap String.utf8EncodeChar) = t := by
  induction t with
  | nil => rw [List.flatMap_nil, decodeLossy]
  | cons c t ih =>
    obtain ⟨lead, more, hbytes, hleading⟩ :=
      leading_utf8EncodeChar c (t.flatMap String.utf8EncodeChar)
    rw [List.flatMap_cons, hbytes, List.cons_append, decodeLossy, hleading, List.drop_left, ih]

/-- Nothing of a text is replaced that was well formed. -/
theorem decodeLossy_of_decode? {bytes : ByteArray} {t : Text} (h : decode? bytes = some t) :
    decodeLossy bytes.toList = t := by
  rw [toList_of_decode? h, decodeLossy_flatMap]

end TableBinding.Utf8
