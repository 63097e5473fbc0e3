import Mathlib.Data.List.Induction
import TableBinding.Number.Literal

/-!
# Numbers in their own spelling

A number can be spelled in many ways and is written in one. The digits of a natural number come back
as they were exactly if no zero stands in front of them (`Number.ofNat_ofDigits_iff`), and a whole
number does exactly if, moreover, it has no plus sign and is no negative zero
(`Number.ofInt_readInt?_iff`). What is written of any number of 64 bits has neither a plus sign nor
an exponent (`Number.not_mem_write`).
-/

namespace TableBinding

/-- No zero stands in front of other digits. -/
def Text.IsNumeral (digits : Text) : Prop := digits.head? = some '0' → digits = ['0']

instance (digits : Text) : Decidable digits.IsNumeral := inferInstanceAs (Decidable (_ → _))

namespace Number

variable {t : Text} {c : Char}

/-! ## Digits -/

theorem isDigit_iff : c.isDigit = true ↔ 48 ≤ c.toNat ∧ c.toNat ≤ 57 := Char.isDigit_iff_toNat

theorem digitValue_eq (c : Char) : digitValue c = c.toNat - 48 := rfl

theorem digitValue_lt (h : c.isDigit = true) : digitValue c < 10 := by
  obtain ⟨-, hle⟩ := isDigit_iff.mp h
  rw [digitValue_eq]
  omega

theorem digitChar_digitValue (h : c.isDigit = true) : (digitValue c).digitChar = c := by
  obtain ⟨hge, -⟩ := isDigit_iff.mp h
  apply Char.toNat_inj.mp
  rw [Nat.toNat_digitChar_of_lt_ten (digitValue_lt h), digitValue_eq]
  omega

theorem ofDigits_concat (t : Text) (c : Char) :
    ofDigits (t ++ [c]) = 10 * ofDigits t + digitValue c := by
  rw [ofDigits, List.foldl_append, ofDigits]
  rfl

theorem isDigit_of_mem_ofNat {m : Nat} (h : c ∈ Text.ofNat m) : c.isDigit = true :=
  Nat.isDigit_of_mem_toDigits (by decide) (by decide) h

theorem isNumeral_ofNat (m : Nat) : (Text.ofNat m).IsNumeral := by
  induction m using Nat.strongRecOn with
  | ind m ih =>
    intro hhead
    by_cases hm : m < 10
    · rw [Text.ofNat, Nat.toDigits_of_lt_base hm] at hhead ⊢
      rw [Option.some.inj hhead]
    · -- all but the last digit are those of a smaller number, which is not zero
      exfalso
      have hcut : Text.ofNat m = Text.ofNat (m / 10) ++ [(m % 10).digitChar] :=
        Nat.toDigits_of_base_le (by omega) (by omega)
      have hfront : (Text.ofNat (m / 10)).head? = some '0' := by
        rw [hcut, List.head?_append] at hhead
        cases hdigits : Text.ofNat (m / 10) with
        | nil => exact absurd hdigits Nat.toDigits_ne_nil
        | cons first rest =>
          rw [hdigits] at hhead
          exact hhead
      have hzero : Nat.toDigits 10 (m / 10) = Nat.toDigits 10 0 := ih (m / 10) (by omega) hfront
      have hvalue := congrArg (Nat.ofDigitChars 10 · 0) hzero
      simp only [Nat.ofDigitChars_ten_toDigits] at hvalue
      omega

/-- Digits behind a first one that is not zero are written as they were. -/
theorem ofNat_ofDigits (hdigits : ∀ c ∈ t, c.isDigit = true) (hempty : t ≠ [])
    (hzero : t.head? ≠ some '0') : Text.ofNat (ofDigits t) = t ∧ 0 < ofDigits t := by
  induction t using List.reverseRecOn with
  | nil => exact absurd rfl hempty
  | append_singleton t c ih =>
    have hc : c.isDigit = true := hdigits c (by simp)
    have hlast : Nat.toDigits 10 (digitValue c) = [c] := by
      rw [Nat.toDigits_of_lt_base (digitValue_lt hc), digitChar_digitValue hc]
    rw [ofDigits_concat]
    by_cases ht : t = []
    · subst ht
      have hvalue : digitValue c ≠ 0 := by
        intro hvalue
        apply hzero
        rw [List.nil_append, List.head?_cons, ← digitChar_digitValue hc, hvalue]
        rfl
      have hnone : ofDigits [] = 0 := rfl
      rw [hnone, Nat.mul_zero, Nat.zero_add]
      exact ⟨hlast, by omega⟩
    · have hfront : t.head? ≠ some '0' := by
        intro hfront
        apply hzero
        rw [List.head?_append, hfront]
        rfl
      obtain ⟨hnumeral, hpositive⟩ := ih (fun c hc => hdigits c (by simp [hc])) ht hfront
      refine ⟨?_, by omega⟩
      rw [Text.ofNat, ← Nat.toDigits_append_toDigits (by decide) hpositive (digitValue_lt hc), hlast]
      exact congrArg (· ++ [c]) hnumeral

/-- **Digits are written as they were exactly if they are a numeral.** -/
theorem ofNat_ofDigits_iff (hdigits : ∀ c ∈ t, c.isDigit = true) (hempty : t ≠ []) :
    Text.ofNat (ofDigits t) = t ↔ t.IsNumeral := by
  constructor
  · intro h
    rw [← h]
    exact isNumeral_ofNat _
  · intro h
    by_cases hzero : t.head? = some '0'
    · rw [h hzero]
      rfl
    · exact (ofNat_ofDigits hdigits hempty hzero).1

/-! ## Whole numbers -/

theorem readNat?_eq_some_iff {m : Nat} :
    readNat? t = some m ↔ t ≠ [] ∧ (∀ c ∈ t, c.isDigit = true) ∧ ofDigits t = m := by
  unfold readNat?
  by_cases ht : t = []
  · simp [ht]
  · simp [ht, List.all_eq_true]

theorem ofNat_readNat?_iff {m : Nat} (h : readNat? t = some m) :
    Text.ofNat m = t ↔ t.IsNumeral := by
  obtain ⟨hempty, hdigits, rfl⟩ := readNat?_eq_some_iff.mp h
  exact ofNat_ofDigits_iff hdigits hempty

theorem takeSign_of_ne (hminus : t.head? ≠ some '-') (hplus : t.head? ≠ some '+') :
    takeSign t = (false, t) := by
  unfold takeSign
  split
  · exact absurd rfl hminus
  · exact absurd rfl hplus
  · rfl

theorem exists_of_readInt? {n : Int} (h : readInt? t = some n) :
    ∃ m : Nat, readNat? (takeSign t).2 = some m ∧ n = if (takeSign t).1 then -(m : Int) else m := by
  unfold readInt? at h
  generalize takeSign t = sign at h ⊢
  obtain ⟨negative, digits⟩ := sign
  cases hm : readNat? digits with
  | none =>
    simp only [hm] at h
    cases h
  | some m =>
    simp only [hm] at h
    exact ⟨m, rfl, (Option.some.inj h).symm⟩

theorem ofInt_neg {m : Nat} (h : m ≠ 0) : Text.ofInt (-(m : Int)) = '-' :: Text.ofNat m := by
  obtain ⟨k, rfl⟩ := Nat.exists_eq_succ_of_ne_zero h
  rfl

/-- **A whole number is written as it was read exactly if** it has no plus sign, is no negative
zero, and its digits are a numeral. -/
theorem ofInt_readInt?_iff {n : Int} (h : readInt? t = some n) :
    Text.ofInt n = t ↔ t.head? ≠ some '+' ∧ t ≠ "-0" ∧ Text.IsNumeral (takeSign t).2 := by
  obtain ⟨m, hm, rfl⟩ := exists_of_readInt? h
  by_cases hminus : t.head? = some '-'
  · obtain ⟨digits, rfl⟩ := List.head?_eq_some_iff.mp hminus
    show Text.ofInt (-(m : Int)) = '-' :: digits ↔
      some '-' ≠ some '+' ∧ '-' :: digits ≠ ['-', '0'] ∧ Text.IsNumeral digits
    have hnumeral : Text.ofNat m = digits ↔ Text.IsNumeral digits := ofNat_readNat?_iff hm
    by_cases hzero : m = 0
    · subst hzero
      -- zero is written without a sign, and its one numeral is excluded
      have hwritten : Text.ofInt (-((0 : Nat) : Int)) = ['0'] := rfl
      have hdigit : Text.ofNat 0 = ['0'] := rfl
      rw [hwritten, ← hnumeral, hdigit]
      simp [eq_comm]
    · have hdigits : digits ≠ ['0'] := by
        rintro rfl
        exact hzero (Option.some.inj hm).symm
      rw [ofInt_neg hzero, ← hnumeral]
      simp [hdigits]
  · by_cases hplus : t.head? = some '+'
    · obtain ⟨digits, rfl⟩ := List.head?_eq_some_iff.mp hplus
      show Text.ofNat m = '+' :: digits ↔ some '+' ≠ some '+' ∧ _
      constructor
      · intro hwritten
        have hsign : '+' ∈ Text.ofNat m := hwritten ▸ List.mem_cons_self
        exact absurd (isDigit_of_mem_ofNat hsign) (by decide)
      · rintro ⟨hsign, -⟩
        exact absurd rfl hsign
    · rw [takeSign_of_ne hminus hplus] at hm ⊢
      have hzero : t ≠ "-0" := by
        rintro rfl
        exact hminus rfl
      show Text.ofNat m = t ↔ _
      rw [ofNat_readNat?_iff hm]
      exact ⟨fun h => ⟨hplus, hzero, h⟩, fun h => h.2.2⟩

/-! ## Numbers of 64 bits -/

theorem mem_positional {digits : Nat} {exponent : Int} (h : c ∈ positional digits exponent) :
    c.isDigit = true ∨ c = '.' := by
  have hzeros : ∀ {k}, c ∈ List.replicate k '0' → c.isDigit = true := by
    intro k hc
    rw [List.eq_of_mem_replicate hc]
    rfl
  unfold positional at h
  split at h
  · rcases List.mem_append.mp h with hc | hc
    · exact .inl (isDigit_of_mem_ofNat hc)
    · exact .inl (hzeros hc)
  · have hpadded : ∀ {k}, c ∈ List.replicate k '0' ++ Text.ofNat digits → c.isDigit = true := by
      intro k hc
      rcases List.mem_append.mp hc with hc | hc
      · exact hzeros hc
      · exact isDigit_of_mem_ofNat hc
    rcases List.mem_append.mp h with hc | hc
    · rcases List.mem_append.mp hc with hc | hc
      · exact .inl (hpadded (List.mem_of_mem_take hc))
      · exact .inr (List.mem_singleton.mp hc)
    · exact .inl (hpadded (List.mem_of_mem_drop hc))

theorem mem_write {x : Binary64} (h : c ∈ write x) :
    c.isDigit = true ∨ c ∈ ("-.infNa" : Text) := by
  cases x with
  | nan => exact .inr ((by decide : ("NaN" : Text) ⊆ ("-.infNa" : Text)) h)
  | infinite negative =>
    cases negative
    · exact .inr ((by decide : ("inf" : Text) ⊆ ("-.infNa" : Text)) h)
    · exact .inr ((by decide : ("-inf" : Text) ⊆ ("-.infNa" : Text)) h)
  | finite negative mantissa exponent =>
    have hbehindSign : ∀ {rest : Text}, (∀ c ∈ rest, c.isDigit = true ∨ c = '.') →
        c ∈ (if negative then ['-'] else [] : Text) ++ rest →
          c.isDigit = true ∨ c ∈ ("-.infNa" : Text) := by
      intro rest hrest hc
      rcases List.mem_append.mp hc with hsign | hc
      · cases negative with
        | false => cases hsign
        | true =>
          rw [List.mem_singleton.mp hsign]
          exact .inr (by decide)
      · rcases hrest c hc with hdigit | rfl
        · exact .inl hdigit
        · exact .inr (by decide)
    simp only [write] at h
    split at h
    · exact hbehindSign (fun c hc => .inl (List.mem_singleton.mp hc ▸ rfl)) h
    · split at h
      · exact hbehindSign (fun c hc => mem_positional hc) h
      · exact hbehindSign (fun c hc => .inl (isDigit_of_mem_ofNat hc)) h

/-- **What is written of a number has neither a plus sign nor an exponent.** -/
theorem not_mem_write (x : Binary64) (hc : c = '+' ∨ c = 'e' ∨ c = 'E') : c ∉ write x := by
  intro h
  have hwritten := mem_write h
  rcases hc with rfl | rfl | rfl <;> exact absurd hwritten (by decide)

end Number

end TableBinding
