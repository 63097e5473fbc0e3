import TableBinding.Number.Literal

/-!
# Place marks

A template holds place marks: a percent sign and a number from 1 to 99 without leading zeros, where
a second digit belongs to the number if there is one. Filling the template puts a value where the
marks of the lowest number stand, and keeps every other character (`Text.fillLowest`).

A template is read from the left (`Text.parts`), so what is read in front of something else than a
digit does not depend on what follows (`parts_append`): the marks of a text put together from pieces
are the marks of the pieces, if a comma or a blank stands between them (`marks_append_cons`).
-/

namespace TableBinding.Text

/-! ## Reading a template -/

/-- A part of a template. -/
inductive Part where
  /-- A character that stands for itself. -/
  | char (c : Char)
  /-- A place mark, with its digits. -/
  | mark (digits : Text)
  deriving DecidableEq, Repr

namespace Part

/-- The part as it is written. -/
def text : Part → Text
  | char c => [c]
  | mark digits => '%' :: digits

/-- The number of a place mark. -/
def number? : Part → Option Nat
  | char _ => none
  | mark digits => some (Number.ofDigits digits)

end Part

/-- The digits of the place mark that the text begins with; none if it begins with none. -/
def markDigits : Text → Text
  | '%' :: c :: t => if c.isDigit && c != '0' then c :: (t.take 1).takeWhile Char.isDigit else []
  | _ => []

/-- The parts of the text behind its first characters. -/
def partsBehind : Nat → Text → List Part
  | _, [] => []
  | skip + 1, _ :: t => partsBehind skip t
  | 0, c :: t =>
    if (markDigits (c :: t)).isEmpty then .char c :: partsBehind 0 t
    else .mark (markDigits (c :: t)) :: partsBehind (markDigits (c :: t)).length t

/-- The parts of a template. -/
def parts (t : Text) : List Part := partsBehind 0 t

/-- The numbers of the place marks, in order. -/
def marks (t : Text) : List Nat := (parts t).filterMap Part.number?

/-- The part with the value in its place, if it is a place mark of that number. -/
def Part.fill (n : Nat) (value : Text) (p : Part) : Text :=
  if p.number? = some n then value else p.text

/-- The template with the value in place of the marks of that number. -/
def fill (n : Nat) (value t : Text) : Text := (parts t).flatMap (Part.fill n value)

/-- The template with the value in place of the marks of the lowest number. Without marks nothing is
put anywhere. -/
def fillLowest (value t : Text) : Text :=
  match (marks t).min? with
  | none => t
  | some n => fill n value t

/-- A function that fills templates, the template being its first argument. -/
def FillsLowest (arg : Text → Text → Text) : Prop :=
  ∀ template value, arg template value = fillLowest value template

/-- The text begins with no digit. -/
def NoDigitHead (t : Text) : Prop := ∀ c ∈ t.head?, c.isDigit = false

instance (t : Text) : Decidable (NoDigitHead t) :=
  decidable_of_iff (t.head?.all (fun c => !c.isDigit) = true) <| by
    unfold NoDigitHead
    cases t.head? with
    | none => exact iff_of_true rfl fun _ h => nomatch h
    | some c => simp

/-- A function that fills the templates with a single place mark. -/
def FillsOnce (arg : Text → Text → Text) : Prop :=
  ∀ front value back : Text, '%' ∉ front → '%' ∉ back → NoDigitHead back →
    arg (front ++ ("%1" ++ back)) value = front ++ (value ++ back)

/-! ## Parts -/

theorem markDigits_of_ne {c : Char} (hc : c ≠ '%') (t : Text) : markDigits (c :: t) = [] := by
  unfold markDigits
  split
  · next heq => exact absurd (List.cons.inj heq).1 hc
  · rfl

/-- What makes a place mark: a percent sign and a digit other than zero. -/
theorem exists_of_markDigits {c : Char} {t : Text} (h : ¬(markDigits (c :: t)).isEmpty = true) :
    c = '%' ∧ ∃ d ds, markDigits (c :: t) = d :: ds ∧ d.isDigit = true ∧ d ≠ '0' ∧
      d :: ds <+: t := by
  by_cases hc : c = '%'
  · subst hc
    refine ⟨rfl, ?_⟩
    cases t with
    | nil => exact absurd rfl h
    | cons d t =>
      rw [markDigits] at h ⊢
      split
      · next hd =>
        rw [Bool.and_eq_true, bne_iff_ne] at hd
        have hrest := (List.takeWhile_prefix Char.isDigit).trans (List.take_prefix 1 t)
        exact ⟨d, _, rfl, hd.1, hd.2, List.cons_prefix_cons.2 ⟨rfl, hrest⟩⟩
      · next hd =>
        rw [if_neg hd] at h
        exact absurd rfl h
  · rw [markDigits_of_ne hc] at h
    exact absurd rfl h

theorem prefix_of_markDigits {c : Char} {t : Text} (h : ¬(markDigits (c :: t)).isEmpty = true) :
    c = '%' ∧ markDigits (c :: t) <+: t := by
  obtain ⟨hc, d, ds, hdigits, -, -, hprefix⟩ := exists_of_markDigits h
  exact ⟨hc, hdigits ▸ hprefix⟩

theorem takeWhile_take_append {t u : Text} (hu : NoDigitHead u) :
    ((t ++ u).take 1).takeWhile Char.isDigit = (t.take 1).takeWhile Char.isDigit := by
  cases t with
  | cons c t => rfl
  | nil =>
    cases u with
    | nil => rfl
    | cons c u => exact List.takeWhile_cons_of_neg (Bool.eq_false_iff.1 (hu c rfl))

/-- The digits of a mark end where the text in front of something else than a digit does. -/
theorem markDigits_append {c : Char} {t u : Text} (hu : NoDigitHead u) :
    markDigits (c :: t ++ u) = markDigits (c :: t) := by
  by_cases hc : c = '%'
  · subst hc
    cases t with
    | cons d t =>
      rw [List.cons_append, List.cons_append, markDigits, markDigits, takeWhile_take_append hu]
    | nil =>
      cases u with
      | nil => rfl
      | cons d u =>
        have hd : d.isDigit = false := hu d rfl
        rw [List.cons_append, List.nil_append, markDigits, hd, Bool.false_and]
        exact if_neg Bool.false_ne_true
  · rw [List.cons_append, markDigits_of_ne hc, markDigits_of_ne hc]

/-- **Reading goes from left to right**: what is in front of something else than a digit is read by
itself. -/
theorem partsBehind_append {t u : Text} {skip : Nat} (hskip : skip ≤ t.length)
    (hu : NoDigitHead u) : partsBehind skip (t ++ u) = partsBehind skip t ++ parts u := by
  induction t generalizing skip with
  | nil =>
    obtain rfl := Nat.le_zero.1 hskip
    rfl
  | cons c t ih =>
    cases skip with
    | succ skip => exact ih (Nat.le_of_succ_le_succ hskip)
    | zero =>
      rw [List.cons_append, partsBehind, partsBehind, ← List.cons_append, markDigits_append hu]
      split
      · rw [ih (Nat.zero_le _), List.cons_append]
      · next hmark => rw [ih (prefix_of_markDigits hmark).2.length_le, List.cons_append]

theorem parts_append {t u : Text} (hu : NoDigitHead u) : parts (t ++ u) = parts t ++ parts u :=
  partsBehind_append (Nat.zero_le _) hu

theorem partsBehind_text (skip : Nat) (t : Text) :
    (partsBehind skip t).flatMap Part.text = t.drop skip := by
  induction t generalizing skip with
  | nil => rw [partsBehind, List.drop_nil, List.flatMap_nil]
  | cons c t ih =>
    cases skip with
    | succ skip => exact ih skip
    | zero =>
      rw [partsBehind]
      split
      · rw [List.flatMap_cons, ih]
        rfl
      · next hmark =>
        obtain ⟨rfl, hprefix⟩ := prefix_of_markDigits hmark
        rw [List.flatMap_cons, ih, Part.text, List.cons_append,
          List.prefix_iff_eq_append.1 hprefix, List.drop_zero]

/-- **The parts are the text**, written one after the other. -/
theorem parts_text (t : Text) : (parts t).flatMap Part.text = t := partsBehind_text 0 t

theorem parts_of_not_mem {t : Text} (h : '%' ∉ t) : parts t = t.map .char := by
  unfold parts
  induction t with
  | nil => rfl
  | cons c t ih =>
    have hc : c ≠ '%' := fun e => h (e ▸ List.mem_cons_self ..)
    rw [partsBehind, markDigits_of_ne hc, ih fun hmem => h (List.mem_cons_of_mem _ hmem)]
    rfl

/-! ## Marks -/

theorem marks_append {t u : Text} (hu : NoDigitHead u) : marks (t ++ u) = marks t ++ marks u := by
  rw [marks, parts_append hu, List.filterMap_append]
  rfl

theorem marks_of_not_mem {t : Text} (h : '%' ∉ t) : marks t = [] := by
  rw [marks, parts_of_not_mem h, List.filterMap_map]
  exact List.filterMap_eq_nil_iff.2 fun _ _ => rfl

theorem marks_cons {c : Char} (hc : c ≠ '%') (t : Text) : marks (c :: t) = marks t := by
  rw [marks, parts, partsBehind, markDigits_of_ne hc]
  rfl

/-- Text without a percent sign is no part of a mark. -/
theorem marks_append_of_not_mem {t : Text} (h : '%' ∉ t) (u : Text) : marks (t ++ u) = marks u := by
  induction t with
  | nil => rfl
  | cons c t ih =>
    have hc : c ≠ '%' := fun e => h (e ▸ List.mem_cons_self ..)
    rw [List.cons_append, marks_cons hc, ih fun hmem => h (List.mem_cons_of_mem _ hmem)]

/-- **A character between two texts keeps their marks apart**, if it is no digit and no percent
sign. -/
theorem marks_append_cons {c : Char} (hdigit : c.isDigit = false) (hc : c ≠ '%') (t u : Text) :
    marks (t ++ c :: u) = marks t ++ marks u := by
  have hhead : NoDigitHead (c :: u) := by
    intro d hd
    cases hd
    exact hdigit
  rw [marks_append hhead, marks_cons hc]

/-- A number gets no less by more digits. -/
theorem le_foldl_digits (ds : Text) (n : Nat) :
    n ≤ ds.foldl (fun n c => 10 * n + Number.digitValue c) n := by
  induction ds generalizing n with
  | nil => exact Nat.le_refl n
  | cons d ds ih =>
    have hstep : n ≤ 10 * n + Number.digitValue d := by omega
    exact Nat.le_trans hstep (ih _)

theorem one_le_digitValue {c : Char} (hdigit : c.isDigit = true) (hzero : c ≠ '0') :
    1 ≤ Number.digitValue c := by
  have hlow : '0'.toNat ≤ c.toNat := by
    rw [Char.isDigit, Bool.and_eq_true, decide_eq_true_eq, decide_eq_true_eq] at hdigit
    exact UInt32.le_iff_toNat_le.1 hdigit.1
  have hne : c.toNat ≠ '0'.toNat := fun h => hzero (Char.toNat_inj.1 h)
  unfold Number.digitValue
  omega

theorem one_le_number {skip : Nat} {t : Text} {p : Part} (hp : p ∈ partsBehind skip t) {n : Nat}
    (hn : p.number? = some n) : 1 ≤ n := by
  induction t generalizing skip with
  | nil =>
    rw [partsBehind] at hp
    cases hp
  | cons c t ih =>
    cases skip with
    | succ skip => exact ih hp
    | zero =>
      rw [partsBehind] at hp
      split at hp
      · rcases List.mem_cons.1 hp with rfl | hp
        · cases hn
        · exact ih hp
      · next hmark =>
        rcases List.mem_cons.1 hp with rfl | hp
        · obtain ⟨-, d, ds, hdigits, hdigit, hzero, -⟩ := exists_of_markDigits hmark
          cases hn
          rw [hdigits, Number.ofDigits, List.foldl_cons, Nat.mul_zero, Nat.zero_add]
          exact Nat.le_trans (one_le_digitValue hdigit hzero) (le_foldl_digits ds _)
        · exact ih hp

/-- **Marks are numbered from one on.** -/
theorem one_le_of_mem_marks {n : Nat} {t : Text} (h : n ∈ marks t) : 1 ≤ n := by
  obtain ⟨p, hp, hn⟩ := List.mem_filterMap.1 h
  exact one_le_number hp hn

/-! ## Filling -/

theorem fill_append {t u : Text} (n : Nat) (value : Text) (hu : NoDigitHead u) :
    fill n value (t ++ u) = fill n value t ++ fill n value u := by
  rw [fill, parts_append hu, List.flatMap_append]
  rfl

theorem fill_of_not_mem {n : Nat} {t : Text} (value : Text) (h : n ∉ marks t) :
    fill n value t = t := by
  have hparts : ∀ p ∈ parts t, Part.fill n value p = p.text := by
    intro p hp
    exact if_neg fun hn => h (List.mem_filterMap.2 ⟨p, hp, hn⟩)
  rw [fill, List.flatMap_def, List.map_congr_left hparts, ← List.flatMap_def, parts_text]

/-- A template without a place mark of a lower number is filled at the marks of this one. -/
theorem fillLowest_eq {n : Nat} {t : Text} (value : Text) (hmem : n ∈ marks t)
    (hlow : ∀ m ∈ marks t, n ≤ m) : fillLowest value t = fill n value t := by
  have hmin : (marks t).min? = some n := List.min?_eq_some_iff.2 ⟨hmem, hlow⟩
  rw [fillLowest, hmin]

section
variable {c : Char}

theorem parts_mark (hdigit : c.isDigit = true) (hzero : c ≠ '0') :
    parts ['%', c] = [.mark [c]] := by
  have hdigits : markDigits ['%', c] = [c] := if_pos (by simp [hdigit, hzero])
  rw [parts, partsBehind, hdigits]
  rfl

theorem ofDigits_singleton (c : Char) : Number.ofDigits [c] = Number.digitValue c := by
  rw [Number.ofDigits, List.foldl_cons, List.foldl_nil, Nat.mul_zero, Nat.zero_add]

theorem noDigitHead_mark (c : Char) (t : Text) : NoDigitHead ('%' :: c :: t) := by
  intro d hd
  cases hd
  rfl

theorem marks_mark (hdigit : c.isDigit = true) (hzero : c ≠ '0') :
    marks ['%', c] = [Number.digitValue c] := by
  rw [marks, parts_mark hdigit hzero]
  exact congrArg ([·]) (ofDigits_singleton c)

theorem fill_mark (hdigit : c.isDigit = true) (hzero : c ≠ '0') (value : Text) :
    fill (Number.digitValue c) value ['%', c] = value := by
  have hnumber : Part.fill (Number.digitValue c) value (.mark [c]) = value :=
    if_pos (congrArg some (ofDigits_singleton c))
  rw [fill, parts_mark hdigit hzero, List.flatMap_singleton, hnumber]

/-- The marks of a text with a place mark of one digit in it. -/
theorem marks_append_mark (hdigit : c.isDigit = true) (hzero : c ≠ '0') (front : Text)
    {back : Text} (hback : NoDigitHead back) :
    marks (front ++ '%' :: c :: back) =
      marks front ++ Number.digitValue c :: marks back := by
  have hcut : '%' :: c :: back = ['%', c] ++ back := rfl
  rw [marks_append (noDigitHead_mark c back), hcut, marks_append hback, marks_mark hdigit hzero,
    List.singleton_append]

/-- **The lowest mark is filled**, and what stands before and behind it is left as it is. -/
theorem fillLowest_append_mark (hdigit : c.isDigit = true) (hzero : c ≠ '0') (value : Text)
    {front back : Text} (hback : NoDigitHead back)
    (hfront : ∀ n ∈ marks front, Number.digitValue c < n)
    (hbehind : ∀ n ∈ marks back, Number.digitValue c < n) :
    fillLowest value (front ++ '%' :: c :: back) = front ++ (value ++ back) := by
  have hmarks := marks_append_mark hdigit hzero front hback
  have hmem : Number.digitValue c ∈ marks (front ++ '%' :: c :: back) := by
    rw [hmarks]
    exact List.mem_append_right _ (List.mem_cons_self ..)
  have hlow : ∀ n ∈ marks (front ++ '%' :: c :: back), Number.digitValue c ≤ n := by
    rw [hmarks]
    intro n hn
    rcases List.mem_append.1 hn with hn | hn
    · exact Nat.le_of_lt (hfront n hn)
    · rcases List.mem_cons.1 hn with rfl | hn
      · exact Nat.le_refl _
      · exact Nat.le_of_lt (hbehind n hn)
  have hcut : '%' :: c :: back = ['%', c] ++ back := rfl
  rw [fillLowest_eq value hmem hlow, fill_append _ value (noDigitHead_mark c back), hcut,
    fill_append _ value hback, fill_mark hdigit hzero,
    fill_of_not_mem value fun h => Nat.lt_irrefl _ (hfront _ h),
    fill_of_not_mem value fun h => Nat.lt_irrefl _ (hbehind _ h)]

end

theorem FillsLowest.fillsOnce {arg : Text → Text → Text} (h : FillsLowest arg) : FillsOnce arg := by
  intro front value back hfront hback hhead
  have hmark : front ++ (("%1" : Text) ++ back) = front ++ '%' :: '1' :: back := rfl
  have hnone : ∀ {t : Text}, '%' ∉ t → ∀ n ∈ marks t, Number.digitValue '1' < n := by
    intro t ht n hn
    rw [marks_of_not_mem ht] at hn
    cases hn
  rw [h, hmark]
  exact fillLowest_append_mark rfl (by decide) value hhead (hnone hfront) (hnone hback)

end TableBinding.Text
