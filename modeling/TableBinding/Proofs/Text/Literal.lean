import TableBinding.Class.Statement
import TableBinding.Proofs.Text.Marks
import TableBinding.Proofs.Text.Pieces

/-!
# String literals

How a string literal is read: it reaches to the first quote that no backslash protects
(`Text.literalAt?`), the continuations of its lines are dropped (`Text.without`), and a backslash in
front of a quote or of a backslash is undone (`Text.unescape`). A text that was escaped is read back
(`unescape_literalBody`), and so is one over several lines, whatever these begin with and end in
(`without_continued`, `IsLiteralBody.flatMap_continued`).
-/

namespace TableBinding.Text

/-! ## Reading a literal -/

/-- The characters of a literal up to its closing quote, and the text behind that quote. A backslash
protects the character behind it. -/
def literalAt? : Text → Option (Text × Text)
  | [] => none
  | '"' :: rest => some ([], rest)
  | '\\' :: c :: rest => (literalAt? rest).map fun (body, after) => ('\\' :: c :: body, after)
  | c :: rest => (literalAt? rest).map fun (body, after) => (c :: body, after)

/-- The text behind the first characters, without the occurrences of the mark. They are found from
the left, and each takes its characters away from the next. -/
def withoutBehind (mark : Text) : Nat → Text → Text
  | _, [] => []
  | skip + 1, _ :: t => withoutBehind mark skip t
  | 0, c :: t =>
    if startsWith mark (c :: t) then withoutBehind mark (mark.length - 1) t
    else c :: withoutBehind mark 0 t

/-- The text without the occurrences of the mark. -/
def without (mark t : Text) : Text := withoutBehind mark 0 t

/-- The text that was escaped: no quote and no backslash in it stands alone. -/
def unescape : Text → Option Text
  | [] => some []
  | '\\' :: c :: t => if c = '\\' ∨ c = '"' then (unescape t).map (c :: ·) else none
  | c :: t => if c = '\\' ∨ c = '"' then none else (unescape t).map (c :: ·)

/-- What the first literal of the text stands for, where the continuation is what a line of it can
end with. -/
def firstLiteral? (continuation t : Text) : Option Text :=
  match t.dropWhile (· != '"') with
  | [] => none
  | _ :: rest => (literalAt? rest).bind fun (body, _) => unescape (without continuation body)

/-! ## Escaped text -/

theorem literalBody_append (t u : Text) : literalBody (t ++ u) = literalBody t ++ literalBody u :=
  List.flatMap_append

theorem literalBody_cons_of_special {c : Char} (h : c = '\\' ∨ c = '"') (t : Text) :
    literalBody (c :: t) = '\\' :: c :: literalBody t := by
  rcases h with rfl | rfl <;> rfl

theorem literalBody_cons_of_plain {c : Char} (h : ¬(c = '\\' ∨ c = '"')) (t : Text) :
    literalBody (c :: t) = c :: literalBody t := by
  rw [literalBody, List.flatMap_cons, if_neg (by simpa using h), List.singleton_append, literalBody]

theorem literalBody_eq_self {t : Text} (h : ∀ c ∈ t, ¬(c = '\\' ∨ c = '"')) :
    literalBody t = t := by
  induction t with
  | nil => rfl
  | cons c t ih =>
    rw [List.forall_mem_cons] at h
    rw [literalBody_cons_of_plain h.1, ih h.2]

theorem mem_literalBody {c : Char} {t : Text} (h : c ∈ literalBody t) : c = '\\' ∨ c ∈ t := by
  obtain ⟨d, hd, hc⟩ := List.mem_flatMap.1 h
  split at hc
  · rcases List.mem_cons.1 hc with rfl | hc
    · exact .inl rfl
    · exact .inr (List.mem_singleton.1 hc ▸ hd)
  · exact .inr (List.mem_singleton.1 hc ▸ hd)

/-- **Escaped text is read back.** -/
theorem unescape_literalBody (t : Text) : unescape (literalBody t) = some t := by
  induction t with
  | nil => rfl
  | cons c t ih =>
    by_cases h : c = '\\' ∨ c = '"'
    · rw [literalBody_cons_of_special h, unescape, if_pos h, ih]
      rfl
    · have hc : c ≠ '\\' := fun e => h (.inl e)
      rw [literalBody_cons_of_plain h, unescape, if_neg h, ih]
      · rfl
      · intro d u e
        exact absurd e hc

/-! ## The body of a literal -/

/-- What can stand between the quotes of a literal: each quote behind a backslash, and no single
backslash at the end. -/
inductive IsLiteralBody : Text → Prop
  | nil : IsLiteralBody []
  | plain {c : Char} {t : Text} (hc : ¬(c = '\\' ∨ c = '"')) (ht : IsLiteralBody t) :
      IsLiteralBody (c :: t)
  | escaped {c : Char} {t : Text} (ht : IsLiteralBody t) : IsLiteralBody ('\\' :: c :: t)

namespace IsLiteralBody

theorem append {t u : Text} (ht : IsLiteralBody t) (hu : IsLiteralBody u) :
    IsLiteralBody (t ++ u) := by
  induction ht with
  | nil => exact hu
  | plain hc _ ih => exact .plain hc ih
  | escaped _ ih => exact .escaped ih

theorem of_plain {t : Text} (h : ∀ c ∈ t, ¬(c = '\\' ∨ c = '"')) : IsLiteralBody t := by
  induction t with
  | nil => exact .nil
  | cons c t ih =>
    rw [List.forall_mem_cons] at h
    exact .plain h.1 (ih h.2)

theorem of_all {t : Text} (h : t.all (fun c => c != '\\' && c != '"') = true) :
    IsLiteralBody t :=
  of_plain fun c hc => by simpa [not_or] using List.all_eq_true.1 h c hc

theorem literalBody (t : Text) : IsLiteralBody (literalBody t) := by
  induction t with
  | nil => exact .nil
  | cons c t ih =>
    by_cases h : c = '\\' ∨ c = '"'
    · rw [literalBody_cons_of_special h]
      exact .escaped ih
    · rw [literalBody_cons_of_plain h]
      exact .plain h ih

/-- **A literal reaches to the quote behind its body**, and to none before. -/
theorem literalAt?_eq {t : Text} (ht : IsLiteralBody t) (rest : Text) :
    literalAt? (t ++ '"' :: rest) = some (t, rest) := by
  induction ht with
  | nil => rfl
  | @plain c t hc _ ih =>
    rw [not_or] at hc
    rw [List.cons_append, literalAt?, ih]
    · rfl
    · exact hc.2
    · intro d u e
      exact absurd e hc.1
  | escaped _ ih =>
    rw [List.cons_append, List.cons_append, literalAt?, ih]
    rfl

theorem flatMap_continued {chunks : List Text} {continuation : Text}
    (hchunks : ∀ chunk ∈ chunks, IsLiteralBody chunk) (hcontinuation : IsLiteralBody continuation) :
    IsLiteralBody (chunks.flatMap (· ++ continuation)) := by
  induction chunks with
  | nil => exact .nil
  | cons chunk chunks ih =>
    rw [List.forall_mem_cons] at hchunks
    rw [List.flatMap_cons]
    exact (hchunks.1.append hcontinuation).append (ih hchunks.2)

end IsLiteralBody

/-- The first literal begins at the first quote. -/
theorem firstLiteral?_eq {before body : Text} (hbefore : '"' ∉ before) (hbody : IsLiteralBody body)
    (continuation after : Text) :
    firstLiteral? continuation (before ++ '"' :: (body ++ '"' :: after)) =
      unescape (without continuation body) := by
  have hquote : ∀ c ∈ before, (c != '"') = true := fun c hc =>
    bne_iff_ne.2 fun e => hbefore (e ▸ hc)
  have hdrop : (before ++ '"' :: (body ++ '"' :: after)).dropWhile (· != '"') =
      '"' :: (body ++ '"' :: after) := by
    rw [List.dropWhile_append_of_pos hquote]
    rfl
  rw [firstLiteral?, hdrop]
  simp only [hbody.literalAt?_eq, Option.bind_some]

/-! ## Continued lines -/

theorem withoutBehind_append (mark u t : Text) :
    withoutBehind mark u.length (u ++ t) = without mark t := by
  induction u with
  | nil => rfl
  | cons c u ih => exact ih

/-- The mark ends a line, and none ends before that. -/
def EndsLine (mark : Text) : Prop := ∃ front, mark = front ++ ['\n'] ∧ '\n' ∉ front

theorem without_eq_self {mark t : Text} (hmark : EndsLine mark) (ht : '\n' ∉ t) :
    without mark t = t := by
  obtain ⟨front, rfl, -⟩ := hmark
  unfold without
  induction t with
  | nil => rfl
  | cons c t ih =>
    have hstart : ¬ startsWith (front ++ ['\n']) (c :: t) = true := by
      rw [startsWith_iff]
      intro h
      exact ht (h.mem (List.mem_append_right _ (List.mem_singleton_self _)))
    rw [withoutBehind, if_neg hstart, ih fun h => ht (List.mem_cons_of_mem _ h)]

/-- A mark that ends a line begins nowhere in front of it but where it stands. -/
theorem not_prefix_append {front t rest : Text} {c : Char} (hfront : '\n' ∉ front)
    (ht : '\n' ∉ c :: t) : ¬ front ++ ['\n'] <+: c :: t ++ (front ++ '\n' :: rest) := by
  -- the first line feed would stand both behind `front` and further down
  rintro ⟨behind, h⟩
  rw [List.append_assoc, List.singleton_append, ← List.append_assoc] at h
  have hno : ∀ {u : Text}, '\n' ∉ u → ∀ d ∈ u, (d == '\n') = false := by
    intro u hu d hd
    exact beq_eq_false_iff_ne.2 fun e => hu (e ▸ hd)
  have hboth : '\n' ∉ c :: t ++ front := by
    intro hmem
    rcases List.mem_append.1 hmem with hmem | hmem
    · exact ht hmem
    · exact hfront hmem
  obtain ⟨hcut, -, -⟩ := append_cons_inj_of_first (p := (· == '\n')) (hno hfront) rfl (hno hboth)
    rfl h
  have hlength := congrArg List.length hcut
  simp only [List.cons_append, List.length_cons, List.length_append] at hlength
  omega

theorem without_append {mark t : Text} (hmark : EndsLine mark) (ht : '\n' ∉ t) (rest : Text) :
    without mark (t ++ (mark ++ rest)) = t ++ without mark rest := by
  obtain ⟨front, rfl, hfront⟩ := hmark
  induction t with
  | nil =>
    obtain ⟨c, u, hmark⟩ : ∃ c u, front ++ ['\n'] = c :: u :=
      List.exists_cons_of_ne_nil (List.append_ne_nil_of_right_ne_nil _ (List.cons_ne_nil _ _))
    have hstart : startsWith (c :: u) (c :: (u ++ rest)) = true :=
      startsWith_iff.2 (List.prefix_append (c :: u) rest)
    rw [hmark, List.nil_append, List.nil_append, without, List.cons_append, withoutBehind,
      if_pos hstart]
    exact withoutBehind_append (c :: u) u rest
  | cons c t ih =>
    have hstart :
        ¬ startsWith (front ++ ['\n']) (c :: (t ++ ((front ++ ['\n']) ++ rest))) = true := by
      rw [startsWith_iff, List.append_assoc, List.singleton_append]
      exact not_prefix_append hfront ht
    rw [List.cons_append, without, withoutBehind, if_neg hstart]
    exact congrArg (c :: ·) (ih fun h => ht (List.mem_cons_of_mem _ h))

/-- A mark begins in no text that lacks its first character. -/
theorem without_append_of_not_mem {c : Char} {mark gap : Text} (hgap : c ∉ gap) (rest : Text) :
    without (c :: mark) (gap ++ rest) = gap ++ without (c :: mark) rest := by
  induction gap with
  | nil => rfl
  | cons d gap ih =>
    have hstart : ¬ startsWith (c :: mark) (d :: (gap ++ rest)) = true := by
      rw [startsWith_iff]
      intro h
      exact hgap ((List.cons_prefix_cons.1 h).1 ▸ List.mem_cons_self ..)
    rw [List.cons_append, without, withoutBehind, if_neg hstart]
    exact congrArg (d :: ·) (ih fun h => hgap (List.mem_cons_of_mem _ h))

/-- A line in which no mark stands that begins with the character and ends the line: behind a gap
without this character, no line ends. -/
def IsUnbroken (c : Char) (line : Text) : Prop :=
  ∃ gap body, line = gap ++ body ∧ c ∉ gap ∧ '\n' ∉ body

theorem IsUnbroken.of_not_mem {c : Char} {line : Text} (h : '\n' ∉ line) : IsUnbroken c line :=
  ⟨[], line, rfl, List.not_mem_nil, h⟩

/-- **Continued lines are put together**, if none of them is broken. -/
theorem without_continued {c : Char} {mark : Text} (hmark : EndsLine (c :: mark))
    {chunks : List Text} {last : Text} (hchunks : ∀ chunk ∈ chunks, IsUnbroken c chunk)
    (hlast : IsUnbroken c last) :
    without (c :: mark) (chunks.flatMap (· ++ c :: mark) ++ last) = chunks.flatten ++ last := by
  induction chunks with
  | nil =>
    obtain ⟨gap, body, rfl, hgap, hbody⟩ := hlast
    rw [List.flatMap_nil, List.nil_append, without_append_of_not_mem hgap,
      without_eq_self hmark hbody]
    rfl
  | cons chunk chunks ih =>
    rw [List.forall_mem_cons] at hchunks
    obtain ⟨gap, body, rfl, hgap, hbody⟩ := hchunks.1
    rw [List.flatMap_cons, List.append_assoc, List.append_assoc, List.append_assoc,
      without_append_of_not_mem hgap, without_append hmark hbody, ih hchunks.2, List.flatten_cons]
    simp only [List.append_assoc]

end TableBinding.Text
