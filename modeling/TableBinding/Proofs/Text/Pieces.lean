import Mathlib.Data.List.DropRight
import TableBinding.Text.Blank
import TableBinding.Text.Lines

/-!
# Splitting, joining and trimming

`Text.splitWhen` is the splitting of the standard library (`splitWhen_eq_splitOnP`), so what is
known about that holds here. On top of that: joined pieces are split again into the same pieces
(`splitWhen_join`), joined words are read back as these words (`words_join`), ended lines as these
lines (`lines_ended`), and where a text ends with a line, the lines of what follows follow its own
(`lines_append`). A text is *tight* if it neither begins nor ends with a gap; trimming
leaves such a text alone (`trimGaps_eq_self`).
-/

namespace TableBinding.Text

/-! ## Splitting and joining -/

theorem splitWhen_eq_splitOnP (p : Char → Bool) (t : Text) : splitWhen p t = t.splitOnP p := by
  induction t with
  | nil => rfl
  | cons c t ih => rw [splitWhen, List.splitOnP_cons_eq_if_modifyHead, ih]

/-- There is a first piece, and it begins the text; the others stand further on in it. -/
theorem exists_splitWhen_eq_cons (p : Char → Bool) (t : Text) :
    ∃ first others, splitWhen p t = first :: others ∧ first <+: t ∧
      ∀ piece ∈ others, piece <:+: t := by
  induction t with
  | nil => exact ⟨[], [], rfl, List.prefix_rfl, fun _ h => absurd h List.not_mem_nil⟩
  | cons c t ih =>
    obtain ⟨first, others, hpieces, hfirst, hothers⟩ := ih
    have htail : t <:+: c :: t := (List.suffix_cons c t).isInfix
    rw [splitWhen, hpieces]
    by_cases hc : p c = true
    · refine ⟨[], first :: others, if_pos hc, List.nil_prefix, fun piece hpiece => ?_⟩
      rcases List.mem_cons.1 hpiece with rfl | hpiece
      · exact hfirst.isInfix.trans htail
      · exact (hothers piece hpiece).trans htail
    · exact ⟨c :: first, others, if_neg hc, (List.prefix_cons_inj c).2 hfirst,
        fun piece hpiece => (hothers piece hpiece).trans htail⟩

theorem isInfix_of_mem_splitWhen {p : Char → Bool} {t piece : Text} (h : piece ∈ splitWhen p t) :
    piece <:+: t := by
  obtain ⟨first, others, hpieces, hfirst, hothers⟩ := exists_splitWhen_eq_cons p t
  rw [hpieces] at h
  rcases List.mem_cons.1 h with rfl | h
  · exact hfirst.isInfix
  · exact hothers piece h

theorem not_of_mem_splitWhen {p : Char → Bool} {t piece : Text} (h : piece ∈ splitWhen p t) :
    ∀ c ∈ piece, p c = false := by
  induction t generalizing piece with
  | nil =>
    cases List.mem_singleton.1 h
    exact fun c hc => absurd hc List.not_mem_nil
  | cons c t ih =>
    obtain ⟨first, others, hpieces, -, -⟩ := exists_splitWhen_eq_cons p t
    rw [hpieces] at ih
    rw [splitWhen, hpieces] at h
    by_cases hc : p c = true
    · rw [if_pos hc] at h
      rcases List.mem_cons.1 h with rfl | h
      · exact fun c hc => absurd hc List.not_mem_nil
      · exact ih h
    · rw [if_neg hc, List.modifyHead_cons] at h
      rcases List.mem_cons.1 h with rfl | h
      · intro d hd
        rcases List.mem_cons.1 hd with rfl | hd
        · exact Bool.eq_false_iff.2 hc
        · exact ih (List.mem_cons_self ..) d hd
      · exact ih (List.mem_cons_of_mem _ h)

theorem exists_mem_splitWhen {p : Char → Bool} {t : Text} {c : Char} (hc : c ∈ t)
    (hp : p c = false) : ∃ piece ∈ splitWhen p t, c ∈ piece := by
  induction t with
  | nil => exact absurd hc List.not_mem_nil
  | cons d t ih =>
    obtain ⟨first, others, hpieces, -, -⟩ := exists_splitWhen_eq_cons p t
    rw [hpieces] at ih
    rw [splitWhen, hpieces]
    by_cases hd : p d = true
    · rw [if_pos hd]
      rcases List.mem_cons.1 hc with rfl | hc
      · exact absurd hd (Bool.eq_false_iff.1 hp)
      · obtain ⟨piece, hpiece, hmem⟩ := ih hc
        exact ⟨piece, List.mem_cons_of_mem _ hpiece, hmem⟩
    · rw [if_neg hd, List.modifyHead_cons]
      rcases List.mem_cons.1 hc with rfl | hc
      · exact ⟨_, List.mem_cons_self .., List.mem_cons_self ..⟩
      · obtain ⟨piece, hpiece, hmem⟩ := ih hc
        rcases List.mem_cons.1 hpiece with rfl | hpiece
        · exact ⟨_, List.mem_cons_self .., List.mem_cons_of_mem _ hmem⟩
        · exact ⟨piece, List.mem_cons_of_mem _ hpiece, hmem⟩

/-- **Joined pieces are split again into the same pieces**, if none of them holds a character that
is split at. -/
theorem splitWhen_join {p : Char → Bool} {separator : Char} (hp : p separator = true)
    {ts : List Text} (hts : ts ≠ []) (h : ∀ t ∈ ts, ∀ c ∈ t, p c = false) :
    splitWhen p (join [separator] ts) = ts := by
  fun_induction join [separator] ts with
  | case1 => exact absurd rfl hts
  | case2 t =>
    rw [splitWhen_eq_splitOnP, List.splitOnP_eq_singleton (h t (List.mem_singleton_self t))]
  | case3 t u rest ih =>
    rw [splitWhen_eq_splitOnP, List.append_assoc, List.singleton_append,
      List.splitOnP_append_cons_of_forall_mem (h t (List.mem_cons_self ..)) _ hp,
      ← splitWhen_eq_splitOnP,
      ih (List.cons_ne_nil _ _) fun v hv => h v (List.mem_cons_of_mem _ hv)]

/-- Texts with a separator behind each are these texts joined, and one separator more. -/
theorem flatMap_append_separator {ts : List Text} (hne : ts ≠ []) (separator : Text) :
    ts.flatMap (· ++ separator) = join separator ts ++ separator := by
  fun_induction join separator ts with
  | case1 => exact absurd rfl hne
  | case2 t => exact List.flatMap_singleton ..
  | case3 t u rest ih =>
    rw [List.flatMap_cons, ih (List.cons_ne_nil _ _)]
    simp only [List.append_assoc]

/-- Without the last comma, texts with a comma behind each are joined by commas. -/
theorem dropLast_flatMap_comma {α : Type} (text : α → Text) (xs : List α) :
    (xs.flatMap fun x => text x ++ [',']).dropLast = join "," (xs.map text) := by
  cases xs with
  | nil => rfl
  | cons x xs =>
    have hjoin := flatMap_append_separator (List.cons_ne_nil (text x) (xs.map text)) ","
    have hcomma : ("," : Text) = [','] := by decide
    rw [← List.map_cons, List.flatMap_map, hcomma] at hjoin
    rw [hjoin, List.dropLast_concat, hcomma]

theorem mem_join {separator : Text} {ts : List Text} {c : Char} (h : c ∈ join separator ts) :
    c ∈ separator ∨ ∃ t ∈ ts, c ∈ t := by
  fun_induction join separator ts with
  | case1 => exact absurd h List.not_mem_nil
  | case2 t => exact .inr ⟨t, List.mem_singleton_self t, h⟩
  | case3 t u rest ih =>
    rcases List.mem_append.1 h with h | h
    · rcases List.mem_append.1 h with h | h
      · exact .inr ⟨t, List.mem_cons_self .., h⟩
      · exact .inl h
    · rcases ih h with h | ⟨v, hv, hc⟩
      · exact .inl h
      · exact .inr ⟨v, List.mem_cons_of_mem _ hv, hc⟩

/-! ## Words -/

theorem isBlank_of_isGap {c : Char} (h : isGap c = true) : isBlank c = true := by
  rw [isGap, Bool.or_eq_true, beq_iff_eq, beq_iff_eq] at h
  rcases h with rfl | rfl <;> decide

theorem mem_words {t w : Text} (h : w ∈ words t) :
    w ≠ [] ∧ (∀ c ∈ w, isBlank c = false) ∧ ∀ c ∈ w, c ∈ t := by
  obtain ⟨hmem, hne⟩ := List.mem_filter.1 h
  refine ⟨by simpa using hne, not_of_mem_splitWhen hmem, ?_⟩
  exact fun c hc => (isInfix_of_mem_splitWhen hmem).mem hc

theorem words_ne_nil {t : Text} {c : Char} (hc : c ∈ t) (hb : isBlank c = false) :
    words t ≠ [] := by
  obtain ⟨piece, hpiece, hmem⟩ := exists_mem_splitWhen hc hb
  have hne : piece ≠ [] := List.ne_nil_of_mem hmem
  exact List.ne_nil_of_mem (List.mem_filter.2 ⟨hpiece, by simpa using hne⟩)

/-- **Joined words are read back as these words.** -/
theorem words_join {ws : List Text} (hne : ws ≠ [])
    (h : ∀ w ∈ ws, w ≠ [] ∧ ∀ c ∈ w, isBlank c = false) : words (join [' '] ws) = ws := by
  rw [words, splitWhen_join (by decide) hne fun w hw => (h w hw).2]
  exact List.filter_eq_self.2 fun w hw => by simpa using (h w hw).1

theorem squeeze_join {ws : List Text} (hne : ws ≠ [])
    (h : ∀ w ∈ ws, w ≠ [] ∧ ∀ c ∈ w, isBlank c = false) :
    squeeze (join [' '] ws) = join [' '] ws := by
  rw [squeeze, words_join hne h]

/-! ## Lines -/

/-- The pieces of ended lines are these lines and the empty text behind the last of them. -/
theorem splitWhen_ended {ls : List Text} (h : ∀ l ∈ ls, '\n' ∉ l) :
    splitWhen (· == '\n') (ls.flatMap (· ++ ['\n'])) = ls ++ [[]] := by
  induction ls with
  | nil => rfl
  | cons l ls ih =>
    have hl : ∀ c ∈ l, (c == '\n') = false := by
      intro c hc
      exact beq_eq_false_iff_ne.2 fun e => h l (List.mem_cons_self ..) (e ▸ hc)
    rw [List.flatMap_cons, List.append_assoc, List.singleton_append, splitWhen_eq_splitOnP,
      List.splitOnP_append_cons_of_forall_mem hl _ (beq_self_eq_true _), ← splitWhen_eq_splitOnP,
      ih fun l hl => h l (List.mem_cons_of_mem _ hl), List.cons_append]

/-- What is ended is a line, whatever follows. -/
theorem linesOfPieces_append (pieces : List Text) {rest : List Text} (hrest : rest ≠ []) :
    linesOfPieces (pieces ++ rest) = pieces.map dropReturn ++ linesOfPieces rest := by
  induction pieces with
  | nil => rfl
  | cons piece pieces ih =>
    obtain ⟨next, others, hnext⟩ : ∃ next others, pieces ++ rest = next :: others :=
      List.exists_cons_of_ne_nil (List.append_ne_nil_of_right_ne_nil _ hrest)
    rw [List.cons_append, hnext, linesOfPieces, ← hnext, ih, List.map_cons, List.cons_append]

/-- **Ended lines are read back as these lines**, if none of them holds a line feed or ends with a
carriage return. -/
theorem lines_ended {ls : List Text} (h : ∀ l ∈ ls, '\n' ∉ l ∧ l.getLast? ≠ some '\r') :
    lines (ls.flatMap (· ++ ['\n'])) = ls := by
  rw [lines, splitWhen_ended fun l hl => (h l hl).1,
    linesOfPieces_append ls (List.cons_ne_nil _ _), linesOfPieces, if_pos List.isEmpty_nil,
    List.append_nil]
  calc ls.map dropReturn = ls.map id := List.map_congr_left fun l hl => if_neg (h l hl).2
    _ = ls := List.map_id ls

theorem splitWhen_append_cons {p : Char → Bool} {separator : Char} (hp : p separator = true)
    (t u : Text) : splitWhen p (t ++ separator :: u) = splitWhen p t ++ splitWhen p u := by
  induction t with
  | nil => exact if_pos hp
  | cons c t ih =>
    rw [List.cons_append, splitWhen, splitWhen, ih]
    by_cases hc : p c = true
    · rw [if_pos hc, if_pos hc, List.cons_append]
    · obtain ⟨first, others, hpieces, -, -⟩ := exists_splitWhen_eq_cons p t
      rw [if_neg hc, if_neg hc, hpieces, List.cons_append, List.modifyHead_cons,
        List.modifyHead_cons, List.cons_append]

/-- **The lines of two texts in a row** are those of the first and those of the second, if no line
of the first is left unended. -/
theorem lines_append {t : Text} (ht : t = [] ∨ t.getLast? = some '\n') (u : Text) :
    lines (t ++ u) = lines t ++ lines u := by
  rcases ht with rfl | ht
  · rfl
  · obtain ⟨front, rfl⟩ := List.getLast?_eq_some_iff.1 ht
    have hcut : ∀ rest : Text, splitWhen (· == '\n') (front ++ '\n' :: rest) =
        splitWhen (· == '\n') front ++ splitWhen (· == '\n') rest :=
      fun rest => splitWhen_append_cons rfl front rest
    obtain ⟨first, others, hpieces, -, -⟩ := exists_splitWhen_eq_cons (· == '\n') u
    have hu : splitWhen (· == '\n') u ≠ [] := hpieces ▸ List.cons_ne_nil first others
    have hnil : splitWhen (· == '\n') [] ≠ [] := List.cons_ne_nil _ _
    simp only [lines, List.append_assoc, List.singleton_append]
    rw [hcut, hcut, linesOfPieces_append _ hu, linesOfPieces_append _ hnil]
    simp only [splitWhen, linesOfPieces, List.isEmpty_nil, if_true, List.append_nil]

/-! ## Trimming -/

def IsGaps (t : Text) : Prop := ∀ c ∈ t, isGap c = true

theorem isGaps_nil : IsGaps [] := fun _ h => absurd h List.not_mem_nil

theorem isGaps_space : IsGaps [' '] := fun c h => by
  cases List.mem_singleton.1 h
  decide

theorem IsGaps.append {t u : Text} (ht : IsGaps t) (hu : IsGaps u) : IsGaps (t ++ u) := fun c hc =>
  (List.mem_append.1 hc).elim (ht c) (hu c)

/-- Neither the first nor the last character is a gap. -/
structure IsTight (t : Text) : Prop where
  head : ∀ c ∈ t.head?, isGap c = false
  last : ∀ c ∈ t.getLast?, isGap c = false

/-- A text is cut in two where behind it all characters satisfy `p`, and right in front one does
not. -/
theorem rdropWhile_rtakeWhile_append {p : Char → Bool} {t u : Text}
    (ht : ∀ c ∈ t.getLast?, p c = false) (hu : ∀ c ∈ u, p c = true) :
    (t ++ u).rdropWhile p = t ∧ (t ++ u).rtakeWhile p = u := by
  have hrev : ∀ c ∈ u.reverse, p c = true := fun c hc => hu c (List.mem_reverse.1 hc)
  have hdrop : t.rdropWhile p = t := List.rdropWhile_eq_self_iff.2 fun hne =>
    Bool.eq_false_iff.1 (ht _ (List.getLast_mem_getLast? hne))
  have htake : t.rtakeWhile p = [] := List.rtakeWhile_eq_nil_iff.2 fun hne =>
    Bool.eq_false_iff.1 (ht _ (List.getLast_mem_getLast? hne))
  constructor
  · rw [List.rdropWhile, List.reverse_append, List.dropWhile_append_of_pos hrev]
    exact hdrop
  · rw [List.rtakeWhile, List.reverse_append, List.takeWhile_append_of_pos hrev,
      List.reverse_append, List.reverse_reverse]
    rw [List.rtakeWhile] at htake
    rw [htake, List.nil_append]

theorem dropGapsEnd_eq_self {t : Text} (h : ∀ c ∈ t.getLast?, isGap c = false) :
    dropGapsEnd t = t := by
  refine List.rdropWhile_eq_self_iff.2 fun hne => ?_
  rw [h _ (List.getLast_mem_getLast? hne)]
  decide

theorem dropGapsEnd_append {t gaps : Text} (h : IsGaps gaps) :
    dropGapsEnd (t ++ gaps) = dropGapsEnd t := by
  have hrev : IsGaps gaps.reverse := fun c hc => h c (List.mem_reverse.1 hc)
  rw [dropGapsEnd, List.reverse_append, List.dropWhile_append_of_pos hrev, dropGapsEnd]

theorem exists_eq_dropGapsEnd_append (t : Text) :
    ∃ gaps, t = dropGapsEnd t ++ gaps ∧ IsGaps gaps ∧
      ∀ c ∈ (dropGapsEnd t).getLast?, isGap c = false := by
  refine ⟨t.rtakeWhile isGap, List.rdropWhile_append_rtakeWhile.symm,
    fun c => List.mem_rtakeWhile_imp, fun c hc => ?_⟩
  obtain ⟨hne, rfl⟩ := List.mem_getLast?_eq_getLast hc
  exact Bool.eq_false_iff.2 (List.rdropWhile_last_not isGap t hne)

theorem dropGaps_eq_self {t : Text} (h : ∀ c ∈ t.head?, isGap c = false) : dropGaps t = t := by
  cases t with
  | nil => rfl
  | cons c t => exact List.dropWhile_cons_of_neg (Bool.eq_false_iff.1 (h c rfl))

theorem dropGaps_append {gaps t : Text} (h : IsGaps gaps) :
    dropGaps (gaps ++ t) = dropGaps t := List.dropWhile_append_of_pos h

theorem exists_eq_append_dropGaps (t : Text) :
    ∃ gaps, t = gaps ++ dropGaps t ∧ IsGaps gaps ∧
      ∀ c ∈ (dropGaps t).head?, isGap c = false := by
  refine ⟨t.takeWhile isGap, List.takeWhile_append_dropWhile.symm,
    fun c => List.mem_takeWhile_imp, fun c hc => ?_⟩
  have h := List.head?_dropWhile_not isGap t
  rw [show List.dropWhile isGap t = dropGaps t from rfl, Option.mem_def.1 hc] at h
  exact h

/-- Gaps in front of a text that does not begin with one are cut off in one way only. -/
theorem IsGaps.append_inj {gaps gaps' t t' : Text} (hgaps : IsGaps gaps) (hgaps' : IsGaps gaps')
    (ht : ∀ c ∈ t.head?, isGap c = false) (ht' : ∀ c ∈ t'.head?, isGap c = false)
    (h : gaps ++ t = gaps' ++ t') : gaps = gaps' ∧ t = t' := by
  have hdrop := congrArg dropGaps h
  rw [dropGaps_append hgaps, dropGaps_append hgaps', dropGaps_eq_self ht, dropGaps_eq_self ht']
    at hdrop
  subst hdrop
  exact ⟨List.append_cancel_right h, rfl⟩

/-- **Trimming cuts gaps off at both ends**, as many as there are. -/
theorem exists_eq_append_trimGaps (t : Text) :
    ∃ front back, t = front ++ trimGaps t ++ back ∧ IsGaps front ∧ IsGaps back ∧
      IsTight (trimGaps t) := by
  obtain ⟨front, hfront, hgaps, hhead⟩ := exists_eq_append_dropGaps t
  obtain ⟨back, hback, hgaps', hlast⟩ := exists_eq_dropGapsEnd_append (dropGaps t)
  refine ⟨front, back, ?_, hgaps, hgaps', fun c hc => ?_, hlast⟩
  · rw [trimGaps, List.append_assoc, ← hback, ← hfront]
  · rw [hback, List.head?_append, show dropGapsEnd (dropGaps t) = trimGaps t from rfl,
      Option.mem_def.1 hc] at hhead
    exact hhead c rfl

/-- What stands between gaps is found by trimming. -/
theorem trimGaps_append {front t back : Text} (hfront : IsGaps front) (hback : IsGaps back)
    (ht : IsTight t) : trimGaps (front ++ t ++ back) = t := by
  rw [trimGaps, List.append_assoc, dropGaps_append hfront]
  cases t with
  | nil =>
    rw [List.nil_append, ← List.append_nil back, dropGaps_append hback]
    rfl
  | cons c t =>
    have hhead : ∀ d ∈ ((c :: t) ++ back).head?, isGap d = false := fun d hd => ht.head d hd
    rw [dropGaps_eq_self hhead, dropGapsEnd_append hback, dropGapsEnd_eq_self ht.last]

theorem trimGaps_eq_self {t : Text} (ht : IsTight t) : trimGaps t = t := by
  have h := trimGaps_append isGaps_nil isGaps_nil ht
  rw [List.nil_append, List.append_nil] at h
  exact h

/-! ## Blanks at the ends -/

theorem isBlank_head?_trimStart (t : Text) : ∀ c ∈ (trimStart t).head?, isBlank c = false := by
  intro c hc
  have h := List.head?_dropWhile_not isBlank t
  rw [show List.dropWhile isBlank t = trimStart t from rfl, Option.mem_def.1 hc] at h
  exact h

theorem isBlank_getLast?_trimEnd (t : Text) : ∀ c ∈ (trimEnd t).getLast?, isBlank c = false := by
  intro c hc
  obtain ⟨hne, rfl⟩ := List.mem_getLast?_eq_getLast hc
  exact Bool.eq_false_iff.2 (List.rdropWhile_last_not isBlank t hne)

theorem trimStart_eq_self {t : Text} (h : ∀ c ∈ t.head?, isBlank c = false) : trimStart t = t := by
  cases t with
  | nil => rfl
  | cons c t => exact List.dropWhile_cons_of_neg (Bool.eq_false_iff.1 (h c rfl))

/-- What is trimmed has no blanks at its ends any more. -/
theorem trim_trim (t : Text) : trim (trim t) = trim t := by
  have hhead : ∀ c ∈ (trim t).head?, isBlank c = false := by
    intro c hc
    obtain ⟨blanks, hblanks⟩ : trim t <+: trimStart t := List.rdropWhile_prefix isBlank _
    refine isBlank_head?_trimStart t c ?_
    rw [← hblanks, List.head?_append, Option.mem_def.1 hc]
    rfl
  have hend : trimEnd (trim t) = trim t :=
    List.rdropWhile_eq_self_iff.2 fun hne => List.rdropWhile_last_not isBlank (trimStart t) hne
  rw [trim, trimStart_eq_self hhead, hend]

end TableBinding.Text
