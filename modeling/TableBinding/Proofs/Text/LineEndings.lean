import TableBinding.Class.Layout
import TableBinding.Class.Statement
import TableBinding.Proofs.Text.Literal

/-!
# Line endings

A text is in one line if it holds no line feed. Lines in one line, each behind its indentation, are
ended by what the layout says and by nothing else: with a carriage return and a line feed behind
each of them, the pairs are these endings, even where a line ends with a carriage return of its own
(`Layout.replacePair_render`), and no line feed stands without its carriage return
(`Layout.returned_render`).
-/

namespace TableBinding

open Text

/-- The text holds no line feed. -/
def Text.OneLine (t : Text) : Prop := '\n' ∉ t

namespace Text

instance (t : Text) : Decidable (OneLine t) := inferInstanceAs (Decidable ('\n' ∉ t))

variable {t u : Text}

@[simp] theorem oneLine_nil : OneLine [] := List.not_mem_nil

@[simp] theorem oneLine_append : OneLine (t ++ u) ↔ OneLine t ∧ OneLine u := by
  simp [OneLine]

@[simp] theorem oneLine_flatMap {α : Type} {xs : List α} {text : α → Text} :
    OneLine (xs.flatMap text) ↔ ∀ x ∈ xs, OneLine (text x) := by
  simp [OneLine]

theorem OneLine.append (ht : OneLine t) (hu : OneLine u) : OneLine (t ++ u) :=
  oneLine_append.2 ⟨ht, hu⟩

theorem OneLine.join {separator : Text} {ts : List Text} (hseparator : OneLine separator)
    (h : ∀ t ∈ ts, OneLine t) : OneLine (join separator ts) := by
  intro hmem
  rcases mem_join hmem with hmem | ⟨t, ht, hmem⟩
  · exact hseparator hmem
  · exact h t ht hmem

theorem OneLine.literalBody (h : OneLine t) : OneLine (literalBody t) := by
  intro hmem
  rcases mem_literalBody hmem with hmem | hmem
  · exact absurd hmem (by decide)
  · exact h hmem

theorem OneLine.of_chars {p : Char → Bool} (h : ∀ c ∈ t, p c = true) (hp : p '\n' = false) :
    OneLine t := by
  intro hmem
  rw [h _ hmem] at hp
  cases hp

theorem oneLine_of_mem_linesOfPieces {pieces : List Text} (h : ∀ piece ∈ pieces, OneLine piece) :
    ∀ l ∈ linesOfPieces pieces, OneLine l := by
  have hdrop : ∀ piece : Text, OneLine piece → OneLine (dropReturn piece) := by
    intro piece hpiece
    unfold dropReturn
    split
    · exact fun hmem => hpiece (List.mem_of_mem_dropLast hmem)
    · exact hpiece
  induction pieces with
  | nil => exact fun _ hl => absurd hl List.not_mem_nil
  | cons piece pieces ih =>
    rw [List.forall_mem_cons] at h
    cases pieces with
    | nil =>
      intro l hl
      rw [linesOfPieces] at hl
      split at hl
      · exact absurd hl List.not_mem_nil
      · cases List.mem_singleton.1 hl
        exact h.1
    | cons next rest => exact List.forall_mem_cons.2 ⟨hdrop piece h.1, ih h.2⟩

/-- **A line of a text is in one line.** -/
theorem oneLine_of_mem_lines {l : Text} (h : l ∈ lines t) : OneLine l := by
  refine oneLine_of_mem_linesOfPieces (fun piece hpiece => ?_) l h
  exact .of_chars (p := (· != '\n')) (fun c hc => by simpa using not_of_mem_splitWhen hpiece c hc)
    (by decide)

theorem dropReturn_concat (t : Text) : dropReturn (t ++ ['\r']) = t := by
  rw [dropReturn, List.getLast?_concat, if_pos rfl, List.dropLast_concat]

theorem dropReturn_eq_self (h : t.getLast? ≠ some '\r') : dropReturn t = t := if_neg h

theorem dropReturn_append (t : Text) (hu : u ≠ []) :
    dropReturn (t ++ u) = t ++ dropReturn u := by
  rw [dropReturn, dropReturn, List.getLast?_append_of_ne_nil t hu,
    List.dropLast_append_of_ne_nil hu]
  split <;> rfl

theorem mem_dropReturn {c : Char} (h : c ∈ t) (hc : c ≠ '\r') : c ∈ dropReturn t := by
  unfold dropReturn
  split
  · next hlast =>
    obtain ⟨front, rfl⟩ := List.getLast?_eq_some_iff.1 hlast
    rw [List.dropLast_concat]
    exact (List.mem_append.1 h).resolve_right fun hmem => hc (List.mem_singleton.1 hmem)
  · exact h

/-- Only a carriage return at the end makes a line shorter. -/
theorem getLast?_ne_return (h : t.length ≤ (dropReturn t).length) : t.getLast? ≠ some '\r' := by
  intro hlast
  obtain ⟨front, rfl⟩ := List.getLast?_eq_some_iff.1 hlast
  rw [dropReturn_concat, List.length_append, List.length_singleton] at h
  exact Nat.not_succ_le_self _ h

/-- A line feed ends the line in front of it. -/
theorem OneLine.lines_append (ht : OneLine t) (u : Text) :
    lines (t ++ '\n' :: u) = dropReturn t :: lines u := by
  have hpiece : splitWhen (· == '\n') t = [t] := by
    rw [splitWhen_eq_splitOnP, List.splitOnP_eq_singleton]
    exact fun c hc => beq_eq_false_iff_ne.2 fun e => ht (e ▸ hc)
  obtain ⟨first, others, hpieces, -, -⟩ := exists_splitWhen_eq_cons (· == '\n') u
  have hu : splitWhen (· == '\n') u ≠ [] := hpieces ▸ List.cons_ne_nil first others
  rw [lines, splitWhen_append_cons rfl, hpiece, linesOfPieces_append _ hu]
  rfl

/-- **The lines of ended texts in one line** are these texts, up to a carriage return at the end. -/
theorem lines_flatMap_ended {ts : List Text} (h : ∀ t ∈ ts, OneLine t) :
    lines (ts.flatMap (· ++ ['\n'])) = ts.map dropReturn := by
  induction ts with
  | nil => rfl
  | cons t ts ih =>
    rw [List.forall_mem_cons] at h
    rw [List.flatMap_cons, List.append_assoc, List.singleton_append, h.1.lines_append, ih h.2,
      List.map_cons]

/-! ## Pairs -/

theorem replacePair_append_pair {a b : Char} (hab : a ≠ b) (new : Char) (ht : b ∉ t) (rest : Text) :
    replacePair a b new (t ++ a :: b :: rest) = t ++ new :: replacePair a b new rest := by
  induction t with
  | nil => exact if_pos ⟨rfl, rfl⟩
  | cons c t ih =>
    obtain ⟨hc, ht⟩ := not_or.1 (List.mem_cons.not.1 ht)
    rw [List.cons_append, List.cons_append, ← ih ht]
    -- what follows the first character begins with another one of the text, or with `a`
    obtain ⟨d, tail, htail, hd⟩ :
        ∃ d tail, t ++ a :: b :: rest = d :: tail ∧ d ≠ b := by
      cases t with
      | nil => exact ⟨a, b :: rest, rfl, hab⟩
      | cons d t => exact ⟨d, _, rfl, fun e => ht (e ▸ List.mem_cons_self ..)⟩
    rw [htail]
    exact if_neg fun h => hd h.2

/-- A carriage return stands in front of every line feed. -/
def Returned (t : Text) : Prop :=
  ∀ front back, t = front ++ '\n' :: back → front.getLast? = some '\r'

theorem returned_nil : Returned [] := by
  intro front back h
  exact absurd h.symm (List.append_ne_nil_of_right_ne_nil _ (List.cons_ne_nil _ _))

theorem returned_append_pair {rest : Text} (ht : OneLine t) (hrest : Returned rest) :
    Returned (t ++ '\r' :: '\n' :: rest) := by
  intro front back h
  have hreturn : OneLine (t ++ ['\r']) := ht.append (by decide)
  have hlast : (t ++ ['\r']).getLast? = some '\r' := List.getLast?_concat
  have hcut : (t ++ ['\r']) ++ '\n' :: rest = front ++ '\n' :: back := by
    rw [← h, List.append_assoc, List.singleton_append]
  rcases List.append_eq_append_iff.1 hcut with ⟨gap, rfl, hgap⟩ | ⟨gap, hfront, hgap⟩
  · cases gap with
    | nil => rw [List.append_nil, hlast]
    | cons c gap =>
      -- a later line feed stands in the rest
      obtain ⟨rfl, hrest'⟩ := List.cons.inj hgap
      have hlater := hrest gap back hrest'
      rw [List.getLast?_append, List.getLast?_cons, hlater]
      rfl
  · cases gap with
    | nil =>
      rw [List.append_nil] at hfront
      rw [← hfront, hlast]
    | cons c gap =>
      obtain ⟨rfl, -⟩ := List.cons.inj hgap
      exact absurd (hfront ▸ List.mem_append_right front (List.mem_cons_self ..)) hreturn

end Text

/-! ## Layouts -/

namespace Layout

variable {l : Layout} {lines : List Line}

/-- The layout with another line ending. -/
def ending (l : Layout) (lineEnding : Text) : Layout := { l with lineEnding }

/-- What stands on the line in front of its ending. -/
def front (l : Layout) (line : Line) : Text :=
  (List.replicate line.depth l.indent).flatten ++ line.text

theorem oneLine_front (hindent : OneLine l.indent) {line : Line} (h : OneLine line.text) :
    OneLine (l.front line) := by
  refine .append (fun hmem => ?_) h
  obtain ⟨step, hstep, hmem⟩ := List.mem_flatten.1 hmem
  exact hindent (List.eq_of_mem_replicate hstep ▸ hmem)

theorem render_ending_cons (lineEnding : Text) (line : Line) (lines : List Line) :
    (l.ending lineEnding).render (line :: lines) =
      l.front line ++ (lineEnding ++ (l.ending lineEnding).render lines) := by
  rw [render, List.flatMap_cons, Layout.line, List.append_assoc]
  rfl

/-- **Without their carriage returns, the endings are line feeds.** -/
theorem replacePair_render (hindent : OneLine l.indent)
    (hlines : ∀ line ∈ lines, OneLine line.text) :
    replacePair '\r' '\n' '\n' ((l.ending "\r\n").render lines) = (l.ending "\n").render lines := by
  induction lines with
  | nil => rfl
  | cons line lines ih =>
    rw [List.forall_mem_cons] at hlines
    have hfront := oneLine_front hindent hlines.1
    rw [render_ending_cons, render_ending_cons, ← ih hlines.2]
    exact replacePair_append_pair (by decide) '\n' hfront _

/-- **No ending lacks its carriage return.** -/
theorem returned_render (hindent : OneLine l.indent)
    (hlines : ∀ line ∈ lines, OneLine line.text) :
    Returned ((l.ending "\r\n").render lines) := by
  induction lines with
  | nil => exact returned_nil
  | cons line lines ih =>
    rw [List.forall_mem_cons] at hlines
    rw [render_ending_cons]
    exact returned_append_pair (oneLine_front hindent hlines.1) (ih hlines.2)

end Layout

end TableBinding
