import TableBinding.Proofs.Annotation.Form

/-!
# The grammar of field lines

A field line is gaps, a type, gaps, a name, gaps, a semicolon, gaps, and an annotation whose options
reach to the first delimiter (`FieldCut`). A valid spelling reads a field from exactly the lines
that can be cut in this way, and reads the type, the name and the options of the cut; no line can be
cut in two ways (`FieldForm.read?_iff_unique_cut`). None of the tokens of the spelling has to differ
from the characters around it: the comment mark and the delimiter may hold gaps, semicolons and
letters, and the delimiter may overlap itself.

The shape of the argument: every boundary of a cut is found from the left. Gaps end where something
else begins (`IsGaps.append_inj`), the opening of an annotation fits at one place behind gaps
(`Spelling.Valid.opening_inj`), and the type, the name and the options are those that are read.
-/

namespace TableBinding

open Text

/-- A field line with all its boundaries. -/
structure FieldCut (s : Spelling) (line : Text) where
  before : Text
  hostType : Text
  between : Text
  name : Text
  behind : Text
  gaps : Text
  options : Text
  rest : Text
  line_eq : line = before ++ hostType ++ between ++ name ++ behind ++ [';'] ++ gaps ++ s.comment ++
    s.delimiter ++ options ++ s.delimiter ++ rest
  before_gaps : IsGaps before
  hostType_spells : SpellsType hostType
  between_ne_nil : between ≠ []
  between_gaps : IsGaps between
  name_isIdent : isIdent name = true
  behind_gaps : IsGaps behind
  gaps_gaps : IsGaps gaps
  options_line : '\n' ∉ options
  /-- The delimiter does not occur earlier behind the opening one. -/
  options_first : ∀ u, u ++ s.delimiter <+: options ++ s.delimiter ++ rest →
    options.length ≤ u.length

namespace FieldCut

variable {s : Spelling} {line : Text}

/-- What the line gives when it is cut in this way. -/
def form (cut : FieldCut s line) : FieldForm :=
  { hostType := cut.hostType, name := cut.name, options := cut.options }

theorem line_eq_append (cut : FieldCut s line) :
    line = cut.before ++ (cut.hostType ++ (cut.between ++ (cut.name ++ (cut.behind ++
      ';' :: (cut.gaps ++ (s.opening ++ (cut.options ++ (s.delimiter ++ cut.rest)))))))) := by
  have h := cut.line_eq
  simp only [List.append_assoc, List.singleton_append] at h
  simp only [Spelling.opening, List.append_assoc]
  exact h

theorem isFirstCut (cut : FieldCut s line) :
    IsFirstCut s.delimiter (cut.options ++ (s.delimiter ++ cut.rest)) cut.options := by
  rw [← List.append_assoc]
  exact ⟨cut.options_line, List.prefix_append _ _, cut.options_first⟩

theorem eq_of_parts {a b : FieldCut s line} (hbefore : a.before = b.before)
    (hform : a.form = b.form) (hbetween : a.between = b.between) (hbehind : a.behind = b.behind)
    (hgaps : a.gaps = b.gaps) (hrest : a.rest = b.rest) : a = b := by
  obtain ⟨htype, hname, hoptions⟩ := FieldForm.mk.inj hform
  cases a
  cases b
  simp only at hbefore htype hbetween hname hbehind hgaps hoptions hrest
  subst hbefore htype hbetween hname hbehind hgaps hoptions hrest
  rfl

theorem read?_eq (hs : s.Valid) (cut : FieldCut s line) :
    FieldForm.read? s line = some cut.form := by
  have h := @FieldForm.read?_append s hs cut.form _ _ _ _ _ cut.before_gaps
    cut.hostType_spells.isTypeWords cut.between_ne_nil cut.between_gaps cut.name_isIdent
    cut.behind_gaps cut.gaps_gaps cut.isFirstCut
  refine (congrArg (FieldForm.read? s) cut.line_eq_append).trans ?_
  simpa only [form, List.append_assoc] using h

theorem exists_of_read? {form : FieldForm} (h : FieldForm.read? s line = some form) :
    ∃ cut : FieldCut s line, cut.form = form := by
  obtain ⟨before, between, behind, gaps, tail, hline, hbefore, htype, hne, hbetween, hname, hbehind,
    hgaps, hline', ⟨rest, htail⟩, hfirst⟩ := FieldForm.exists_of_read? h
  refine ⟨{ before, hostType := form.hostType, between, name := form.name, behind, gaps,
            options := form.options, rest, line_eq := ?_, before_gaps := hbefore,
            hostType_spells := .of_isTypeWords htype, between_ne_nil := hne,
            between_gaps := hbetween, name_isIdent := hname, behind_gaps := hbehind,
            gaps_gaps := hgaps, options_line := hline', options_first := ?_ }, rfl⟩
  · rw [hline, ← htail]
    simp only [Spelling.opening, List.append_assoc, List.cons_append, List.nil_append]
  · rw [htail]
    exact hfirst

theorem unique (hs : s.Valid) (a b : FieldCut s line) : a = b := by
  have hform : a.form = b.form := by
    apply Option.some.inj
    rw [← read?_eq hs a, ← read?_eq hs b]
  obtain ⟨htype, hname, hoptions⟩ := FieldForm.mk.inj hform
  have hnogap : ∀ {t u : Text}, t ≠ [] → (∀ c ∈ t.head?, isGap c = false) →
      ∀ c ∈ (t ++ u).head?, isGap c = false := by
    intro t u hne ht c hc
    rw [List.head?_append_of_ne_nil _ hne] at hc
    exact ht c hc
  have hhost : ∀ (cut : FieldCut s line) (u : Text),
      ∀ c ∈ (cut.hostType ++ u).head?, isGap c = false := fun cut u =>
    hnogap cut.hostType_spells.isTypeWords.ne_nil cut.hostType_spells.isTypeWords.tight.head
  have hident : ∀ (cut : FieldCut s line) (u : Text),
      ∀ c ∈ (cut.name ++ u).head?, isGap c = false := fun cut u =>
    hnogap (mem_isIdent cut.name_isIdent).1 fun c hc =>
      isGap_eq_false_of_mem_isIdent cut.name_isIdent c (List.mem_of_head? hc)
  have hsemicolon : ∀ u : Text, ∀ c ∈ (';' :: u).head?, isGap c = false := by
    rintro u c ⟨⟩
    rfl
  -- boundary by boundary from the left
  obtain ⟨hbefore, h⟩ := IsGaps.append_inj a.before_gaps b.before_gaps (hhost a _) (hhost b _)
    (a.line_eq_append.symm.trans b.line_eq_append)
  rw [htype] at h
  obtain ⟨hbetween, h⟩ := IsGaps.append_inj a.between_gaps b.between_gaps (hident a _) (hident b _)
    (List.append_cancel_left h)
  rw [hname] at h
  obtain ⟨hbehind, h⟩ := IsGaps.append_inj a.behind_gaps b.behind_gaps (hsemicolon _) (hsemicolon _)
    (List.append_cancel_left h)
  obtain ⟨hgaps, h⟩ := hs.opening_inj a.gaps_gaps b.gaps_gaps (List.cons.inj h).2
  rw [hoptions] at h
  have hrest := List.append_cancel_left (List.append_cancel_left h)
  exact eq_of_parts hbefore hform hbetween hbehind hgaps hrest

end FieldCut

namespace FieldForm

/-- **A field is read from exactly the lines of the grammar**, and each has one cut. -/
theorem read?_iff_unique_cut {s : Spelling} (hs : s.Valid) (line : Text) :
    (∀ form, read? s line = some form ↔ ∃ cut : FieldCut s line, cut.form = form) ∧
      ∀ a b : FieldCut s line, a = b := by
  refine ⟨fun form => ⟨FieldCut.exists_of_read?, ?_⟩, FieldCut.unique hs⟩
  rintro ⟨cut, rfl⟩
  exact cut.read?_eq hs

/-- A comment mark that begins with a gap and holds a semicolon and a letter, and a delimiter that
overlaps itself and begins with that letter. -/
def overlapping : Spelling := { comment := "\t;a", delimiter := "aa" }

def overlappingLine : Text := " unsigned\tint  x1 ; \t;aaaTEXT, a 1aaa aa\n;"

theorem unique_cut_overlapping :
    overlapping.Valid ∧ ∃ cut : FieldCut overlapping overlappingLine,
      cut.form = { hostType := "unsigned\tint", name := "x1", options := "TEXT, a 1" } ∧
        ∀ other : FieldCut overlapping overlappingLine, other = cut := by
  have hvalid : overlapping.Valid := by decide
  obtain ⟨hread, hunique⟩ := read?_iff_unique_cut hvalid overlappingLine
  obtain ⟨cut, hcut⟩ := (hread _).1 (show read? overlapping overlappingLine =
    some { hostType := "unsigned\tint", name := "x1", options := "TEXT, a 1" } by decide +kernel)
  exact ⟨hvalid, cut, hcut, fun other => hunique other cut⟩

end FieldForm

end TableBinding
