import TableBinding.Class.Definition
import TableBinding.Proofs.Annotation.CanonicalField

/-!
# Rewritten field lines

A field that was read can be written in two ways: with its canonical annotation, and as the member
line of the generated class. Both are field lines again, and declare the same field
(`Field.read_rewritten`), so that a generated class can serve as a declaration of itself.
-/

namespace TableBinding

open Text

namespace Field

variable {s : Spelling} {d : Char} {line : SourceLine} {f : Field}

/-- The line that declares a field by its canonical annotation. -/
def rewrittenLine (s : Spelling) (f : Field) : Text :=
  f.hostType ++ " " ++ f.name ++ "; " ++ f.canonicalAnnotation s

theorem rewrittenLine_eq (s : Spelling) (f : Field) :
    f.rewrittenLine s = [] ++ (f.hostType ++ [' '] ++ f.name) ++ [] ++
      ';' :: ([' '] ++ f.canonicalAnnotation s) := by
  have hline : f.rewrittenLine s =
      f.hostType ++ [' '] ++ f.name ++ [';', ' '] ++ f.canonicalAnnotation s := rfl
  rw [hline]
  simp only [List.append_assoc, List.nil_append, List.cons_append]

/-- With the comment mark of the generated text, a member line is a field line. -/
theorem memberLine_eq (hcomment : s.comment = "//") (indent : Text) (f : Field) :
    indent ++ (f.memberLine s).text = indent ++ (f.hostType ++ [' '] ++ f.name) ++ [] ++
      ';' :: ([] ++ f.canonicalAnnotation s) := by
  have hmember : (f.memberLine s).text =
      f.hostType ++ [' '] ++ f.name ++ [';', '/', '/'] ++ s.delimit (f.canonicalOptions s) := rfl
  have hannotation : f.canonicalAnnotation s =
      ['/', '/'] ++ s.delimit (f.canonicalOptions s) := by
    unfold canonicalAnnotation
    rw [hcomment]
    rfl
  rw [hmember, hannotation]
  simp only [List.append_assoc, List.nil_append, List.cons_append]

theorem line_memberLine (l : Layout) (s : Spelling) (f : Field) :
    l.line (f.memberLine s) = l.indent ++ (f.memberLine s).text ++ l.lineEnding := by
  have hdepth : (List.replicate (f.memberLine s).depth l.indent).flatten = l.indent :=
    List.append_nil l.indent
  rw [Layout.line, hdepth]

/-- **A field that was read is read again from both of its written forms**, and its canonical
options are then the same: the extra options are kept as they are and in their order. -/
theorem read_rewritten (hs : s.Rewritable d) (h : read s line = .ok f) :
    (∀ number, read s { number, text := f.rewrittenLine s } = .ok f) ∧
    (s.comment = "//" → ∀ l : Layout, IsGaps l.indent →
      l.line (f.memberLine s) = l.indent ++ (f.memberLine s).text ++ l.lineEnding ∧
      ∀ number, read s { number, text := l.indent ++ (f.memberLine s).text } = .ok f) ∧
    ∀ number g, read s { number, text := f.rewrittenLine s } = .ok g →
      g.canonicalOptions s = f.canonicalOptions s ∧ g.extras = f.extras := by
  have hcanonical : ∀ number, read s { number, text := f.rewrittenLine s } = .ok f := by
    intro number
    exact read_canonical hs h isGaps_nil isGaps_space (rewrittenLine_eq s f)
  refine ⟨hcanonical, fun hcomment l hindent => ?_, fun number g hg => ?_⟩
  · refine ⟨line_memberLine l s f, fun number => ?_⟩
    exact read_canonical hs h hindent isGaps_nil (memberLine_eq hcomment l.indent f)
  · rw [hcanonical number] at hg
    cases hg
    exact ⟨rfl, rfl⟩

/-- A spelling in which column types are spelled as other options are by default. -/
def narrow : Spelling :=
  { delimiter := "|", tableMark := "TBL", datatypes := ["INTEGER", "NULL", "PK"] }

/-- A key column with options of every class, some of them twice. -/
def narrowLine : SourceLine :=
  { number := 7, text := "\tunsigned \t int id ;//|PRIMARY \tKEY,NULL, x  y,,NOT NULL,PK,\té|" }

def narrowField : Field :=
  { hostType := "unsigned int", name := "id", persisted := true, columnType := "PK",
    primaryKey := true, extras := ["x  y", "é"] }

theorem read_rewritten_narrow :
    read narrow narrowLine = .ok narrowField ∧
      narrowField.rewrittenLine narrow = "unsigned int id; //|PK,NOT NULL,PRIMARY KEY,x  y,é|" ∧
      (∀ number, read narrow { number, text := narrowField.rewrittenLine narrow } =
        .ok narrowField) ∧
      (narrowField.memberLine narrow).text =
        "unsigned int id;//|PK,NOT NULL,PRIMARY KEY,x  y,é|" ∧
      (∀ number, read narrow { number, text := ['\t'] ++ (narrowField.memberLine narrow).text } =
        .ok narrowField) := by
  have hnarrow : narrow.Rewritable '|' :=
    ⟨by decide, rfl, by decide, by decide, by decide, by decide⟩
  have hread : read narrow narrowLine = .ok narrowField := by decide +kernel
  have hindent : IsGaps ['\t'] := List.all_eq_true.1 rfl
  obtain ⟨hcanonical, hmember, -⟩ := read_rewritten hnarrow hread
  exact ⟨hread, rfl, hcanonical, rfl, (hmember rfl { indent := ['\t'] } hindent).2⟩

end Field

end TableBinding
