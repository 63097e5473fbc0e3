import TableBinding.Proofs.Annotation.Course
import TableBinding.Proofs.Run.FirstFault

/-!
# Declaration files in a row

What is read from a declaration file does not depend on what stands in front of it. Behind another
file that ends with a line and leaves no struct open, a file gives the same structs and the same
faults, further down by the lines of the first (`Source.check_append`), and the two are read as one
(`Source.append_independent`). The reader may still be skipping at the end of the first file.

The shape of the argument: courses are put together (`Course.append`), and a course does not depend
on the numbers of its lines (`Course.shift`).
-/

namespace TableBinding

open Text

/-! ## Further down -/

namespace Fault

/-- The fault, that many lines further down. -/
def shift (k : Nat) : Fault → Fault
  | missingDatatype l => missingDatatype (l.shift k)
  | unreadable l => unreadable (l.shift k)
  | secondTableField l field first => secondTableField (l.shift k) field first
  | incompleteHeader l part => incompleteHeader (l.shift k) part
  | nestedHeader l outer => nestedHeader (l.shift k) outer
  | unclosed number typeName => unclosed (number + k) typeName
  | unsupportedHostType l hostType => unsupportedHostType (l.shift k) hostType

@[simp] theorem lineNumber_shift (k : Nat) (fault : Fault) :
    (fault.shift k).lineNumber = fault.lineNumber + k := by
  cases fault <;> rfl

@[simp] theorem reason_shift (k : Nat) (fault : Fault) : (fault.shift k).reason = fault.reason := by
  cases fault <;> rfl

end Fault

section Shift

variable (s : Spelling) (k : Nat) (line : SourceLine)

theorem Field.ofForm_shift (form : FieldForm) :
    ofForm s (line.shift k) form = (ofForm s line form).mapError (Fault.shift k) := by
  simp only [ofForm]
  split
  · rfl
  · split
    · rfl
    · split
      · rfl
      · split <;> rfl

theorem Field.read_shift :
    read s (line.shift k) = (read s line).mapError (Fault.shift k) := by
  simp only [read, SourceLine.shift_text]
  split
  · rfl
  · exact ofForm_shift s k line _

theorem Struct.ofHeader_shift :
    ofHeader s (line.shift k) = (ofHeader s line).mapError (Fault.shift k) := by
  simp only [ofHeader, SourceLine.shift_text]
  split <;> rfl

theorem Struct.add_shift (d : Struct) (f : Field) :
    d.add (line.shift k) f = (d.add line f).mapError (Fault.shift k) := by
  simp only [add]
  split <;> rfl

theorem Block.feed_inside_shift (d : Struct) :
    (inside d).feed s (line.shift k) = ((inside d).feed s line).mapError (Fault.shift k) := by
  simp only [feed, SourceLine.shift_text, Field.read_shift]
  split
  · rfl
  · cases Field.read s line with
    | error fault => rfl
    | ok f =>
      simp only [Except.mapError, Struct.add_shift]
      cases d.add line f <;> rfl

end Shift

def Place.shift (k : Nat) : Place → Place
  | .outside => .outside
  | .inside header opened => .inside (header.shift k) opened

namespace Finding

def shift (k : Nat) : Finding → Finding
  | sound header closed => sound (header.shift k) closed
  | faulty header fault => faulty (header.shift k) (fault.shift k)
  | nested outer inner opened => nested (outer.shift k) (inner.shift k) opened

theorem struct?_shift (k : Nat) (finding : Finding) :
    (finding.shift k).struct? = finding.struct? := by
  cases finding <;> rfl

theorem fault?_shift (k : Nat) (finding : Finding) :
    (finding.shift k).fault? = finding.fault?.map (Fault.shift k) := by
  cases finding <;> rfl

theorem report_map_shift (k : Nat) (findings : List Finding) :
    report (findings.map (shift k)) =
      { structs := (report findings).structs
        faults := (report findings).faults.map (Fault.shift k) } := by
  simp only [report, List.filterMap_map, List.map_filterMap]
  congr 1
  · congr 1
    funext finding
    exact struct?_shift k finding
  · congr 1
    funext finding
    exact fault?_shift k finding

end Finding

theorem Place.atEnd_shift (k : Nat) (p : Place) :
    (p.shift k).atEnd = p.atEnd.map (Finding.shift k) := by
  cases p <;> rfl

section Course

variable {s : Spelling} {line : SourceLine} {lines : List SourceLine} {p next last : Place}
  {found findings : List Finding}

/-- **A line does the same further down.** -/
theorem Passes.shift (k : Nat) (h : Passes s line p next found) :
    Passes s (line.shift k) (p.shift k) (next.shift k) (found.map (Finding.shift k)) := by
  cases h with
  | between h => exact .between h
  | opened h hread =>
    refine .opened h ?_
    rw [Struct.ofHeader_shift, hread]
    rfl
  | incomplete h hread =>
    refine .incomplete h ?_
    rw [Struct.ofHeader_shift, hread]
    rfl
  | nested h => exact .nested h
  | closed h hcloses => exact .closed h hcloses
  | member h hmember hfeed =>
    refine .member h hmember ?_
    rw [Block.feed_inside_shift, hfeed]
    rfl
  | broken h hmember hfeed =>
    refine .broken h hmember ?_
    rw [Block.feed_inside_shift, hfeed]
    rfl

theorem Course.shift (k : Nat) (h : Course s p lines findings last) :
    Course s (p.shift k) (lines.map (SourceLine.shift k)) (findings.map (Finding.shift k))
      (last.shift k) := by
  induction h with
  | stop p => exact .stop _
  | line hline _ ih =>
    rw [List.map_cons, List.map_append]
    exact .line (hline.shift k) ih

theorem Course.last_eq_outside {source : Text}
    (h : Course s .outside (SourceLine.ofText source) findings last)
    (hclosed : ∀ number typeName, .unclosed number typeName ∉ (Source.check s source).faults) :
    last = .outside := by
  cases last with
  | outside => rfl
  | inside header opened =>
    refine absurd ?_ (hclosed header.number opened.typeName)
    rw [h.check_eq]
    exact List.mem_filterMap.2 ⟨.faulty header (.unclosed header.number opened.typeName),
      List.mem_append_right _ (List.mem_singleton_self _), rfl⟩

end Course

/-! ## Two files as one -/

namespace Source

variable {s : Spelling} {front : Text}

/-- **A check of two files in a row** finds what it finds in the first, and then what it finds in
the second, further down. -/
theorem check_append (hended : front = [] ∨ front.getLast? = some '\n')
    (hclosed : ∀ number typeName, .unclosed number typeName ∉ (Source.check s front).faults)
    (back : Text) :
    Source.check s (front ++ back) =
      { structs := (Source.check s front).structs ++ (Source.check s back).structs
        faults := (Source.check s front).faults ++
          (Source.check s back).faults.map (Fault.shift (lines front).length) } := by
  obtain ⟨before, last, hfront, hcheck⟩ := exists_course s front
  obtain ⟨after, final, hback, hcheck'⟩ := exists_course s back
  obtain rfl := hfront.last_eq_outside hclosed
  have hboth : Course s .outside (SourceLine.ofText (front ++ back))
      (before ++ after.map (Finding.shift (lines front).length))
      (final.shift (lines front).length) := by
    rw [SourceLine.ofText_append hended]
    exact hfront.append (hback.shift _)
  have hreport := Finding.report_map_shift (lines front).length (after ++ final.atEnd)
  rw [hboth.check_eq, hcheck, hcheck', List.append_assoc, Place.atEnd_shift, ← List.map_append]
  simp only [Finding.report, Report.mk.injEq, List.filterMap_append, Place.atEnd,
    List.append_nil] at hreport ⊢
  rw [hreport.1, hreport.2]
  exact ⟨rfl, rfl⟩

theorem structs_eq_ok_iff_check {structs : List Struct} :
    Source.structs s front = .ok structs ↔
      Source.check s front = { structs, faults := [] } := by
  rw [structs_eq, Report.outcome_eq_ok_iff]
  constructor
  · rintro ⟨hfaults, hstructs⟩
    rw [← hfaults, ← hstructs]
  · intro h
    rw [h]
    exact ⟨rfl, rfl⟩

/-- **Nothing of a file shows in the next**: behind ended lines that leave no struct open, a file is
checked and read as it is by itself, further down by these lines. -/
theorem append_independent (hended : front = [] ∨ front.getLast? = some '\n') (back : Text) :
    ((∀ number typeName, .unclosed number typeName ∉ (Source.check s front).faults) →
      (Source.check s (front ++ back)).structs =
          (Source.check s front).structs ++ (Source.check s back).structs ∧
        (Source.check s (front ++ back)).faults =
          (Source.check s front).faults ++
            (Source.check s back).faults.map (Fault.shift (lines front).length)) ∧
    ∀ structs, Source.structs s front = .ok structs →
      Source.structs s (front ++ back) =
        ((Source.structs s back).map (structs ++ ·)).mapError
          (Fault.shift (lines front).length) := by
  constructor
  · intro hclosed
    rw [check_append hended hclosed]
    exact ⟨rfl, rfl⟩
  · intro structs hstructs
    have hfront := structs_eq_ok_iff_check.1 hstructs
    have hclosed : ∀ number typeName,
        .unclosed number typeName ∉ (Source.check s front).faults := by
      intro number typeName hmem
      rw [hfront] at hmem
      cases hmem
    rw [structs_eq, structs_eq, check_append hended hclosed, hfront]
    unfold Report.outcome
    cases (Source.check s back).faults <;> rfl

/-- A file whose last block has a fault and is never closed: the reader is skipping at its end. -/
def skippingFile : Text :=
  [("struct T //\x60t\x60" : String), " x"].flatMap fun line => line.toList ++ ['\n']

/-- A file with lines that belong to no block, a struct, and another that is never closed. -/
def openFile : Text :=
  [("int y;" : String), "\x7d;", "struct U //\x60u\x60", "\x7d;", "struct V //\x60v\x60"].flatMap
    fun line => line.toList ++ ['\n']

/-- A file with one struct. -/
def closedFile : Text :=
  [("struct U //\x60u\x60" : String), "\x7d;"].flatMap fun line => line.toList ++ ['\n']

theorem append_independent_skipping :
    ((Source.check {} (skippingFile ++ openFile)).structs = [⟨"U", "u", []⟩] ∧
      (Source.check {} (skippingFile ++ openFile)).faults =
        [.unreadable ⟨2, " x"⟩, .unclosed 7 "V"]) ∧
    Source.structs {} (closedFile ++ skippingFile) = .error (.unreadable ⟨4, " x"⟩) := by
  have hskipping : Source.check {} skippingFile = ⟨[], [.unreadable ⟨2, " x"⟩]⟩ := by
    decide +kernel
  have hopen : Source.check {} openFile = ⟨[⟨"U", "u", []⟩], [.unclosed 5 "V"]⟩ := by
    decide +kernel
  have hclosed : Source.structs {} closedFile = .ok [⟨"U", "u", []⟩] := by decide +kernel
  have hstops : Source.structs {} skippingFile = .error (.unreadable ⟨2, " x"⟩) := by
    decide +kernel
  have hended : skippingFile = [] ∨ skippingFile.getLast? = some '\n' := .inr rfl
  have hended' : closedFile = [] ∨ closedFile.getLast? = some '\n' := .inr rfl
  have hnone : ∀ number typeName,
      .unclosed number typeName ∉ (Source.check {} skippingFile).faults := by
    intro number typeName hmem
    rw [hskipping] at hmem
    cases List.mem_singleton.1 hmem
  constructor
  · obtain ⟨hstructs, hfaults⟩ := (append_independent hended openFile).1 hnone
    rw [hskipping, hopen] at hstructs hfaults
    exact ⟨hstructs, hfaults⟩
  · have h := (append_independent hended' skippingFile).2 _ hclosed
    rw [hstops] at h
    exact h

end Source

end TableBinding
