import TableBinding.Proofs.Annotation.Ledger
import TableBinding.Proofs.Run.FirstFault

/-!
# Where faults point

The faults of a check come in the order of the lines, each on a line of its own, and what a fault
says of its place holds of the source text (`Fault.Located`): its number is that of a line, the line
that it quotes is the line of that number, a nested header names the struct that is open around it,
and an unclosed struct is the one that the last header opened. All of it holds of the fault that
reading stops at (`Source.faults_located`).
-/

namespace TableBinding

open Text

/-- What a fault says of its place in the text. -/
structure Fault.Located (s : Spelling) (source : Text) (fault : Fault) : Prop where
  number : 1 ≤ fault.lineNumber ∧ fault.lineNumber ≤ (lines source).length
  text : ∀ line, fault.line? = some line →
    (lines source)[fault.lineNumber - 1]? = some line.text
  /-- The named struct was opened by the nearest header in front, and the reader is still in it. -/
  nested : ∀ line outer, fault = .nestedHeader line outer →
    ∃ earlier header since later opened,
      SourceLine.ofText source = earlier ++ header :: (since ++ line :: later) ∧
      s.HoldsOpen header since opened ∧ opened.typeName = outer ∧
      (Reader.checkLines s {} (earlier ++ header :: since)).1.block = .inside opened
  /-- The named struct was opened by the header of that line, and no line behind it closes it or is
  a header. -/
  unclosed : ∀ number typeName, fault = .unclosed number typeName →
    ∃ earlier header since opened,
      SourceLine.ofText source = earlier ++ header :: since ∧
      s.HoldsOpen header since opened ∧ opened.typeName = typeName ∧ header.number = number

section Located

variable {s : Spelling} {source : Text} {fault : Fault}

/-- A fault that a line has by itself points to that line. -/
theorem Fault.OfLine.located {line : SourceLine} (h : fault.OfLine line)
    (hmem : line ∈ SourceLine.ofText source) : fault.Located s source := by
  have hnumber := Fault.lineNumber_of_line? h.line
  obtain ⟨hfirst, hlast, htext⟩ := SourceLine.of_mem_ofText hmem
  refine ⟨by omega, ?_, ?_, ?_⟩
  · intro quoted hquoted
    cases h.line.symm.trans hquoted
    rw [hnumber]
    exact htext
  · rintro line outer rfl
    cases h.notNested
  · rintro number typeName rfl
    cases h.line

/-- What a line settles points into the text. -/
theorem Passes.located {before later : List SourceLine} {line : SourceLine}
    {front found : List Finding} {p next : Place} {finding : Finding}
    (h : Passes s line p next found)
    (hsource : SourceLine.ofText source = before ++ line :: later)
    (hfront : Course s .outside before front p) (hfinding : finding ∈ found)
    (hfault : finding.fault? = some fault) : fault.Located s source := by
  have hmem : line ∈ SourceLine.ofText source := by
    rw [hsource]
    exact List.mem_append_right _ (List.mem_cons_self ..)
  obtain ⟨-, hline | ⟨header, opened, rfl, rfl⟩⟩ := h.fault_cases hfinding hfault
  · exact hline.located hmem
  · obtain ⟨hfirst, hlast, htext⟩ := SourceLine.of_mem_ofText hmem
    refine ⟨⟨hfirst, hlast⟩, ?_, ?_, ?_⟩
    · rintro quoted ⟨⟩
      exact htext
    · rintro quoted outer ⟨⟩
      obtain ⟨r, ⟨hblock, -, -⟩, -, hcheck⟩ := hfront.exists_checkLines (r := {}) rfl
      obtain ⟨earlier, since, rfl, hopen⟩ := hfront.exists_holdsOpen
      refine ⟨earlier, header, since, later, opened, ?_, hopen, rfl, ?_⟩
      · rw [hsource, List.append_assoc, List.cons_append]
      · rw [hcheck]
        exact hblock
    · rintro number typeName ⟨⟩

/-- What is found at the end of the file points into the text. -/
theorem Place.located_of_atEnd {findings : List Finding} {last : Place} {finding : Finding}
    (h : Course s .outside (SourceLine.ofText source) findings last)
    (hfinding : finding ∈ last.atEnd) (hfault : finding.fault? = some fault) :
    fault.Located s source := by
  cases last with
  | outside => cases hfinding
  | inside header opened =>
    cases List.mem_singleton.1 hfinding
    cases hfault
    obtain ⟨earlier, since, hsource, hopen⟩ := h.exists_holdsOpen
    have hmem : header ∈ SourceLine.ofText source := by
      rw [hsource]
      exact List.mem_append_right _ (List.mem_cons_self ..)
    obtain ⟨hfirst, hlast, -⟩ := SourceLine.of_mem_ofText hmem
    refine ⟨⟨hfirst, hlast⟩, ?_, ?_, ?_⟩
    · rintro quoted ⟨⟩
    · rintro line outer ⟨⟩
    · rintro number typeName ⟨⟩
      exact ⟨earlier, header, since, opened, hsource, hopen, rfl, rfl⟩

end Located

namespace Source

variable {s : Spelling} {source : Text} {fault : Fault}

theorem located_of_mem_faults (h : fault ∈ (Source.check s source).faults) :
    fault.Located s source := by
  obtain ⟨findings, last, hcourse, hcheck⟩ := exists_course s source
  rw [hcheck] at h
  obtain ⟨finding, hfinding, hfault⟩ := List.mem_filterMap.1 h
  rcases List.mem_append.1 hfinding with hfinding | hfinding
  · obtain ⟨before, line, later, front, p, next, found, hsource, hfront, hpasses, hmem⟩ :=
      hcourse.exists_passes hfinding
    exact hpasses.located hsource hfront hmem hfault
  · exact Place.located_of_atEnd hcourse hfinding hfault

/-- **The faults come in the order of their lines, and point to the right ones**, as does the fault
that reading stops at. -/
theorem faults_located (s : Spelling) (source : Text) :
    (Source.check s source).faults.Pairwise
        (fun fault later => fault.lineNumber < later.lineNumber) ∧
      (∀ fault ∈ (Source.check s source).faults, fault.Located s source) ∧
      ∀ fault, Source.structs s source = .error fault → fault.Located s source := by
  refine ⟨?_, fun fault hfault => located_of_mem_faults hfault, ?_⟩
  · refine (pairwise_faults s source).imp ?_
    rintro fault later ⟨header, -, hlt, hle⟩
    exact Nat.lt_of_lt_of_le hlt hle
  · intro fault hfault
    rw [structs_eq, Report.outcome_eq_error_iff] at hfault
    exact located_of_mem_faults (List.mem_of_head? hfault)

end Source

end TableBinding
