import TableBinding.Proofs.Annotation.Course

/-!
# The ledger of headers

A check loses no header and invents nothing: every header of the file is settled by exactly one
finding, a struct that is reported is declared by a block of its own, and a fault stands in the
block of its header. So the headers can be counted off against the report, where a nested header
settles two (`Source.check_settles_headers`). In front of each fault but the first stands a header
that comes behind the fault before, so that no block has two (`Source.pairwise_faults`).

The shape of the argument: the headers that a course has passed are those that its findings are
about, and the one whose block is open (`Passes.headers_eq`, `Course.headers_eq`).
-/

namespace TableBinding

/-- The headers among the lines. -/
def Spelling.headerLines (s : Spelling) (lines : List SourceLine) : List SourceLine :=
  lines.filter fun line => s.isHeader line.text

/-- The header whose block is open. -/
def Place.headers : Place → List SourceLine
  | .outside => []
  | .inside header _ => [header]

section Headers

variable {s : Spelling} {line : SourceLine} {lines : List SourceLine} {p next last : Place}
  {found findings : List Finding}

theorem Spelling.headerLines_cons (s : Spelling) (line : SourceLine) (lines : List SourceLine) :
    s.headerLines (line :: lines) = s.headerLines [line] ++ s.headerLines lines :=
  List.filter_append (p := fun other : SourceLine => s.isHeader other.text) [line] lines

theorem Passes.headers_eq (h : Passes s line p next found) :
    p.headers ++ s.headerLines [line] = found.flatMap Finding.headers ++ next.headers := by
  have hpos : s.isHeader line.text = true → s.headerLines [line] = [line] := by
    intro hheader
    exact List.filter_cons_of_pos hheader
  have hneg : s.isHeader line.text = false → s.headerLines [line] = [] := by
    intro hheader
    exact List.filter_cons_of_neg (Bool.eq_false_iff.1 hheader)
  cases h with
  | between h | closed h | member h | broken h => rw [hneg h]; rfl
  | opened h | incomplete h | nested h => rw [hpos h]; rfl

theorem Course.headers_eq (h : Course s p lines findings last) :
    p.headers ++ s.headerLines lines =
      (findings ++ last.atEnd).flatMap Finding.headers := by
  induction h with
  | stop p => cases p <;> rfl
  | @line p next last line lines found findings hline _ ih =>
    rw [Spelling.headerLines_cons, ← List.append_assoc, hline.headers_eq, List.append_assoc, ih,
      List.append_assoc, ← List.flatMap_append]

end Headers

/-! ## What a finding is about -/

/-- The finding is about a block of these lines: a struct is declared by the block of the header,
and a fault stands on the header or on a line of its block. -/
def Finding.Fits (s : Spelling) (all : List SourceLine) : Finding → Prop
  | sound header closed =>
    ∃ b : BlockLines, b.before = [] ∧ b.header = header ∧ b.Declares s closed ∧ b.lines <:+: all
  | faulty header fault =>
    fault.isNested = false ∧
      (fault.lineNumber = header.number ∨
        ∃ since line opened, s.HoldsOpen header since opened ∧
          header :: (since ++ [line]) <:+: all ∧
          s.isHeader line.text = false ∧ s.closesBlock line.text = false ∧
          fault.line? = some line)
  | nested outer inner opened =>
    ∃ since, s.HoldsOpen outer since opened ∧ outer :: (since ++ [inner]) <:+: all

section Fits

variable {s : Spelling} {lines : List SourceLine} {findings : List Finding} {last : Place}

theorem Course.fits (h : Course s .outside lines findings last) :
    ∀ finding ∈ findings ++ last.atEnd, finding.Fits s lines := by
  intro finding hfinding
  rcases List.mem_append.1 hfinding with hfinding | hfinding
  · obtain ⟨before, line, later, front, place, next, found, rfl, hfront, hpasses, hmem⟩ :=
      h.exists_passes hfinding
    cases hpasses with
    | between | opened | member => cases hmem
    | incomplete _ hread =>
      cases List.mem_singleton.1 hmem
      have hline := Struct.ofLine_of_ofHeader hread
      exact ⟨hline.notNested, .inl (Fault.lineNumber_of_line? hline.line)⟩
    | nested =>
      cases List.mem_singleton.1 hmem
      obtain ⟨earlier, since, rfl, hopen⟩ := hfront.exists_holdsOpen
      exact ⟨since, hopen, earlier, later, by simp⟩
    | @closed header opened hheader hcloses =>
      cases List.mem_singleton.1 hmem
      obtain ⟨earlier, since, rfl, hopen⟩ := hfront.exists_holdsOpen
      refine ⟨⟨[], header, since, line⟩, rfl, rfl, ?_, earlier, later, ?_⟩
      · exact ⟨fun _ hbefore => absurd hbefore List.not_mem_nil, hopen.isHeader, hopen.names,
          hopen.members, hopen.fields, hopen.tableField, hheader, hcloses⟩
      · simp [BlockLines.lines]
    | @broken header opened fault hheader hmember hfeed =>
      cases List.mem_singleton.1 hmem
      obtain ⟨earlier, since, rfl, hopen⟩ := hfront.exists_holdsOpen
      have hline := Block.ofLine_of_feed hfeed
      exact ⟨hline.notNested, .inr ⟨since, line, opened, hopen, ⟨earlier, later, by simp⟩, hheader,
        hmember, hline.line⟩⟩
  · cases last with
    | outside => cases hfinding
    | inside header opened =>
      cases List.mem_singleton.1 hfinding
      exact ⟨rfl, .inl rfl⟩

/-- A header is counted as a struct or as a fault, and once more if another stands in its block. -/
theorem Finding.length_headers (hfits : ∀ finding ∈ findings, finding.Fits s lines) :
    (findings.flatMap headers).length =
      (report findings).structs.length + (report findings).faults.length +
        (report findings).faults.countP Fault.isNested := by
  induction findings with
  | nil => rfl
  | cons finding findings ih =>
    rw [List.forall_mem_cons] at hfits
    have hrest := ih hfits.2
    simp only [report] at hrest ⊢
    rw [List.flatMap_cons, List.length_append, hrest]
    cases finding with
    | sound header closed =>
      simp only [headers, List.filterMap_cons, struct?, fault?, List.length_cons, List.length_nil]
      omega
    | faulty header fault =>
      have hfault : ¬ fault.isNested = true := Bool.eq_false_iff.1 hfits.1.1
      simp only [headers, List.filterMap_cons, struct?, fault?, List.length_cons, List.length_nil,
        List.countP_cons_of_neg hfault]
      omega
    | nested outer inner opened =>
      have hfault : (Fault.nestedHeader inner opened.typeName).isNested = true := rfl
      simp only [headers, List.filterMap_cons, struct?, fault?, List.length_cons, List.length_nil,
        List.countP_cons_of_pos hfault]
      omega

end Fits

/-! ## Between two faults stands a header -/

section Order

variable {s : Spelling} {line : SourceLine} {lines : List SourceLine} {p next last : Place}
  {found findings : List Finding}

theorem Finding.exists_mem_headers (finding : Finding) : ∃ header, header ∈ finding.headers := by
  cases finding <;> exact ⟨_, List.mem_cons_self ..⟩

theorem Passes.mem_headers {header : SourceLine} (h : Passes s line p next found)
    (hheader : header ∈ found.flatMap Finding.headers ++ next.headers) :
    header ∈ p.headers ∨ header ∈ s.headerLines [line] := by
  rw [← h.headers_eq] at hheader
  exact List.mem_append.1 hheader

theorem Spelling.eq_of_mem_headerLines {header : SourceLine} (h : header ∈ s.headerLines [line]) :
    header = line :=
  List.mem_singleton.1 (List.mem_filter.1 h).1

/-- The header whose block is open stands in front of the lines to come, and these are in order. -/
def Place.InOrder (p : Place) (lines : List SourceLine) : Prop :=
  (∀ header ∈ p.headers, ∀ line ∈ lines, header.number < line.number) ∧
    lines.Pairwise fun line other => line.number < other.number

theorem Passes.inOrder (h : Passes s line p next found) (hp : p.InOrder (line :: lines)) :
    next.InOrder lines := by
  obtain ⟨hheaders, hlines⟩ := hp
  rw [List.pairwise_cons] at hlines
  refine ⟨?_, hlines.2⟩
  intro header hheader other hother
  rcases h.mem_headers (List.mem_append_right _ hheader) with hp | hself
  · exact hheaders header hp other (List.mem_cons_of_mem _ hother)
  · rw [Spelling.eq_of_mem_headerLines hself]
    exact hlines.1 other hother

/-- Each fault comes with a header that is not behind it. -/
theorem Course.exists_header_le (h : Course s p lines findings last) (hp : p.InOrder lines)
    {fault : Fault} (hfault : fault ∈ (findings ++ last.atEnd).filterMap Finding.fault?) :
    ∃ header, (header ∈ p.headers ∨ header ∈ s.headerLines lines) ∧
      header.number ≤ fault.lineNumber := by
  -- a header that is open behind a line was open in front of it, or is that line
  induction h with
  | stop p =>
    cases p with
    | outside => cases hfault
    | inside header opened =>
      cases List.mem_singleton.1 hfault
      exact ⟨header, .inl (List.mem_singleton_self _), Nat.le_refl _⟩
  | @line p next last line lines found findings hline hrest ih =>
    rw [List.append_assoc, List.filterMap_append] at hfault
    rw [Spelling.headerLines_cons]
    rcases List.mem_append.1 hfault with hfound | hlater
    · obtain ⟨finding, hfinding, hfault⟩ := List.mem_filterMap.1 hfound
      obtain ⟨header, hheader⟩ := finding.exists_mem_headers
      have hmem : header ∈ found.flatMap Finding.headers :=
        List.mem_flatMap.2 ⟨_, hfinding, hheader⟩
      rw [Fault.lineNumber_of_line? (hline.fault_line hfinding hfault).1]
      rcases hline.mem_headers (List.mem_append_left _ hmem) with hopen | hself
      · have hlt := hp.1 header hopen line (List.mem_cons_self ..)
        exact ⟨header, .inl hopen, Nat.le_of_lt hlt⟩
      · obtain rfl := Spelling.eq_of_mem_headerLines hself
        exact ⟨header, .inr (List.mem_append_left _ hself), Nat.le_refl _⟩
    · obtain ⟨header, hheader, hle⟩ := ih (hline.inOrder hp) hlater
      refine ⟨header, ?_, hle⟩
      rcases hheader with hnext | hlines
      · rcases hline.mem_headers (List.mem_append_right _ hnext) with hopen | hself
        · exact .inl hopen
        · exact .inr (List.mem_append_left _ hself)
      · exact .inr (List.mem_append_right _ hlines)

theorem Passes.length_found_le (h : Passes s line p next found) : found.length ≤ 1 := by
  cases h with
  | between | opened | member => exact Nat.zero_le _
  | incomplete | nested | closed | broken => exact Nat.le_refl _

theorem Course.pairwise_faults (h : Course s p lines findings last) (hp : p.InOrder lines) :
    ((findings ++ last.atEnd).filterMap Finding.fault?).Pairwise fun fault later =>
      ∃ header ∈ s.headerLines lines,
        fault.lineNumber < header.number ∧ header.number ≤ later.lineNumber := by
  induction h with
  | stop p => cases p <;> simp [Place.atEnd, Finding.fault?]
  | @line p next last line lines found findings hline hrest ih =>
    rw [List.append_assoc, List.filterMap_append, List.pairwise_append]
    refine ⟨?_, ?_, ?_⟩
    -- one line has one fault at most, and behind it no block is open
    · have hlength := Nat.le_trans (List.length_filterMap_le Finding.fault? found)
        hline.length_found_le
      match found.filterMap Finding.fault?, hlength with
      | [], _ => exact .nil
      | [fault], _ => exact List.pairwise_singleton _ fault
    · refine (ih (hline.inOrder hp)).imp ?_
      rintro fault later ⟨header, hheader, hbounds⟩
      refine ⟨header, ?_, hbounds⟩
      rw [Spelling.headerLines_cons]
      exact List.mem_append_right _ hheader
    · intro fault hfault later hlater
      obtain ⟨finding, hfinding, hfault⟩ := List.mem_filterMap.1 hfault
      obtain ⟨hquoted, rfl⟩ := hline.fault_line hfinding hfault
      obtain ⟨header, hheader, hle⟩ := hrest.exists_header_le (hline.inOrder hp) hlater
      have hheader : header ∈ s.headerLines lines := hheader.resolve_left List.not_mem_nil
      refine ⟨header, ?_, ?_, hle⟩
      · rw [Spelling.headerLines_cons]
        exact List.mem_append_right _ hheader
      · rw [Fault.lineNumber_of_line? hquoted]
        exact (List.pairwise_cons.1 hp.2).1 header (List.mem_filter.1 hheader).1

end Order

namespace Source

/-- **No block has two faults**: behind a fault, a header comes before the next. -/
theorem pairwise_faults (s : Spelling) (source : Text) :
    (Source.check s source).faults.Pairwise fun fault later =>
      ∃ header ∈ s.headerLines (SourceLine.ofText source),
        fault.lineNumber < header.number ∧ header.number ≤ later.lineNumber := by
  obtain ⟨findings, last, hcourse, hcheck⟩ := exists_course s source
  rw [hcheck]
  refine hcourse.pairwise_faults ⟨?_, SourceLine.pairwise_ofText source⟩
  intro header hheader
  cases hheader

/-- **Every header is settled once**, by a struct or by a fault: the numbers agree, each finding is
about a block of its own, and between two faults stands a header. -/
theorem check_settles_headers (s : Spelling) (source : Text) :
    (Text.lines source).countP s.isHeader =
        (Source.check s source).structs.length + (Source.check s source).faults.length +
          (Source.check s source).faults.countP Fault.isNested ∧
      (∃ ledger : List Finding,
        ledger.flatMap Finding.headers = s.headerLines (SourceLine.ofText source) ∧
        ledger.filterMap Finding.struct? = (Source.check s source).structs ∧
        ledger.filterMap Finding.fault? = (Source.check s source).faults ∧
        ∀ finding ∈ ledger, finding.Fits s (SourceLine.ofText source)) ∧
      (Source.check s source).faults.Pairwise fun fault later =>
        ∃ header ∈ s.headerLines (SourceLine.ofText source),
          fault.lineNumber < header.number ∧ header.number ≤ later.lineNumber := by
  obtain ⟨findings, last, hcourse, hcheck⟩ := exists_course s source
  have hheaders : s.headerLines (SourceLine.ofText source) =
      (findings ++ last.atEnd).flatMap Finding.headers := hcourse.headers_eq
  have hcount : (Text.lines source).countP s.isHeader =
      (s.headerLines (SourceLine.ofText source)).length := by
    rw [← map_text_ofText, List.countP_map, List.countP_eq_length_filter]
    rfl
  refine ⟨?_, ⟨findings ++ last.atEnd, hheaders.symm, ?_, ?_, hcourse.fits⟩,
    pairwise_faults s source⟩
  · rw [hcount, hheaders, hcheck]
    exact Finding.length_headers hcourse.fits
  · rw [hcheck]
    rfl
  · rw [hcheck]
    rfl

end Source

end TableBinding
