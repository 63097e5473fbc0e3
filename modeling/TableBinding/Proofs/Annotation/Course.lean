import TableBinding.Proofs.Annotation.Grammar
import TableBinding.Proofs.Annotation.SourceLines

/-!
# The course of a check

A check goes through a declaration file line by line, and at every line it is in one of two places:
between blocks, or in the block of a header (`Place`). What a line does there is said once
(`Passes`): it leads to another place, and it may settle what is found about a header (`Finding`).
A `Course` is a sequence of such lines.

Every file has a course (`Course.total`), and what the check reports is what the course finds
(`Source.exists_course`). The reader remembers more than a place: whether it is skipping the rest of
a block, and the line of the last header. Neither can be seen outside of blocks (`Reader.IsAt`), so
a course says nothing of them.

Where a course stands in a block, the lines since the header are known
(`Course.exists_holdsOpen`): none of them is a header or closes the block, and they declare the
fields so far.
-/

namespace TableBinding

open Text

/-! ## The line of a fault -/

namespace Fault

/-- The line that the fault quotes. -/
def line? : Fault → Option SourceLine
  | missingDatatype l | unreadable l | secondTableField l _ _ | incompleteHeader l _
  | nestedHeader l _ | unsupportedHostType l _ => some l
  | unclosed _ _ => none

def isNested : Fault → Bool
  | nestedHeader .. => true
  | _ => false

/-- The line is at fault by itself, or as a line of its block. -/
structure OfLine (line : SourceLine) (fault : Fault) : Prop where
  line : fault.line? = some line
  notNested : fault.isNested = false

theorem lineNumber_of_line? {fault : Fault} {line : SourceLine} (h : fault.line? = some line) :
    fault.lineNumber = line.number := by
  cases fault <;> cases h <;> rfl

end Fault

section Line

variable {s : Spelling} {line : SourceLine} {fault : Fault}

theorem Field.ofLine_of_ofForm {form : FieldForm} (h : ofForm s line form = .error fault) :
    fault.OfLine line := by
  simp only [ofForm] at h
  split at h
  · cases h
  · split at h
    · cases h
    · split at h
      · cases h
        exact ⟨rfl, rfl⟩
      · split at h
        · cases h
          exact ⟨rfl, rfl⟩
        · cases h

theorem Field.ofLine_of_read (h : read s line = .error fault) : fault.OfLine line := by
  unfold read at h
  split at h
  · cases h
    exact ⟨rfl, rfl⟩
  · exact ofLine_of_ofForm h

theorem Struct.ofLine_of_ofHeader (h : ofHeader s line = .error fault) : fault.OfLine line := by
  unfold ofHeader at h
  split at h
  · cases h
  · cases h
    exact ⟨rfl, rfl⟩

theorem Struct.ofLine_of_add {d : Struct} {f : Field} (h : d.add line f = .error fault) :
    fault.OfLine line := by
  unfold add at h
  split at h
  · cases h
    exact ⟨rfl, rfl⟩
  · cases h

theorem Block.ofLine_of_feed {d : Struct} (h : (Block.inside d).feed s line = .error fault) :
    fault.OfLine line := by
  simp only [feed] at h
  split at h
  · cases h
  · split at h
    · next hread =>
      cases h
      exact Field.ofLine_of_read hread
    · next f hread =>
      cases hadd : d.add line f with
      | ok grown =>
        rw [hadd] at h
        cases h
      | error other =>
        rw [hadd] at h
        cases h
        exact Struct.ofLine_of_add hadd

theorem Block.exists_inside_of_feed {d : Struct} {next : Block}
    (h : (Block.inside d).feed s line = .ok next) : ∃ grown, next = .inside grown := by
  cases feed_eq_ok_iff.1 h with
  | opener => exact ⟨_, rfl⟩
  | field => exact ⟨_, rfl⟩

end Line

/-! ## Places and findings -/

/-- Where a check is between two lines: between blocks, or in the block of a header. -/
inductive Place where
  | outside
  | inside (header : SourceLine) (opened : Struct)
  deriving DecidableEq, Repr

/-- What is found about a header. -/
inductive Finding where
  /-- Its block was closed without a fault. -/
  | sound (header : SourceLine) (closed : Struct)
  /-- It is at fault itself, or its block is. -/
  | faulty (header : SourceLine) (fault : Fault)
  /-- A second header stands in the block that it opened. -/
  | nested (outer inner : SourceLine) (opened : Struct)
  deriving DecidableEq, Repr

namespace Finding

/-- The headers that the finding is about. -/
def headers : Finding → List SourceLine
  | sound header _ | faulty header _ => [header]
  | nested outer inner _ => [outer, inner]

def struct? : Finding → Option Struct
  | sound _ closed => some closed
  | faulty .. | nested .. => none

def fault? : Finding → Option Fault
  | sound .. => none
  | faulty _ fault => some fault
  | nested _ inner opened => some (.nestedHeader inner opened.typeName)

/-- The report on a file about which this is found. -/
def report (findings : List Finding) : Report :=
  { structs := findings.filterMap struct?, faults := findings.filterMap fault? }

end Finding

/-- What is found about the block that is open at the end of the file. -/
def Place.atEnd : Place → List Finding
  | .outside => []
  | .inside header opened => [.faulty header (.unclosed header.number opened.typeName)]

/-- What a line does to a check: the place behind it, and what it settles. -/
inductive Passes (s : Spelling) (line : SourceLine) : Place → Place → List Finding → Prop
  | between (h : s.isHeader line.text = false) : Passes s line .outside .outside []
  | opened {opened : Struct} (h : s.isHeader line.text = true)
      (hread : Struct.ofHeader s line = .ok opened) :
      Passes s line .outside (.inside line opened) []
  | incomplete {fault : Fault} (h : s.isHeader line.text = true)
      (hread : Struct.ofHeader s line = .error fault) :
      Passes s line .outside .outside [.faulty line fault]
  | nested {header : SourceLine} {opened : Struct} (h : s.isHeader line.text = true) :
      Passes s line (.inside header opened) .outside [.nested header line opened]
  | closed {header : SourceLine} {opened : Struct} (h : s.isHeader line.text = false)
      (hcloses : s.closesBlock line.text = true) :
      Passes s line (.inside header opened) .outside [.sound header opened]
  | member {header : SourceLine} {opened grown : Struct} (h : s.isHeader line.text = false)
      (hmember : s.closesBlock line.text = false)
      (hfeed : (Block.inside opened).feed s line = .ok (.inside grown)) :
      Passes s line (.inside header opened) (.inside header grown) []
  | broken {header : SourceLine} {opened : Struct} {fault : Fault}
      (h : s.isHeader line.text = false) (hmember : s.closesBlock line.text = false)
      (hfeed : (Block.inside opened).feed s line = .error fault) :
      Passes s line (.inside header opened) .outside [.faulty header fault]

/-- The lines lead from one place to another, and the findings are what they settle. -/
inductive Course (s : Spelling) : Place → List SourceLine → List Finding → Place → Prop
  | stop (p : Place) : Course s p [] [] p
  | line {p next last : Place} {line : SourceLine} {lines : List SourceLine}
      {found findings : List Finding} (hline : Passes s line p next found)
      (hrest : Course s next lines findings last) :
      Course s p (line :: lines) (found ++ findings) last

section Course

variable {s : Spelling} {line : SourceLine} {lines : List SourceLine} {p next last : Place}
  {found findings : List Finding}

theorem Passes.total (s : Spelling) (line : SourceLine) (p : Place) :
    ∃ next found, Passes s line p next found := by
  cases hheader : s.isHeader line.text with
  | true =>
    cases p with
    | outside =>
      cases hread : Struct.ofHeader s line with
      | ok opened => exact ⟨_, _, .opened hheader hread⟩
      | error fault => exact ⟨_, _, .incomplete hheader hread⟩
    | inside header opened => exact ⟨_, _, .nested hheader⟩
  | false =>
    cases p with
    | outside => exact ⟨_, _, .between hheader⟩
    | inside header opened =>
      cases hcloses : s.closesBlock line.text with
      | true => exact ⟨_, _, .closed hheader hcloses⟩
      | false =>
        cases hfeed : (Block.inside opened).feed s line with
        | error fault => exact ⟨_, _, .broken hheader hcloses hfeed⟩
        | ok next =>
          obtain ⟨grown, rfl⟩ := Block.exists_inside_of_feed hfeed
          exact ⟨_, _, .member hheader hcloses hfeed⟩

/-- A fault that is found on a line is one that the line has by itself, or the line is a second
header; either way the check is between blocks behind it. -/
theorem Passes.fault_cases {finding : Finding} {fault : Fault} (h : Passes s line p next found)
    (hfinding : finding ∈ found) (hfault : finding.fault? = some fault) :
    next = .outside ∧ (fault.OfLine line ∨
      ∃ header opened, p = .inside header opened ∧
        fault = .nestedHeader line opened.typeName) := by
  cases h with
  | between | opened | member => cases hfinding
  | closed =>
    cases List.mem_singleton.1 hfinding
    cases hfault
  | incomplete _ hread =>
    cases List.mem_singleton.1 hfinding
    cases hfault
    exact ⟨rfl, .inl (Struct.ofLine_of_ofHeader hread)⟩
  | broken _ _ hfeed =>
    cases List.mem_singleton.1 hfinding
    cases hfault
    exact ⟨rfl, .inl (Block.ofLine_of_feed hfeed)⟩
  | nested =>
    cases List.mem_singleton.1 hfinding
    cases hfault
    exact ⟨rfl, .inr ⟨_, _, rfl, rfl⟩⟩

theorem Passes.fault_line {finding : Finding} {fault : Fault} (h : Passes s line p next found)
    (hfinding : finding ∈ found) (hfault : finding.fault? = some fault) :
    fault.line? = some line ∧ next = .outside := by
  obtain ⟨hnext, hline | ⟨header, opened, -, rfl⟩⟩ := h.fault_cases hfinding hfault
  · exact ⟨hline.line, hnext⟩
  · exact ⟨rfl, hnext⟩

namespace Course

theorem total (s : Spelling) (p : Place) (lines : List SourceLine) :
    ∃ findings last, Course s p lines findings last := by
  induction lines generalizing p with
  | nil => exact ⟨_, _, .stop p⟩
  | cons line lines ih =>
    obtain ⟨next, found, hline⟩ := Passes.total s line p
    obtain ⟨findings, last, hrest⟩ := ih next
    exact ⟨_, _, .line hline hrest⟩

theorem append {more : List SourceLine} {later : List Finding} {final : Place}
    (h : Course s p lines findings last) (h' : Course s last more later final) :
    Course s p (lines ++ more) (findings ++ later) final := by
  induction h with
  | stop => exact h'
  | line hline _ ih =>
    rw [List.cons_append, List.append_assoc]
    exact .line hline (ih h')

/-- **Every finding is settled at some line.** -/
theorem exists_passes {finding : Finding} (h : Course s p lines findings last)
    (hfinding : finding ∈ findings) :
    ∃ before line later front place next found,
      lines = before ++ line :: later ∧ Course s p before front place ∧
        Passes s line place next found ∧ finding ∈ found := by
  induction h with
  | stop => cases hfinding
  | @line p next last line lines found findings hline hrest ih =>
    rcases List.mem_append.1 hfinding with hfound | hlater
    · exact ⟨[], line, lines, [], p, next, found, rfl, .stop p, hline, hfound⟩
    · obtain ⟨before, other, later, front, place, next', found', rfl, hbefore, hpasses, hmem⟩ :=
        ih hlater
      exact ⟨line :: before, other, later, found ++ front, place, next', found', rfl,
        .line hline hbefore, hpasses, hmem⟩

end Course

/-! ## The reader on its course -/

/-- The reader is at the place. What it remembers besides is left open outside of blocks. -/
def Reader.IsAt (r : Reader) : Place → Prop
  | .outside => r.block = .outside
  | .inside header opened =>
    r.block = .inside opened ∧ r.headerLine = header.number ∧ r.skipping = false

namespace Reader

variable {r r' : Reader} {fault : Fault} {d : Struct}

theorem read_of_outside (h : s.isHeader line.text = true) (hr : r.block = .outside) :
    r.read s line = feed s { r with headerLine := line.number, skipping := false } line := by
  unfold read
  rw [if_pos h]
  split
  · next hinside =>
    rw [hr] at hinside
    cases hinside
  · rfl

theorem read_of_inside (h : s.isHeader line.text = true) (hr : r.block = .inside d) :
    r.read s line = ({ r with skipping := false }, some (.nestedHeader line d.typeName)) := by
  unfold read
  rw [if_pos h]
  split
  · next hinside =>
    rw [hr] at hinside
    cases hinside
    rfl
  · next houtside =>
    rw [hr] at houtside
    cases houtside

theorem read_of_closes (h : s.isHeader line.text = false)
    (hcloses : s.closesBlock line.text = true) :
    r.read s line =
      ({ r with
          block := .outside
          structs := r.structs ++ r.block.struct?.toList
          skipping := false }, none) := by
  unfold read
  rw [if_neg (Bool.eq_false_iff.1 h), if_pos hcloses]
  rfl

theorem read_of_member (h : s.isHeader line.text = false)
    (hmember : s.closesBlock line.text = false) :
    r.read s line = if r.skipping then (r, none) else r.feed s line := by
  unfold read
  rw [if_neg (Bool.eq_false_iff.1 h), if_neg (Bool.eq_false_iff.1 hmember)]

theorem feed_of_ok {b : Block} (h : r.block.feed s line = .ok b) :
    r.feed s line = ({ r with block := b }, none) := by
  rw [feed, Block.feedKeeping, h]

theorem feed_of_error (h : r.block.feed s line = .error fault) :
    r.feed s line = (r, some fault) := by
  rw [feed, Block.feedKeeping, h]

theorem checkLines_of_none (h : r.read s line = (r', none)) :
    checkLines s r (line :: lines) = checkLines s r' lines := by
  rw [checkLines, h]

theorem checkLines_of_some (h : r.read s line = (r', some fault)) :
    checkLines s r (line :: lines) =
      ((checkLines s r'.recover lines).1, fault :: (checkLines s r'.recover lines).2) := by
  rw [checkLines, h]

theorem recover_isAt (r : Reader) : r.recover.IsAt .outside := by
  unfold recover
  split
  · next houtside => exact houtside
  · rfl

theorem recover_structs (r : Reader) : r.recover.structs = r.structs := by
  unfold recover
  split <;> rfl

end Reader

/-- **One line of a course is one line of the check**, whatever the reader remembers. -/
theorem Passes.exists_reader (h : Passes s line p next found) {r : Reader} (hr : r.IsAt p) :
    ∃ r' : Reader, r'.IsAt next ∧ r'.structs = r.structs ++ found.filterMap Finding.struct? ∧
      ∀ lines, Reader.checkLines s r (line :: lines) =
        ((Reader.checkLines s r' lines).1,
          found.filterMap Finding.fault? ++ (Reader.checkLines s r' lines).2) := by
  cases h with
  | between h =>
    -- the reader may be skipping, or the line may end a block: between blocks both come to nothing
    have hblock : r.block = .outside := hr
    cases hcloses : s.closesBlock line.text with
    | true =>
      refine ⟨_, ?_, ?_, fun lines => Reader.checkLines_of_none (Reader.read_of_closes h hcloses)⟩
      · rfl
      · rw [hblock]
        rfl
    | false =>
      have hread : r.read s line = (r, none) := by
        rw [Reader.read_of_member h hcloses]
        by_cases hskipping : r.skipping = true
        · rw [if_pos hskipping]
        · have hfeed : r.block.feed s line = .ok r.block := by
            rw [hblock]
            exact if_neg (Bool.eq_false_iff.1 h)
          rw [if_neg hskipping, Reader.feed_of_ok hfeed]
      exact ⟨r, hblock, (List.append_nil _).symm, fun lines => Reader.checkLines_of_none hread⟩
  | @opened opened h hread =>
    have hfeed : r.block.feed s line = .ok (.inside opened) := by
      rw [show r.block = .outside from hr, Block.feed, if_pos h, hread]
      rfl
    have hline := (Reader.read_of_outside h hr).trans (Reader.feed_of_ok hfeed)
    exact ⟨{ r with block := .inside opened, headerLine := line.number, skipping := false },
      ⟨rfl, rfl, rfl⟩, (List.append_nil _).symm, fun lines => Reader.checkLines_of_none hline⟩
  | @incomplete fault h hread =>
    have hfeed : r.block.feed s line = .error fault := by
      rw [show r.block = .outside from hr, Block.feed, if_pos h, hread]
      rfl
    have hline := (Reader.read_of_outside h hr).trans (Reader.feed_of_error hfeed)
    refine ⟨_, Reader.recover_isAt _, ?_, fun lines => Reader.checkLines_of_some hline⟩
    rw [Reader.recover_structs]
    exact (List.append_nil _).symm
  | nested h =>
    have hline := Reader.read_of_inside h hr.1
    refine ⟨_, Reader.recover_isAt _, ?_, fun lines => Reader.checkLines_of_some hline⟩
    rw [Reader.recover_structs]
    exact (List.append_nil _).symm
  | closed h hcloses =>
    refine ⟨_, ?_, ?_, fun lines => Reader.checkLines_of_none (Reader.read_of_closes h hcloses)⟩
    · rfl
    · rw [hr.1]
      rfl
  | @member header opened grown h hmember hfeed =>
    obtain ⟨hblock, hheader, hskipping⟩ := hr
    rw [← hblock] at hfeed
    have hline : r.read s line = ({ r with block := .inside grown }, none) := by
      rw [Reader.read_of_member h hmember, if_neg (Bool.eq_false_iff.1 hskipping),
        Reader.feed_of_ok hfeed]
    exact ⟨{ r with block := .inside grown }, ⟨rfl, hheader, hskipping⟩,
      (List.append_nil _).symm, fun lines => Reader.checkLines_of_none hline⟩
  | @broken header opened fault h hmember hfeed =>
    obtain ⟨hblock, -, hskipping⟩ := hr
    rw [← hblock] at hfeed
    have hline : r.read s line = (r, some fault) := by
      rw [Reader.read_of_member h hmember, if_neg (Bool.eq_false_iff.1 hskipping),
        Reader.feed_of_error hfeed]
    refine ⟨_, Reader.recover_isAt _, ?_, fun lines => Reader.checkLines_of_some hline⟩
    rw [Reader.recover_structs]
    exact (List.append_nil _).symm

namespace Course

/-- **The check runs as its course says.** -/
theorem exists_checkLines (h : Course s p lines findings last) {r : Reader} (hr : r.IsAt p) :
    ∃ r' : Reader, r'.IsAt last ∧ r'.structs = r.structs ++ findings.filterMap Finding.struct? ∧
      Reader.checkLines s r lines = (r', findings.filterMap Finding.fault?) := by
  induction h generalizing r with
  | stop => exact ⟨r, hr, (List.append_nil _).symm, rfl⟩
  | line hline _ ih =>
    obtain ⟨r', hr', hstructs, hcheck⟩ := hline.exists_reader hr
    obtain ⟨r'', hr'', hstructs', hcheck'⟩ := ih hr'
    refine ⟨r'', hr'', ?_, ?_⟩
    · rw [hstructs', hstructs, List.append_assoc, List.filterMap_append]
    · rw [hcheck, hcheck', List.filterMap_append]

theorem close_toList {r : Reader} (hr : r.IsAt p) :
    r.close.toList = p.atEnd.filterMap Finding.fault? := by
  unfold Reader.close
  cases p with
  | outside =>
    rw [show r.block = .outside from hr]
    rfl
  | inside header opened =>
    obtain ⟨hblock, hheader, -⟩ := hr
    rw [hblock, hheader]
    rfl

theorem check_eq {source : Text}
    (h : Course s .outside (SourceLine.ofText source) findings last) :
    Source.check s source = Finding.report (findings ++ last.atEnd) := by
  obtain ⟨r, hr, hstructs, hcheck⟩ := h.exists_checkLines (r := {}) rfl
  have hend : last.atEnd.filterMap Finding.struct? = [] := by
    cases last <;> rfl
  simp only [Source.check, hcheck, hstructs, close_toList hr, Finding.report,
    List.filterMap_append, hend, List.append_nil, List.nil_append]

end Course

/-- **Every check takes a course**, and reports what it finds. -/
theorem Source.exists_course (s : Spelling) (source : Text) :
    ∃ findings last, Course s .outside (SourceLine.ofText source) findings last ∧
      Source.check s source = Finding.report (findings ++ last.atEnd) := by
  obtain ⟨findings, last, h⟩ := Course.total s .outside (SourceLine.ofText source)
  exact ⟨findings, last, h, h.check_eq⟩

/-! ## Open blocks -/

/-- The header opens the struct, and behind these lines its block is still open: they declare the
fields so far, and none of them is a header or closes the block. -/
structure Spelling.HoldsOpen (s : Spelling) (header : SourceLine) (since : List SourceLine)
    (opened : Struct) : Prop where
  isHeader : s.isHeader header.text = true
  names : HeaderForm.read? s header.text =
    some { typeName := opened.typeName, tableName := opened.tableName }
  members : ∀ line ∈ since, s.isHeader line.text = false ∧ s.closesBlock line.text = false
  fields : List.Forall₂ (fun line f => Field.read s line = .ok f) (s.fieldLines since)
    opened.fields
  tableField : opened.fields.countP (·.namesTable) ≤ 1

/-- What is known of the lines in front of a place. -/
def Place.IsBehind (s : Spelling) (lines : List SourceLine) : Place → Prop
  | .outside => True
  | .inside header opened =>
    ∃ earlier since, lines = earlier ++ header :: since ∧ s.HoldsOpen header since opened

theorem Spelling.HoldsOpen.grow {header : SourceLine} {since : List SourceLine}
    {opened grown : Struct} (h : s.HoldsOpen header since opened)
    (hheader : s.isHeader line.text = false) (hmember : s.closesBlock line.text = false)
    (hfeed : (Block.inside opened).feed s line = .ok (.inside grown)) :
    s.HoldsOpen header (since ++ [line]) grown := by
  have hmembers : ∀ other ∈ since ++ [line],
      s.isHeader other.text = false ∧ s.closesBlock other.text = false := by
    intro other hother
    rcases List.mem_append.1 hother with hother | hother
    · exact h.members other hother
    · cases List.mem_singleton.1 hother
      exact ⟨hheader, hmember⟩
  cases Block.feed_eq_ok_iff.1 hfeed with
  | opener hopens =>
    refine ⟨h.isHeader, h.names, hmembers, ?_, h.tableField⟩
    rw [fieldLines, List.filter_append, List.filter_cons_of_neg (by simp [hopens]),
      List.filter_nil, List.append_nil]
    exact h.fields
  | field hopens hread hfirst =>
    refine ⟨h.isHeader, h.names, hmembers, ?_,
      (Struct.countP_addField_le_one_iff h.tableField).2 hfirst⟩
    rw [fieldLines, List.filter_append, List.filter_cons_of_pos (by simp [hopens])]
    exact List.rel_append h.fields (.cons hread .nil)

theorem Passes.isBehind {before : List SourceLine} (h : Passes s line p next found)
    (hp : p.IsBehind s before) : next.IsBehind s (before ++ [line]) := by
  cases h with
  | between | incomplete | nested | closed | broken => trivial
  | opened h hread =>
    obtain ⟨form, hform, rfl⟩ := Block.ofHeader_eq_ok_iff.1 hread
    exact ⟨before, [], rfl, h, hform, fun _ hother => absurd hother List.not_mem_nil, .nil,
      Nat.zero_le _⟩
  | member h hmember hfeed =>
    obtain ⟨earlier, since, rfl, hopen⟩ := hp
    refine ⟨earlier, since ++ [line], ?_, hopen.grow h hmember hfeed⟩
    rw [List.append_assoc, List.cons_append]

namespace Course

theorem isBehind (h : Course s p lines findings last) (before : List SourceLine)
    (hp : p.IsBehind s before) : last.IsBehind s (before ++ lines) := by
  induction h generalizing before with
  | stop =>
    rw [List.append_nil]
    exact hp
  | @line p next last line lines found findings hline _ ih =>
    have hnext := ih _ (hline.isBehind hp)
    rw [List.append_assoc] at hnext
    exact hnext

/-- **Where a course stands in a block**, the header is behind it, and the lines since are known. -/
theorem exists_holdsOpen {header : SourceLine} {opened : Struct}
    (h : Course s .outside lines findings (.inside header opened)) :
    ∃ earlier since, lines = earlier ++ header :: since ∧ s.HoldsOpen header since opened :=
  h.isBehind [] trivial

end Course

end Course

end TableBinding
