import Mathlib.Data.List.Forall2
import TableBinding.Annotation.Source
import TableBinding.Proofs.Annotation.WellFormed

/-!
# The grammar of declaration files

A declaration file is accepted exactly if its lines can be cut into blocks, each of a header, lines
inside and a closing line, with lines that are no headers in between; the cut is unique, and every
struct is what its block declares (`Source.structs_eq_ok_iff_unique_cut`).

The shape of the argument: what a line without a fault does to a reader is said once
(`Block.Reads`), so that reading to the end is a chain of such lines (`Block.Accepts`,
`Reader.finishLines_eq_ok_iff`). From the chain the cut is found block by block, and each cut gives
the chain (`Block.accepts_outside_iff`). The cut is unique because its lines tell where a block
begins and ends (`FileCut.eq_of_lines_eq`).
-/

namespace TableBinding

open Text

/-! ## Chains of lines -/

namespace Block

/-- What a line without a fault does to a reader: the block behind it, and what it hands over. -/
inductive Reads (s : Spelling) (line : SourceLine) : Block → Block → List Struct → Prop
  | between (h : s.isHeader line.text = false) : Reads s line .outside .outside []
  | header (h : s.isHeader line.text = true) {form : HeaderForm}
      (hread : HeaderForm.read? s line.text = some form) :
      Reads s line .outside (.inside (.ofForm form)) []
  | member {opened grown : Struct} (h : s.isHeader line.text = false)
      (hmember : s.closesBlock line.text = false)
      (htakes : Takes s line (.inside opened) (.inside grown)) :
      Reads s line (.inside opened) (.inside grown) []
  | closing {opened : Struct} (h : s.isHeader line.text = false)
      (hcloses : s.closesBlock line.text = true) :
      Reads s line (.inside opened) .outside [opened]

/-- The lines are read to the end of the file without a fault, and hand over the structs. -/
inductive Accepts (s : Spelling) : Block → List SourceLine → List Struct → Prop
  | done : Accepts s .outside [] []
  | line {b next : Block} {line : SourceLine} {lines : List SourceLine}
      {closed structs : List Struct} (hline : Reads s line b next closed)
      (hrest : Accepts s next lines structs) :
      Accepts s b (line :: lines) (closed ++ structs)

theorem feedKeeping_eq_none_iff {s : Spelling} {line : SourceLine} {b next : Block} :
    b.feedKeeping s line = (next, none) ↔ Takes s line b next := by
  rw [← feed_eq_ok_iff, feedKeeping]
  cases b.feed s line <;> simp

end Block

namespace Reader

open Block

variable {s : Spelling} {line : SourceLine} {r next : Reader}

theorem feed_eq_none_iff :
    r.feed s line = (next, none) ↔ ∃ b, Takes s line r.block b ∧ next = { r with block := b } := by
  simp only [← feedKeeping_eq_none_iff, feed, Prod.mk.injEq]
  constructor
  · rintro ⟨rfl, hfault⟩
    exact ⟨_, Prod.ext rfl hfault, rfl⟩
  · rintro ⟨b, hb, rfl⟩
    rw [hb]
    exact ⟨rfl, rfl⟩

/-- **One line, forwards**: a line that is read without a fault makes a step of a chain. -/
theorem reads_of_read (hr : r.skipping = false) (h : r.read s line = (next, none)) :
    next.skipping = false ∧
      ∃ closed, Reads s line r.block next.block closed ∧ next.structs = r.structs ++ closed := by
  unfold read at h
  split at h
  · next hheader =>
    split at h
    · cases h
    · next houtside =>
      obtain ⟨b, htakes, rfl⟩ := feed_eq_none_iff.1 h
      refine ⟨rfl, [], ?_, (List.append_nil _).symm⟩
      simp only [houtside] at htakes ⊢
      cases htakes with
      | skip hskip => exact absurd hheader (Bool.eq_false_iff.1 hskip)
      | header _ hread => exact .header hheader hread
  · next hheader =>
    rw [Bool.not_eq_true] at hheader
    split at h
    · next hcloses =>
      -- a block end outside of a block hands over nothing, like any other line there
      cases h
      refine ⟨rfl, r.block.struct?.toList, ?_, rfl⟩
      cases r.block with
      | outside => exact .between hheader
      | inside opened => exact .closing hheader hcloses
    · next hcloses =>
      rw [Bool.not_eq_true] at hcloses
      rw [hr, if_neg Bool.false_ne_true] at h
      obtain ⟨b, htakes, rfl⟩ := feed_eq_none_iff.1 h
      refine ⟨hr, [], ?_, (List.append_nil _).symm⟩
      cases hblock : r.block with
      | outside =>
        rw [hblock] at htakes
        cases htakes with
        | skip => exact .between hheader
        | header htrue => exact absurd htrue (Bool.eq_false_iff.1 hheader)
      | inside opened =>
        rw [hblock] at htakes
        cases htakes with
        | opener hopens => exact .member hheader hcloses (.opener hopens)
        | field hopens hread hfirst => exact .member hheader hcloses (.field hopens hread hfirst)

/-- **One line, backwards**: a step of a chain is read without a fault. -/
theorem read_of_reads {b : Block} {closed : List Struct} (hr : r.skipping = false)
    (h : Reads s line r.block b closed) :
    ∃ next, r.read s line = (next, none) ∧ next.skipping = false ∧ next.block = b ∧
      next.structs = r.structs ++ closed := by
  generalize hblock : r.block = block at h
  cases h with
  | between hheader =>
    -- the line may be a block end: the reader stands outside of a block, so it is skipped as well
    unfold read
    rw [hheader, if_neg Bool.false_ne_true]
    split
    · exact ⟨_, rfl, rfl, rfl, by rw [hblock]; rfl⟩
    · rw [hr, if_neg Bool.false_ne_true]
      have htakes : Takes s line r.block .outside := hblock ▸ .skip hheader
      exact ⟨_, feed_eq_none_iff.2 ⟨_, htakes, rfl⟩, hr, rfl, (List.append_nil _).symm⟩
  | header hheader hread =>
    unfold read
    rw [if_pos hheader, hblock]
    have htakes := Takes.header hheader hread
    exact ⟨_, feed_eq_none_iff.2 ⟨_, htakes, rfl⟩, rfl, rfl, (List.append_nil _).symm⟩
  | member hheader hcloses htakes =>
    unfold read
    rw [hheader, hcloses, hr, if_neg Bool.false_ne_true, if_neg Bool.false_ne_true,
      if_neg Bool.false_ne_true]
    rw [← hblock] at htakes
    exact ⟨_, feed_eq_none_iff.2 ⟨_, htakes, rfl⟩, hr, rfl, (List.append_nil _).symm⟩
  | closing hheader hcloses =>
    unfold read
    rw [hheader, if_neg Bool.false_ne_true, if_pos hcloses]
    exact ⟨_, rfl, rfl, rfl, by rw [hblock]; rfl⟩

/-- **A whole file**: the structs that a reader ends with are those it had and those of a chain. -/
theorem finishLines_eq_ok_iff {lines : List SourceLine} {all : List Struct}
    (hr : r.skipping = false) :
    finishLines s r lines = .ok all ↔
      ∃ structs, Accepts s r.block lines structs ∧ all = r.structs ++ structs := by
  induction lines generalizing r with
  | nil =>
    simp only [finishLines, close]
    constructor
    · intro h
      cases hblock : r.block with
      | inside opened =>
        rw [hblock] at h
        cases h
      | outside =>
        rw [hblock] at h
        cases h
        exact ⟨[], .done, (List.append_nil _).symm⟩
    · rintro ⟨structs, haccepts, rfl⟩
      generalize r.block = block at haccepts
      cases haccepts
      exact congrArg Except.ok (List.append_nil _).symm
  | cons line lines ih =>
    simp only [finishLines]
    constructor
    · intro h
      split at h
      · cases h
      · next next hread =>
        obtain ⟨hnext, closed, hreads, hstructs⟩ := reads_of_read hr hread
        obtain ⟨structs, haccepts, rfl⟩ := (ih hnext).1 h
        exact ⟨closed ++ structs, .line hreads haccepts, by rw [hstructs, List.append_assoc]⟩
    · rintro ⟨structs, haccepts, rfl⟩
      generalize hb : r.block = block at haccepts
      cases haccepts with
      | line hreads hrest =>
        subst hb
        obtain ⟨next, hread, hnext, hblock, hstructs⟩ := read_of_reads hr hreads
        rw [hread]
        refine (ih hnext).2 ⟨_, hblock ▸ hrest, ?_⟩
        rw [hstructs, List.append_assoc]

end Reader

/-! ## Cuts -/

/-- The lines in a block that are to declare fields. -/
def Spelling.fieldLines (s : Spelling) (lines : List SourceLine) : List SourceLine :=
  lines.filter fun line => !s.opensBlock line.text

theorem Spelling.fieldLines_cons_of_opens {s : Spelling} {line : SourceLine}
    (h : s.opensBlock line.text = true) (lines : List SourceLine) :
    s.fieldLines (line :: lines) = s.fieldLines lines :=
  List.filter_cons_of_neg (by simp [h])

theorem Spelling.fieldLines_cons {s : Spelling} {line : SourceLine}
    (h : s.opensBlock line.text = false) (lines : List SourceLine) :
    s.fieldLines (line :: lines) = line :: s.fieldLines lines :=
  List.filter_cons_of_pos (by simp [h])

/-- The lines of one block, with those in front of it that belong to none. -/
structure BlockLines where
  before : List SourceLine
  header : SourceLine
  body : List SourceLine
  closing : SourceLine
  deriving DecidableEq, Repr

/-- The lines of a file, cut into blocks. -/
structure FileCut where
  blocks : List BlockLines
  after : List SourceLine
  deriving DecidableEq, Repr

namespace BlockLines

def lines (b : BlockLines) : List SourceLine := b.before ++ b.header :: (b.body ++ [b.closing])

/-- The lines form a block, and the struct is the one that it declares. -/
structure Declares (s : Spelling) (b : BlockLines) (d : Struct) : Prop where
  before : ∀ line ∈ b.before, s.isHeader line.text = false
  header : s.isHeader b.header.text = true
  names : HeaderForm.read? s b.header.text =
    some { typeName := d.typeName, tableName := d.tableName }
  body : ∀ line ∈ b.body, s.isHeader line.text = false ∧ s.closesBlock line.text = false
  fields : List.Forall₂ (fun line f => Field.read s line = .ok f) (s.fieldLines b.body) d.fields
  tableField : d.fields.countP (·.namesTable) ≤ 1
  closing : s.isHeader b.closing.text = false ∧ s.closesBlock b.closing.text = true

end BlockLines

namespace FileCut

def lines (c : FileCut) : List SourceLine := c.blocks.flatMap BlockLines.lines ++ c.after

/-- The lines are cut into blocks, and the structs are those that the blocks declare. -/
structure Declares (s : Spelling) (c : FileCut) (structs : List Struct) : Prop where
  blocks : List.Forall₂ (BlockLines.Declares s) c.blocks structs
  after : ∀ line ∈ c.after, s.isHeader line.text = false

end FileCut

/-! ## From chains to cuts -/

namespace Struct

def addFields (d : Struct) (fs : List Field) : Struct := { d with fields := d.fields ++ fs }

theorem addFields_nil (d : Struct) : d.addFields [] = d := by
  rw [addFields, List.append_nil]

theorem addFields_addField (d : Struct) (f : Field) (fs : List Field) :
    (d.addField f).addFields fs = d.addFields (f :: fs) := by
  rw [addFields, addFields, addField, List.append_assoc, List.singleton_append]

/-- Among few table names, the one that is added is the first. -/
theorem tableField?_eq_none_of_addFields {d : Struct} {f : Field} {fs : List Field}
    (h : (d.addFields (f :: fs)).fields.countP (·.namesTable) ≤ 1) (hf : f.namesTable = true) :
    d.tableField? = none := by
  rw [addFields, List.countP_append, List.countP_cons_of_pos hf] at h
  rw [tableField?_eq_none_iff]
  omega

/-- The lines declare the fields that the opened struct still gets, and the last one closes it. -/
structure EndsWith (s : Spelling) (opened : Struct) (body : List SourceLine)
    (closing : SourceLine) (fields : List Field) : Prop where
  inner : ∀ line ∈ body, s.isHeader line.text = false ∧ s.closesBlock line.text = false
  reads : List.Forall₂ (fun line f => Field.read s line = .ok f) (s.fieldLines body) fields
  tableField : (opened.addFields fields).fields.countP (·.namesTable) ≤ 1
  closing : s.isHeader closing.text = false ∧ s.closesBlock closing.text = true

end Struct

namespace Block

variable {s : Spelling} {line : SourceLine} {b next : Block} {closed : List Struct}

theorem Reads.wellFormed (h : Reads s line b next closed) (hb : b.WellFormed s) :
    next.WellFormed s := by
  cases h with
  | between => exact wellFormed_outside
  | header hheader hread => exact (Takes.header hheader hread).wellFormed hb
  | member _ _ htakes => exact htakes.wellFormed hb
  | closing => exact wellFormed_outside

/-- The lines behind a place in a file are the rest of its block, if it is in one, and a cut. -/
def Completes (s : Spelling) (b : Block) (lines : List SourceLine) (structs : List Struct) :
    Prop :=
  match b with
  | outside => ∃ cut : FileCut, cut.lines = lines ∧ cut.Declares s structs
  | inside opened =>
    ∃ (body : List SourceLine) (closing : SourceLine) (fields : List Field) (cut : FileCut)
      (later : List Struct),
      body ++ closing :: cut.lines = lines ∧ opened.EndsWith s body closing fields ∧
        cut.Declares s later ∧ structs = opened.addFields fields :: later

/-- **One more line in front of a cut.** -/
theorem Reads.completes {lines : List SourceLine} {structs : List Struct}
    (hb : b.WellFormed s) (hline : Reads s line b next closed)
    (h : Completes s next lines structs) :
    Completes s b (line :: lines) (closed ++ structs) := by
  cases hline with
  | between hheader =>
    -- the line goes in front of the first block, or of what follows the last where there is none
    obtain ⟨⟨blocks, after⟩, rfl, hblocks, hafter⟩ := h
    cases hblocks with
    | nil => exact ⟨⟨[], line :: after⟩, rfl, .nil, List.forall_mem_cons.2 ⟨hheader, hafter⟩⟩
    | @cons block d blocks structs hblock hblocks =>
      refine ⟨⟨{ block with before := line :: block.before } :: blocks, after⟩, rfl, ?_, hafter⟩
      exact .cons { hblock with before := List.forall_mem_cons.2 ⟨hheader, hblock.before⟩ } hblocks
  | header hheader hread =>
    obtain ⟨body, closing, fields, ⟨blocks, after⟩, later, rfl, hends, ⟨hblocks, hafter⟩, rfl⟩ := h
    refine ⟨⟨⟨[], line, body, closing⟩ :: blocks, after⟩, ?_, .cons ?_ hblocks, hafter⟩
    · simp [FileCut.lines, BlockLines.lines]
    · exact ⟨fun _ h => absurd h List.not_mem_nil, hheader, hread, hends.inner, hends.reads,
        hends.tableField, hends.closing⟩
  | @member opened grown hheader hmember htakes =>
    obtain ⟨body, closing, fields, cut, later, rfl, hends, hcut, rfl⟩ := h
    have hbody := List.forall_mem_cons.2 ⟨⟨hheader, hmember⟩, hends.inner⟩
    cases htakes with
    | opener hopens =>
      refine ⟨line :: body, closing, fields, cut, later, rfl, ⟨hbody, ?_, hends.tableField,
        hends.closing⟩, hcut, rfl⟩
      rw [Spelling.fieldLines_cons_of_opens hopens]
      exact hends.reads
    | @field _ f hopens hread hfirst =>
      rw [Struct.addFields_addField]
      refine ⟨line :: body, closing, f :: fields, cut, later, rfl, ⟨hbody, ?_, ?_,
        hends.closing⟩, hcut, rfl⟩
      · rw [Spelling.fieldLines_cons hopens]
        exact .cons hread hends.reads
      · rw [← Struct.addFields_addField]
        exact hends.tableField
  | @closing opened hheader hcloses =>
    obtain ⟨cut, rfl, hcut⟩ := h
    refine ⟨[], line, [], cut, structs, rfl, ⟨fun _ h => absurd h List.not_mem_nil, .nil, ?_,
      hheader, hcloses⟩, hcut, ?_⟩
    · -- nothing in the line bounds the table names: that the block is well formed does
      rw [Struct.addFields_nil]
      exact (hb opened rfl).tableField
    · rw [Struct.addFields_nil]
      rfl

/-- **Every chain comes from a cut.** -/
theorem Accepts.completes {lines : List SourceLine} {structs : List Struct}
    (h : Accepts s b lines structs) (hb : b.WellFormed s) : Completes s b lines structs := by
  induction h with
  | done => exact ⟨⟨[], []⟩, rfl, .nil, fun _ h => absurd h List.not_mem_nil⟩
  | line hline _ ih => exact hline.completes hb (ih (hline.wellFormed hb))

/-! ## From cuts to chains -/

theorem Accepts.between {before rest : List SourceLine} {structs : List Struct}
    (hbefore : ∀ line ∈ before, s.isHeader line.text = false)
    (h : Accepts s .outside rest structs) : Accepts s .outside (before ++ rest) structs := by
  induction before with
  | nil => exact h
  | cons line before ih =>
    rw [List.forall_mem_cons] at hbefore
    exact .line (.between hbefore.1) (ih hbefore.2)

theorem Accepts.inside {body rest : List SourceLine} {closing : SourceLine} {fields : List Field}
    {opened : Struct} {structs : List Struct} (hends : opened.EndsWith s body closing fields)
    (h : Accepts s .outside rest structs) :
    Accepts s (.inside opened) (body ++ closing :: rest) (opened.addFields fields :: structs) := by
  obtain ⟨hbody, hfields, htable, hclosing⟩ := hends
  induction body generalizing opened fields with
  | nil =>
    cases hfields
    rw [Struct.addFields_nil]
    exact .line (.closing hclosing.1 hclosing.2) h
  | cons line body ih =>
    rw [List.forall_mem_cons] at hbody
    obtain ⟨⟨hheader, hmember⟩, hbody⟩ := hbody
    cases hopens : s.opensBlock line.text with
    | true =>
      rw [Spelling.fieldLines_cons_of_opens hopens] at hfields
      exact .line (.member hheader hmember (.opener hopens)) (ih hbody hfields htable)
    | false =>
      rw [Spelling.fieldLines_cons hopens] at hfields
      cases hfields with
      | cons hread hfields =>
        have hfirst := Struct.tableField?_eq_none_of_addFields htable
        rw [← Struct.addFields_addField] at htable ⊢
        exact .line (.member hheader hmember (.field hopens hread hfirst)) (ih hbody hfields htable)

theorem Accepts.block {block : BlockLines} {d : Struct} {rest : List SourceLine}
    {structs : List Struct} (hblock : block.Declares s d) (h : Accepts s .outside rest structs) :
    Accepts s .outside (block.lines ++ rest) (d :: structs) := by
  have hends : Struct.EndsWith s (.ofForm ⟨d.typeName, d.tableName⟩) block.body block.closing
      d.fields := ⟨hblock.body, hblock.fields, hblock.tableField, hblock.closing⟩
  have hlines : block.lines ++ rest =
      block.before ++ block.header :: (block.body ++ block.closing :: rest) := by
    simp [BlockLines.lines]
  rw [hlines]
  exact .between hblock.before (.line (.header hblock.header hblock.names) (.inside hends h))

theorem accepts_outside_iff {lines : List SourceLine} {structs : List Struct} :
    Accepts s .outside lines structs ↔
      ∃ cut : FileCut, cut.lines = lines ∧ cut.Declares s structs := by
  refine ⟨fun h => h.completes wellFormed_outside, ?_⟩
  rintro ⟨⟨blocks, after⟩, rfl, hblocks, hafter⟩
  simp only [FileCut.lines] at *
  induction hblocks with
  | nil =>
    have h := Accepts.between hafter .done
    rw [List.append_nil] at h
    exact h
  | cons hblock _ ih =>
    rw [List.flatMap_cons, List.append_assoc]
    exact .block hblock ih

end Block

/-! ## One cut only -/

theorem BlockLines.eq_of_lines_append_eq {s : Spelling} {b b' : BlockLines} {d d' : Struct}
    {rest rest' : List SourceLine} (hb : b.Declares s d) (hb' : b'.Declares s d')
    (h : b.lines ++ rest = b'.lines ++ rest') : b = b' ∧ rest = rest' := by
  obtain ⟨before, header, body, closing⟩ := b
  obtain ⟨before', header', body', closing'⟩ := b'
  simp only [lines, List.append_assoc, List.cons_append, List.nil_append] at h
  obtain ⟨rfl, rfl, hbody⟩ := append_cons_inj_of_first (p := fun line => s.isHeader line.text)
    hb.before hb.header hb'.before hb'.header h
  obtain ⟨rfl, rfl, rfl⟩ := append_cons_inj_of_first (p := fun line => s.closesBlock line.text)
    (fun line hline => (hb.body line hline).2) hb.closing.2
    (fun line hline => (hb'.body line hline).2) hb'.closing.2 hbody
  exact ⟨rfl, rfl⟩

namespace FileCut

theorem not_lines_append_eq {s : Spelling} {after rest : List SourceLine} {b : BlockLines}
    {d : Struct} (hafter : ∀ line ∈ after, s.isHeader line.text = false) (hb : b.Declares s d) :
    after ≠ b.lines ++ rest := by
  rintro rfl
  have hmem : b.header ∈ b.lines ++ rest := by simp [BlockLines.lines]
  exact absurd hb.header (Bool.eq_false_iff.1 (hafter _ hmem))

theorem eq_of_lines_eq {s : Spelling} {c c' : FileCut} {structs structs' : List Struct}
    (hc : c.Declares s structs) (hc' : c'.Declares s structs') (h : c.lines = c'.lines) :
    c = c' := by
  obtain ⟨blocks, after⟩ := c
  obtain ⟨blocks', after'⟩ := c'
  obtain ⟨hblocks, hafter⟩ := hc
  obtain ⟨hblocks', hafter'⟩ := hc'
  simp only [lines] at hblocks hblocks' hafter hafter' h
  induction hblocks generalizing blocks' structs' with
  | nil =>
    cases hblocks' with
    | nil => rw [List.flatMap_nil, List.nil_append, List.nil_append] at h; rw [h]
    | cons hblock' =>
      rw [List.flatMap_cons, List.append_assoc] at h
      exact absurd h (not_lines_append_eq hafter hblock')
  | cons hblock _ ih =>
    rw [List.flatMap_cons, List.append_assoc] at h
    cases hblocks' with
    | nil => exact absurd h.symm (not_lines_append_eq hafter' hblock)
    | cons hblock' hblocks' =>
      rw [List.flatMap_cons, List.append_assoc] at h
      obtain ⟨rfl, hrest⟩ := BlockLines.eq_of_lines_append_eq hblock hblock' h
      cases ih _ hrest hblocks'
      rfl

end FileCut

/-! ## Declaration files -/

namespace Source

theorem structs_eq_ok_iff {s : Spelling} {source : Text} {structs : List Struct} :
    Source.structs s source = .ok structs ↔
      ∃ cut : FileCut, cut.lines = SourceLine.ofText source ∧ cut.Declares s structs := by
  rw [Source.structs, Reader.finishLines_eq_ok_iff rfl]
  simp only [List.nil_append, exists_eq_right']
  exact Block.accepts_outside_iff

/-- **The accepted declaration files** are those whose lines can be cut into blocks; the structs are
what the blocks declare, and the lines can be cut in one way only. -/
theorem structs_eq_ok_iff_unique_cut (s : Spelling) (source : Text) :
    (∀ structs, Source.structs s source = .ok structs ↔
      ∃ cut : FileCut, cut.lines = SourceLine.ofText source ∧ cut.Declares s structs) ∧
    ∀ (cut other : FileCut) (structs structs' : List Struct),
      cut.lines = SourceLine.ofText source → cut.Declares s structs →
      other.lines = SourceLine.ofText source → other.Declares s structs' → other = cut := by
  refine ⟨fun structs => structs_eq_ok_iff, ?_⟩
  intro cut other structs structs' hlines hcut hlines' hother
  exact FileCut.eq_of_lines_eq hother hcut (hlines'.trans hlines.symm)

end Source

end TableBinding
