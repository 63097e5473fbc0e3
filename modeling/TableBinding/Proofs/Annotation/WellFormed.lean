import TableBinding.Annotation.Block
import TableBinding.Proofs.Annotation.Form
import TableBinding.Proofs.Annotation.Options

/-!
# Well-formed structs

Whatever lines a block is fed, in whatever order, with whatever faults in between and however often
it is closed, the structs that it holds and hands over are well formed (`Block.run_wellFormed`):
their names are spelled as names, at most one field holds a table name, a column has a column type,
a host type that can be read back and extra options that stand for themselves, and a field that is
no column has nothing of a column.

The shape of the argument: what a line may do to a block is said once (`Block.Takes`,
`Block.feed_eq_ok_iff`); each of these steps keeps the struct well formed
(`Block.Takes.wellFormed`), because every field that is read is (`Field.read_wellFormed`); and a run
is a sequence of steps.
-/

namespace TableBinding

open Text

/-! ## Fields -/

/-- An option that a column keeps: it can stand in an annotation, and is read there as an option
of no other class. -/
structure Spelling.IsExtra (s : Spelling) (e : Text) : Prop where
  option : IsOption e
  noDelimiter : ¬ s.delimiter <:+: e
  noLineFeed : '\n' ∉ e
  notMark : e ≠ s.tableMark
  extra : Token.ofText s e = .extra e

/-- One or more words, with single spaces between them. -/
def Text.IsHostType (t : Text) : Prop :=
  ∃ ws : List Text, ws ≠ [] ∧ (∀ w ∈ ws, w ≠ [] ∧ ∀ c ∈ w, isTypeChar c = true) ∧
    t = join [' '] ws

namespace Field

/-- What a column has. -/
structure IsColumn (s : Spelling) (f : Field) : Prop where
  noTableName : f.namesTable = false
  columnType : f.columnType ∈ s.datatypes
  hostType : HostType.ofName? f.hostType ≠ none
  extras : ∀ e ∈ f.extras, s.IsExtra e

/-- What a field has that can be read with the spelling. -/
structure WellFormed (s : Spelling) (f : Field) : Prop where
  name : isIdent f.name = true
  hostType : IsHostType f.hostType
  column : f.persisted = true → f.IsColumn s
  other : f.persisted = false →
    f.columnType = [] ∧ f.nullable = false ∧ f.primaryKey = false ∧ f.extras = []

variable {s : Spelling} {line : SourceLine} {form : FieldForm} {f : Field}

/-- What a line of a form declares: a transient field, a field that holds a table name, or a
column. -/
theorem ofForm_cases (h : ofForm s line form = .ok f) :
    (form.options = [] ∧ f = { hostType := squeeze form.hostType, name := form.name }) ∨
      (s.tableMark ∈ Text.options form.options ∧
        f = { hostType := squeeze form.hostType, name := form.name, namesTable := true }) ∨
      ∃ o, s.tableMark ∉ Text.options form.options ∧
        ColumnOptions.ofBody? s form.options = some o ∧
        HostType.ofName? (squeeze form.hostType) ≠ none ∧
        f = withOptions { hostType := squeeze form.hostType, name := form.name } o := by
  simp only [ofForm] at h
  split at h
  · next hempty => exact .inl ⟨List.isEmpty_iff.1 hempty, (Except.ok.inj h).symm⟩
  · split at h
    · next hmark => exact .inr (.inl ⟨by simpa using hmark, (Except.ok.inj h).symm⟩)
    · next hmark =>
      split at h
      · cases h
      · next o ho =>
        split at h
        · cases h
        · next hhost =>
          refine .inr (.inr ⟨o, by simpa using hmark, ho, ?_, (Except.ok.inj h).symm⟩)
          exact hhost ▸ Option.some_ne_none _

theorem read_eq_ok_iff :
    read s line = .ok f ↔
      ∃ form, FieldForm.read? s line.text = some form ∧ ofForm s line form = .ok f := by
  unfold read
  cases FieldForm.read? s line.text with
  | none => simp
  | some form => simp

/-- The words of a type, spaced anew, are a host type. -/
theorem isHostType_squeeze {t : Text} (h : IsTypeWords t) : IsHostType (squeeze t) := by
  refine ⟨words t, ?_, fun w hw => ?_, rfl⟩
  · obtain ⟨c, rest, rfl⟩ := List.exists_cons_of_ne_nil h.ne_nil
    have hgap : isGap c = false := h.tight.head c rfl
    have hc : isTypeChar c = true :=
      (h.chars c (List.mem_cons_self ..)).resolve_right (Bool.eq_false_iff.1 hgap)
    exact words_ne_nil (List.mem_cons_self ..) (isBlank_eq_false_of_isTypeChar hc)
  · obtain ⟨hne, hblank, hmem⟩ := mem_words hw
    refine ⟨hne, fun c hc => (h.chars c (hmem c hc)).resolve_right fun hgap => ?_⟩
    exact absurd (isBlank_of_isGap hgap) (Bool.eq_false_iff.1 (hblank c hc))

/-- **Every field that is read is well formed.** -/
theorem read_wellFormed (h : read s line = .ok f) : f.WellFormed s := by
  obtain ⟨form, hform, h⟩ := read_eq_ok_iff.1 h
  obtain ⟨_, _, _, _, _, -, -, htype, -, -, hname, -, -, hcut⟩ := FieldForm.exists_of_read? hform
  have hhost := isHostType_squeeze htype
  rcases ofForm_cases h with ⟨-, rfl⟩ | ⟨-, rfl⟩ | ⟨o, hmark, ho, hknown, rfl⟩
  · exact ⟨hname, hhost, fun e => absurd e Bool.false_ne_true, fun _ => ⟨rfl, rfl, rfl, rfl⟩⟩
  · exact ⟨hname, hhost, fun e => absurd e Bool.false_ne_true, fun _ => ⟨rfl, rfl, rfl, rfl⟩⟩
  · obtain ⟨htype, -, hextras⟩ := ColumnOptions.of_ofBody? ho
    refine ⟨hname, hhost, fun _ => ⟨rfl, htype, hknown, fun e he => ?_⟩, fun e => absurd e.symm
      Bool.false_ne_true⟩
    obtain ⟨hmem, hextra⟩ := hextras e he
    obtain ⟨hoption, hstands⟩ := mem_options hmem
    have hne : form.options ≠ [] := by
      intro hnil
      rw [hnil, List.infix_nil] at hstands
      exact hoption.ne_nil hstands
    exact ⟨hoption, fun hd => hcut.not_occurs hne (hd.trans hstands),
      fun hline => hcut.noLineFeed (hstands.mem hline), fun hm => hmark (hm ▸ hmem), hextra⟩

end Field

/-! ## Structs -/

namespace Struct

/-- What a struct has that can be read with the spelling. -/
structure WellFormed (s : Spelling) (d : Struct) : Prop where
  typeName : d.typeName ≠ [] ∧ ∀ c ∈ d.typeName, isTypeChar c = true
  tableName : d.tableName ≠ [] ∧ ∀ c ∈ d.tableName, isIdentRest c = true
  tableField : d.fields.countP (·.namesTable) ≤ 1
  fields : ∀ f ∈ d.fields, f.WellFormed s

def ofForm (form : HeaderForm) : Struct :=
  { typeName := form.typeName, tableName := form.tableName }

def addField (d : Struct) (f : Field) : Struct := { d with fields := d.fields ++ [f] }

theorem tableField?_eq_none_iff {d : Struct} :
    d.tableField? = none ↔ d.fields.countP (·.namesTable) = 0 := by
  rw [tableField?, List.find?_eq_none, List.countP_eq_zero]

/-- One more field keeps the number of table names within bounds exactly if it holds none or is the
first that does. -/
theorem countP_addField_le_one_iff {d : Struct} {f : Field}
    (hd : d.fields.countP (·.namesTable) ≤ 1) :
    (d.addField f).fields.countP (·.namesTable) ≤ 1 ↔
      (f.namesTable = true → d.tableField? = none) := by
  rw [tableField?_eq_none_iff, addField, List.countP_append, List.countP_singleton]
  cases f.namesTable
  · simpa using hd
  · simp

theorem wellFormed_ofForm {s : Spelling} {line : Text} {form : HeaderForm}
    (h : HeaderForm.read? s line = some form) : (ofForm form).WellFormed s := by
  obtain ⟨htype, htable⟩ := HeaderForm.names_of_read? h
  exact ⟨htype, htable, Nat.zero_le _, fun _ hf => absurd hf List.not_mem_nil⟩

theorem WellFormed.addField {s : Spelling} {d : Struct} {f : Field} (hd : d.WellFormed s)
    (hf : f.WellFormed s) (hfirst : f.namesTable = true → d.tableField? = none) :
    (d.addField f).WellFormed s := by
  refine ⟨hd.typeName, hd.tableName, (countP_addField_le_one_iff hd.tableField).2 hfirst, ?_⟩
  intro g hg
  rcases List.mem_append.1 hg with hg | hg
  · exact hd.fields g hg
  · cases List.mem_singleton.1 hg
    exact hf

end Struct

/-! ## Blocks -/

namespace Block

/-- What a line that has no fault does to a block. -/
inductive Takes (s : Spelling) (line : SourceLine) : Block → Block → Prop
  | skip (h : s.isHeader line.text = false) : Takes s line .outside .outside
  | header (h : s.isHeader line.text = true) {form : HeaderForm}
      (hread : HeaderForm.read? s line.text = some form) :
      Takes s line .outside (.inside (.ofForm form))
  | opener {opened : Struct} (h : s.opensBlock line.text = true) :
      Takes s line (.inside opened) (.inside opened)
  | field {opened : Struct} {f : Field} (h : s.opensBlock line.text = false)
      (hread : Field.read s line = .ok f)
      (hfirst : f.namesTable = true → opened.tableField? = none) :
      Takes s line (.inside opened) (.inside (opened.addField f))

variable {s : Spelling} {line : SourceLine} {b next : Block}

theorem ofHeader_eq_ok_iff {d : Struct} :
    Struct.ofHeader s line = .ok d ↔
      ∃ form, HeaderForm.read? s line.text = some form ∧ d = .ofForm form := by
  unfold Struct.ofHeader
  cases HeaderForm.read? s line.text with
  | none => simp
  | some form => simp [Struct.ofForm, eq_comm]

theorem add_eq_ok_iff {d e : Struct} {f : Field} :
    d.add line f = .ok e ↔ (f.namesTable = true → d.tableField? = none) ∧ e = d.addField f := by
  unfold Struct.add
  split
  · next first hnames htable => simp [hnames, htable]
  · next hother =>
    have hfirst : f.namesTable = true → d.tableField? = none := by
      intro hnames
      cases htable : d.tableField? with
      | none => rfl
      | some first => exact (hother first hnames htable).elim
    simp only [Except.ok.injEq]
    exact ⟨fun h => ⟨hfirst, h.symm⟩, fun h => h.2.symm⟩

/-- **What a line does to a block.** -/
theorem feed_eq_ok_iff : b.feed s line = .ok next ↔ Takes s line b next := by
  constructor
  · intro h
    cases b with
    | outside =>
      simp only [feed] at h
      split at h
      · next hheader =>
        cases hread : Struct.ofHeader s line with
        | error fault =>
          rw [hread] at h
          cases h
        | ok d =>
          rw [hread] at h
          cases h
          obtain ⟨form, hform, rfl⟩ := ofHeader_eq_ok_iff.1 hread
          exact .header hheader hform
      · next hheader =>
        cases h
        exact .skip (Bool.eq_false_iff.2 hheader)
    | inside opened =>
      simp only [feed] at h
      split at h
      · next hopens =>
        cases h
        exact .opener hopens
      · next hopens =>
        cases hread : Field.read s line with
        | error fault =>
          rw [hread] at h
          cases h
        | ok f =>
          rw [hread] at h
          cases hadd : opened.add line f with
          | error fault =>
            simp only [hadd] at h
            cases h
          | ok d =>
            simp only [hadd] at h
            cases h
            obtain ⟨hfirst, rfl⟩ := add_eq_ok_iff.1 hadd
            exact .field (Bool.eq_false_iff.2 hopens) hread hfirst
  · intro h
    cases h with
    | skip h => exact if_neg (Bool.eq_false_iff.1 h)
    | header h hread =>
      have hd := ofHeader_eq_ok_iff.2 ⟨_, hread, rfl⟩
      rw [feed, if_pos h, hd]
      rfl
    | opener h => exact if_pos h
    | field h hread hfirst =>
      rw [feed, if_neg (Bool.eq_false_iff.1 h), hread]
      show (Struct.add line _ _).map inside = _
      rw [add_eq_ok_iff.2 ⟨hfirst, rfl⟩]
      rfl

def WellFormed (s : Spelling) (b : Block) : Prop := ∀ d ∈ b.struct?, d.WellFormed s

theorem wellFormed_outside : WellFormed s .outside := fun _ h => by cases h

/-- **One line keeps the block well formed.** -/
theorem Takes.wellFormed (h : Takes s line b next) (hb : b.WellFormed s) : next.WellFormed s := by
  cases h with
  | skip => exact hb
  | header _ hread =>
    rintro d ⟨⟩
    exact Struct.wellFormed_ofForm hread
  | opener => exact hb
  | field _ hread hfirst =>
    rintro d ⟨⟩
    exact (hb _ rfl).addField (Field.read_wellFormed hread) hfirst

/-! ## Runs -/

/-- What can be done with a block: it is fed a line, or closed. -/
inductive Step where
  | feed (line : SourceLine)
  | finish
  deriving DecidableEq, Repr

/-- What comes of a step: the fault of the line, if it has one, or the struct that was closed. -/
inductive Answer where
  | fed (fault : Option Fault)
  | finished (closed : Option Struct)
  deriving DecidableEq, Repr

/-- The block behind a step, and the answer. A line with a fault leaves the block as it was. -/
def step (s : Spelling) (b : Block) : Step → Block × Answer
  | .feed line => ((b.feedKeeping s line).1, .fed (b.feedKeeping s line).2)
  | .finish => (b.finish.1, .finished b.finish.2)

/-- The block behind all the steps, and their answers. -/
def run (s : Spelling) (b : Block) : List Step → Block × List Answer
  | [] => (b, [])
  | step :: steps =>
    let (next, answer) := b.step s step
    let (last, answers) := next.run s steps
    (last, answer :: answers)

theorem step_wellFormed (hb : b.WellFormed s) (step : Step) : (b.step s step).1.WellFormed s := by
  cases step with
  | finish => exact wellFormed_outside
  | feed line =>
    simp only [Block.step, feedKeeping]
    split
    · next next h => exact (feed_eq_ok_iff.1 h).wellFormed hb
    · exact hb

theorem step_finished {step : Step} {d : Struct} (h : (b.step s step).2 = .finished (some d)) :
    b.struct? = some d := by
  cases step with
  | feed line => cases h
  | finish => exact Answer.finished.inj h

theorem run_invariant (hb : b.WellFormed s) (steps : List Step) :
    (b.run s steps).1.WellFormed s ∧
      ∀ d, .finished (some d) ∈ (b.run s steps).2 → d.WellFormed s := by
  induction steps generalizing b with
  | nil => exact ⟨hb, fun _ h => absurd h List.not_mem_nil⟩
  | cons step steps ih =>
    obtain ⟨hlast, hanswers⟩ := ih (step_wellFormed hb step)
    refine ⟨hlast, fun d hd => ?_⟩
    rcases List.mem_cons.1 hd with hd | hd
    · exact hb d (step_finished hd.symm)
    · exact hanswers d hd

/-- **Every struct that a block holds or hands over is well formed**, after any steps at all. -/
theorem run_wellFormed (s : Spelling) (steps : List Step) :
    (∀ d, (run s .outside steps).1 = .inside d → d.WellFormed s) ∧
      ∀ d, .finished (some d) ∈ (run s .outside steps).2 → d.WellFormed s := by
  obtain ⟨hlast, hanswers⟩ := run_invariant (wellFormed_outside (s := s)) steps
  refine ⟨fun d hd => hlast d ?_, hanswers⟩
  rw [hd]
  rfl

end Block

end TableBinding
