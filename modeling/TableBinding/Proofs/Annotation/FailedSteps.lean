import TableBinding.Proofs.Annotation.WellFormed

/-!
# Steps that fail leave no trace

A run of a block goes on behind every line with a fault. Without those lines it is the same run: it
ends with the same block and gives the same answers to all other steps (`Block.run_soundSteps`).

That a line with a fault leaves the block alone is not taken from the type of `Block.feed`.
`Block.feedInPlace` reads a line by changing the block where it stands, and stops at a fault with
whatever the block is by then; it can stop at a header without its names, at a line that is no
field, at a column without a column type or with an unknown host type, and at a second field that
names the table, when a field was already read. At each of these exits the block is the one from
before (`Block.feedInPlace_run`), so that whole runs in place are the runs of `Block.run`
(`Block.mapM_performInPlace`).

What a line without a fault does to a block is said by `Block.Takes`: nothing, or a block is opened
for a struct without fields, or one field is added behind the others.
-/

namespace TableBinding

namespace Block

variable {s : Spelling} {line : SourceLine} {b next : Block}

/-! ## Lines read in place -/

/-- Outside of a block, a header opens one. -/
def openInPlace (s : Spelling) (line : SourceLine) : ExceptT Fault (StateM Block) Unit := do
  if s.isHeader line.text then
    let opened ← MonadExcept.ofExcept (Struct.ofHeader s line)
    set (inside opened)

/-- Inside, a line is a field, unless it only opens the block. -/
def collectInPlace (s : Spelling) (line : SourceLine) (opened : Struct) :
    ExceptT Fault (StateM Block) Unit := do
  if s.opensBlock line.text then
    return
  let field ← MonadExcept.ofExcept (Field.read s line)
  if field.namesTable then
    if let some first := opened.tableField? then
      throw (.secondTableField line field.name first.name)
  set (inside { opened with fields := opened.fields ++ [field] })

/-- Reads one line, changing the block in place up to the first fault. -/
def feedInPlace (s : Spelling) (line : SourceLine) : ExceptT Fault (StateM Block) Unit := do
  match ← get with
  | outside => openInPlace s line
  | inside opened => collectInPlace s line opened

theorem run_ofExcept_bind {α : Type} (x : Except Fault α)
    (f : α → ExceptT Fault (StateM Block) Unit) (b : Block) :
    (MonadExcept.ofExcept x >>= f).run.run b =
      match x with
      | .ok a => (f a).run.run b
      | .error fault => (.error fault, b) := by
  cases x <;> rfl

/-- **Wherever reading in place stops, the block is the one from before.** -/
theorem feedInPlace_run (s : Spelling) (line : SourceLine) (b : Block) :
    (feedInPlace s line).run.run b =
      match b.feed s line with
      | .ok next => (.ok (), next)
      | .error fault => (.error fault, b) := by
  cases b with
  | outside =>
    show (openInPlace s line).run.run outside = _
    cases hheader : s.isHeader line.text with
    | true =>
      simp only [openInPlace, feed, hheader, if_true, run_ofExcept_bind]
      cases Struct.ofHeader s line <;> rfl
    | false =>
      simp only [openInPlace, feed, hheader, Bool.false_eq_true, if_false]
      rfl
  | inside opened =>
    show (collectInPlace s line opened).run.run (inside opened) = _
    cases hopens : s.opensBlock line.text with
    | true =>
      simp only [collectInPlace, feed, hopens, if_true]
      rfl
    | false =>
      simp only [collectInPlace, feed, hopens, Bool.false_eq_true, if_false, run_ofExcept_bind]
      cases Field.read s line with
      | error fault => rfl
      | ok field =>
        -- the field is there, but a second table field stops before the block is written
        simp only [Struct.add]
        cases field.namesTable with
        | false => rfl
        | true => cases opened.tableField? <;> rfl

/-! ## Runs in place -/

/-- One step, with lines read in place. -/
def performInPlace (s : Spelling) : Step → StateM Block Answer
  | .feed line => do
    match ← (feedInPlace s line).run with
    | .ok () => return .fed none
    | .error fault => return .fed (some fault)
  | .finish => modifyGet fun b => (.finished b.struct?, outside)

theorem performInPlace_run (s : Spelling) (b : Block) (step : Step) :
    (performInPlace s step).run b = ((b.step s step).2, (b.step s step).1) := by
  cases step with
  | finish => rfl
  | feed line =>
    have hrun := feedInPlace_run s line b
    simp only [performInPlace, StateT.run_bind, hrun, Block.step, feedKeeping]
    cases b.feed s line <;> rfl

/-- **A run in place is a run.** -/
theorem mapM_performInPlace (s : Spelling) (b : Block) (steps : List Step) :
    (steps.mapM (performInPlace s)).run b = ((b.run s steps).2, (b.run s steps).1) := by
  induction steps generalizing b with
  | nil => rfl
  | cons step steps ih =>
    simp only [List.mapM_cons, StateT.run_bind, performInPlace_run, ih, Block.run]
    rfl

/-! ## Runs without the lines that fail -/

/-- Whether a line had a fault. -/
def Answer.isFault : Answer → Bool
  | .fed (some _) => true
  | _ => false

/-- The steps of a run that have no fault when they are taken in the run. -/
def soundSteps (s : Spelling) (b : Block) (steps : List Step) : List Step :=
  ((steps.zip (b.run s steps).2).filter fun taken => !taken.2.isFault).map (·.1)

theorem step_of_isFault {step : Step} (h : (b.step s step).2.isFault = true) :
    (b.step s step).1 = b := by
  cases step with
  | finish => cases h
  | feed line =>
    simp only [Block.step, feedKeeping] at h ⊢
    cases hfeed : b.feed s line with
    | error fault => rfl
    | ok next =>
      rw [hfeed] at h
      cases h

theorem soundSteps_cons (s : Spelling) (b : Block) (step : Step) (steps : List Step) :
    b.soundSteps s (step :: steps) =
      if (b.step s step).2.isFault then (b.step s step).1.soundSteps s steps
      else step :: (b.step s step).1.soundSteps s steps := by
  simp only [soundSteps, Block.run, List.zip_cons_cons, List.filter_cons]
  cases (b.step s step).2.isFault <;> rfl

theorem run_soundSteps_eq (s : Spelling) (b : Block) (steps : List Step) :
    b.run s (b.soundSteps s steps) =
      ((b.run s steps).1, (b.run s steps).2.filter fun answer => !answer.isFault) := by
  induction steps generalizing b with
  | nil => rfl
  | cons step steps ih =>
    rw [soundSteps_cons]
    cases hfault : (b.step s step).2.isFault with
    | true =>
      have hkept := step_of_isFault hfault
      rw [if_pos rfl, hkept, ih]
      simp only [Block.run, List.filter_cons, hfault, hkept]
      rfl
    | false =>
      rw [if_neg Bool.false_ne_true]
      simp only [Block.run, List.filter_cons, hfault, ih]
      rfl

/-- **Steps that fail are invisible**: the run without them ends with the same block and gives the
same answers to the steps that it keeps. -/
theorem run_soundSteps (s : Spelling) (b : Block) (steps : List Step) :
    (steps.mapM (performInPlace s)).run b = ((b.run s steps).2, (b.run s steps).1) ∧
    b.run s (b.soundSteps s steps) =
      ((b.run s steps).1, (b.run s steps).2.filter fun answer => !answer.isFault) ∧
    ∀ (before : Block) line next, before.feed s line = .ok next →
      next = before ∨
      (before = outside ∧ ∃ opened, next = inside opened ∧ opened.fields = []) ∨
      ∃ opened field, before = inside opened ∧
        next = inside { opened with fields := opened.fields ++ [field] } := by
  refine ⟨mapM_performInPlace s b steps, run_soundSteps_eq s b steps, fun before line next h => ?_⟩
  cases feed_eq_ok_iff.1 h with
  | skip => exact .inl rfl
  | @header _ form _ => exact .inr (.inl ⟨rfl, Struct.ofForm form, rfl, rfl⟩)
  | opener => exact .inl rfl
  | @field opened f _ _ _ => exact .inr (.inr ⟨opened, f, rfl, rfl⟩)

example :
    let header : SourceLine := { number := 2, text := "struct T //`t`" }
    let key : SourceLine := { number := 4, text := "int id; //`INTEGER,PK`" }
    soundSteps {} outside
        [.feed { number := 1, text := "struct T" }, .feed header,
          .feed { number := 3, text := "int id; //`PK`" }, .feed key, .finish] =
      [.feed header, .feed key, .finish] := by
  decide +kernel

end Block

end TableBinding
