import TableBinding.Run.Generate

/-!
# Reading and checking agree

Reading a declaration file stops at the first fault, and checking it goes on behind each. Both come
to the same answer: a file is read exactly if the check finds no fault, the structs are then the
same, and otherwise reading fails with the first fault of the check. For the file of a run this
holds once the file is there and the settings can be used; in front of that, both fail alike
(`Settings.structsOfInput_agrees_checkInput`).

The shape of the argument: what reading gives is a function of what the check finds
(`Report.outcome`). One induction over the lines shows it for the reader (`Reader.finishLines_eq`),
and every layer above passes it on (`Source.structs_eq`, `Settings.structs_eq`,
`Settings.structsOfInput_answer`).
-/

namespace TableBinding

/-- What reading comes to where a check finds this: the first fault, or the structs. -/
def Report.outcome (report : Report) : Except Fault (List Struct) :=
  match report.faults with
  | [] => .ok report.structs
  | fault :: _ => .error fault

namespace Report

variable {report : Report} {structs : List Struct} {fault : Fault}

theorem outcome_eq_ok_iff :
    report.outcome = .ok structs ↔ report.faults = [] ∧ report.structs = structs := by
  unfold outcome
  cases report.faults <;> simp

theorem outcome_eq_error_iff :
    report.outcome = .error fault ↔ report.faults.head? = some fault := by
  unfold outcome
  cases report.faults <;> simp

theorem isClean_iff_exists_outcome :
    report.isClean = true ↔ ∃ structs, report.outcome = .ok structs := by
  simp [outcome_eq_ok_iff, isClean]

end Report

/-! ## Source texts -/

/-- **The reader comes to the same answer in both ways**, wherever in a file it is. -/
theorem Reader.finishLines_eq (s : Spelling) (r : Reader) (lines : List SourceLine) :
    finishLines s r lines =
      Report.outcome
        { structs := (checkLines s r lines).1.structs
          faults := (checkLines s r lines).2 ++ (checkLines s r lines).1.close.toList } := by
  -- up to the first fault both go through the same readers, and `recover` is never called
  induction lines generalizing r with
  | nil =>
    simp only [finishLines, checkLines, List.nil_append, Report.outcome]
    cases r.close <;> rfl
  | cons line lines ih =>
    simp only [finishLines, checkLines]
    obtain ⟨next, fault⟩ := r.read s line
    cases fault with
    | none => exact ih next
    | some fault => rfl

theorem Source.structs_eq (s : Spelling) (source : Text) :
    Source.structs s source = (Source.check s source).outcome :=
  Reader.finishLines_eq s {} (SourceLine.ofText source)

/-! ## Runs -/

namespace Settings

theorem structs_eq (settings : Settings) (source : Text) :
    settings.structs source =
      (settings.check source).bind fun report => report.outcome.mapError .source := by
  unfold structs check withSpelling
  cases settings.spelling.fault? with
  | some fault => rfl
  | none => exact congrArg (Except.mapError Failure.source) (Source.structs_eq _ source)

theorem structs_eq_ok {settings : Settings} {source : Text} {structs : List Struct}
    (h : settings.structs source = .ok structs) :
    settings.spelling.Valid ∧ Source.structs settings.spelling source = .ok structs := by
  unfold Settings.structs withSpelling at h
  split at h
  · cases h
  · next hvalid =>
    refine ⟨hvalid, ?_⟩
    have hread : (Source.structs settings.spelling source).mapError Failure.source =
        .ok structs := h
    cases hsource : Source.structs settings.spelling source with
    | error fault =>
      rw [hsource] at hread
      cases hread
    | ok found =>
      rw [hsource] at hread
      exact congrArg Except.ok (Except.ok.inj hread)

theorem check_eq_error {settings : Settings} {source : Text} {failure : Failure}
    (h : settings.check source = .error failure) :
    ∃ fault, failure = .settings (.spelling fault) := by
  unfold check withSpelling at h
  split at h
  · next fault _ => exact ⟨fault, (Except.error.inj h).symm⟩
  · cases h

end Settings

/-- A run fails with this in front of the first line: the text of the declaration file is not to be
had, or the spelling can not be used. -/
def Failure.PrecedesReading : Failure → Prop
  | .storage _ | .settings (.spelling _) => True
  | _ => False

namespace Task

variable {σ α β : Type}

/-- The answer of a task that is begun in the state. -/
def answer (task : Task (StateM σ) α) (w : σ) : Except Failure α := (task.run.run w).1

/-- A task that goes on with no more than a computation. -/
theorem answer_bind_ofExcept (task : Task (StateM σ) α) (result : α → Except Failure β) (w : σ) :
    (task >>= fun a => ofExcept (result a)).answer w = (task.answer w).bind result := by
  unfold answer
  rw [ExceptT.run_bind, StateT.run_bind]
  obtain ⟨value, w'⟩ := task.run.run w
  cases value <;> rfl

theorem answer_ofStorage_eq_error {operation : StateM σ (Except StorageFault α)} {w : σ}
    {failure : Failure} (h : (ofStorage operation).answer w = .error failure) :
    ∃ fault, failure = .storage fault := by
  unfold answer ofStorage at h
  rw [ExceptT.run_mk, StateT.run_bind] at h
  generalize operation.run w = result at h
  obtain ⟨value, w'⟩ := result
  cases value with
  | ok a => cases h
  | error fault =>
    cases h
    exact ⟨fault, rfl⟩

end Task

namespace Settings

variable {σ : Type} [Storage (StateM σ)] {settings : Settings} {w : σ} {failure : Failure}

theorem readInput_eq (settings : Settings) :
    (settings.readInput : Task (StateM σ) Text) =
      Task.ofStorage (Storage.read settings.input) >>= fun bytes =>
        Task.ofExcept (match Utf8.decode? bytes with
          | some text => .ok text
          | none => .error (.storage .notText)) := by
  unfold readInput
  congr 1
  funext bytes
  cases Utf8.decode? bytes <;> rfl

theorem readInput_answer_eq_error
    (h : (settings.readInput : Task (StateM σ) Text).answer w = .error failure) :
    ∃ fault, failure = .storage fault := by
  rw [readInput_eq, Task.answer_bind_ofExcept] at h
  cases hbytes : (Task.ofStorage (Storage.read settings.input)
      : Task (StateM σ) ByteArray).answer w with
  | error other =>
    rw [hbytes] at h
    cases h
    exact Task.answer_ofStorage_eq_error hbytes
  | ok bytes =>
    rw [hbytes] at h
    simp only [Except.bind] at h
    split at h
    · cases h
    · exact ⟨_, (Except.error.inj h).symm⟩

theorem checkInput_answer (settings : Settings) (w : σ) :
    (settings.checkInput : Task (StateM σ) Report).answer w =
      ((settings.readInput : Task (StateM σ) Text).answer w).bind settings.check :=
  Task.answer_bind_ofExcept _ _ w

/-- **What a run reads from its declaration file** is what its check comes to. -/
theorem structsOfInput_answer (settings : Settings) (w : σ) :
    (settings.structsOfInput : Task (StateM σ) (List Struct)).answer w =
      ((settings.checkInput : Task (StateM σ) Report).answer w).bind fun report =>
        report.outcome.mapError .source := by
  rw [checkInput_answer, structsOfInput, Task.answer_bind_ofExcept]
  cases (settings.readInput : Task (StateM σ) Text).answer w with
  | error failure => rfl
  | ok source => exact structs_eq settings source

theorem precedesReading_of_checkInput
    (h : (settings.checkInput : Task (StateM σ) Report).answer w = .error failure) :
    failure.PrecedesReading := by
  rw [checkInput_answer] at h
  cases hread : (settings.readInput : Task (StateM σ) Text).answer w with
  | error other =>
    rw [hread] at h
    cases h
    obtain ⟨fault, rfl⟩ := readInput_answer_eq_error hread
    trivial
  | ok source =>
    rw [hread] at h
    obtain ⟨fault, rfl⟩ := check_eq_error h
    trivial

theorem checkInput_eq_error_iff :
    (settings.checkInput : Task (StateM σ) Report).answer w = .error failure ↔
      (settings.structsOfInput : Task (StateM σ) (List Struct)).answer w = .error failure ∧
        failure.PrecedesReading := by
  rw [structsOfInput_answer]
  constructor
  · intro h
    exact ⟨by rw [h]; rfl, precedesReading_of_checkInput h⟩
  · rintro ⟨h, hprecedes⟩
    cases hcheck : (settings.checkInput : Task (StateM σ) Report).answer w with
    | error other =>
      rw [hcheck] at h
      exact congrArg Except.error (Except.error.inj h)
    | ok report =>
      -- a fault of the text is none of the failures in front of it
      rw [hcheck] at h
      simp only [Except.bind] at h
      cases houtcome : report.outcome with
      | ok structs =>
        rw [houtcome] at h
        cases h
      | error fault =>
        rw [houtcome] at h
        cases h
        exact hprecedes.elim

theorem isClean_iff_of_checkInput {report : Report}
    (h : (settings.checkInput : Task (StateM σ) Report).answer w = .ok report) :
    report.isClean = true ↔
      ∃ structs,
        (settings.structsOfInput : Task (StateM σ) (List Struct)).answer w = .ok structs := by
  rw [Report.isClean_iff_exists_outcome, structsOfInput_answer, h]
  show _ ↔ ∃ structs, report.outcome.mapError Failure.source = .ok structs
  cases report.outcome with
  | ok structs => exact ⟨fun _ => ⟨structs, rfl⟩, fun _ => ⟨structs, rfl⟩⟩
  | error fault =>
    constructor <;>
    · rintro ⟨structs, h⟩
      cases h

/-- **Stopping at the first fault and going on behind it agree**, for every text, and for the file
of every run on every system. -/
theorem structsOfInput_agrees_checkInput :
    (∀ (s : Spelling) (source : Text),
      (∀ structs, Source.structs s source = .ok structs ↔
        (Source.check s source).faults = [] ∧ (Source.check s source).structs = structs) ∧
      ∀ fault, Source.structs s source = .error fault ↔
        (Source.check s source).faults.head? = some fault) ∧
    ∀ (settings : Settings) (w : σ),
      (∀ failure,
        (settings.checkInput : Task (StateM σ) Report).answer w = .error failure ↔
          (settings.structsOfInput : Task (StateM σ) (List Struct)).answer w = .error failure ∧
            failure.PrecedesReading) ∧
      ∀ report, (settings.checkInput : Task (StateM σ) Report).answer w = .ok report →
        (report.isClean = true ↔
          ∃ structs,
            (settings.structsOfInput : Task (StateM σ) (List Struct)).answer w = .ok structs) := by
  refine ⟨fun s source => ?_, fun settings w => ?_⟩
  · rw [Source.structs_eq]
    exact ⟨fun structs => Report.outcome_eq_ok_iff, fun fault => Report.outcome_eq_error_iff⟩
  · exact ⟨fun failure => checkInput_eq_error_iff, fun report => isClean_iff_of_checkInput⟩

end Settings

end TableBinding
