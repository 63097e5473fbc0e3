import TableBinding.Proofs.Run.FirstFault
import TableBinding.Proofs.Storage.Growth

/-!
# What a run leaves behind

A run changes the disk once its text is known, and not before: a run that fails for any other reason
than storage leaves the workspace as it was, one that fails for storage leaves every file as it was,
a dry run prints the text and leaves the disk as it was, and any other run puts the text in the
place of the generated file and adds the directories on the way there (`Settings.run_allOrNothing`).

The shape of the argument: up to the text nothing happens to the workspace (`Settings.run_cases`).
From there on one operation prints, or two change the disk: making directories only adds to it
(`Disk.Grows`), and writing changes one location (`Disk.Grows.exists_of_write`). So there are four
ways in which a run can end (`Settings.Ends`).
-/

namespace TableBinding

/-! ## The outcome of a task -/

namespace Task

variable {σ α β : Type}

/-- The answer of a task that is begun in the state, and the state that it leaves behind. -/
def outcome (task : Task (StateM σ) α) (w : σ) : Except Failure α × σ := task.run.run w

theorem outcome_bind (task : Task (StateM σ) α) (next : α → Task (StateM σ) β) (w : σ) :
    (task >>= next).outcome w =
      match task.outcome w with
      | (.ok a, w') => (next a).outcome w'
      | (.error failure, w') => (.error failure, w') := by
  unfold outcome
  rw [ExceptT.run_bind, StateT.run_bind]
  obtain ⟨answer, w'⟩ := task.run.run w
  cases answer <;> rfl

theorem outcome_ofStorage (operation : StateM σ (Except StorageFault α)) (w : σ) :
    (ofStorage operation).outcome w =
      ((operation.run w).1.mapError .storage, (operation.run w).2) := by
  unfold outcome ofStorage
  rw [ExceptT.run_mk, StateT.run_bind]
  obtain ⟨answer, w'⟩ := operation.run w
  cases answer <;> rfl

end Task

/-! ## Up to the text -/

namespace Settings

variable {s : Settings} {w : Workspace} {text : Text}

/-- The text is what the settings generate from the declaration file on the disk. -/
def Generates (s : Settings) (d : Disk) (text : Text) : Prop :=
  ∃ bytes source, d.read s.input = .ok bytes ∧ Utf8.decode? bytes = some source ∧
    s.generate source = .ok text

theorem demandFit_outcome (s : Settings) (w : Workspace) :
    (s.demandFit : Task (StateM Workspace) Unit).outcome w =
      (match s.fault? (w.disk.isPresent s.input) with
        | some fault => .error (.settings fault)
        | none => .ok (), w) := by
  unfold demandFit Task.outcome
  rw [ExceptT.run_bind, StateT.run_bind]
  show Task.outcome (match s.fault? (w.disk.isPresent s.input) with
    | some fault => throw (.settings fault)
    | none => pure ()) w = _
  cases s.fault? (w.disk.isPresent s.input) <;> rfl

theorem readInput_outcome (s : Settings) (w : Workspace) :
    (s.readInput : Task (StateM Workspace) Text).outcome w =
      (((w.disk.read s.input).mapError .storage).bind fun bytes =>
        match Utf8.decode? bytes with
        | some text => .ok text
        | none => .error (.storage .notText), w) := by
  have hread : (Storage.read s.input : StateM Workspace _).run w = (w.disk.read s.input, w) := rfl
  rw [readInput_eq, Task.outcome_bind, Task.outcome_ofStorage, hread]
  cases w.disk.read s.input <;> rfl

theorem structsOfInput_outcome (s : Settings) (w : Workspace) :
    (s.structsOfInput : Task (StateM Workspace) (List Struct)).outcome w =
      (((s.readInput : Task (StateM Workspace) Text).answer w).bind s.structs, w) := by
  unfold structsOfInput
  rw [Task.outcome_bind]
  have hstate : ((s.readInput : Task (StateM Workspace) Text).outcome w).2 = w := by
    rw [readInput_outcome]
  have hanswer : ((s.readInput : Task (StateM Workspace) Text).outcome w).1 =
      (s.readInput : Task (StateM Workspace) Text).answer w := rfl
  rw [← hanswer]
  generalize (s.readInput : Task (StateM Workspace) Text).outcome w = result at hstate
  obtain ⟨answer, w'⟩ := result
  cases hstate
  cases answer <;> rfl

/-- The structs of the declaration file make the text. -/
theorem generates_of_structsOfInput {structs : List Struct}
    (h : ((s.readInput : Task (StateM Workspace) Text).answer w).bind s.structs = .ok structs) :
    s.Generates w.disk (s.generated structs) := by
  have hanswer : (s.readInput : Task (StateM Workspace) Text).answer w =
      ((s.readInput : Task (StateM Workspace) Text).outcome w).1 := rfl
  rw [hanswer, readInput_outcome] at h
  cases hread : w.disk.read s.input with
  | error fault =>
    rw [hread] at h
    cases h
  | ok bytes =>
    rw [hread] at h
    cases hdecode : Utf8.decode? bytes with
    | none =>
      simp only [Except.mapError, Except.bind, hdecode] at h
      cases h
    | some source =>
      simp only [Except.mapError, Except.bind, hdecode] at h
      refine ⟨bytes, source, hread, hdecode, ?_⟩
      rw [generate, h]
      rfl

/-- **Up to the text nothing happens to the workspace**: a run fails there, or knows its text. -/
theorem run_cases (s : Settings) (w : Workspace) :
    (∃ failure, (s.run : Task (StateM Workspace) Unit).outcome w = (.error failure, w)) ∨
      ∃ text, s.Generates w.disk text ∧
        (s.run : Task (StateM Workspace) Unit).outcome w =
          if s.dryRun then (.ok (), { w with printed := w.printed ++ text })
          else (s.writeOutput text : Task (StateM Workspace) Unit).outcome w := by
  unfold run
  rw [Task.outcome_bind, demandFit_outcome]
  cases s.fault? (w.disk.isPresent s.input) with
  | some fault => exact .inl ⟨_, rfl⟩
  | none =>
    show (∃ failure, Task.outcome _ w = _) ∨ ∃ text, _ ∧ Task.outcome _ w = _
    rw [Task.outcome_bind, structsOfInput_outcome]
    cases hstructs : ((s.readInput : Task (StateM Workspace) Text).answer w).bind s.structs with
    | error failure => exact .inl ⟨failure, rfl⟩
    | ok structs =>
      refine .inr ⟨s.generated structs, generates_of_structsOfInput hstructs, ?_⟩
      show Task.outcome (if s.dryRun = true then _ else _) w = _
      split <;> rfl

/-! ## Behind the text -/

/-- The paths of the directories that the generated file is in. -/
def outputWays (s : Settings) : List Path := s.output.parent?.toList.flatMap Disk.ancestry

/-- Makes the directories on the way to the generated file. -/
def makeWay (s : Settings) : Task (StateM Workspace) Unit :=
  match s.output.parent? with
  | some parent =>
    if parent.isEmpty then pure () else Task.ofStorage (Storage.makeDirectories parent)
  | none => pure ()

theorem writeOutput_eq (s : Settings) (text : Text) :
    (s.writeOutput text : Task (StateM Workspace) Unit) =
      s.makeWay >>= fun _ => Task.ofStorage (Storage.write s.output (Utf8.encode text)) := by
  unfold writeOutput makeWay
  cases s.output.parent? with
  | none => rfl
  | some parent => cases hempty : List.isEmpty parent <;> simp [hempty]

/-- **Making the way** only adds directories on it, whether it succeeds or stops. -/
theorem makeWay_cases (s : Settings) (w : Workspace) :
    ∃ d, w.disk.Grows s.outputWays d ∧
      (s.makeWay.outcome w = (.ok (), { w with disk := d }) ∨
        ∃ fault, s.makeWay.outcome w = (.error (.storage fault), { w with disk := d })) := by
  unfold makeWay outputWays
  cases s.output.parent? with
  | none => exact ⟨w.disk, .refl _ _, .inl rfl⟩
  | some parent =>
    cases hempty : List.isEmpty parent with
    | true => exact ⟨w.disk, .refl _ _, .inl (by simp only [hempty]; rfl)⟩
    | false =>
      simp only [hempty, Bool.false_eq_true, if_false, Task.outcome_ofStorage]
      have hmade : (Storage.makeDirectories parent : StateM Workspace _).run w =
          w.settle (w.disk.makeDirectories parent) := rfl
      have hgrows : w.disk.Grows (Disk.ancestry parent)
          (Disk.left (w.disk.makeNested (Disk.ancestry parent))) :=
        Disk.makeNested_grows (fun _ h => h) w.disk
      have hways : Option.toList (some parent) = [parent] := rfl
      rw [hmade, hways, List.flatMap_singleton]
      refine ⟨_, hgrows, ?_⟩
      unfold Disk.makeDirectories
      cases w.disk.makeNested (Disk.ancestry parent) with
      | ok d => exact .inl rfl
      | error failure => exact .inr ⟨failure.1, rfl⟩

/-- **Writing the generated file** adds directories on the way to it, and changes nothing else
unless the file itself is written. -/
theorem writeOutput_cases (s : Settings) (w : Workspace) (text : Text) :
    ∃ d, w.disk.Grows s.outputWays d ∧
      ((∃ fault, (s.writeOutput text : Task (StateM Workspace) Unit).outcome w =
          (.error (.storage fault), { w with disk := d })) ∨
        ∃ e, d.write s.output (Utf8.encode text) = .ok e ∧
          (s.writeOutput text : Task (StateM Workspace) Unit).outcome w =
            (.ok (), { w with disk := e })) := by
  obtain ⟨d, hgrows, hway⟩ := makeWay_cases s w
  refine ⟨d, hgrows, ?_⟩
  rw [writeOutput_eq, Task.outcome_bind]
  rcases hway with hway | ⟨fault, hway⟩
  · have hwritten : (Storage.write s.output (Utf8.encode text) : StateM Workspace _).run
          { w with disk := d } =
        Workspace.settle { w with disk := d }
          ((d.write s.output (Utf8.encode text)).mapError (·, d)) := rfl
    rw [hway]
    show (∃ fault, Task.outcome _ _ = _) ∨ ∃ e, _ ∧ Task.outcome _ _ = _
    rw [Task.outcome_ofStorage, hwritten]
    cases d.write s.output (Utf8.encode text) with
    | ok e => exact .inr ⟨e, rfl, rfl⟩
    | error fault => exact .inl ⟨fault, rfl⟩
  · rw [hway]
    exact .inl ⟨fault, rfl⟩

/-! ## The whole run -/

/-- The answer of a run in the workspace, and the workspace that it leaves behind. -/
def runOn (s : Settings) (w : Workspace) : Except Failure Unit × Workspace :=
  (s.run : Task (StateM Workspace) Unit).outcome w

/-- How a run can end that begins in the workspace. -/
inductive Ends (s : Settings) (w : Workspace) : Except Failure Unit × Workspace → Prop
  /-- It failed in front of the text. -/
  | untouched (failure : Failure) : Ends s w (.error failure, w)
  /-- It printed the text. -/
  | printed {text : Text} (hdry : s.dryRun = true) (htext : s.Generates w.disk text) :
      Ends s w (.ok (), { w with printed := w.printed ++ text })
  /-- Storage failed on the way to the generated file, or at it. -/
  | stopped {d : Disk} (hwet : s.dryRun = false) (fault : StorageFault)
      (hgrows : w.disk.Grows s.outputWays d) :
      Ends s w (.error (.storage fault), { w with disk := d })
  /-- It wrote the text. -/
  | written {text : Text} {d e : Disk} (hwet : s.dryRun = false) (htext : s.Generates w.disk text)
      (hgrows : w.disk.Grows s.outputWays d)
      (hwrite : d.write s.output (Utf8.encode text) = .ok e) :
      Ends s w (.ok (), { w with disk := e })

theorem runOn_ends (s : Settings) (w : Workspace) : s.Ends w (s.runOn w) := by
  unfold runOn
  rcases run_cases s w with ⟨failure, hrun⟩ | ⟨text, htext, hrun⟩
  · rw [hrun]
    exact .untouched failure
  · rw [hrun]
    cases hdry : s.dryRun with
    | true => exact .printed hdry htext
    | false =>
      obtain ⟨d, hgrows, hend⟩ := writeOutput_cases s w text
      rcases hend with ⟨fault, hwritten⟩ | ⟨e, hwrite, hwritten⟩
      · rw [if_neg Bool.false_ne_true, hwritten]
        exact .stopped hdry fault hgrows
      · rw [if_neg Bool.false_ne_true, hwritten]
        exact .written hdry htext hgrows hwrite

namespace Ends

variable {result : Except Failure Unit × Workspace}

theorem eq_of_failure (hends : s.Ends w result) {failure : Failure}
    (h : result.1 = .error failure) (hother : ∀ fault, failure ≠ .storage fault) :
    result.2 = w := by
  cases hends with
  | untouched => rfl
  | printed => cases h
  | stopped _ fault => exact absurd (Except.error.inj h).symm (hother fault)
  | written => cases h

theorem grows_of_storageFault (hends : s.Ends w result) {fault : StorageFault}
    (h : result.1 = .error (.storage fault)) :
    result.2.printed = w.printed ∧ w.disk.Grows s.outputWays result.2.disk := by
  cases hends with
  | untouched => exact ⟨rfl, .refl _ _⟩
  | printed => cases h
  | stopped _ _ hgrows => exact ⟨rfl, hgrows⟩
  | written => cases h

theorem of_dryRun (hends : s.Ends w result) (hdry : s.dryRun = true) :
    result.2.disk = w.disk ∧
      (result.1 = .ok () →
        ∃ text, s.Generates w.disk text ∧ result.2.printed = w.printed ++ text) := by
  cases hends with
  | untouched =>
    refine ⟨rfl, fun h => ?_⟩
    cases h
  | printed _ htext => exact ⟨rfl, fun _ => ⟨_, htext, rfl⟩⟩
  | stopped hwet => rw [hdry] at hwet; cases hwet
  | written hwet => rw [hdry] at hwet; cases hwet

theorem exists_of_written (hends : s.Ends w result) (hwet : s.dryRun = false)
    (h : result.1 = .ok ()) :
    ∃ text d e, s.Generates w.disk text ∧ w.disk.Grows s.outputWays d ∧
      d.write s.output (Utf8.encode text) = .ok e ∧ result.2 = { w with disk := e } := by
  cases hends with
  | untouched => cases h
  | printed hdry => rw [hdry] at hwet; cases hwet
  | stopped => cases h
  | written _ htext hgrows hwrite => exact ⟨_, _, _, htext, hgrows, hwrite, rfl⟩

end Ends

/-- **A run is all or nothing towards the files that exist.** It fails for another reason than
storage and leaves the workspace as it was; it fails for storage and leaves every file as it was; it
is a dry run and prints the text, and leaves the disk as it was in any case; or the generated file
holds the text, and all else on the disk is as it was or a new directory on the way to that file. -/
theorem run_allOrNothing (s : Settings) (w : Workspace) :
    (∀ failure, (s.runOn w).1 = .error failure → (∀ fault, failure ≠ .storage fault) →
      (s.runOn w).2 = w) ∧
    (∀ fault, (s.runOn w).1 = .error (.storage fault) →
      (s.runOn w).2.printed = w.printed ∧
        ∀ l content, w.disk.entry? l = some (.file content) →
          Disk.entry? (s.runOn w).2.disk l = some (.file content)) ∧
    (s.dryRun = true →
      (s.runOn w).2.disk = w.disk ∧
        ((s.runOn w).1 = .ok () →
          ∃ text, s.Generates w.disk text ∧ (s.runOn w).2.printed = w.printed ++ text)) ∧
    (s.dryRun = false → (s.runOn w).1 = .ok () →
      ∃ text l, s.Generates w.disk text ∧ (s.runOn w).2.printed = w.printed ∧
        (s.runOn w).2.disk.here = w.disk.here ∧
        (s.runOn w).2.disk.find s.output = .ok l ∧
        Disk.entry? (s.runOn w).2.disk l = some (.file (Utf8.encode text)) ∧
        ∀ m, m ≠ l →
          Disk.entry? (s.runOn w).2.disk m = w.disk.entry? m ∨
            w.disk.entry? m = none ∧ Disk.entry? (s.runOn w).2.disk m = some .directory ∧
              ∃ p ∈ s.outputWays, (s.runOn w).2.disk.find p = .ok m) := by
  have hends := runOn_ends s w
  refine ⟨fun _ => hends.eq_of_failure, fun fault h => ?_, hends.of_dryRun, fun hwet h => ?_⟩
  · obtain ⟨hprinted, hgrows⟩ := hends.grows_of_storageFault h
    exact ⟨hprinted, fun l _ hl => hgrows.kept l _ hl⟩
  · obtain ⟨text, d, e, htext, hgrows, hwrite, hafter⟩ := hends.exists_of_written hwet h
    obtain ⟨l, hhere, hfind, hl, hothers⟩ := hgrows.exists_of_write hwrite
    rw [hafter]
    exact ⟨text, l, htext, rfl, hhere, hfind, hl, hothers⟩

end Settings

end TableBinding
