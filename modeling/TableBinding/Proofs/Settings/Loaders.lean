import TableBinding.Proofs.Library.Lawful
import TableBinding.Proofs.Run.AllOrNothing
import TableBinding.Proofs.Settings.Leniency

/-!
# The two ways to the settings of a file

Where no variable gives a setting, the settings that one file gives in the types they are written in
are those that it gives as a source among others, unless its name is nothing but the extension, a
whole number in it takes more than 64 bits, or a group of settings is written as a date
(`Settings.load_agrees_ofFile`). That holds for every reader of documents and every collector that
keep what `Collector.ReadsDocuments` says.

The shape of the argument: both ways read one document, which the collector lays over nothing key by
key. What comes of that is a group with the same values (`Settings.exists_same_base`), and the
strict and the lenient reading of the two agree (`Reading.Keeps.settings?`).
-/

namespace TableBinding

/-- The extension of a file's name, where something stands in front of it. -/
theorem Path.extension?_of_fileName? {path : Path} {name extension : Text} (hname : name ≠ [])
    (hextension : extension.all (· != '.') = true)
    (h : path.fileName? = some (name ++ '.' :: extension)) : path.extension? = some extension := by
  have hreverse : (name ++ '.' :: extension).reverse =
      extension.reverse ++ '.' :: name.reverse := by simp
  have hdots : ∀ c ∈ extension.reverse, (c != '.') = true := by
    intro c hc
    exact List.all_eq_true.mp hextension c (List.mem_reverse.mp hc)
  rw [Path.extension?, h, Option.bind_some, Path.divide, hreverse,
    List.takeWhile_append_of_pos hdots, List.dropWhile_append_of_pos hdots,
    List.takeWhile_cons_of_neg (by decide), List.dropWhile_cons_of_neg (by decide),
    List.append_nil, List.reverse_reverse, List.tail_cons, List.reverse_reverse]
  simp [hname]

namespace Settings

open Toml (Value)

/-! ## What the two ways give -/

section

variable {reader : DocumentReader} {w : Workspace} {path : Path} {t : Toml.Table} {s : Settings}

/-- What a file gives in one way is what the reader takes from its table. -/
theorem settings?_of_ofFileWith (ht : w.disk.table? reader path = some t)
    (hs : ((ofFileWith reader path : Task (StateM Workspace) Settings).outcome w).1 = .ok s) :
    reader.reading.settings? (.named t) = some s := by
  obtain ⟨bytes, document, hread, hdecode, hdocument⟩ := Disk.table?_eq_some_iff.mp ht
  have hrun : (Storage.read path : StateM Workspace _).run w = (.ok bytes, w) :=
    congrArg (·, w) hread
  have hbound : reader.settings? document = reader.reading.settings? (.named t) := by
    rw [DocumentReader.settings?, hdocument, Option.bind_some]
  rw [ofFileWith, Task.outcome_bind, Task.outcome_ofStorage, hrun] at hs
  simp only [Except.mapError, hdecode, hbound] at hs
  cases hof : reader.reading.settings? (.named t) with
  | none =>
    simp only [hof] at hs
    cases hs
  | some s' =>
    simp only [hof] at hs
    cases hs
    rfl

end

section

variable {σ T : Type} {collector : Collector (StateM σ) T} {w w' : σ}
  {env : Variables.Environment} {path? : Option Path} {s : Settings}

/-- What a collector gives is what it takes from the entries of the settings file. -/
theorem loadWith_outcome (collector : Collector (StateM σ) T) (env : Variables.Environment)
    (path? : Option Path) (w : σ) :
    (loadWith collector env path?).outcome w =
      (match ((collector.entries? (settingsFile path?)).run w).1.bind (collector.settings? env) with
        | some settings => .ok settings
        | none => .error (.configuration (.unreadable (settingsFile path?).path)),
        ((collector.entries? (settingsFile path?)).run w).2) := by
  have hlift : (liftM (collector.entries? (settingsFile path?)) :
      Task (StateM σ) (Option (List (Text × T)))).outcome w =
        (.ok ((collector.entries? (settingsFile path?)).run w).1,
          ((collector.entries? (settingsFile path?)).run w).2) := rfl
  rw [loadWith, Task.outcome_bind, hlift]
  generalize (collector.entries? (settingsFile path?)).run w = found
  cases hsettings : found.1.bind (collector.settings? env) <;> simp only [hsettings] <;> rfl

theorem loadWith_outcome_eq_ok_iff :
    (loadWith collector env path?).outcome w = (.ok s, w') ↔
      ∃ entries, (collector.entries? (settingsFile path?)).run w = (some entries, w') ∧
        collector.settings? env entries = some s := by
  rw [loadWith_outcome]
  generalize (collector.entries? (settingsFile path?)).run w = found
  obtain ⟨entries?, w''⟩ := found
  constructor
  · intro h
    cases entries? with
    | none => cases h
    | some entries =>
      cases hsettings : collector.settings? env entries with
      | none => simp [hsettings] at h
      | some settings =>
        simp only [Option.bind_some, hsettings, Prod.mk.injEq, Except.ok.injEq] at h
        obtain ⟨rfl, rfl⟩ := h
        exact ⟨entries, rfl, hsettings⟩
  · rintro ⟨entries, hrun, hsettings⟩
    cases hrun
    simp [hsettings]

/-- Without variables the settings are those of the settings file. -/
theorem settings?_of_ofEnvironment_eq_nil (hlaws : collector.Lawful)
    (henv : ∀ v ∈ env, Variables.convention.covers v.1 = false) (entries : List (Text × T)) :
    collector.settings? env entries =
      (collector.reading.group? (collector.base entries)).bind collector.reading.settings? := by
  rw [Collector.settings?, hlaws.ofEnvironment_eq_nil henv, hlaws.lay_nil]

end

/-! ## The document -/

/-- A group of settings of the table is written as a date. -/
def WritesGroupAsDate (t : Toml.Table) : Prop :=
  (∃ d, t.lookup ("syntax" : Text) = some (.datetime d)) ∨
    ∃ d, t.lookup ("output" : Text) = some (.datetime d)

instance decidableIsDate : (v? : Option Value) → Decidable (∃ d, v? = some (.datetime d))
  | some (.datetime d) => isTrue ⟨d, rfl⟩
  | some (.string _) | some (.integer _) | some (.float _) | some (.boolean _) | some (.array _)
  | some (.table _) | none => isFalse (by simp)

instance (t : Toml.Table) : Decidable (WritesGroupAsDate t) :=
  inferInstanceAs (Decidable (_ ∨ _))

section

variable {T : Type} {reader : DocumentReader} {collector : Collector (StateM Workspace) T}
  {same : Value → T → Prop} {w : Workspace} {path : Path} {t : Toml.Table}

/-- Entries with the same values have no other keys. -/
theorem isPlainKey_of_sameEntries {entries : List (Text × T)}
    (hsame : Reading.SameEntries same t entries) (hkeys : ∀ e ∈ t, IsPlainKey e.1) :
    ∀ e ∈ entries, IsPlainKey e.1 := by
  intro e he
  have hthere : e.1 ∈ t.map Prod.fst := by
    by_contra hnone
    have hrel := hsame e.1
    rw [lookup_eq_none_iff_notMem.mpr hnone] at hrel
    generalize hlookup : entries.lookup e.1 = t? at hrel
    cases hrel
    exact lookup_eq_none_iff_notMem.mp hlookup (List.mem_map_of_mem he)
  obtain ⟨e', he', heq⟩ := List.mem_map.mp hthere
  exact heq ▸ hkeys e' he'

/-- What the collector has behind the file is a group with the values of the document. -/
theorem exists_same_base (hreads : collector.ReadsDocuments reader same)
    (hextension : path.extension? = some ("toml" : Text))
    (ht : w.disk.table? reader path = some t) (hkeys : ∀ e ∈ t, IsPlainKey e.1)
    (hfits : (Value.table t).FitsInt64) :
    ∃ entries group, (collector.entries? { path, required := true }).run w = (some entries, w) ∧
      collector.reading.group? (collector.base entries) = some (.named group) ∧
      Reading.SameEntries same t group := by
  obtain ⟨entries, hrun, hdistinct, hsame⟩ := hreads.entries? hextension ht hfits
  have hplain := isPlainKey_of_sameEntries hsame hkeys
  obtain ⟨group, hgroup, hsame⟩ := hreads.lay hdistinct hplain hsame
  exact ⟨entries, group, hrun, hgroup, hsame⟩

/-- **The two ways to the settings of a file agree**, where its keys lead no deeper than one level
and no variable gives a setting, if the name of the file is more than an extension, its whole
numbers take no more than 64 bits, and no group of settings in it is written as a date. -/
theorem load_agrees_ofFile (hstrict : reader.reading.IsStrict) (hlaws : collector.Lawful)
    (hreads : collector.ReadsDocuments reader same) (w : Workspace) (env : Variables.Environment)
    (path : Path) (name : Text) (t : Toml.Table) (s : Settings)
    (henv : ∀ v ∈ env, Variables.convention.covers v.1 = false)
    (hname : path.fileName? = some (name ++ ".toml")) (hempty : name ≠ [])
    (ht : w.disk.table? reader path = some t) (hkeys : ∀ e ∈ t, IsPlainKey e.1)
    (hfits : (Value.table t).FitsInt64) (hdates : ¬ WritesGroupAsDate t)
    (hs : ((ofFileWith reader path : Task (StateM Workspace) Settings).outcome w).1 = .ok s) :
    (loadWith collector env (some path)).outcome w = (.ok s, w) := by
  have hextension : path.extension? = some ("toml" : Text) :=
    Path.extension?_of_fileName? hempty (by decide) hname
  obtain ⟨entries, group, hrun, hgroup, hsame⟩ :=
    exists_same_base hreads hextension ht hkeys hfits
  have hread : reader.reading.settings? (.named t) = some s := settings?_of_ofFileWith ht hs
  have hspelling : ∀ d, t.lookup ("syntax" : Text) ≠ some (.datetime d) :=
    fun d hd => hdates (.inl ⟨d, hd⟩)
  have hlayout : ∀ d, t.lookup ("output" : Text) ≠ some (.datetime d) :=
    fun d hd => hdates (.inr ⟨d, hd⟩)
  have hagree : (Group.named t).Same same (.named group) := fun _ key => hsame key
  refine loadWith_outcome_eq_ok_iff.mpr ⟨entries, hrun, ?_⟩
  rw [settings?_of_ofEnvironment_eq_nil hlaws henv, hgroup, Option.bind_some]
  exact hreads.reading.settings? hstrict hagree hspelling hlayout hread

end

/-- A workspace with one file, in the working directory. -/
def holding (name document : Text) : Workspace :=
  { disk := { entries := [([name], .file (Utf8.encode document))] } }

/-- A document with all that the two ways treat differently: a byte order mark, dotted keys, tables
that give no setting, and settings at two levels. -/
def nestedDocument : Text :=
  "\ufeffinput_file = \"schéma.orm\"\nextra.list = [1, {a = 0x1f}]\n[syntax]\ndelimiter = '|'\n"

/-- They agree on that document, with the library's own reader and collector. -/
theorem load_agrees_ofFile_nested :
    ∃ t, (holding "c.toml" nestedDocument).disk.table? Toml.reader "c.toml" = some t ∧
      (∀ e ∈ t, IsPlainKey e.1) ∧ (Value.table t).FitsInt64 ∧ ¬ WritesGroupAsDate t ∧
      ((ofFile "c.toml" : Task (StateM Workspace) Settings).outcome
          (holding "c.toml" nestedDocument)).1 =
        .ok { input := "schéma.orm", spelling := { delimiter := "|" } } ∧
      (load [] (some "c.toml") : Task (StateM Workspace) Settings).outcome
          (holding "c.toml" nestedDocument) =
        (.ok { input := "schéma.orm", spelling := { delimiter := "|" } },
          holding "c.toml" nestedDocument) := by
  have hdocument : ((holding "c.toml" nestedDocument).disk.table? Toml.reader "c.toml").any
      (fun t => (∀ e ∈ t, IsPlainKey e.1) ∧ (Value.table t).FitsInt64 ∧
        ¬ WritesGroupAsDate t) = true := by
    decide +kernel
  obtain ⟨t, ht, hfit⟩ := (Option.any_eq_true _ _).mp hdocument
  obtain ⟨hkeys, hfits, hdates⟩ := of_decide_eq_true hfit
  have hanswer : ((ofFile "c.toml" : Task (StateM Workspace) Settings).outcome
      (holding "c.toml" nestedDocument)).1 =
        .ok { input := "schéma.orm", spelling := { delimiter := "|" } } := by
    decide +kernel
  have hagrees := load_agrees_ofFile Toml.isStrict Tree.lawful Tree.readsDocuments _ [] "c.toml" "c"
    t _ (by simp) (by decide) (by decide) ht hkeys hfits hdates hanswer
  exact ⟨t, ht, hkeys, hfits, hdates, hanswer, hagrees⟩

/-- What the two ways give of a file that stands alone. -/
def bothAnswers (name document : Text) : Except Failure Settings × Except Failure Settings :=
  (((ofFile name : Task (StateM Workspace) Settings).outcome (holding name document)).1,
    ((load [] (some name) : Task (StateM Workspace) Settings).outcome (holding name document)).1)

/-- A name that is nothing but the extension, a number beyond 64 bits under a key that is no
setting, and a date in the place of a group are read in one way only. -/
theorem load_refuses_ofFile :
    bothAnswers ".toml" "" = (.ok {}, .error (.configuration (.unreadable ".toml"))) ∧
    bothAnswers "a.toml" "n=9223372036854775808" =
      (.ok {}, .error (.configuration (.unreadable "a.toml"))) ∧
    bothAnswers "a.toml" "syntax=1979-05-27" =
      (.ok {}, .error (.configuration (.unreadable "a.toml"))) := by
  decide +kernel

end Settings

end TableBinding
