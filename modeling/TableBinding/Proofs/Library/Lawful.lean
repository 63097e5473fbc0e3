import TableBinding.Library.Collector
import TableBinding.Proofs.Library.Reach
import TableBinding.Proofs.Library.Trees
import TableBinding.Proofs.Text.Marks
import TableBinding.Proofs.Text.Utf8

/-!
# The library's own reader and collector

They keep all that is relied on: the reader is strict (`Toml.isStrict`), the collector is lawful
(`Tree.lawful`), takes a variable for a scalar under its key (`Tree.takesVariables`), and reads the
documents of the reader (`Tree.readsDocuments`).
-/

namespace TableBinding

/-! ## The reader -/

theorem Toml.isStrict : Toml.reader.reading.IsStrict where
  text? := by
    intro v t h
    cases v with
    | string => exact congrArg Toml.Value.string (Option.some.inj h)
    | _ => cases h
  truth? := by
    intro v b h
    cases v with
    | boolean => exact congrArg Toml.Value.boolean (Option.some.inj h)
    | _ => cases h
  list? := by
    intro v items h
    cases v with
    | array => exact congrArg Toml.Value.array (Option.some.inj h)
    | _ => cases h
  group? := by
    intro v g h
    cases v with
    | table entries => exact .inl ⟨entries, rfl, (Option.some.inj h).symm⟩
    | array items => exact .inr (.inl ⟨items, rfl, (Option.some.inj h).symm⟩)
    | datetime d => exact .inr (.inr ⟨d, rfl⟩)
    | _ => cases h
  isNothing _ := rfl

/-! ## Variables -/

namespace Variables

variable {c : Convention} {name value key : Text} {before after : Environment}

theorem covers_eq_isSome (c : Convention) (name : Text) :
    c.covers name = (key? c name).isSome := by
  rw [key?, Option.isSome_map]
  rfl

theorem key?_eq_none (h : c.covers name = false) : key? c name = none := by
  rw [covers_eq_isSome] at h
  exact Option.not_isSome_iff_eq_none.mp (by simp [h])

theorem entries_eq_nil {env : Environment} (h : ∀ v ∈ env, c.covers v.1 = false) :
    entries c env = [] := by
  refine List.filterMap_eq_nil_iff.mpr ?_
  rintro ⟨name, value⟩ hv
  show (key? c name).map _ = none
  rw [key?_eq_none (h _ hv), Option.map_none]

theorem entries_append (before after : Environment) :
    entries c (before ++ after) = entries c before ++ entries c after := List.filterMap_append

theorem entries_cons_of_key? (hkey : key? c name = some key) (after : Environment) :
    entries c ((name, value) :: after) = (key, interpret c key value) :: entries c after := by
  have hentry : (key? c name).map (fun key => (key, interpret c key value)) =
      some (key, interpret c key value) := by
    rw [hkey, Option.map_some]
  exact List.filterMap_cons_some hentry

/-- One variable that gives a setting among others that give none. -/
theorem entries_eq_single (hkey : key? c name = some key)
    (hothers : ∀ v ∈ before ++ after, c.covers v.1 = false) :
    entries c (before ++ (name, value) :: after) = [(key, interpret c key value)] := by
  obtain ⟨hbefore, hafter⟩ := List.forall_mem_append.mp hothers
  rw [entries_append, entries_cons_of_key? hkey, entries_eq_nil hbefore, entries_eq_nil hafter,
    List.nil_append]

theorem key?_eq_path (k : TextSetting)
    (hname : Text.toLower name = Text.toLower (convention.nameOf k.path)) :
    key? convention name = some (Text.join "." k.path) := by
  have happend : Text.toLower (convention.nameOf k.path) =
      Text.toLower convention.front ++ Text.toLower (Text.join convention.separator k.path) :=
    List.map_append
  rw [happend] at hname
  rw [key?, hname]
  show ((Text.after? (Text.toLower convention.front) (Text.toLower convention.front ++ _)).map _) =
    some _
  rw [Text.after?_append, Option.map_some]
  cases k with
  | input | output | logLevel => rfl
  | spelling k => cases k <;> rfl
  | layout k => cases k <;> rfl

theorem listKeys_path (k : TextSetting) :
    convention.listKeys.contains (Text.join "." k.path) = false := by
  cases k with
  | input | output | logLevel => decide
  | spelling k => cases k <;> decide
  | layout k => cases k <;> decide

theorem interpret_of_not_list (htries : c.triesValues = true)
    (hkey : c.listKeys.contains key = false) (value : Text) :
    interpret c key value = .ofScalar (Scalar.ofText value) := by
  unfold interpret
  rw [if_pos htries]
  cases Scalar.ofText value with
  | text t => rw [hkey]; rfl
  | truth | integer | float => rfl

end Variables

/-! ## The collector -/

namespace Tree

variable {m : Type → Type} [Monad m] [Storage m]

theorem lawful : (collector : Collector m Tree).Lawful where
  lay_nil _ := rfl
  ofEnvironment_eq_nil h := Variables.entries_eq_nil h

/-- The keys that lead to a setting, with a dot between them, are read as just these. -/
theorem ofText_path (k : TextSetting) :
    KeyPath.ofText (Text.join "." k.path) = k.path.map .key := by
  have hgrouped : ∀ {group name : Text}, group ≠ [] ∧ group.all KeyPath.isNameChar = true →
      name ≠ [] ∧ name.all KeyPath.isNameChar = true →
      KeyPath.ofText (Text.join "." [group, name]) = [.key group, .key name] :=
    fun hgroup hname => KeyPath.ofText_join hgroup.1 hgroup.2 hname.1 hname.2
  cases k with
  | input | output | logLevel => exact KeyPath.ofText_of_plain (by decide)
  | spelling k =>
    have hname : k.key ≠ [] ∧ k.key.all KeyPath.isNameChar = true := by
      cases k <;> decide
    exact hgrouped (by decide) hname
  | layout k =>
    have hname : k.key ≠ [] ∧ k.key.all KeyPath.isNameChar = true := by
      cases k <;> decide
    exact hgrouped (by decide) hname

theorem overlay_ofScalar (x : Scalar) (old : Tree) : overlay old (ofScalar x) = ofScalar x := by
  cases x <;> rfl

/-- A variable is taken for a scalar, which is set under the key of its setting. -/
theorem takesVariables : (collector : Collector m Tree).TakesVariables ofScalar where
  exists_group?_base entries := by
    obtain ⟨group, hgroup⟩ := exists_putAll_eq entries []
    refine ⟨group, ?_⟩
    show lenientReading.group? ((table []).putAll entries) = _
    rw [hgroup]
    rfl
  ofEnvironment_eq_single k name value before after hname hothers := by
    show Variables.entries Variables.convention _ = _
    rw [Variables.entries_eq_single (Variables.key?_eq_path k hname) hothers,
      Variables.interpret_of_not_list rfl (Variables.listKeys_path k)]
  lay_single k entries x := by
    have hput : ∀ t : Tree, t.put (Text.join "." k.path) (ofScalar x) =
        changeWithin (fun _ => ofScalar x) (k.path.map .key) t := by
      intro t
      rw [put, ofText_path]
      simp only [overlay_ofScalar]
    show lenientReading.IsSet _ _ _ (put _ _ _)
    rw [hput]
    exact isSet_changeWithin (ofScalar x) k.path (some _)
  text?_scalar x := by
    cases x <;> rfl
  isNothing_scalar x := by
    cases x <;> rfl

end Tree

/-! ## Files -/

theorem Disk.isFile_of_read {d : Disk} {path : Path} {bytes : ByteArray}
    (h : d.read path = .ok bytes) : d.isFile path = true := by
  unfold Disk.read at h
  unfold Disk.isFile Disk.at?
  split at h
  · cases h
  · rename_i l hfind
    split at h
    · cases h
    · cases h
    · rename_i hentry
      simp only [hfind, hentry]

theorem Disk.table?_eq_some_iff {d : Disk} {reader : DocumentReader} {path : Path}
    {t : Toml.Table} :
    d.table? reader path = some t ↔
      ∃ bytes document, d.read path = .ok bytes ∧ Utf8.decode? bytes = some document ∧
        reader.table? document = some t := by
  unfold Disk.table?
  cases d.read path with
  | error fault => simp
  | ok bytes => simp [Option.bind_eq_some_iff]

namespace Tree

variable {w : Workspace} {path : Path} {bytes : ByteArray} {table : Toml.Table}

theorem findFile_run (hfile : w.disk.isFile path = true)
    (hextension : path.extension? = some fileExtension) :
    (findFile path : StateM Workspace (Option Path)).run w = (some path, w) := by
  have hrun : (Storage.isFile path : StateM Workspace Bool).run w = (w.disk.isFile path, w) := rfl
  rw [findFile, StateT.run_bind, hrun, hfile]
  simp [hextension]
  rfl

theorem fileEntries?_run {required : Bool} (hread : w.disk.read path = .ok bytes)
    (hextension : path.extension? = some fileExtension) :
    (fileEntries? { path, required } : StateM Workspace (Option (List (Text × Tree)))).run w =
      (documentEntries? (documentOf bytes), w) := by
  have hrun : (Storage.read path : StateM Workspace (Except StorageFault ByteArray)).run w =
      (.ok bytes, w) := congrArg (·, w) hread
  rw [fileEntries?, StateT.run_bind, findFile_run (Disk.isFile_of_read hread) hextension]
  show StateT.run (Storage.read path >>= _) w = _
  rw [StateT.run_bind, hrun]
  rfl

/-- A lenient reader of the bytes reads the same document. -/
theorem documentEntries?_of_table? {document : Text} (hdecode : Utf8.decode? bytes = some document)
    (ht : Toml.read? .dotted document = some table) :
    documentEntries? (documentOf bytes) = ofEntries? table := by
  have hlossy := Utf8.decodeLossy_of_decode? hdecode
  have hread : Toml.read? .passed (documentOf bytes) = some table := by
    unfold documentOf
    split
    · rename_i rest hbytes
      have hmark : Utf8.decodeLossy (0xef :: 0xbb :: 0xbf :: rest) =
          '\ufeff' :: Utf8.decodeLossy rest := by
        rw [Utf8.decodeLossy]
        rfl
      rw [hbytes, hmark] at hlossy
      rw [← hlossy] at ht
      exact Toml.read?_of_mark ht
    · rw [hlossy]
      exact Toml.read?_of_dotted ht
  rw [documentEntries?, hread, Option.bind_some]

/-- **The collector reads the documents that the reader reads.** -/
theorem readsDocuments : (collector : Collector (StateM Workspace) Tree).ReadsDocuments
    Toml.reader Same where
  entries? := by
    intro w path table hextension htable hfits
    obtain ⟨bytes, document, hread, hdecode, hdocument⟩ := Disk.table?_eq_some_iff.mp htable
    obtain ⟨entries, hentries⟩ :=
      (exists_ofEntries?_iff table).mpr (Toml.Value.fitsInt64_table_iff.mp hfits)
    have hdistinct := Toml.hasDistinctKeys_of_read? hdocument
    refine ⟨entries, ?_, ?_, sameEntries_of_isOf hdistinct (lookup_ofEntries? hentries)⟩
    · rw [← hentries, ← documentEntries?_of_table? hdecode hdocument]
      exact fileEntries?_run hread hextension
    · rw [keys_ofEntries? hentries]
      exact (Toml.Value.hasDistinctKeys_table_iff.mp hdistinct).1
  lay := by
    intro table entries hkeys hplain hsame
    have hbase : (Tree.table []).putAll entries = .table (overlayEntries [] entries) :=
      putAll_of_plain hplain
    refine ⟨overlayEntries [] entries, ?_, ?_⟩
    · show lenientReading.group? ((Tree.table []).putAll entries) = _
      rw [hbase]
      rfl
    · intro key
      rw [lookup_overlayEntries hkeys, List.lookup_nil, Option.or_none]
      have hrel := hsame key
      generalize table.lookup key = v? at hrel ⊢
      generalize entries.lookup key = t? at hrel ⊢
      cases hrel with
      | none => exact .none
      | some hvt => exact .some ⟨hvt.1, hvt.2.laid⟩
  reading := keeps

end Tree

end TableBinding
