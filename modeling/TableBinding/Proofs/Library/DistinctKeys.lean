import Mathlib.Data.List.Nodup
import TableBinding.Library.Toml.Document
import TableBinding.Proofs.Settings.Values

/-!
# The keys of a document

In what a document says no table has a key twice, at any depth (`Toml.hasDistinctKeys_of_read?`).

The shape of the argument: values and tables grow by one entry at a time, and an entry is only added
under a key that is not there (`Entries.HasDistinctKeys.concat`) or in the place of one that is
(`Entries.HasDistinctKeys.set`). What changes one table on a way changes none of the tables on the
way in any other respect (`Entries.HasDistinctKeys.within`).
-/

namespace TableBinding.Toml

/-! ## Scalars -/

namespace Value

theorem hasDistinctKeys_of_scalar? {token : Text} {v : Value} (h : scalar? token = some v) :
    v.HasDistinctKeys := by
  intro entries hholds
  unfold scalar? at h
  split at h
  · cases h
    cases hholds
  split at h
  · cases h
    cases hholds
  split at h
  · split at h
    · cases h
      cases hholds
    · cases h
  split at h
  · cases h
    cases hholds
  · obtain ⟨t, -, rfl⟩ := Option.map_eq_some_iff.mp h
    cases hholds

end Value

/-! ## Tables that are still read -/

namespace Entries

theorem toTable_eq (es : Entries) : toTable es = es.map fun e => (e.1, e.2.toValue) := by
  induction es with
  | nil => rw [toTable, List.map_nil]
  | cons e es ih =>
    obtain ⟨key, node⟩ := e
    rw [toTable, ih, List.map_cons]

theorem toTables_eq (items : List Entries) :
    toTables items = items.map fun item => .table (toTable item) := by
  induction items with
  | nil => rw [toTables, List.map_nil]
  | cons item items ih => rw [toTables, ih, List.map_cons]

/-- No table in the entries has a key twice, nor have they themselves. -/
def HasDistinctKeys (es : Entries) : Prop := (Value.table (toTable es)).HasDistinctKeys

theorem hasDistinctKeys_iff {es : Entries} :
    es.HasDistinctKeys ↔
      (es.map Prod.fst).Nodup ∧ ∀ e ∈ es, e.2.toValue.HasDistinctKeys := by
  unfold HasDistinctKeys
  rw [Value.hasDistinctKeys_table_iff, toTable_eq, List.map_map, List.forall_mem_map]
  rfl

theorem hasDistinctKeys_nil : HasDistinctKeys [] := by
  rw [hasDistinctKeys_iff]
  exact ⟨List.nodup_nil, by simp⟩

theorem hasDistinctKeys_tables_iff {items : List Entries} :
    (Node.tables items).toValue.HasDistinctKeys ↔ ∀ item ∈ items, HasDistinctKeys item := by
  rw [Node.toValue, toTables_eq, Value.hasDistinctKeys_array_iff, List.forall_mem_map]
  rfl

theorem set_keys (key : Text) (node : Node) (es : Entries) :
    (set key node es).map Prod.fst =
      if key ∈ es.map Prod.fst then es.map Prod.fst else es.map Prod.fst ++ [key] := by
  induction es with
  | nil => simp [set]
  | cons e es ih =>
    obtain ⟨k, n⟩ := e
    by_cases hkey : k = key
    · simp [set, hkey]
    · have hother : key ≠ k := Ne.symm hkey
      simp only [set, if_neg hkey, List.map_cons, ih, List.mem_cons, hother, false_or]
      split <;> simp

theorem mem_set {key : Text} {node : Node} {es : Entries} {e : Text × Node}
    (h : e ∈ set key node es) : e = (key, node) ∨ e ∈ es := by
  induction es with
  | nil => exact .inl (by simpa [set] using h)
  | cons first es ih =>
    obtain ⟨k, n⟩ := first
    unfold set at h
    split at h
    · rcases List.mem_cons.mp h with rfl | h
      · exact .inl rfl
      · exact .inr (List.mem_cons_of_mem _ h)
    · rcases List.mem_cons.mp h with rfl | h
      · exact .inr List.mem_cons_self
      · exact (ih h).imp_right (List.mem_cons_of_mem _)

namespace HasDistinctKeys

variable {es es' : Entries}

theorem lookup (hes : es.HasDistinctKeys) {key : Text} {node : Node}
    (h : es.lookup key = some node) : node.toValue.HasDistinctKeys :=
  (hasDistinctKeys_iff.mp hes).2 _ (mem_of_lookup h)

theorem set (hes : es.HasDistinctKeys) (key : Text) {node : Node}
    (hnode : node.toValue.HasDistinctKeys) : (Entries.set key node es).HasDistinctKeys := by
  obtain ⟨hnodup, hnodes⟩ := hasDistinctKeys_iff.mp hes
  rw [hasDistinctKeys_iff, set_keys]
  constructor
  · split
    · exact hnodup
    · rename_i hkey
      rw [← List.concat_eq_append]
      exact hnodup.concat hkey
  · intro e he
    rcases mem_set he with rfl | he
    · exact hnode
    · exact hnodes e he

theorem concat (hes : es.HasDistinctKeys) {key : Text} {node : Node} (hkey : es.lookup key = none)
    (hnode : node.toValue.HasDistinctKeys) : HasDistinctKeys (es ++ [(key, node)]) := by
  obtain ⟨hnodup, hnodes⟩ := hasDistinctKeys_iff.mp hes
  rw [hasDistinctKeys_iff, List.map_append]
  constructor
  · rw [List.map_singleton, ← List.concat_eq_append]
    exact hnodup.concat (lookup_eq_none_iff_notMem.mp hkey)
  · intro e he
    rcases List.mem_append.mp he with he | he
    · exact hnodes e he
    · rw [List.mem_singleton] at he
      subst he
      exact hnode

theorem within {dotted : Bool} {change : Origin → Entries → Option Entries}
    (hchange : ∀ {origin es es'}, HasDistinctKeys es → change origin es = some es' →
      HasDistinctKeys es')
    {path : List Text} {origin : Origin} (hes : es.HasDistinctKeys)
    (h : Entries.within dotted change path origin es = some es') : es'.HasDistinctKeys := by
  induction path generalizing origin es es' with
  | nil => exact hchange hes h
  | cons key path ih =>
    unfold Entries.within at h
    split at h
    · obtain ⟨inner, hinner, rfl⟩ := Option.map_eq_some_iff.mp h
      exact hes.set key (ih hasDistinctKeys_nil hinner)
    · rename_i hlookup
      split at h
      · cases h
      · obtain ⟨inner', hinner, rfl⟩ := Option.map_eq_some_iff.mp h
        exact hes.set key (ih (hes.lookup hlookup) hinner)
    · rename_i items hlookup
      have hitems : ∀ item ∈ items, HasDistinctKeys item :=
        hasDistinctKeys_tables_iff.mp (hes.lookup hlookup)
      split at h
      · rename_i last hlast
        obtain ⟨inner, hinner, rfl⟩ := Option.map_eq_some_iff.mp h
        have hinner := ih (hitems last (List.mem_of_getLast? hlast)) hinner
        refine hes.set key (hasDistinctKeys_tables_iff.mpr ?_)
        intro item hitem
        rcases List.mem_append.mp hitem with hitem | hitem
        · exact hitems item ((List.dropLast_sublist items).subset hitem)
        · rw [List.mem_singleton] at hitem
          subst hitem
          exact hinner
      · cases h
    · cases h

theorem define (hes : es.HasDistinctKeys) {reach : DottedReach} {keys : List Text} {v : Value}
    (hv : v.HasDistinctKeys) (h : Entries.define reach keys v es = some es') :
    es'.HasDistinctKeys := by
  unfold Entries.define at h
  split at h
  · cases h
  · refine within ?_ hes h
    intro origin es es' hes hplace
    split at hplace
    · cases hplace
    split at hplace
    · cases hplace
    · cases hplace
      rename_i hfree
      exact hes.concat (Option.not_isSome_iff_eq_none.mp hfree) hv

theorem defineUnder (hes : es.HasDistinctKeys) {reach : DottedReach} {header keys : List Text}
    {v : Value} (hv : v.HasDistinctKeys)
    (h : Entries.defineUnder reach header keys v es = some es') : es'.HasDistinctKeys :=
  within (fun hes h => define hes hv h) hes h

theorem openTable (hes : es.HasDistinctKeys) {keys : List Text}
    (h : Entries.openTable keys es = some es') : es'.HasDistinctKeys := by
  unfold Entries.openTable at h
  split at h
  · cases h
  · refine within ?_ hes h
    intro origin es es' hes hplace
    split at hplace
    · cases hplace
      exact hes.concat ‹_› hasDistinctKeys_nil
    · rename_i inner hlookup
      cases hplace
      have hinner : HasDistinctKeys inner := hes.lookup hlookup
      exact hes.set _ hinner
    · cases hplace

theorem openItem (hes : es.HasDistinctKeys) {keys : List Text}
    (h : Entries.openItem keys es = some es') : es'.HasDistinctKeys := by
  unfold Entries.openItem at h
  split at h
  · cases h
  · refine within ?_ hes h
    intro origin es es' hes hplace
    split at hplace
    · cases hplace
      refine hes.concat ‹_› (hasDistinctKeys_tables_iff.mpr ?_)
      simpa using hasDistinctKeys_nil
    · rename_i items hlookup
      cases hplace
      refine hes.set _ (hasDistinctKeys_tables_iff.mpr ?_)
      rw [List.forall_mem_append]
      exact ⟨hasDistinctKeys_tables_iff.mp (hes.lookup hlookup), by simpa using hasDistinctKeys_nil⟩
    · cases hplace

end HasDistinctKeys

end Entries

/-! ## What is read -/

/-- Values, the items of arrays, and the entries of tables in braces, with no more than that many
steps. -/
theorem hasDistinctKeys_of_steps (steps : Nat) :
    (∀ {level t v rest}, readValue? steps level t = some (v, rest) → v.HasDistinctKeys) ∧
    (∀ {level t items rest}, readItems? steps level t = some (items, rest) →
      ∀ v ∈ items, Value.HasDistinctKeys v) ∧
    (∀ {level es t es' rest}, Entries.HasDistinctKeys es →
      readEntries? steps level es t = some (es', rest) → Entries.HasDistinctKeys es') := by
  induction steps with
  | zero =>
    refine ⟨?_, ?_, ?_⟩
    · intro level t v rest h
      rw [readValue?] at h
      cases h
    · intro level t items rest h
      rw [readItems?] at h
      cases h
    · intro level es t es' rest hes h
      rw [readEntries?] at h
      cases h
  | succ steps ih =>
    obtain ⟨hvalue, hitems, hentries⟩ := ih
    refine ⟨?_, ?_, ?_⟩
    · intro level t v rest h
      unfold readValue? at h
      split at h
      · split at h
        · cases h
        · obtain ⟨⟨items, behind⟩, hread, hpure⟩ := Option.bind_eq_some_iff.mp h
          cases hpure
          exact Value.hasDistinctKeys_array_iff.mpr (hitems hread)
      · split at h
        · cases h
        · obtain ⟨⟨entries, behind⟩, hread, hpure⟩ := Option.bind_eq_some_iff.mp h
          cases hpure
          exact hentries Entries.hasDistinctKeys_nil hread
      · obtain ⟨⟨s, behind⟩, hread, hpure⟩ := Option.bind_eq_some_iff.mp h
        cases hpure
        exact Value.hasDistinctKeys_string s
      · obtain ⟨⟨s, behind⟩, hread, hpure⟩ := Option.bind_eq_some_iff.mp h
        cases hpure
        exact Value.hasDistinctKeys_string s
      · obtain ⟨v', hscalar, hpure⟩ := Option.bind_eq_some_iff.mp h
        cases hpure
        exact Value.hasDistinctKeys_of_scalar? hscalar
    · intro level t items rest h
      unfold readItems? at h
      obtain ⟨behind, -, h⟩ := Option.bind_eq_some_iff.mp h
      split at h
      · cases h
        simp
      · obtain ⟨⟨item, behind⟩, hitem, h⟩ := Option.bind_eq_some_iff.mp h
        obtain ⟨behind, -, h⟩ := Option.bind_eq_some_iff.mp h
        split at h
        · obtain ⟨⟨others, behind⟩, hothers, hpure⟩ := Option.bind_eq_some_iff.mp h
          cases hpure
          exact List.forall_mem_cons.mpr ⟨hvalue hitem, hitems hothers⟩
        · cases h
          exact List.forall_mem_singleton.mpr (hvalue hitem)
        · cases h
    · intro level es t es' rest hes h
      unfold readEntries? at h
      obtain ⟨behind, -, h⟩ := Option.bind_eq_some_iff.mp h
      split at h
      · cases h
        exact hes
      · obtain ⟨⟨keys, behind⟩, -, h⟩ := Option.bind_eq_some_iff.mp h
        obtain ⟨behind, -, h⟩ := Option.bind_eq_some_iff.mp h
        obtain ⟨behind, -, h⟩ := Option.bind_eq_some_iff.mp h
        obtain ⟨behind, -, h⟩ := Option.bind_eq_some_iff.mp h
        obtain ⟨⟨v, behind⟩, hv, h⟩ := Option.bind_eq_some_iff.mp h
        obtain ⟨defined, hdefine, h⟩ := Option.bind_eq_some_iff.mp h
        have hdefined := hes.define (hvalue hv) hdefine
        obtain ⟨behind, -, h⟩ := Option.bind_eq_some_iff.mp h
        split at h
        · exact hentries hdefined h
        · cases h
          exact hdefined
        · cases h

/-- Lines read to the end keep keys apart. -/
theorem Entries.HasDistinctKeys.readLines {reach : DottedReach} {size steps : Nat}
    {header : List Text} {es es' : Entries} {t : Text} (hes : es.HasDistinctKeys)
    (h : readLines? reach size steps header es t = some es') : es'.HasDistinctKeys := by
  induction steps generalizing header es t with
  | zero =>
    rw [readLines?] at h
    cases h
  | succ steps ih =>
    unfold readLines? at h
    obtain ⟨behind, -, h⟩ := Option.bind_eq_some_iff.mp h
    split at h
    · cases h
      exact hes
    · obtain ⟨⟨several, keys, behind⟩, -, h⟩ := Option.bind_eq_some_iff.mp h
      cases several with
      | true =>
        obtain ⟨opened, hopen, h⟩ := Option.bind_eq_some_iff.mp h
        obtain ⟨behind, -, h⟩ := Option.bind_eq_some_iff.mp h
        exact ih (hes.openItem hopen) h
      | false =>
        obtain ⟨opened, hopen, h⟩ := Option.bind_eq_some_iff.mp h
        obtain ⟨behind, -, h⟩ := Option.bind_eq_some_iff.mp h
        exact ih (hes.openTable hopen) h
    · obtain ⟨⟨keys, behind⟩, -, h⟩ := Option.bind_eq_some_iff.mp h
      obtain ⟨behind, -, h⟩ := Option.bind_eq_some_iff.mp h
      obtain ⟨⟨v, behind⟩, hv, h⟩ := Option.bind_eq_some_iff.mp h
      obtain ⟨defined, hdefine, h⟩ := Option.bind_eq_some_iff.mp h
      obtain ⟨behind, -, h⟩ := Option.bind_eq_some_iff.mp h
      exact ih (hes.defineUnder ((hasDistinctKeys_of_steps _).1 hv) hdefine) h

/-- **What a document says has no key twice in one table.** -/
theorem hasDistinctKeys_of_read? {reach : DottedReach} {document : Text} {t : Table}
    (h : read? reach document = some t) : (Value.table t).HasDistinctKeys := by
  obtain ⟨es, hread, rfl⟩ := Option.map_eq_some_iff.mp h
  exact Entries.hasDistinctKeys_nil.readLines hread

end TableBinding.Toml
