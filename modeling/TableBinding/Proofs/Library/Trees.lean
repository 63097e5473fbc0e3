import TableBinding.Proofs.Library.DistinctKeys
import TableBinding.Proofs.Library.Overlay

/-!
# The trees of a document's values

Values have trees exactly if they hold no whole number beyond 64 bits (`Tree.exists_ofValue?_iff`).
The tree of a value stays one of it when it is laid over nothing (`Tree.IsOf`): that only merges
entries of one key, of which there are none in a document. So under every key the tree of a table
has a tree of what the table has there (`Tree.IsOf.exists_table`), and a lenient reading takes a
value of the wanted type for itself (`Tree.keeps`).
-/

namespace TableBinding

open Toml (Value)

namespace Tree

/-! ## Which values have trees -/

theorem ofValues?_cons_eq_some {v : Value} {rest : List Value} {ts : List Tree} :
    ofValues? (v :: rest) = some ts ↔
      ∃ t ts', ofValue? v = some t ∧ ofValues? rest = some ts' ∧ ts = t :: ts' := by
  rw [ofValues?]
  cases ofValue? v <;> cases ofValues? rest <;> simp [eq_comm]

theorem ofEntries?_cons_eq_some {key : Text} {v : Value} {rest : List (Text × Value)}
    {entries : List (Text × Tree)} :
    ofEntries? ((key, v) :: rest) = some entries ↔
      ∃ t ts, ofValue? v = some t ∧ ofEntries? rest = some ts ∧ entries = (key, t) :: ts := by
  rw [ofEntries?]
  cases ofValue? v <;> cases ofEntries? rest <;> simp [eq_comm]

mutual

/-- **A value has a tree exactly if its whole numbers take no more than 64 bits.** -/
theorem exists_ofValue?_iff : ∀ v : Value, (∃ t, ofValue? v = some t) ↔ v.FitsInt64
  | .string t => ⟨fun _ n hn => (by cases hn), fun _ => ⟨_, rfl⟩⟩
  | .integer n => by
    rw [Value.fitsInt64_integer_iff, ofValue?]
    by_cases h : Number.fitsInt64 n = true <;> simp [h]
  | .float x => ⟨fun _ n hn => (by cases hn), fun _ => ⟨_, rfl⟩⟩
  | .boolean b => ⟨fun _ n hn => (by cases hn), fun _ => ⟨_, rfl⟩⟩
  | .datetime t => ⟨fun _ n hn => (by cases hn), fun _ => ⟨_, rfl⟩⟩
  | .array items => by
    rw [Value.fitsInt64_array_iff, ← exists_ofValues?_iff items, ofValue?]
    cases ofValues? items <;> simp
  | .table entries => by
    rw [Value.fitsInt64_table_iff, ← exists_ofEntries?_iff entries, ofValue?]
    cases ofEntries? entries <;> simp

theorem exists_ofValues?_iff : ∀ items : List Value,
    (∃ ts, ofValues? items = some ts) ↔ ∀ v ∈ items, v.FitsInt64
  | [] => ⟨fun _ => by simp, fun _ => ⟨_, rfl⟩⟩
  | v :: rest => by
    rw [List.forall_mem_cons, ← exists_ofValue?_iff v, ← exists_ofValues?_iff rest]
    constructor
    · rintro ⟨ts, h⟩
      obtain ⟨t, ts', ht, hts, -⟩ := ofValues?_cons_eq_some.mp h
      exact ⟨⟨t, ht⟩, ts', hts⟩
    · rintro ⟨⟨t, ht⟩, ts, hts⟩
      exact ⟨_, ofValues?_cons_eq_some.mpr ⟨t, ts, ht, hts, rfl⟩⟩

theorem exists_ofEntries?_iff : ∀ entries : List (Text × Value),
    (∃ ts, ofEntries? entries = some ts) ↔ ∀ e ∈ entries, e.2.FitsInt64
  | [] => ⟨fun _ => by simp, fun _ => ⟨_, rfl⟩⟩
  | (key, v) :: rest => by
    rw [List.forall_mem_cons, ← exists_ofValue?_iff v, ← exists_ofEntries?_iff rest]
    constructor
    · rintro ⟨ts, h⟩
      obtain ⟨t, ts', ht, hts, -⟩ := ofEntries?_cons_eq_some.mp h
      exact ⟨⟨t, ht⟩, ts', hts⟩
    · rintro ⟨⟨t, ht⟩, ts, hts⟩
      exact ⟨_, ofEntries?_cons_eq_some.mpr ⟨t, ts, ht, hts, rfl⟩⟩

end

instance (v : Value) : Decidable v.FitsInt64 :=
  decidable_of_iff ((ofValue? v).isSome = true)
    (Option.isSome_iff_exists.trans (exists_ofValue?_iff v))

/-! ## The tree of a value -/

theorem forall₂_of_ofValues? {items : List Value} {ts : List Tree} (h : ofValues? items = some ts) :
    List.Forall₂ (fun v t => ofValue? v = some t) items ts := by
  induction items generalizing ts with
  | nil =>
    cases h
    exact .nil
  | cons v rest ih =>
    obtain ⟨t, ts', ht, hts, rfl⟩ := ofValues?_cons_eq_some.mp h
    exact .cons ht (ih hts)

theorem forall₂_of_ofEntries? {entries : List (Text × Value)} {ts : List (Text × Tree)}
    (h : ofEntries? entries = some ts) :
    List.Forall₂ (fun e t => e.1 = t.1 ∧ ofValue? e.2 = some t.2) entries ts := by
  induction entries generalizing ts with
  | nil =>
    cases h
    exact .nil
  | cons e rest ih =>
    obtain ⟨t, ts', ht, hts, rfl⟩ := ofEntries?_cons_eq_some.mp h
    exact .cons ⟨rfl, ht⟩ (ih hts)

theorem keys_ofEntries? {entries : List (Text × Value)} {ts : List (Text × Tree)}
    (h : ofEntries? entries = some ts) : ts.map Prod.fst = entries.map Prod.fst := by
  have hpairs := forall₂_of_ofEntries? h
  clear h
  induction hpairs with
  | nil => rfl
  | cons hfirst _ ih => rw [List.map_cons, List.map_cons, ih, hfirst.1]

/-- The tree is that of the value, laid over nothing any number of times. -/
inductive IsOf : Tree → Value → Prop
  | plain {t : Tree} {v : Value} (h : ofValue? v = some t) : IsOf t v
  | laid {t : Tree} {v : Value} (h : IsOf t v) : IsOf (overlay nothing t) v

theorem lookup_ofEntries? {entries : List (Text × Value)} {ts : List (Text × Tree)}
    (h : ofEntries? entries = some ts) (k : Text) :
    Option.Rel (fun v t => IsOf t v) (entries.lookup k) (ts.lookup k) := by
  have hpairs := forall₂_of_ofEntries? h
  clear h
  induction hpairs with
  | nil => exact .none
  | @cons e t _ _ hfirst _ ih =>
    obtain ⟨key, v⟩ := e
    obtain ⟨key', t⟩ := t
    obtain ⟨rfl, ht⟩ : key = key' ∧ ofValue? v = some t := hfirst
    rw [lookup_cons_eq, lookup_cons_eq]
    by_cases hk : k = key
    · rw [if_pos hk, if_pos hk]
      exact .some (.plain ht)
    · rw [if_neg hk, if_neg hk]
      exact ih

namespace IsOf

variable {t : Tree}

theorem eq_text {s : Text} (h : t.IsOf (.string s)) : t = .text s := by
  generalize hv : Value.string s = v at h
  induction h with
  | plain h =>
    subst hv
    cases h
    rfl
  | laid _ ih =>
    rw [ih hv]
    rfl

theorem eq_truth {b : Bool} (h : t.IsOf (.boolean b)) : t = .truth b := by
  generalize hv : Value.boolean b = v at h
  induction h with
  | plain h =>
    subst hv
    cases h
    rfl
  | laid _ ih =>
    rw [ih hv]
    rfl

theorem exists_array {items : List Value} (h : t.IsOf (.array items)) :
    ∃ ts, t = .array ts ∧ List.Forall₂ (fun v u => IsOf u v) items ts := by
  generalize hv : Value.array items = v at h
  induction h with
  | plain h =>
    subst hv
    rw [ofValue?] at h
    obtain ⟨ts, hts, rfl⟩ := Option.map_eq_some_iff.mp h
    exact ⟨ts, rfl, (forall₂_of_ofValues? hts).imp fun _ _ hu => .plain hu⟩
  | laid _ ih =>
    obtain ⟨ts, rfl, hitems⟩ := ih hv
    exact ⟨ts, rfl, hitems⟩

/-- Entries laid over nothing have under every key what they had, laid over nothing. -/
theorem overlayEntries_nil {entries : List (Text × Value)} {ts : List (Text × Tree)}
    (hkeys : (ts.map Prod.fst).Nodup)
    (h : ∀ k, Option.Rel (fun v u => IsOf u v) (entries.lookup k) (ts.lookup k)) (k : Text) :
    Option.Rel (fun v u => IsOf u v) (entries.lookup k) ((overlayEntries [] ts).lookup k) := by
  rw [lookup_overlayEntries hkeys, List.lookup_nil, Option.or_none]
  have hrel := h k
  generalize entries.lookup k = a at hrel ⊢
  generalize ts.lookup k = b at hrel ⊢
  cases hrel with
  | none => exact .none
  | some hu => exact .some hu.laid

/-- Under every key the tree of a table has a tree of what the table has there. -/
theorem exists_table {entries : List (Text × Value)} (hkeys : (entries.map Prod.fst).Nodup)
    (h : t.IsOf (.table entries)) :
    ∃ ts, t = .table ts ∧ (ts.map Prod.fst).Nodup ∧
      ∀ k, Option.Rel (fun v u => IsOf u v) (entries.lookup k) (ts.lookup k) := by
  generalize hv : Value.table entries = v at h
  induction h with
  | plain h =>
    subst hv
    rw [ofValue?] at h
    obtain ⟨ts, hts, rfl⟩ := Option.map_eq_some_iff.mp h
    exact ⟨ts, rfl, keys_ofEntries? hts ▸ hkeys, lookup_ofEntries? hts⟩
  | laid _ ih =>
    obtain ⟨ts, rfl, hnodup, hrel⟩ := ih hv
    exact ⟨overlayEntries [] ts, by rw [overlay]; rfl, nodup_overlayEntries List.nodup_nil,
      overlayEntries_nil hnodup hrel⟩

end IsOf

/-! ## What is read from a tree -/

/-- The tree is one of a value in which no table has a key twice. -/
def Same (v : Value) (t : Tree) : Prop := v.HasDistinctKeys ∧ t.IsOf v

theorem sameEntries_of_isOf {entries : List (Text × Value)} {ts : List (Text × Tree)}
    (hentries : (Value.table entries).HasDistinctKeys)
    (h : ∀ k, Option.Rel (fun v u => IsOf u v) (entries.lookup k) (ts.lookup k)) :
    Reading.SameEntries Same entries ts := by
  intro k
  have hrel := h k
  have hvalue : ∀ v, entries.lookup k = some v → v.HasDistinctKeys :=
    fun v hv => (Value.hasDistinctKeys_table_iff.mp hentries).2 _ (mem_of_lookup hv)
  generalize entries.lookup k = a at hrel hvalue ⊢
  generalize ts.lookup k = b at hrel ⊢
  cases hrel with
  | none => exact .none
  | some hu => exact .some ⟨hvalue _ rfl, hu⟩

/-- **A lenient reading takes the tree of a value of the wanted type for that value.** -/
theorem keeps : lenientReading.Keeps Same where
  string := by
    rintro s t ⟨-, ht⟩
    rw [ht.eq_text]
    exact ⟨rfl, rfl⟩
  boolean := by
    rintro b t ⟨-, ht⟩
    rw [ht.eq_truth]
    rfl
  array := by
    rintro items t ⟨hkeys, ht⟩
    obtain ⟨ts, rfl, hitems⟩ := ht.exists_array
    have hvalues := Value.hasDistinctKeys_array_iff.mp hkeys
    exact ⟨ts, rfl, rfl, (List.forall₂_and_left _ _).mpr ⟨hvalues, hitems⟩⟩
  table := by
    rintro entries t ⟨hkeys, ht⟩
    obtain ⟨ts, rfl, -, hrel⟩ := ht.exists_table (Value.hasDistinctKeys_table_iff.mp hkeys).1
    exact ⟨ts, rfl, sameEntries_of_isOf hkeys hrel⟩

end Tree

end TableBinding
