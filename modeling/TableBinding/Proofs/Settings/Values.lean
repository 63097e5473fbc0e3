import Mathlib.Data.List.Nodup
import TableBinding.Toml.Value

/-!
# What TOML values hold

A value holds itself and, where it is an array or a table, all that stands in it (`Value.Holds`).
Two things are asked of all that a value holds: whether a table has a key twice
(`Value.HasDistinctKeys`), and whether the whole numbers take no more than 64 bits
(`Value.FitsInt64`). Before that, what stands under the keys of entries.
-/

namespace TableBinding

/-! ## Entries -/

section

variable {α : Type} {key : Text} {entries : List (Text × α)}

theorem lookup_eq_none_iff_notMem : entries.lookup key = none ↔ key ∉ entries.map Prod.fst := by
  rw [List.lookup_eq_none_iff]
  constructor
  · intro h hkey
    obtain ⟨e, he, rfl⟩ := List.mem_map.mp hkey
    simpa using h e he
  · intro h e he
    exact bne_iff_ne.mpr fun heq => h (List.mem_map.mpr ⟨e, he, heq.symm⟩)

theorem mem_of_lookup {a : α} (h : entries.lookup key = some a) : (key, a) ∈ entries := by
  obtain ⟨front, behind, rfl, -⟩ := List.lookup_eq_some_iff.mp h
  exact List.mem_append_right _ List.mem_cons_self

end

namespace Toml

/-! ## Values in values -/

/-- The second value is the first one, or stands somewhere in it. -/
inductive Value.Holds : Value → Value → Prop
  | self (v : Value) : Holds v v
  | item {items : List Value} {v u : Value} (hv : v ∈ items) (h : Holds v u) :
      Holds (.array items) u
  | entry {entries : List (Text × Value)} {key : Text} {v u : Value} (hv : (key, v) ∈ entries)
      (h : Holds v u) : Holds (.table entries) u

namespace Value

/-- No table in the value has a key twice. -/
def HasDistinctKeys (v : Value) : Prop :=
  ∀ entries, v.Holds (.table entries) → (entries.map Prod.fst).Nodup

theorem hasDistinctKeys_string (t : Text) : (string t).HasDistinctKeys := by
  intro entries h
  cases h

theorem hasDistinctKeys_array_iff {items : List Value} :
    (array items).HasDistinctKeys ↔ ∀ v ∈ items, v.HasDistinctKeys := by
  constructor
  · intro h v hv entries hholds
    exact h entries (.item hv hholds)
  · intro h entries hholds
    cases hholds with
    | item hv hholds => exact h _ hv entries hholds

theorem hasDistinctKeys_table_iff {entries : List (Text × Value)} :
    (table entries).HasDistinctKeys ↔
      (entries.map Prod.fst).Nodup ∧ ∀ e ∈ entries, e.2.HasDistinctKeys := by
  constructor
  · intro h
    refine ⟨h entries (.self _), ?_⟩
    intro e he inner hholds
    exact h inner (.entry he hholds)
  · rintro ⟨hnodup, hvalues⟩ inner hholds
    cases hholds with
    | self => exact hnodup
    | entry hv hholds => exact hvalues _ hv inner hholds

/-- Every whole number in the value takes no more than 64 bits. -/
def FitsInt64 (v : Value) : Prop := ∀ n, v.Holds (integer n) → Number.fitsInt64 n = true

theorem fitsInt64_integer_iff {n : Int} : (integer n).FitsInt64 ↔ Number.fitsInt64 n = true := by
  constructor
  · intro h
    exact h n (.self _)
  · intro h m hm
    cases hm with
    | self => exact h

theorem fitsInt64_array_iff {items : List Value} :
    (array items).FitsInt64 ↔ ∀ v ∈ items, v.FitsInt64 := by
  constructor
  · intro h v hv n hn
    exact h n (.item hv hn)
  · intro h n hn
    cases hn with
    | item hv hn => exact h _ hv n hn

theorem fitsInt64_table_iff {entries : List (Text × Value)} :
    (table entries).FitsInt64 ↔ ∀ e ∈ entries, e.2.FitsInt64 := by
  constructor
  · intro h e he n hn
    exact h n (.entry he hn)
  · intro h n hn
    cases hn with
    | entry hv hn => exact h _ hv n hn

end Value

end Toml

end TableBinding
