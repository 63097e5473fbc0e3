import Mathlib.Data.List.MinMax
import TableBinding.Proofs.Class.KeyClause

/-!
# Aligned definitions

The definitions of the columns of a table line up. Counted in characters, each has its name in
front, its type behind the longest name and one space, its nullability at the end of the next cell,
and all else behind that cell, and none ends with a blank, provided that no type is longer than its
cell (`Struct.definitions_aligned`). Names are measured in bytes and padded to characters: beyond
ASCII this leaves more room than any name needs.

The shape of the argument: a text in a cell that is wide enough takes the width of the cell
(`Text.length_padEnd`, `Text.length_padStart`), so every cell begins where the cells in front of it
end; and the nullability ends with a letter, at which the trimming of a definition stops
(`Field.definition_eq_described`).
-/

namespace TableBinding

open Text

/-! ## Cells -/

namespace Text

variable {t : Text} {width : Nat}

theorem length_padEnd (h : t.length ≤ width) : (padEnd width t).length = width := by
  rw [padEnd, List.length_append, List.length_replicate, Nat.add_sub_cancel' h]

theorem length_padStart (h : t.length ≤ width) : (padStart width t).length = width := by
  rw [padStart, List.length_append, List.length_replicate, Nat.sub_add_cancel h]

theorem length_le_byteLength (t : Text) : t.length ≤ byteLength t := by
  induction t with
  | nil => exact Nat.zero_le _
  | cons c t ih =>
    have hc : 0 < c.utf8Size := c.utf8Size_pos
    rw [byteLength, List.map_cons, List.foldr_cons, List.length_cons, Nat.add_comm]
    exact Nat.add_le_add hc ih

theorem take_drop_cell {front cell : Text} {start : Nat} (hfront : front.length = start)
    (hcell : cell.length = width) (back : Text) :
    ((front ++ (cell ++ back)).drop start).take width = cell := by
  rw [List.drop_left' hfront, List.take_left' hcell]

theorem getElem?_cell {front : Text} {start : Nat} (hfront : front.length = start) (c : Char)
    (back : Text) : (front ++ c :: back)[start]? = some c := by
  rw [← hfront, List.getElem?_append_right (Nat.le_refl _), Nat.sub_self]
  rfl

end Text

/-! ## Definitions -/

namespace Field

variable {f : Field} {width : Nat}

/-- The entry defines the column in cells of the width, of 7 and of 8 characters with one space
between each two: the name and the type are at the start of their cells and the nullability is at
the end of its own. Behind the last cell stands what else there is, and no blank is at the end. -/
structure AlignedAt (width : Nat) (onlyKey : Bool) (f : Field) (entry : Text) : Prop where
  fits : f.name.length ≤ width
  name : entry.take width = f.name ++ List.replicate (width - f.name.length) ' '
  nameGap : entry[width]? = some ' '
  type : (entry.drop (width + 1)).take 7 =
    f.columnType ++ List.replicate (7 - f.columnType.length) ' '
  typeGap : entry[width + 8]? = some ' '
  nullability : (entry.drop (width + 9)).take 8 =
    if f.nullable then ("    NULL" : Text) else "NOT NULL"
  lastLetter : entry[width + 16]? = some 'L'
  behind : entry.drop (width + 17) =
    trimEnd (inlineKey (onlyKey && f.primaryKey) ++ f.extras.flatMap (' ' :: ·))
  noBlankEnd : ∀ c ∈ entry.getLast?, isBlank c = false

/-- A definition is its three cells and what is left of the rest. -/
theorem definition_eq_described (hf : f.persisted = true) (width : Nat) (onlyKey : Bool) :
    f.definition width onlyKey = f.described width ++
      trimEnd (inlineKey (onlyKey && f.primaryKey) ++ f.extras.flatMap (' ' :: ·)) := by
  have hlast : ∀ c ∈ (f.described width).getLast?, isBlank c = false := by
    rw [getLast?_described hf]
    rintro c ⟨⟩
    decide
  rw [definition_eq, definitionFront_eq, List.append_assoc, trimEnd_append hlast]

theorem padStart_nullConstraint (hf : f.persisted = true) :
    padStart 8 f.nullConstraint = if f.nullable then ("    NULL" : Text) else "NOT NULL" := by
  rw [nullConstraint, if_pos hf]
  split
  · decide
  · decide

/-- **A column is defined in cells**, if its name and its type fit into theirs. -/
theorem alignedAt_definition (hf : f.persisted = true) (hname : f.name.length ≤ width)
    (htype : f.columnType.length ≤ 7) (onlyKey : Bool) :
    f.AlignedAt width onlyKey (f.definition width onlyKey) := by
  -- `rest` is what the trimming leaves behind the cells
  obtain ⟨rest, hrest⟩ : ∃ rest, rest =
    trimEnd (inlineKey (onlyKey && f.primaryKey) ++ f.extras.flatMap (' ' :: ·)) := ⟨_, rfl⟩
  have hentry : f.definition width onlyKey = f.described width ++ rest := by
    rw [hrest, definition_eq_described hf]
  have hcells : f.described width ++ rest = padEnd width f.name ++ ' ' ::
      (padEnd 7 f.columnType ++ ' ' :: (padStart 8 f.nullConstraint ++ rest)) := by
    simp only [described, List.append_assoc, List.cons_append, List.nil_append]
  have hnull : (padStart 8 f.nullConstraint).length = 8 := by
    apply length_padStart
    rw [nullConstraint, if_pos hf]
    split
    · decide
    · decide
  -- where each cell ends
  have hone : (padEnd width f.name).length = width := length_padEnd hname
  have htwo : (padEnd width f.name ++ [' ']).length = width + 1 := by
    rw [List.length_append, hone, List.length_singleton]
  have hthree : (padEnd width f.name ++ [' '] ++ padEnd 7 f.columnType).length = width + 8 := by
    rw [List.length_append, htwo, length_padEnd htype]
  have hfour : (padEnd width f.name ++ [' '] ++ padEnd 7 f.columnType ++ [' ']).length =
      width + 9 := by
    rw [List.length_append, hthree, List.length_singleton]
  have hfive : (f.described width).length = width + 17 := by
    rw [described, List.length_append, hfour, hnull]
  rw [hentry]
  refine ⟨hname, ?_, ?_, ?_, ?_, ?_, ?_, ?_, ?_⟩
  · rw [hcells, List.take_left' hone, padEnd]
  · rw [hcells]
    exact getElem?_cell hone ' ' _
  · rw [described, List.append_assoc, List.append_assoc, List.append_assoc,
      take_drop_cell htwo (length_padEnd htype), padEnd]
  · rw [described, List.append_assoc, List.append_assoc]
    exact getElem?_cell hthree ' ' _
  · rw [described, List.append_assoc, take_drop_cell hfour hnull, padStart_nullConstraint hf]
  · have hbound : width + 16 < (f.described width).length := by omega
    have hletter := getLast?_described hf width
    rw [List.getLast?_eq_getElem?, hfive] at hletter
    rw [List.getElem?_append_left hbound]
    exact hletter
  · rw [List.drop_left' hfive, hrest]
  · rw [← hentry]
    exact isBlank_getLast?_trimEnd _

end Field

/-! ## Tables -/

namespace Struct

variable {d : Struct}

theorem length_le_nameWidth {f : Field} (hf : f ∈ d.columns) : f.name.length ≤ d.nameWidth :=
  List.le_max_of_le' 0 (List.mem_map_of_mem hf) (length_le_byteLength f.name)

/-- **The definitions of the columns line up**, whatever their names are. -/
theorem definitions_aligned (htypes : ∀ f ∈ d.columns, f.columnType.length ≤ 7) :
    ∃ entries,
      d.definitions = entries ++
        (if 2 ≤ d.keyNames.length then [keyDefinition d.keyNames] else []) ∧
      List.Forall₂ (Field.AlignedAt d.nameWidth d.hasInlineKey) d.columns entries := by
  refine ⟨_, rfl, List.forall₂_map_right_iff.2 (List.forall₂_same.2 fun f hf => ?_)⟩
  have hpersisted : f.persisted = true := (List.mem_filter.1 hf).2
  exact Field.alignedAt_definition hpersisted (length_le_nameWidth hf) (htypes f hf) _

/-- A struct with a name of four characters and six bytes. -/
def sizes : Struct where
  typeName := "Sizes"
  tableName := "sizes"
  fields :=
    [{ hostType := "int", name := "id", persisted := true, columnType := "INTEGER",
       primaryKey := true },
      { hostType := "QString", name := "note" },
      { hostType := "double", name := "größ", persisted := true, columnType := "REAL",
        nullable := true, extras := ["CHECK(größ > 0)", "\u3000"] }]

theorem definitions_aligned_sizes :
    (∀ f ∈ sizes.columns, f.columnType.length ≤ 7) ∧ sizes.nameWidth = 6 ∧
      sizes.definitions = ["id     INTEGER NOT NULL PRIMARY KEY",
        "größ   REAL        NULL CHECK(größ > 0)"].map String.toList ∧
      List.Forall₂ (Field.AlignedAt 6 true) sizes.columns sizes.definitions := by
  have htypes : ∀ f ∈ sizes.columns, f.columnType.length ≤ 7 := by decide
  have hwidth : sizes.nameWidth = 6 := by decide
  have hkey : sizes.hasInlineKey = true := by decide
  have hnames : ¬ 2 ≤ sizes.keyNames.length := by decide
  have hdefinitions : sizes.definitions = ["id     INTEGER NOT NULL PRIMARY KEY",
      "größ   REAL        NULL CHECK(größ > 0)"].map String.toList := by decide +kernel
  obtain ⟨entries, hentries, haligned⟩ := definitions_aligned htypes
  rw [if_neg hnames, List.append_nil] at hentries
  rw [hwidth, hkey, ← hentries] at haligned
  exact ⟨htypes, hwidth, hdefinitions, haligned⟩

end Struct

end TableBinding
