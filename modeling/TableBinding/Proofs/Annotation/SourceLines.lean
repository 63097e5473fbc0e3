import Mathlib.Data.List.Basic
import TableBinding.Annotation.Source
import TableBinding.Proofs.Text.Pieces

/-!
# Numbered lines

The lines of a text are numbered from one: a line of number `n` is the `n`-th of the text
(`SourceLine.of_mem_ofText`), and further down stands a greater number
(`SourceLine.pairwise_ofText`). Behind other text a line keeps its characters and gets a greater
number (`SourceLine.ofText_append`).
-/

namespace TableBinding

open Text

theorem Source.map_text_ofText (source : Text) :
    (SourceLine.ofText source).map (·.text) = lines source := by
  rw [SourceLine.ofText, List.map_map]
  exact List.zipIdx_map_fst 1 (lines source)

namespace SourceLine

/-- The line, that many lines further down. -/
def shift (k : Nat) (line : SourceLine) : SourceLine := { line with number := line.number + k }

@[simp] theorem shift_text (k : Nat) (line : SourceLine) : (line.shift k).text = line.text := rfl

@[simp] theorem shift_number (k : Nat) (line : SourceLine) :
    (line.shift k).number = line.number + k := rfl

theorem map_number_ofText (source : Text) :
    (ofText source).map (·.number) = List.range' 1 (lines source).length := by
  rw [ofText, List.map_map]
  exact List.zipIdx_map_snd 1 (lines source)

/-- **The number of a line** says where in the text it stands. -/
theorem of_mem_ofText {source : Text} {line : SourceLine} (h : line ∈ ofText source) :
    1 ≤ line.number ∧ line.number ≤ (lines source).length ∧
      (lines source)[line.number - 1]? = some line.text := by
  obtain ⟨⟨text, number⟩, hmem, rfl⟩ := List.mem_map.1 h
  obtain ⟨hfirst, hlast, htext⟩ := List.mem_zipIdx hmem
  have hbound : number - 1 < (lines source).length := by omega
  refine ⟨hfirst, by show number ≤ _; omega, ?_⟩
  show (lines source)[number - 1]? = some text
  rw [htext]
  exact List.getElem?_eq_getElem hbound

theorem pairwise_ofText (source : Text) :
    (ofText source).Pairwise fun line other => line.number < other.number := by
  rw [← List.pairwise_map (f := SourceLine.number) (R := (· < ·)), map_number_ofText]
  exact List.pairwise_lt_range' 1

/-- **Behind ended lines** the lines of a text are the same, that many further down. -/
theorem ofText_append {front : Text} (h : front = [] ∨ front.getLast? = some '\n')
    (back : Text) :
    ofText (front ++ back) = ofText front ++ (ofText back).map (shift (lines front).length) := by
  have hback : (lines back).zipIdx (1 + (lines front).length) =
      ((lines back).zipIdx 1).map (Prod.map id (· + (lines front).length)) := by
    rw [List.map_snd_add_zipIdx_eq_zipIdx, Nat.add_comm]
  rw [ofText, lines_append h, List.zipIdx_append, List.map_append, hback, ofText, ofText,
    List.map_map, List.map_map]
  rfl

end SourceLine

end TableBinding
