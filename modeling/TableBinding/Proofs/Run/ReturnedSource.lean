import TableBinding.Proofs.Text.LineEndings
import TableBinding.Run.Source

/-!
# Line endings of a declaration file

Whether the lines of a declaration file end with a line feed or with a carriage return in front of
it makes no difference to what is read, to what a check finds, with the numbers and the texts of its
lines, and to what is generated (`Settings.answers_withReturns`).

The shape of the argument: a file is read line by line, and its lines are the same
(`Text.lines_withReturns`): the carriage return in front of a line feed belongs to the ending, and a
line that had none of its own loses no other.
-/

namespace TableBinding

open Text

/-! ## Lines -/

/-- The text with a carriage return in front of every line feed. -/
def Text.withReturns (t : Text) : Text := t.flatMap fun c => if c = '\n' then ['\r', '\n'] else [c]

namespace Text

variable {t : Text}

/-- The same, where `front` is what stands on the line already. -/
theorem lines_append_withReturns {front : Text} (hfront : OneLine front) (hfront' : '\r' ∉ front)
    (ht : '\r' ∉ t) : lines (front ++ withReturns t) = lines (front ++ t) := by
  induction t generalizing front with
  | nil => rfl
  | cons c t ih =>
    obtain ⟨hc, ht⟩ := not_or.1 (List.mem_cons.not.1 ht)
    rw [withReturns, List.flatMap_cons, ← withReturns]
    by_cases hend : c = '\n'
    · have hlast : front.getLast? ≠ some '\r' := fun h => hfront' (List.mem_of_getLast? h)
      have hreturn : OneLine (front ++ ['\r']) := hfront.append (by decide)
      have hrest := ih oneLine_nil List.not_mem_nil ht
      rw [List.nil_append, List.nil_append] at hrest
      rw [if_pos hend, hend, List.cons_append, List.singleton_append, hfront.lines_append,
        dropReturn_eq_self hlast, ← List.singleton_append, ← List.append_assoc,
        hreturn.lines_append, dropReturn_concat, hrest]
    · -- another character of the line joins what stands on it
      have hline : OneLine (front ++ [c]) :=
        hfront.append fun h => hend (List.mem_singleton.1 h).symm
      have hplain : '\r' ∉ front ++ [c] :=
        List.not_mem_append hfront' fun h => hc (List.mem_singleton.1 h)
      have hrest := ih hline hplain ht
      rw [List.append_assoc, List.append_assoc] at hrest
      rw [if_neg hend]
      exact hrest

/-- **Carriage returns in front of the line feeds change no line**, if there are no others. -/
theorem lines_withReturns (ht : '\r' ∉ t) : lines (withReturns t) = lines t :=
  lines_append_withReturns oneLine_nil List.not_mem_nil ht

end Text

/-! ## Answers -/

namespace Settings

variable {source : Text}

theorem ofText_withReturns (h : '\r' ∉ source) :
    SourceLine.ofText (withReturns source) = SourceLine.ofText source := by
  rw [SourceLine.ofText, lines_withReturns h]
  rfl

/-- **The line endings of a declaration file do not matter**: what is read, what a check finds and
what is generated is the same, whatever the settings are. -/
theorem answers_withReturns (s : Settings) (h : '\r' ∉ source) :
    s.structs (withReturns source) = s.structs source ∧
      s.check (withReturns source) = s.check source ∧
      s.generate (withReturns source) = s.generate source := by
  have hlines := ofText_withReturns h
  have hstructs : s.structs (withReturns source) = s.structs source := by
    simp only [structs, Source.structs, hlines]
  have hcheck : s.check (withReturns source) = s.check source := by
    simp only [check, Source.check, hlines]
  refine ⟨hstructs, hcheck, ?_⟩
  rw [generate, generate, hstructs]

/-- A file with a blank line, a fault and no ending behind its last line. -/
def unendedSource : Text :=
  "struct A //`a`\n\x7b\n\nint x; //`TEXT`\n\x7d;\nstruct B //`b`\nint y; //`TEXT`\n\x7d;"

theorem answers_withReturns_unendedSource :
    '\r' ∉ unendedSource ∧
      (withReturns unendedSource).length = unendedSource.length + 7 ∧
      ({} : Settings).check (withReturns unendedSource) = .ok
        { structs := [{ typeName := "B", tableName := "b",
                        fields := [{ hostType := "int", name := "y", persisted := true,
                                     columnType := "TEXT" }] }]
          faults := [.unreadable ⟨3, []⟩] } := by
  have hreturn : '\r' ∉ unendedSource := by decide +kernel
  obtain ⟨-, hcheck, -⟩ := answers_withReturns {} hreturn
  refine ⟨hreturn, by decide +kernel, ?_⟩
  rw [hcheck]
  decide +kernel

end Settings

end TableBinding
