import Mathlib.Algebra.GroupWithZero.Nat
import TableBinding.Proofs.Text.Marks
import TableBinding.Proofs.Text.Pieces

/-!
# Occurrences of a phrase

How often a phrase occurs in a text (`Text.occurrences`). In a text put together from two, it occurs
as often as in both, unless it stands across the place where they meet
(`occurrences_append`). Next to a character that the phrase lacks it does not
(`occurrences_append_cons`), and where the phrase is two words and the texts meet at a space, it
does only if one ends with its first word and the other begins with its second
(`occurrences_append_between`).
-/

namespace TableBinding.Text

/-- How often the phrase occurs in the text: at how many places it begins. -/
def occurrences (phrase t : Text) : Nat := t.tails.countP (startsWith phrase)

/-- The phrase stands across the place where the two texts meet. -/
def Straddles (phrase t u : Text) : Prop :=
  ∃ front back, phrase = front ++ back ∧ front ≠ [] ∧ back ≠ [] ∧ front <:+ t ∧ back <+: u

variable {phrase t u : Text} {c : Char}

theorem occurrences_cons (phrase : Text) (c : Char) (t : Text) :
    occurrences phrase (c :: t) =
      occurrences phrase t + if startsWith phrase (c :: t) then 1 else 0 := by
  rw [occurrences, List.tails_cons, List.countP_cons]
  rfl

theorem occurrences_eq_zero_iff : occurrences phrase t = 0 ↔ ¬ phrase <:+: t := by
  rw [occurrences, List.countP_eq_zero, List.infix_iff_prefix_suffix]
  simp only [List.mem_tails, startsWith_iff]
  exact ⟨fun h ⟨rest, hprefix, hsuffix⟩ => h rest hsuffix hprefix,
    fun h rest hsuffix hprefix => h ⟨rest, hprefix, hsuffix⟩⟩

/-- A phrase does not occur where one of its characters does not. -/
theorem occurrences_of_not_mem (hc : c ∈ phrase) (ht : c ∉ t) : occurrences phrase t = 0 :=
  occurrences_eq_zero_iff.2 fun h => ht (h.mem hc)

theorem occurrences_nil (hphrase : phrase ≠ []) : occurrences phrase [] = 0 :=
  occurrences_eq_zero_iff.2 fun h => hphrase (List.infix_nil.1 h)

/-- **Where two texts meet, nothing is added** to what occurs in either, unless the phrase stands
across. -/
theorem occurrences_append (hphrase : phrase ≠ []) (h : ¬ Straddles phrase t u) :
    occurrences phrase (t ++ u) = occurrences phrase t + occurrences phrase u := by
  induction t with
  | nil => rw [occurrences_nil hphrase, List.nil_append, Nat.zero_add]
  | cons c t ih =>
    have hrest : ¬ Straddles phrase t u := by
      rintro ⟨front, back, hcut, hfront, hback, hends, hbegins⟩
      exact h ⟨front, back, hcut, hfront, hback, hends.trans (List.suffix_cons c t), hbegins⟩
    have hstart : startsWith phrase (c :: (t ++ u)) = true ↔ startsWith phrase (c :: t) = true := by
      rw [startsWith_iff, startsWith_iff]
      refine ⟨fun hprefix => ?_, fun hprefix => hprefix.trans ⟨u, rfl⟩⟩
      rcases List.prefix_or_prefix_of_prefix hprefix (List.prefix_append (c :: t) u) with hle | hle
      · exact hle
      · -- The phrase reaches behind the first text, so it ends there or stands across.
        obtain ⟨back, rfl⟩ := hle
        by_cases hback : back = []
        · rw [hback, List.append_nil]
        · exact absurd ⟨c :: t, back, rfl, List.cons_ne_nil c t, hback, List.suffix_rfl,
            (List.prefix_append_right_inj (c :: t)).1 hprefix⟩ h
    rw [List.cons_append, occurrences_cons, occurrences_cons, ih hrest]
    simp only [hstart]
    omega

/-- In front of a character that no phrase begins with. -/
theorem occurrences_cons_of_head (hc : phrase.head? ≠ some c) (hphrase : phrase ≠ []) (t : Text) :
    occurrences phrase (c :: t) = occurrences phrase t := by
  have hstart : ¬ startsWith phrase (c :: t) = true := by
    rw [startsWith_iff]
    obtain ⟨d, rest, rfl⟩ := List.exists_cons_of_ne_nil hphrase
    intro hprefix
    exact hc (congrArg some (List.cons_prefix_cons.1 hprefix).1)
  rw [occurrences_cons, if_neg hstart, Nat.add_zero]

/-- **A character that the phrase lacks keeps two texts apart.** -/
theorem occurrences_append_cons (hc : c ∉ phrase) (hphrase : phrase ≠ []) (t u : Text) :
    occurrences phrase (t ++ c :: u) = occurrences phrase t + occurrences phrase u := by
  have happart : ¬ Straddles phrase t (c :: u) := by
    rintro ⟨front, back, rfl, -, hback, -, hbegins⟩
    obtain ⟨d, rest, rfl⟩ := List.exists_cons_of_ne_nil hback
    obtain ⟨rfl, -⟩ := List.cons_prefix_cons.1 hbegins
    exact hc (List.mem_append_right front (List.mem_cons_self ..))
  have hhead : phrase.head? ≠ some c := fun h => hc (List.mem_of_mem_head? h)
  rw [occurrences_append hphrase happart, occurrences_cons_of_head hhead hphrase]

/-- **Two words that are kept apart by the character in the phrase** make the phrase only where one
text ends with the first and the next begins with the second. -/
theorem occurrences_append_between {first second : Text} (hne : first ≠ []) (hfirst : c ∉ first)
    (hsecond : c ∉ second) (h : ¬(first <:+ t ∧ second <+: u)) :
    occurrences (first ++ c :: second) (t ++ c :: u) =
      occurrences (first ++ c :: second) t + occurrences (first ++ c :: second) u := by
  have hphrase : first ++ c :: second ≠ [] := List.append_ne_nil_of_left_ne_nil hne _
  have hno : ∀ {w : Text}, c ∉ w → ∀ d ∈ w, (d == c) = false := fun hw d hd =>
    beq_eq_false_iff_ne.2 fun e => hw (e ▸ hd)
  have happart : ¬ Straddles (first ++ c :: second) t (c :: u) := by
    rintro ⟨front, back, hcut, -, hback, hends, hbegins⟩
    obtain ⟨d, rest, rfl⟩ := List.exists_cons_of_ne_nil hback
    obtain ⟨rfl, hgoes⟩ := List.cons_prefix_cons.1 hbegins
    -- The phrase has this character in one place, so it is cut there.
    have hfront : d ∉ front := by
      intro hmem
      have hcount := congrArg (List.count d) hcut
      rw [List.count_append, List.count_append, List.count_cons_self, List.count_cons_self,
        List.count_eq_zero.2 hfirst, List.count_eq_zero.2 hsecond] at hcount
      have hpos : 0 < front.count d := List.count_pos_iff.2 hmem
      omega
    obtain ⟨rfl, -, rfl⟩ := append_cons_inj_of_first (p := (· == d)) (hno hfirst)
      (beq_self_eq_true d) (hno hfront) (beq_self_eq_true d) hcut
    exact h ⟨hends, hgoes⟩
  have hhead : (first ++ c :: second).head? ≠ some c := by
    obtain ⟨d, rest, rfl⟩ := List.exists_cons_of_ne_nil hne
    intro he
    exact hfirst (Option.some.inj he ▸ List.mem_cons_self ..)
  rw [occurrences_append hphrase happart, occurrences_cons_of_head hhead hphrase]

/-- Behind a text that ends with something else than the phrase ever goes on from, nothing is
added. -/
theorem occurrences_append_of_last (hphrase : phrase ≠ []) (hlast : ∀ d ∈ t.getLast?, d ∉ phrase)
    (u : Text) : occurrences phrase (t ++ u) = occurrences phrase t + occurrences phrase u := by
  refine occurrences_append hphrase ?_
  rintro ⟨front, back, rfl, hfront, -, hends, -⟩
  have hmem := List.getLast_mem hfront
  refine hlast (front.getLast hfront) ?_ (List.mem_append_left back hmem)
  obtain ⟨rest, rfl⟩ := hends
  rw [List.getLast?_append_of_ne_nil rest hfront]
  exact List.getLast_mem_getLast? hfront

/-- A phrase that ends with no blank is not cut by trimming. -/
theorem occurrences_trimEnd (hphrase : phrase ≠ [])
    (hlast : ∀ d ∈ phrase.getLast?, isBlank d = false) (t : Text) :
    occurrences phrase (trimEnd t) = occurrences phrase t := by
  have hcut : t = trimEnd t ++ t.rtakeWhile isBlank := List.rdropWhile_append_rtakeWhile.symm
  have hblank : ∀ d ∈ t.rtakeWhile isBlank, isBlank d = true := fun _ => List.mem_rtakeWhile_imp
  obtain ⟨last, hmem⟩ : ∃ last, last ∈ phrase.getLast? :=
    ⟨_, List.getLast_mem_getLast? hphrase⟩
  have hnot : ∀ {w : Text}, (∀ d ∈ w, isBlank d = true) → last ∉ w := fun hw h =>
    Bool.eq_false_iff.1 (hlast last hmem) (hw last h)
  have happart : ¬ Straddles phrase (trimEnd t) (t.rtakeWhile isBlank) := by
    rintro ⟨front, back, rfl, -, hback, -, hbegins⟩
    rw [List.getLast?_append_of_ne_nil front hback] at hmem
    exact hnot (fun d hd => hblank d (hbegins.mem hd)) (List.mem_of_getLast? hmem)
  have hnone : occurrences phrase (t.rtakeWhile isBlank) = 0 :=
    occurrences_of_not_mem (List.mem_of_getLast? hmem) (hnot hblank)
  calc occurrences phrase (trimEnd t)
      = occurrences phrase (trimEnd t ++ t.rtakeWhile isBlank) := by
        rw [occurrences_append hphrase happart, hnone, Nat.add_zero]
    _ = occurrences phrase t := by rw [← hcut]

/-- What occurs in joined texts occurs in one of them, if the separator keeps them apart. -/
theorem occurrences_join {separator : Text} (hphrase : phrase ≠ [])
    (hseparator : ∀ t u, occurrences phrase (t ++ separator ++ u) =
      occurrences phrase t + occurrences phrase u) (ts : List Text) :
    occurrences phrase (join separator ts) = (ts.map (occurrences phrase)).sum := by
  fun_induction join separator ts with
  | case1 => exact occurrences_nil hphrase
  | case2 t => exact (List.sum_singleton).symm
  | case3 t u rest ih => rw [hseparator, ih, List.map_cons (l := u :: rest), List.sum_cons]

end TableBinding.Text
