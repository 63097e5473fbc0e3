import Mathlib.Data.List.Infix
import TableBinding.Text.Basic

/-!
# Marks and runs

What the searches of `Text` find, each said without the search. `after?` takes a beginning away
(`after?_eq_some_iff`). A list is cut in one way only where a kind of element first stands
(`append_cons_inj_of_first`). `cutAt?` finds the first occurrence of a mark (`cutAt?_eq_some_iff`), and
`behindRun?` the longest run of characters behind which something can be read
(`behindRun?_eq_some_iff`). The two extremal descriptions, `IsFirstCut` and `IsLongestRun`, have at
most one solution each, so to show what a search finds it suffices to show that it fits.
-/

namespace TableBinding.Text

/-! ## Beginnings -/

@[simp] theorem after?_append (head t : Text) : after? head (head ++ t) = some t := by
  induction head with
  | nil => cases t <;> rfl
  | cons c head ih => rw [List.cons_append, after?, if_pos rfl, ih]

theorem after?_eq_some_iff {head t rest : Text} : after? head t = some rest ↔ t = head ++ rest := by
  constructor
  · intro h
    fun_induction after? head t with
    | case1 t => exact Option.some.inj h
    | case2 => cases h
    | case3 c head t ih => rw [ih h, List.cons_append]
    | case4 => cases h
  · rintro rfl
    exact after?_append head rest

theorem startsWith_iff {head t : Text} : startsWith head t = true ↔ head <+: t := by
  rw [startsWith, Option.isSome_iff_exists]
  constructor
  · rintro ⟨rest, h⟩
    exact ⟨rest, (after?_eq_some_iff.1 h).symm⟩
  · rintro ⟨rest, rfl⟩
    exact ⟨rest, after?_append head rest⟩

/-! ## The first character of a kind -/

/-- A list is cut in one way only at the first of its elements that satisfies `p`. -/
theorem append_cons_inj_of_first {α : Type} {p : α → Bool} {front front' back back' : List α}
    {a a' : α} (hfront : ∀ x ∈ front, p x = false) (ha : p a = true)
    (hfront' : ∀ x ∈ front', p x = false) (ha' : p a' = true)
    (h : front ++ a :: back = front' ++ a' :: back') : front = front' ∧ a = a' ∧ back = back' := by
  induction front generalizing front' with
  | nil =>
    cases front' with
    | nil =>
      obtain ⟨rfl, rfl⟩ := List.cons.inj h
      exact ⟨rfl, rfl, rfl⟩
    | cons x front' =>
      cases (List.cons.inj h).1
      exact absurd ha (Bool.eq_false_iff.1 (hfront' a (List.mem_cons_self ..)))
  | cons x front ih =>
    rw [List.forall_mem_cons] at hfront
    cases front' with
    | nil =>
      cases (List.cons.inj h).1
      exact absurd ha' (Bool.eq_false_iff.1 hfront.1)
    | cons y front' =>
      rw [List.forall_mem_cons] at hfront'
      obtain ⟨rfl, htail⟩ := List.cons.inj h
      obtain ⟨rfl, hrest⟩ := ih hfront.2 hfront'.2 htail
      exact ⟨rfl, hrest⟩

/-! ## The first occurrence of a mark -/

/-- The text begins with `body` and the mark, the mark occurs nowhere earlier, and no line ends in
`body`. -/
structure IsFirstCut (mark t body : Text) : Prop where
  noLineFeed : '\n' ∉ body
  cut : body ++ mark <+: t
  first : ∀ u, u ++ mark <+: t → body.length ≤ u.length

namespace IsFirstCut

variable {mark t body : Text}

theorem unique (h : IsFirstCut mark t body) {other : Text} (h' : IsFirstCut mark t other) :
    body = other := by
  have hlength : body.length = other.length := Nat.le_antisymm (h.first _ h'.cut) (h'.first _ h.cut)
  have hbody : body <+: t := (List.prefix_append body mark).trans h.cut
  have hother : other <+: t := (List.prefix_append other mark).trans h'.cut
  exact (List.prefix_of_prefix_length_le hbody hother (Nat.le_of_eq hlength)).eq_of_length hlength

/-- What stands in front of the first occurrence does not hold the mark. -/
theorem not_occurs (h : IsFirstCut mark t body) (hne : body ≠ []) : ¬ mark <:+: body := by
  rintro ⟨u, v, huv⟩
  have hu : u ++ mark <+: t :=
    (List.prefix_append (u ++ mark) v).trans (huv ▸ (List.prefix_append body mark).trans h.cut)
  have hle : body.length ≤ u.length := h.first u hu
  have hempty : ([] : Text) ++ mark <+: t := by
    have hmark : mark = [] := by
      rw [← huv] at hle
      simp only [List.length_append] at hle
      exact List.eq_nil_of_length_eq_zero (by omega)
    rw [hmark]
    exact List.nil_prefix
  exact hne (List.eq_nil_of_length_eq_zero (Nat.le_zero.1 (h.first [] hempty)))

end IsFirstCut

theorem isFirstCut_of_cutAt? {mark t body : Text} (h : cutAt? mark t = some body) :
    IsFirstCut mark t body := by
  fun_induction cutAt? mark t generalizing body with
  | case1 hstart =>
    cases h
    exact ⟨List.not_mem_nil, startsWith_iff.1 hstart, fun _ _ => Nat.zero_le _⟩
  | case2 => cases h
  | case3 c t hstart =>
    cases h
    exact ⟨List.not_mem_nil, startsWith_iff.1 hstart, fun _ _ => Nat.zero_le _⟩
  | case4 => cases h
  | case5 c t hstart hline ih =>
    obtain ⟨rest, hrest, rfl⟩ := Option.map_eq_some_iff.1 h
    have hcut := ih hrest
    refine ⟨?_, (List.prefix_cons_inj c).2 hcut.cut, fun u hu => ?_⟩
    · rw [List.mem_cons, not_or]
      exact ⟨fun e => hline e.symm, hcut.noLineFeed⟩
    · cases u with
      | nil => exact absurd (startsWith_iff.2 hu) hstart
      | cons d u =>
        obtain ⟨rfl, htail⟩ := List.cons_prefix_cons.1 hu
        exact Nat.succ_le_succ (hcut.first u htail)

theorem cutAt?_ne_none {mark t body : Text} (hline : '\n' ∉ body) (h : body ++ mark <+: t) :
    cutAt? mark t ≠ none := by
  fun_induction cutAt? mark t generalizing body with
  | case1 => exact Option.some_ne_none _
  | case2 hstart =>
    rw [List.prefix_nil, List.append_eq_nil_iff] at h
    exact absurd (startsWith_iff.2 (h.2 ▸ List.nil_prefix)) hstart
  | case3 => exact Option.some_ne_none _
  | case4 t hstart =>
    cases body with
    | nil => exact absurd (startsWith_iff.2 h) hstart
    | cons d body =>
      obtain ⟨rfl, -⟩ := List.cons_prefix_cons.1 h
      exact absurd (List.mem_cons_self ..) hline
  | case5 c t hstart hc ih =>
    cases body with
    | nil => exact absurd (startsWith_iff.2 h) hstart
    | cons d body =>
      have hmap := ih (fun hmem => hline (List.mem_cons_of_mem _ hmem))
        (List.cons_prefix_cons.1 h).2
      exact fun e => hmap (Option.map_eq_none_iff.1 e)

/-- **The search finds the first occurrence of the mark.** -/
theorem cutAt?_eq_some_iff {mark t body : Text} :
    cutAt? mark t = some body ↔ IsFirstCut mark t body := by
  refine ⟨isFirstCut_of_cutAt?, fun h => ?_⟩
  obtain ⟨found, hfound⟩ := Option.ne_none_iff_exists'.1 (cutAt?_ne_none h.noLineFeed h.cut)
  rw [hfound, h.unique (isFirstCut_of_cutAt? hfound)]

/-- A mark of one character is first found where that character first stands. -/
theorem cutAt?_singleton {c : Char} {body : Text} (rest : Text) (hc : c ∉ body)
    (hline : '\n' ∉ body) : cutAt? [c] (body ++ c :: rest) = some body := by
  refine cutAt?_eq_some_iff.2 ⟨hline, ⟨rest, by simp⟩, fun u hu => ?_⟩
  by_contra hlt
  have hbody : u ++ [c] <+: body := by
    refine List.prefix_of_prefix_length_le hu (List.prefix_append body (c :: rest)) ?_
    rw [List.length_append, List.length_singleton]
    omega
  exact hc (hbody.mem (List.mem_append_right u (List.mem_singleton_self c)))

/-! ## The longest run in front of something that can be read -/

/-- The text begins with `run`, all of whose characters satisfy `p`; behind it `a` is read; and
behind no longer run is anything read. -/
structure IsLongestRun {α : Type} (p : Char → Bool) (read? : Text → Option α) (t run : Text)
    (a : α) : Prop where
  satisfies : ∀ c ∈ run, p c = true
  reads : ∃ rest, t = run ++ rest ∧ read? rest = some a
  longest : ∀ other rest, t = other ++ rest → (∀ c ∈ other, p c = true) → read? rest ≠ none →
    other.length ≤ run.length

section Run

variable {α : Type} {p : Char → Bool} {read? : Text → Option α} {t run : Text} {a : α}

theorem IsLongestRun.unique (h : IsLongestRun p read? t run a) {other : Text} {b : α}
    (h' : IsLongestRun p read? t other b) : run = other ∧ a = b := by
  obtain ⟨rest, ht, hread⟩ := h.reads
  obtain ⟨rest', ht', hread'⟩ := h'.reads
  have hlength : run.length = other.length :=
    Nat.le_antisymm (h'.longest _ _ ht h.satisfies (hread ▸ Option.some_ne_none a))
      (h.longest _ _ ht' h'.satisfies (hread' ▸ Option.some_ne_none b))
  obtain ⟨rfl, rfl⟩ := List.append_inj (ht.symm.trans ht') hlength
  rw [hread] at hread'
  exact ⟨rfl, Option.some.inj hread'⟩

theorem behindRun?_ne_none {rest : Text} (ht : t = run ++ rest) (hrun : ∀ c ∈ run, p c = true)
    (hread : read? rest ≠ none) : behindRun? p read? t ≠ none := by
  subst ht
  induction run with
  | nil =>
    cases rest with
    | nil => exact fun e => hread (Option.map_eq_none_iff.1 e)
    | cons c rest =>
      rw [List.nil_append, behindRun?]
      split
      · exact Option.some_ne_none _
      · exact fun e => hread (Option.map_eq_none_iff.1 e)
  | cons c run ih =>
    have hfound := ih fun d hd => hrun d (List.mem_cons_of_mem _ hd)
    rw [List.cons_append, behindRun?, if_pos (hrun c (List.mem_cons_self ..))]
    split
    · exact Option.some_ne_none _
    · next h => exact absurd h hfound

theorem isLongestRun_of_behindRun? (h : behindRun? p read? t = some (run, a)) :
    IsLongestRun p read? t run a := by
  induction t generalizing run with
  | nil =>
    obtain ⟨b, hread, hpair⟩ := Option.map_eq_some_iff.1 h
    cases hpair
    refine ⟨fun _ hc => absurd hc List.not_mem_nil, ⟨[], rfl, hread⟩, fun other rest ht _ _ => ?_⟩
    rw [(List.append_eq_nil_iff.1 ht.symm).1]
  | cons c t ih =>
    rw [behindRun?] at h
    split at h
    · next run' b hfound =>
      cases h
      by_cases hc : p c = true
      · rw [if_pos hc] at hfound
        obtain ⟨hsat, ⟨rest, ht, hread⟩, hlongest⟩ := ih hfound
        refine ⟨fun d hd => ?_, ⟨rest, by rw [ht, List.cons_append], hread⟩, ?_⟩
        · rcases List.mem_cons.1 hd with rfl | hd
          · exact hc
          · exact hsat d hd
        · intro other rest' ht' hother hread'
          cases other with
          | nil => exact Nat.zero_le _
          | cons d other =>
            obtain ⟨rfl, htail⟩ := List.cons.inj ht'
            exact Nat.succ_le_succ
              (hlongest other rest' htail (fun e he => hother e (List.mem_cons_of_mem _ he)) hread')
      · rw [if_neg hc] at hfound
        cases hfound
    · next hnone =>
      obtain ⟨b, hread, hpair⟩ := Option.map_eq_some_iff.1 h
      cases hpair
      refine ⟨fun _ hd => absurd hd List.not_mem_nil, ⟨c :: t, rfl, hread⟩, ?_⟩
      intro other rest ht hother hread'
      cases other with
      | nil => exact Nat.le_refl _
      | cons d other =>
        obtain ⟨rfl, htail⟩ := List.cons.inj ht
        rw [if_pos (hother c (List.mem_cons_self ..))] at hnone
        exact absurd hnone
          (behindRun?_ne_none htail (fun e he => hother e (List.mem_cons_of_mem _ he)) hread')

/-- **The search finds the longest run behind which something is read.** -/
theorem behindRun?_eq_some_iff :
    behindRun? p read? t = some (run, a) ↔ IsLongestRun p read? t run a := by
  refine ⟨isLongestRun_of_behindRun?, fun h => ?_⟩
  obtain ⟨rest, ht, hread⟩ := h.reads
  obtain ⟨⟨other, b⟩, hfound⟩ := Option.ne_none_iff_exists'.1
    (behindRun?_ne_none ht h.satisfies (hread ▸ Option.some_ne_none a))
  obtain ⟨rfl, rfl⟩ := h.unique (isLongestRun_of_behindRun? hfound)
  exact hfound

/-- Where the characters that satisfy `p` end, no longer run is to be tried. -/
theorem behindRun?_append {rest : Text} (hrun : ∀ c ∈ run, p c = true)
    (hrest : ∀ c ∈ rest.head?, p c = false) (hread : read? rest = some a) :
    behindRun? p read? (run ++ rest) = some (run, a) := by
  refine behindRun?_eq_some_iff.2 ⟨hrun, ⟨rest, rfl, hread⟩, fun other rest' ht hother _ => ?_⟩
  have hstop : rest.takeWhile p = [] := by
    cases rest with
    | nil => rfl
    | cons c rest => exact List.takeWhile_cons_of_neg (Bool.eq_false_iff.1 (hrest c rfl))
  have htake : run = other ++ rest'.takeWhile p := by
    have h := congrArg (List.takeWhile p) ht
    rw [List.takeWhile_append_of_pos hrun, List.takeWhile_append_of_pos hother, hstop,
      List.append_nil] at h
    exact h
  rw [htake, List.length_append]
  exact Nat.le_add_right _ _

end Run

end TableBinding.Text
