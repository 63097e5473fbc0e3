import TableBinding.Annotation.Form
import TableBinding.Proofs.Text.Marks
import TableBinding.Proofs.Text.Pieces

/-!
# The lines that have a form

Field lines and header lines, described by what they are concatenated from. For a valid spelling a
field line is exactly a type, a name and an annotation with gaps around them
(`FieldForm.read?_append`), and what is found in any line has these parts
(`FieldForm.exists_of_read?`). Of a header both names are non-empty and spelled with the characters
names are spelled with, and a header written out of two such names is read as these names
(`HeaderForm.read?_append`).

What makes the gaps in front of an annotation unambiguous, although the comment mark may begin with
gaps itself, is that the mark of a valid spelling is not blank (`Spelling.Valid.exists_opening`).
-/

namespace TableBinding

open Text

/-! ## Valid spellings -/

theorem Spelling.valid_iff {s : Spelling} :
    s.Valid ↔ (∀ entry ∈ s.required, allBlank entry.2 = false) ∧ s.datatypes ≠ [] ∧
      (∀ d ∈ s.datatypes, Spelling.isBroken d = false) ∧ ',' ∉ s.delimiter ∧
      s.isDatatype s.tableMark = false ∧ s.tableMark ∉ Spelling.reservedMarks := by
  unfold Spelling.Valid Spelling.fault?
  split
  · next hfind =>
    have hmem := List.mem_of_find?_eq_some hfind
    have hblank := List.find?_some hfind
    simp only [reduceCtorEq, false_iff]
    rintro ⟨hrequired, -⟩
    exact Bool.eq_false_iff.1 (hrequired _ hmem) hblank
  · next hfind =>
    have hrequired : ∀ entry ∈ s.required, allBlank entry.2 = false := fun entry hentry =>
      Bool.eq_false_iff.2 (List.find?_eq_none.1 hfind entry hentry)
    split
    · next hempty =>
      simp only [reduceCtorEq, false_iff]
      rintro ⟨-, hne, -⟩
      exact hne (List.isEmpty_iff.1 hempty)
    · next hempty =>
      split
      · next d hbroken =>
        have hmem := List.mem_of_find?_eq_some hbroken
        have hd := List.find?_some hbroken
        simp only [reduceCtorEq, false_iff]
        rintro ⟨-, -, hsound, -⟩
        exact Bool.eq_false_iff.1 (hsound d hmem) hd
      · next hsound =>
        have hdatatypes : ∀ d ∈ s.datatypes, Spelling.isBroken d = false := fun d hd =>
          Bool.eq_false_iff.2 (List.find?_eq_none.1 hsound d hd)
        split
        · next hcomma =>
          simp only [reduceCtorEq, false_iff]
          rintro ⟨-, -, -, hno, -⟩
          exact hno (by simpa using hcomma)
        · next hcomma =>
          split
          · next hmark =>
            simp only [reduceCtorEq, false_iff]
            rintro ⟨-, -, -, -, hdatatype, hreserved⟩
            rw [hdatatype, Bool.false_or] at hmark
            exact hreserved (by simpa using hmark)
          · next hmark =>
            simp only [Bool.or_eq_true, not_or, Bool.not_eq_true] at hmark
            simp only [true_iff]
            exact ⟨hrequired, fun e => hempty (List.isEmpty_iff.2 e), hdatatypes,
              by simpa using hcomma, hmark.1, by simpa using hmark.2⟩

namespace Spelling

/-- A token that must not be blank has a character that can be seen. -/
theorem Valid.exists_visible {s : Spelling} (hs : s.Valid) (entry : Text × Text)
    (h : entry ∈ s.required) : ∃ c ∈ entry.2, isBlank c = false := by
  have hblank := (valid_iff.1 hs).1 entry h
  rw [allBlank, List.all_eq_false] at hblank
  obtain ⟨c, hc, hvisible⟩ := hblank
  exact ⟨c, hc, Bool.eq_false_iff.2 hvisible⟩

/-- The comment mark holds something else than gaps, and what stands in front of that is gaps. -/
theorem Valid.exists_opening {s : Spelling} (hs : s.Valid) :
    ∃ gaps c rest, s.opening = gaps ++ c :: rest ∧ IsGaps gaps ∧ isGap c = false := by
  obtain ⟨gaps, hopening, hgaps, hhead⟩ := exists_eq_append_dropGaps s.opening
  cases hrest : dropGaps s.opening with
  | cons c rest =>
    rw [hrest] at hopening hhead
    exact ⟨gaps, c, rest, hopening, hgaps, hhead c rfl⟩
  | nil =>
    rw [hrest, List.append_nil] at hopening
    obtain ⟨c, hc, hvisible⟩ :=
      hs.exists_visible ("comment_marker", s.comment) (by simp [required])
    have hgap : isGap c = true := hgaps c (hopening ▸ List.mem_append_left s.delimiter hc)
    rw [isBlank_of_isGap hgap] at hvisible
    cases hvisible

variable {s : Spelling} {α : Type} {read? : Text → Option α} {t : Text} {a : α}

/-- What is read behind gaps and the opening of an annotation stands behind gaps and the opening. -/
theorem exists_of_behindOpening
    (h : (behindRun? isGap (fun rest => (after? s.opening rest).bind read?) t).map (·.2) = some a) :
    ∃ gaps rest, t = gaps ++ (s.opening ++ rest) ∧ IsGaps gaps ∧ read? rest = some a := by
  obtain ⟨⟨gaps, b⟩, hfound, rfl⟩ := Option.map_eq_some_iff.1 h
  obtain ⟨hgaps, ⟨rest, ht, hread⟩, -⟩ := isLongestRun_of_behindRun? hfound
  obtain ⟨body, hbody, hread⟩ := Option.bind_eq_some_iff.1 hread
  rw [after?_eq_some_iff.1 hbody] at ht
  exact ⟨gaps, body, ht, hgaps, hread⟩

/-- The opening of an annotation begins with as many gaps as it has, so behind gaps it fits at one
place only. -/
theorem Valid.opening_inj (hs : s.Valid) {gaps gaps' rest rest' : Text} (hgaps : IsGaps gaps)
    (hgaps' : IsGaps gaps') (h : gaps ++ (s.opening ++ rest) = gaps' ++ (s.opening ++ rest')) :
    gaps = gaps' ∧ rest = rest' := by
  obtain ⟨front, c, core, hopening, hfront, hc⟩ := hs.exists_opening
  have hcut : ∀ gaps rest : Text,
      gaps ++ (s.opening ++ rest) = (gaps ++ front) ++ c :: (core ++ rest) := by
    intro gaps rest
    rw [hopening, List.append_assoc, List.cons_append, List.append_assoc]
  rw [hcut, hcut] at h
  have hnogap : ∀ rest : Text, ∀ d ∈ (c :: (core ++ rest)).head?, isGap d = false := by
    rintro rest d ⟨⟩
    exact hc
  obtain ⟨hgaps_eq, hrest⟩ := IsGaps.append_inj (hgaps.append hfront)
    (hgaps'.append hfront) (hnogap rest) (hnogap rest') h
  exact ⟨List.append_cancel_right hgaps_eq, List.append_cancel_left (List.cons.inj hrest).2⟩

/-- **Behind gaps and the opening of an annotation** a valid spelling reads what stands there. -/
theorem Valid.behindOpening (hs : s.Valid) {gaps rest : Text} (hgaps : IsGaps gaps)
    (hread : read? rest = some a) :
    (behindRun? isGap (fun rest => (after? s.opening rest).bind read?)
      (gaps ++ (s.opening ++ rest))).map (·.2) = some a := by
  have hlongest : IsLongestRun isGap (fun rest => (after? s.opening rest).bind read?)
      (gaps ++ (s.opening ++ rest)) gaps a := by
    refine ⟨hgaps, ⟨_, rfl, ?_⟩, fun other tail ht hother hne => ?_⟩
    · show (after? s.opening (s.opening ++ rest)).bind read? = some a
      rw [after?_append, Option.bind_some, hread]
    · obtain ⟨b, hb⟩ := Option.ne_none_iff_exists'.1 hne
      obtain ⟨body, hbody, -⟩ := Option.bind_eq_some_iff.1 hb
      rw [after?_eq_some_iff.1 hbody] at ht
      exact Nat.le_of_eq (congrArg List.length (hs.opening_inj hgaps hother ht).1.symm)
  rw [behindRun?_eq_some_iff.2 hlongest, Option.map_some]

end Spelling

/-! ## Declarations -/

/-- One or more words of a type, with gaps between them. -/
structure Text.IsTypeWords (t : Text) : Prop where
  ne_nil : t ≠ []
  chars : ∀ c ∈ t, isTypeChar c = true ∨ isGap c = true
  tight : IsTight t

theorem Text.toNat_of_isTypeChar {c : Char} (h : isTypeChar c = true) :
    48 ≤ c.val.toNat ∧ c.val.toNat ≤ 122 := by
  unfold isTypeChar Char.isAlphanum Char.isAlpha Char.isUpper Char.isLower Char.isDigit at h
  simp only [Bool.or_eq_true, Bool.and_eq_true, decide_eq_true_eq, beq_iff_eq, ge_iff_le,
    UInt32.le_iff_toNat_le] at h
  have hZ : 'Z'.val.toNat = 90 := rfl
  have hz : 'z'.val.toNat = 122 := rfl
  have h0 : '0'.val.toNat = 48 := rfl
  have h9 : '9'.val.toNat = 57 := rfl
  rcases h with (((h | h) | h) | rfl) | rfl
  · have hA : 'A'.val.toNat = 65 := rfl
    omega
  · have ha : 'a'.val.toNat = 97 := rfl
    omega
  · omega
  · decide
  · decide

theorem Text.isBlank_eq_false_of_isTypeChar {c : Char} (h : isTypeChar c = true) :
    isBlank c = false := by
  obtain ⟨hlow, hhigh⟩ := toNat_of_isTypeChar h
  refine Bool.eq_false_iff.2 fun hblank => ?_
  simp only [isBlank, Bool.or_eq_true, Bool.and_eq_true, decide_eq_true_eq, beq_iff_eq,
    UInt32.le_iff_toNat_le, ← UInt32.toNat_inj, UInt32.reduceToNat] at hblank
  omega

theorem Text.isGap_eq_false_of_isTypeChar {c : Char} (h : isTypeChar c = true) :
    isGap c = false :=
  Bool.eq_false_iff.2 fun hgap => Bool.eq_false_iff.1 (isBlank_eq_false_of_isTypeChar h)
    (isBlank_of_isGap hgap)

theorem Text.isTypeChar_of_isIdentRest {c : Char} (h : isIdentRest c = true) :
    isTypeChar c = true := by
  rw [isTypeChar, Bool.or_eq_true]
  exact .inl h

theorem Text.isIdentRest_of_isIdentStart {c : Char} (h : isIdentStart c = true) :
    isIdentRest c = true := by
  rw [isIdentStart, Bool.or_eq_true] at h
  rw [isIdentRest, Char.isAlphanum, Bool.or_eq_true, Bool.or_eq_true]
  exact h.imp_left .inl

/-- One or more words of a type, with gaps between each two. -/
inductive Text.SpellsType : Text → Prop
  | word {w : Text} (hne : w ≠ []) (hw : ∀ c ∈ w, isTypeChar c = true) : SpellsType w
  | words {w gaps t : Text} (hne : w ≠ []) (hw : ∀ c ∈ w, isTypeChar c = true) (hgaps : gaps ≠ [])
      (hgap : IsGaps gaps) (ht : SpellsType t) : SpellsType (w ++ gaps ++ t)

namespace Text.SpellsType

theorem isTypeWords {t : Text} (h : SpellsType t) : IsTypeWords t := by
  have hnogap : ∀ {w : Text}, (∀ c ∈ w, isTypeChar c = true) → ∀ c ∈ w, isGap c = false :=
    fun hw c hc => isGap_eq_false_of_isTypeChar (hw c hc)
  induction h with
  | word hne hw =>
    exact ⟨hne, fun c hc => .inl (hw c hc), fun c hc => hnogap hw c (List.mem_of_head? hc),
      fun c hc => hnogap hw c (List.mem_of_getLast? hc)⟩
  | words hne hw hgaps hgap ht ih =>
    refine ⟨List.append_ne_nil_of_right_ne_nil _ ih.ne_nil, fun c hc => ?_, fun c hc => ?_,
      fun c hc => ?_⟩
    · rcases List.mem_append.1 hc with hc | hc
      · exact (List.mem_append.1 hc).imp (hw c) (hgap c)
      · exact ih.chars c hc
    · rw [List.append_assoc, List.head?_append_of_ne_nil _ hne] at hc
      exact hnogap hw c (List.mem_of_head? hc)
    · rw [List.getLast?_append_of_ne_nil _ ih.ne_nil] at hc
      exact ih.tight.last c hc

theorem cons {c : Char} {t : Text} (hc : isTypeChar c = true) (h : SpellsType t) :
    SpellsType (c :: t) := by
  cases h with
  | word hne hw => exact .word (List.cons_ne_nil c t) (List.forall_mem_cons.2 ⟨hc, hw⟩)
  | words hne hw hgaps hgap ht =>
    exact .words (List.cons_ne_nil c _) (List.forall_mem_cons.2 ⟨hc, hw⟩) hgaps hgap ht

/-- A text of type characters and gaps that does not end in a gap is a type behind gaps. -/
theorem exists_of_chars {t : Text} (hchars : ∀ c ∈ t, isTypeChar c = true ∨ isGap c = true)
    (hlast : ∀ c ∈ t.getLast?, isGap c = false) :
    t = [] ∨ ∃ gaps u, t = gaps ++ u ∧ IsGaps gaps ∧ SpellsType u := by
  induction t with
  | nil => exact .inl rfl
  | cons c t ih =>
    right
    rw [List.forall_mem_cons] at hchars
    rw [List.getLast?_cons] at hlast
    have htail := ih hchars.2 fun d hd => hlast d (by rw [Option.mem_def.1 hd]; rfl)
    rcases htail with rfl | ⟨gaps, u, rfl, hgaps, hu⟩
    · have hc := hchars.1.resolve_right (Bool.eq_false_iff.1 (hlast c rfl))
      exact ⟨[], [c], rfl, isGaps_nil, .word (List.cons_ne_nil c [])
        (List.forall_mem_singleton.2 hc)⟩
    · rcases hchars.1 with hc | hc
      · cases gaps with
        | nil => exact ⟨[], c :: u, rfl, isGaps_nil, hu.cons hc⟩
        | cons g gaps =>
          exact ⟨[], [c] ++ (g :: gaps) ++ u, rfl, isGaps_nil, .words (List.cons_ne_nil c [])
            (List.forall_mem_singleton.2 hc) (List.cons_ne_nil g gaps) hgaps hu⟩
      · exact ⟨c :: gaps, u, rfl, List.forall_mem_cons.2 ⟨hc, hgaps⟩, hu⟩

theorem of_isTypeWords {t : Text} (h : IsTypeWords t) : SpellsType t := by
  rcases exists_of_chars h.chars h.tight.last with hnil | ⟨gaps, u, rfl, hgaps, hu⟩
  · exact absurd hnil h.ne_nil
  · cases gaps with
    | nil => exact hu
    | cons g gaps =>
      have hgap := h.tight.head g rfl
      rw [hgaps g (List.mem_cons_self ..)] at hgap
      cases hgap

end Text.SpellsType

theorem Text.mem_isIdent {t : Text} (h : isIdent t = true) :
    t ≠ [] ∧ ∀ c ∈ t, isIdentRest c = true := by
  cases t with
  | nil => cases h
  | cons c t =>
    obtain ⟨hc, ht⟩ := Bool.and_eq_true_iff.1 h
    refine ⟨List.cons_ne_nil c t, fun d hd => ?_⟩
    rcases List.mem_cons.1 hd with rfl | hd
    · exact isIdentRest_of_isIdentStart hc
    · exact List.all_eq_true.1 ht d hd

theorem Text.isGap_eq_false_of_mem_isIdent {t : Text} (h : isIdent t = true) :
    ∀ c ∈ t, isGap c = false := fun c hc =>
  isGap_eq_false_of_isTypeChar (isTypeChar_of_isIdentRest ((mem_isIdent h).2 c hc))

namespace FieldForm

theorem declaration?_eq (t : Text) :
    declaration? t =
      (let hostType := dropGapsEnd ((trimGaps t).rdropWhile fun c => !isGap c)
      let name := (trimGaps t).rtakeWhile fun c => !isGap c
      if !hostType.isEmpty && hostType.all (fun c => isTypeChar c || isGap c) && isIdent name then
        some (hostType, name)
      else none) := rfl

/-- A type, gaps and a name are found between gaps. -/
theorem declaration?_append {before hostType between name behind : Text} (hbefore : IsGaps before)
    (htype : IsTypeWords hostType) (hne : between ≠ []) (hbetween : IsGaps between)
    (hname : isIdent name = true) (hbehind : IsGaps behind) :
    declaration? (before ++ (hostType ++ between ++ name) ++ behind) = some (hostType, name) := by
  have hbody : trimGaps (before ++ (hostType ++ between ++ name) ++ behind) =
      hostType ++ between ++ name := by
    refine trimGaps_append hbefore hbehind ⟨fun c hc => ?_, fun c hc => ?_⟩
    · rw [List.append_assoc, List.head?_append_of_ne_nil _ htype.ne_nil] at hc
      exact htype.tight.head c hc
    · rw [List.getLast?_append_of_ne_nil _ (mem_isIdent hname).1] at hc
      exact isGap_eq_false_of_mem_isIdent hname c (List.mem_of_getLast? hc)
  obtain ⟨hdrop, htake⟩ := rdropWhile_rtakeWhile_append (p := fun c => !isGap c)
    (t := hostType ++ between) (u := name)
    (fun c hc => by
      rw [List.getLast?_append_of_ne_nil _ hne] at hc
      rw [hbetween c (List.mem_of_getLast? hc), Bool.not_true])
    (fun c hc => by rw [isGap_eq_false_of_mem_isIdent hname c hc, Bool.not_false])
  have hhost : dropGapsEnd (hostType ++ between) = hostType := by
    rw [dropGapsEnd_append hbetween, dropGapsEnd_eq_self htype.tight.last]
  have hchars : hostType.all (fun c => isTypeChar c || isGap c) = true :=
    List.all_eq_true.2 fun c hc => (Bool.or_eq_true _ _).mpr (htype.chars c hc)
  have hempty : hostType.isEmpty = false := List.isEmpty_eq_false_iff.2 htype.ne_nil
  rw [declaration?_eq, hbody, hdrop, htake, hhost]
  exact if_pos (by rw [hempty, hchars, hname]; rfl)

theorem exists_of_declaration? {t hostType name : Text}
    (h : declaration? t = some (hostType, name)) :
    ∃ before between behind, t = before ++ (hostType ++ between ++ name) ++ behind ∧
      IsGaps before ∧ IsTypeWords hostType ∧ between ≠ [] ∧ IsGaps between ∧
      isIdent name = true ∧ IsGaps behind := by
  obtain ⟨before, behind, ht, hbefore, hbehind, htight⟩ := exists_eq_append_trimGaps t
  simp only [declaration?_eq] at h
  split at h
  · next hcond =>
    obtain ⟨hfst, hsnd⟩ := Prod.mk.inj (Option.some.inj h)
    rw [hfst, hsnd] at hcond
    simp only [Bool.and_eq_true, Bool.not_eq_true', List.isEmpty_eq_false_iff, List.all_eq_true,
      Bool.or_eq_true] at hcond
    obtain ⟨⟨hne, hchars⟩, hname⟩ := hcond
    have hbody : (trimGaps t).rdropWhile (fun c => !isGap c) ++ name = trimGaps t := by
      rw [← hsnd]
      exact List.rdropWhile_append_rtakeWhile
    obtain ⟨between, hfront, hbetween, hlast⟩ :=
      exists_eq_dropGapsEnd_append ((trimGaps t).rdropWhile fun c => !isGap c)
    rw [show dropGapsEnd ((trimGaps t).rdropWhile fun c => !isGap c) = hostType from hfst]
      at hfront hlast
    rw [hfront] at hbody
    refine ⟨before, between, behind, hbody ▸ ht, hbefore, ⟨hne, hchars, ⟨?_, hlast⟩⟩, ?_, hbetween,
      hname, hbehind⟩
    · intro c hc
      refine htight.head c ?_
      rw [← hbody, List.append_assoc, List.head?_append_of_ne_nil _ hne]
      exact hc
    · -- without gaps in between, the name would have taken the end of the type
      rintro rfl
      rw [List.append_nil] at hfront
      have hgap := List.rdropWhile_last_not (fun c => !isGap c) (trimGaps t) (hfront ▸ hne)
      have hnogap := hlast _ (List.getLast_mem_getLast? hne)
      simp only [hfront] at hgap
      rw [hnogap] at hgap
      exact hgap rfl
  · cases h

theorem exists_of_optionsAt? {s : Spelling} {t options : Text} (h : s.optionsAt? t = some options) :
    ∃ gaps rest, t = gaps ++ (s.opening ++ rest) ∧ IsGaps gaps ∧
      IsFirstCut s.delimiter rest options := by
  obtain ⟨gaps, rest, ht, hgaps, hcut⟩ := Spelling.exists_of_behindOpening h
  exact ⟨gaps, rest, ht, hgaps, isFirstCut_of_cutAt? hcut⟩

/-- The parts of a line that is read as a field. -/
theorem exists_of_read? {s : Spelling} {line : Text} {form : FieldForm}
    (h : read? s line = some form) :
    ∃ before between behind gaps rest, line = before ++ (form.hostType ++ between ++ form.name) ++
        behind ++ ';' :: (gaps ++ (s.opening ++ rest)) ∧
      IsGaps before ∧ IsTypeWords form.hostType ∧ between ≠ [] ∧ IsGaps between ∧
      isIdent form.name = true ∧ IsGaps behind ∧ IsGaps gaps ∧
      IsFirstCut s.delimiter rest form.options := by
  have hline : line.takeWhile (· != ';') ++ line.dropWhile (· != ';') = line :=
    List.takeWhile_append_dropWhile
  unfold read? at h
  split at h
  · cases h
  · next c tail hdrop =>
    obtain ⟨⟨hostType, name⟩, hdeclaration, h⟩ := Option.bind_eq_some_iff.1 h
    obtain ⟨options, hoptions, rfl⟩ := Option.map_eq_some_iff.1 h
    have hc : c = ';' := by
      have hhead := List.head?_dropWhile_not (· != ';') line
      rw [hdrop] at hhead
      simpa using hhead
    obtain ⟨before, between, behind, hfront, hbefore, htype, hne, hbetween, hname, hbehind⟩ :=
      exists_of_declaration? hdeclaration
    obtain ⟨gaps, rest, htail, hgaps, hcut⟩ := exists_of_optionsAt? hoptions
    refine ⟨before, between, behind, gaps, rest, ?_, hbefore, htype, hne, hbetween, hname, hbehind,
      hgaps, hcut⟩
    rw [hc] at hdrop
    rw [← hfront, ← htail, ← hdrop, hline]

/-- A line made of these parts is read as a field, and its parts are found. -/
theorem read?_append {s : Spelling} (hs : s.Valid) {form : FieldForm}
    {before between behind gaps rest : Text} (hbefore : IsGaps before)
    (htype : IsTypeWords form.hostType) (hne : between ≠ []) (hbetween : IsGaps between)
    (hname : isIdent form.name = true) (hbehind : IsGaps behind) (hgaps : IsGaps gaps)
    (hcut : IsFirstCut s.delimiter rest form.options) :
    read? s (before ++ (form.hostType ++ between ++ form.name) ++ behind ++
      ';' :: (gaps ++ (s.opening ++ rest))) = some form := by
  have hfront : ∀ c ∈ before ++ (form.hostType ++ between ++ form.name) ++ behind,
      (c != ';') = true := by
    have hgap : ∀ t : Text, IsGaps t → ∀ c ∈ t, c ≠ ';' := by
      rintro t ht c hc rfl
      exact absurd (ht _ hc) (by decide)
    intro c hc
    rw [bne_iff_ne]
    simp only [List.mem_append] at hc
    rcases hc with (hc | (hc | hc) | hc) | hc
    · exact hgap before hbefore c hc
    · rintro rfl
      exact (htype.chars _ hc).elim (by decide) (by decide)
    · exact hgap between hbetween c hc
    · rintro rfl
      exact absurd ((mem_isIdent hname).2 _ hc) (by decide)
    · exact hgap behind hbehind c hc
  have hdrop : ∀ t : Text, (';' :: t).dropWhile (· != ';') = ';' :: t := fun t =>
    List.dropWhile_cons_of_neg (by decide)
  have htake : ∀ t : Text, (';' :: t).takeWhile (· != ';') = [] := fun t =>
    List.takeWhile_cons_of_neg (by decide)
  unfold read?
  rw [List.dropWhile_append_of_pos hfront, List.takeWhile_append_of_pos hfront, hdrop, htake,
    List.append_nil]
  show (declaration? _).bind _ = _
  rw [declaration?_append hbefore htype hne hbetween hname hbehind, Option.bind_some]
  have hoptions : s.optionsAt? (gaps ++ (s.opening ++ rest)) = some form.options :=
    hs.behindOpening hgaps (cutAt?_eq_some_iff.2 hcut)
  rw [hoptions]
  rfl

end FieldForm

/-! ## Headers -/

namespace Spelling

variable {s : Spelling}

theorem isHeader_iff {line : Text} :
    s.isHeader line = true ↔ ∃ c rest, line = s.keyword ++ c :: rest ∧ isGap c = true := by
  unfold isHeader
  split
  · next c rest h =>
    have hline := after?_eq_some_iff.1 h
    constructor
    · exact fun hc => ⟨c, rest, hline, hc⟩
    · rintro ⟨d, tail, hline', hd⟩
      obtain ⟨rfl, -⟩ := List.cons.inj (List.append_cancel_left (hline.symm.trans hline'))
      exact hd
  · next h =>
    simp only [Bool.false_eq_true, false_iff]
    rintro ⟨c, rest, rfl, -⟩
    exact h c rest (after?_append s.keyword (c :: rest))

theorem tableNameAt?_of_some {t name : Text} (h : s.tableNameAt? t = some name) :
    name ≠ [] ∧ ∀ c ∈ name, isIdentRest c = true := by
  obtain ⟨hmap, hne⟩ := Option.filter_eq_some_iff.1 h
  obtain ⟨⟨run, rest⟩, hfound, rfl⟩ := Option.map_eq_some_iff.1 hmap
  exact ⟨by simpa using hne, (isLongestRun_of_behindRun? hfound).satisfies⟩

theorem tableNameAt?_append {name : Text} (hne : name ≠ [])
    (hname : ∀ c ∈ name, isIdentRest c = true) :
    s.tableNameAt? (name ++ s.delimiter) = some name := by
  have hlongest : IsLongestRun isIdentRest (after? s.delimiter) (name ++ s.delimiter) name [] := by
    refine ⟨hname, ⟨s.delimiter, rfl, after?_eq_some_iff.2 (List.append_nil _).symm⟩, ?_⟩
    intro other rest ht _ hread
    obtain ⟨more, hmore⟩ := Option.ne_none_iff_exists'.1 hread
    have hlength := congrArg List.length ht
    rw [after?_eq_some_iff.1 hmore] at hlength
    simp only [List.length_append] at hlength
    omega
  unfold tableNameAt?
  rw [behindRun?_eq_some_iff.2 hlongest, Option.map_some, Option.filter_some]
  exact if_pos (by simpa using hne)

end Spelling

namespace HeaderForm

variable {s : Spelling} {line : Text} {form : HeaderForm}

theorem names_of_read? (h : read? s line = some form) :
    (form.typeName ≠ [] ∧ ∀ c ∈ form.typeName, isTypeChar c = true) ∧
      form.tableName ≠ [] ∧ ∀ c ∈ form.tableName, isIdentRest c = true := by
  obtain ⟨body, -, h⟩ := Option.bind_eq_some_iff.1 h
  obtain ⟨hmap, hne⟩ := Option.filter_eq_some_iff.1 h
  obtain ⟨⟨typeName, tableName⟩, hfound, rfl⟩ := Option.map_eq_some_iff.1 hmap
  obtain ⟨hsat, ⟨rest, -, htable⟩, -⟩ := isLongestRun_of_behindRun? hfound
  obtain ⟨gaps, tail, -, -, hname⟩ := Spelling.exists_of_behindOpening htable
  exact ⟨⟨by simpa using hne, hsat⟩, Spelling.tableNameAt?_of_some hname⟩

/-- **A header written out is read as its two names.** -/
theorem read?_append (hs : s.Valid) (hne : form.typeName ≠ [])
    (htype : ∀ c ∈ form.typeName, isTypeChar c = true) (hne' : form.tableName ≠ [])
    (htable : ∀ c ∈ form.tableName, isIdentRest c = true) :
    read? s (s.keyword ++ ' ' :: (form.typeName ++ ' ' :: (s.opening ++
      (form.tableName ++ s.delimiter)))) = some form := by
  have hheader : s.isHeader (s.keyword ++ ' ' :: (form.typeName ++ ' ' :: (s.opening ++
      (form.tableName ++ s.delimiter)))) = true :=
    Spelling.isHeader_iff.2 ⟨' ', _, rfl, by decide⟩
  have hgaps : dropGaps (' ' :: (form.typeName ++ ' ' :: (s.opening ++
      (form.tableName ++ s.delimiter)))) =
      form.typeName ++ ' ' :: (s.opening ++ (form.tableName ++ s.delimiter)) := by
    rw [dropGaps, List.dropWhile_cons_of_pos (by decide)]
    refine dropGaps_eq_self fun c hc => ?_
    rw [List.head?_append_of_ne_nil _ hne] at hc
    exact isGap_eq_false_of_isTypeChar (htype c (List.mem_of_head? hc))
  have hannotation : s.tableAnnotationAt? (' ' :: (s.opening ++ (form.tableName ++ s.delimiter))) =
      some form.tableName :=
    hs.behindOpening isGaps_space (Spelling.tableNameAt?_append hne' htable)
  have hrun : behindRun? isTypeChar s.tableAnnotationAt? (form.typeName ++ ' ' :: (s.opening ++
      (form.tableName ++ s.delimiter))) = some (form.typeName, form.tableName) := by
    refine behindRun?_append htype ?_ hannotation
    rintro c ⟨⟩
    decide
  unfold read? Spelling.headerBody?
  rw [if_pos hheader, after?_append, Option.map_some, Option.bind_some, hgaps, hrun,
    Option.map_some, Option.filter_some]
  exact if_pos (by simpa using hne)

end HeaderForm

end TableBinding
