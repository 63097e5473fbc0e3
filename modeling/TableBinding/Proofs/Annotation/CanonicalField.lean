import TableBinding.Annotation.Canonical
import TableBinding.Proofs.Annotation.WellFormed

/-!
# Canonical annotations are read back

A field that was read, written as its type, its name and its canonical annotation, is read as the
same field (`Field.read_canonical`). This takes a spelling whose delimiter is a single character
that stands in none of the words of an annotation, and whose table mark is none of these words
(`Spelling.Rewritable`).

The shape of the argument: every option that a column is written with can stand in an annotation
and is of the class it was written for (`Field.rewritable_withOptions`), so that the options say of
the column what it is (`Field.Rewritable.ofBody?`); a field of another kind is written with nothing
or with the table mark alone (`Field.ofForm_canonicalForm`).
-/

namespace TableBinding

open Text

/-! ## Spellings -/

/-- Canonical annotations in the spelling can be read back. -/
structure Spelling.Rewritable (s : Spelling) (d : Char) : Prop where
  valid : s.Valid
  delimiter : s.delimiter = [d]
  notNull : d ∉ ("NOT NULL" : Text)
  primaryKey : d ∉ ("PRIMARY KEY" : Text)
  mark : s.tableMark ≠ ("NOT NULL" : Text) ∧ s.tableMark ≠ ("PRIMARY KEY" : Text)

/-- The option can stand in an annotation. -/
structure Spelling.CanStand (d : Char) (t : Text) : Prop where
  option : IsOption t
  noDelimiter : d ∉ t
  noLineFeed : '\n' ∉ t

namespace Spelling

variable {s : Spelling} {d : Char}

theorem Rewritable.comma (hs : s.Rewritable d) : d ≠ ',' := by
  rintro rfl
  have hcomma := (valid_iff.1 hs.valid).2.2.2.1
  rw [hs.delimiter] at hcomma
  exact hcomma (List.mem_singleton_self ',')

theorem Valid.mark_ne_short (hs : s.Valid) :
    s.tableMark ≠ ("NULL" : Text) ∧ s.tableMark ≠ ("PK" : Text) := by
  have h := (valid_iff.1 hs).2.2.2.2.2
  simp only [reservedMarks, List.mem_cons, List.not_mem_nil, or_false, not_or] at h
  exact h

/-- What a valid spelling calls a column type holds no blank. -/
theorem Valid.isDatatype_eq_false (hs : s.Valid) {t : Text} (h : isBroken t = true) :
    s.isDatatype t = false := by
  refine Bool.eq_false_iff.2 fun hmem => ?_
  have hsound := (valid_iff.1 hs).2.2.1 t (by simpa [isDatatype] using hmem)
  rw [h] at hsound
  cases hsound

theorem canStand_of_mem (hd : s.delimiter = [d]) {rest body t : Text}
    (hcut : IsFirstCut s.delimiter rest body) (ht : t ∈ Text.options body) : CanStand d t := by
  obtain ⟨hoption, hstands⟩ := mem_options ht
  have hne : body ≠ [] := by
    rintro rfl
    exact hoption.ne_nil (List.infix_nil.1 hstands)
  refine ⟨hoption, fun hmem => ?_, fun hline => hcut.noLineFeed (hstands.mem hline)⟩
  obtain ⟨front, back, hbody⟩ := List.append_of_mem (hstands.mem hmem)
  refine hcut.not_occurs hne ⟨front, back, ?_⟩
  rw [hd, hbody, List.append_assoc, List.singleton_append]

theorem canStand_notNull (hd : d ∉ ("NOT NULL" : Text)) : CanStand d "NOT NULL" :=
  ⟨by decide, hd, by decide⟩

theorem canStand_primaryKey (hd : d ∉ ("PRIMARY KEY" : Text)) : CanStand d "PRIMARY KEY" :=
  ⟨by decide, hd, by decide⟩

end Spelling

namespace Token

theorem ofText_notNull {s : Spelling} (hs : s.Valid) :
    ofText s "NOT NULL" = .nullability false := by
  rw [ofText, hs.isDatatype_eq_false (by decide)]
  rfl

theorem ofText_primaryKey {s : Spelling} (hs : s.Valid) :
    ofText s "PRIMARY KEY" = .primaryKey := by
  rw [ofText, hs.isDatatype_eq_false (by decide)]
  rfl

end Token

/-! ## Host types -/

theorem Text.IsHostType.spellsType {t : Text} (h : IsHostType t) : SpellsType t := by
  obtain ⟨ws, hne, hws, rfl⟩ := h
  fun_induction join [' '] ws with
  | case1 => exact absurd rfl hne
  | case2 w =>
    obtain ⟨hw, hchars⟩ := hws w (List.mem_singleton_self w)
    exact .word hw hchars
  | case3 w u ws ih =>
    rw [List.forall_mem_cons] at hws
    obtain ⟨⟨hw, hchars⟩, hws⟩ := hws
    exact .words hw hchars (List.cons_ne_nil ' ' []) isGaps_space
      (ih (List.cons_ne_nil u ws) hws)

theorem Text.IsHostType.isTypeWords {t : Text} (h : IsHostType t) : IsTypeWords t :=
  h.spellsType.isTypeWords

theorem Text.IsHostType.squeeze_eq {t : Text} (h : IsHostType t) : squeeze t = t := by
  obtain ⟨ws, hne, hws, rfl⟩ := h
  refine squeeze_join hne fun w hw => ⟨(hws w hw).1, fun c hc => ?_⟩
  exact isBlank_eq_false_of_isTypeChar ((hws w hw).2 c hc)

/-! ## Columns -/

namespace ColumnOptions

theorem foldl_add_extra (o : ColumnOptions) (es : List Text) :
    (es.map Token.extra).foldl add o = { o with extras := o.extras ++ es } := by
  induction es generalizing o with
  | nil => rw [List.append_nil]; rfl
  | cons e es ih =>
    rw [List.map_cons, List.foldl_cons, ih, add, List.append_assoc, List.singleton_append]

end ColumnOptions

namespace Field

variable {s : Spelling} {d : Char} {f : Field}

/-- The options of a column in canonical order, each with the class that it is written for. -/
structure Rewritable (s : Spelling) (d : Char) (f : Field) : Prop where
  canStand : ∀ t ∈ f.columnTokens, Spelling.CanStand d t
  notMark : s.tableMark ∉ f.columnTokens
  classes : f.columnTokens.map (Token.ofText s) =
    [.datatype f.columnType, .nullability f.nullable] ++
      (if f.primaryKey then [.primaryKey] else []) ++ f.extras.map .extra

theorem columnType_mem_columnTokens (f : Field) : f.columnType ∈ f.columnTokens :=
  List.mem_append_left _ (List.mem_append_left _ (List.mem_cons_self ..))

theorem mem_columnTokens_iff {t : Text} :
    t ∈ f.columnTokens ↔ t = f.columnType ∨ t = f.nullConstraint ∨
      (f.primaryKey = true ∧ t = ("PRIMARY KEY" : Text)) ∨ t ∈ f.extras := by
  unfold columnTokens
  cases f.primaryKey <;> simp

/-- The nullability of a column can be written and is read back. -/
theorem nullConstraint_rewritable (hs : s.Rewritable d) {body rest : Text} {o : ColumnOptions}
    (hcut : IsFirstCut s.delimiter rest body) (ho : ColumnOptions.ofBody? s body = some o)
    (f : Field) :
    Spelling.CanStand d (f.withOptions o).nullConstraint ∧
      s.tableMark ≠ (f.withOptions o).nullConstraint ∧
      Token.ofText s (f.withOptions o).nullConstraint = .nullability o.nullable := by
  have hconstraint : (f.withOptions o).nullConstraint =
      if o.nullable then ("NULL" : Text) else ("NOT NULL" : Text) := rfl
  rw [hconstraint]
  cases hnullable : o.nullable with
  | true =>
    -- `NULL` may itself be a column type of the spelling, but then no column accepts NULL
    obtain ⟨hmem, hclass⟩ := ColumnOptions.mem_of_nullable ho hnullable
    exact ⟨Spelling.canStand_of_mem hs.delimiter hcut hmem, hs.valid.mark_ne_short.1, hclass⟩
  | false =>
    exact ⟨Spelling.canStand_notNull hs.notNull, hs.mark.1, Token.ofText_notNull hs.valid⟩

/-- **A column that was read can be written.** -/
theorem rewritable_withOptions (hs : s.Rewritable d) {body rest : Text} {o : ColumnOptions}
    (hcut : IsFirstCut s.delimiter rest body) (hmark : s.tableMark ∉ Text.options body)
    (ho : ColumnOptions.ofBody? s body = some o) (f : Field) :
    (f.withOptions o).Rewritable s d := by
  obtain ⟨hdatatype, htype, hextras⟩ := ColumnOptions.of_ofBody? ho
  obtain ⟨hnullStands, hnullMark, hnullClass⟩ := nullConstraint_rewritable hs hcut ho f
  have hbody : ∀ t ∈ Text.options body, Spelling.CanStand d t ∧ s.tableMark ≠ t := fun t ht =>
    ⟨Spelling.canStand_of_mem hs.delimiter hcut ht, fun e => hmark (e ▸ ht)⟩
  have htokens : ∀ t ∈ (f.withOptions o).columnTokens,
      Spelling.CanStand d t ∧ s.tableMark ≠ t := by
    intro t ht
    rcases mem_columnTokens_iff.1 ht with rfl | rfl | ⟨-, rfl⟩ | ht
    · exact hbody _ htype
    · exact ⟨hnullStands, hnullMark⟩
    · exact ⟨Spelling.canStand_primaryKey hs.primaryKey, hs.mark.2⟩
    · exact hbody t (hextras t ht).1
  refine ⟨fun t ht => (htokens t ht).1, fun hmem => (htokens _ hmem).2 rfl, ?_⟩
  have hmap : o.extras.map (Token.ofText s) = o.extras.map .extra :=
    List.map_congr_left fun e he => (hextras e he).2
  have hclass : Token.ofText s (f.withOptions o).columnType = .datatype o.columnType :=
    Token.ofText_of_mem_datatypes hdatatype
  have hkeyClass : (if o.primaryKey then [("PRIMARY KEY" : Text)] else []).map (Token.ofText s) =
      if o.primaryKey then [.primaryKey] else [] := by
    cases o.primaryKey
    · rfl
    · exact congrArg (fun token => [token]) (Token.ofText_primaryKey hs.valid)
  simp only [columnTokens, List.map_append, List.map_cons, List.map_nil, hclass, hnullClass]
  exact congrArg₂ _ (congrArg _ hkeyClass) hmap

theorem Rewritable.options_join (h : f.Rewritable s d) :
    Text.options (join [','] f.columnTokens) = f.columnTokens :=
  Text.options_join fun t ht => (h.canStand t ht).option

theorem Rewritable.not_mem_join (h : f.Rewritable s d) (hs : s.Rewritable d) :
    d ∉ join [','] f.columnTokens ∧ '\n' ∉ join [','] f.columnTokens := by
  refine ⟨fun hd => ?_, fun hline => ?_⟩
  · rcases mem_join hd with hcomma | ⟨t, ht, hd⟩
    · exact hs.comma (List.mem_singleton.1 hcomma)
    · exact (h.canStand t ht).noDelimiter hd
  · rcases mem_join hline with hcomma | ⟨t, ht, hline⟩
    · exact absurd hcomma (by decide)
    · exact (h.canStand t ht).noLineFeed hline

/-- **The canonical options of a column say of it what it is.** -/
theorem Rewritable.ofBody? (h : f.Rewritable s d) :
    ColumnOptions.ofBody? s (join [','] f.columnTokens) =
      some ⟨f.columnType, f.nullable, f.primaryKey, f.extras⟩ := by
  have htype : f.columnType.isEmpty = false :=
    List.isEmpty_eq_false_iff.2 (h.canStand _ f.columnType_mem_columnTokens).option.ne_nil
  have htokens : ColumnOptions.ofTokens (f.columnTokens.map (Token.ofText s)) =
      ⟨f.columnType, f.nullable, f.primaryKey, f.extras⟩ := by
    rw [h.classes, ColumnOptions.ofTokens, List.foldl_append, ColumnOptions.foldl_add_extra]
    cases f.primaryKey <;> rfl
  rw [ColumnOptions.ofBody?, h.options_join, htokens]
  exact if_neg (by rw [htype]; decide)

/-! ## Fields -/

variable {line : SourceLine} {form : FieldForm}

theorem ofForm_of_nil (h : form.options = []) :
    ofForm s line form = .ok { hostType := squeeze form.hostType, name := form.name } :=
  if_pos (List.isEmpty_iff.2 h)

theorem ofForm_of_mark (h : s.tableMark ∈ Text.options form.options) :
    ofForm s line form =
      .ok { hostType := squeeze form.hostType, name := form.name, namesTable := true } := by
  have hne : form.options ≠ [] := by
    intro hnil
    rw [hnil] at h
    exact absurd h List.not_mem_nil
  rw [ofForm, if_neg (List.isEmpty_iff.not.2 hne)]
  exact if_pos (List.contains_iff_mem.2 h)

theorem ofForm_of_column {o : ColumnOptions} (hmark : s.tableMark ∉ Text.options form.options)
    (ho : ColumnOptions.ofBody? s form.options = some o)
    (hknown : HostType.ofName? (squeeze form.hostType) ≠ none) :
    ofForm s line form =
      .ok (withOptions { hostType := squeeze form.hostType, name := form.name } o) := by
  obtain ⟨-, htype, -⟩ := ColumnOptions.of_ofBody? ho
  have hne : form.options ≠ [] := by
    intro hnil
    rw [hnil] at htype
    exact absurd htype List.not_mem_nil
  obtain ⟨known, hknown⟩ := Option.ne_none_iff_exists'.1 hknown
  rw [ofForm, if_neg (List.isEmpty_iff.not.2 hne),
    if_neg (List.contains_iff_mem.not.2 hmark), ho]
  simp only [hknown]

def canonicalForm (s : Spelling) (f : Field) : FieldForm :=
  { hostType := f.hostType, name := f.name, options := f.canonicalOptions s }

/-- The canonical options of a column declare the column. -/
theorem Rewritable.ofForm_canonicalForm (h : f.Rewritable s d) (hpersisted : f.persisted = true)
    (hnames : f.namesTable = false) (hhost : squeeze f.hostType = f.hostType)
    (hknown : HostType.ofName? f.hostType ≠ none) (line : SourceLine) :
    ofForm s line (f.canonicalForm s) = .ok f := by
  have hbody : (f.canonicalForm s).options = join [','] f.columnTokens := by
    unfold canonicalForm canonicalOptions
    rw [hnames, hpersisted]
    rfl
  have hmark : s.tableMark ∉ Text.options (f.canonicalForm s).options := by
    rw [hbody, h.options_join]
    exact h.notMark
  have ho := hbody ▸ h.ofBody?
  have hhostType : squeeze (f.canonicalForm s).hostType = f.hostType := hhost
  rw [ofForm_of_column hmark ho (hhostType ▸ hknown), hhostType]
  obtain ⟨hostType, name, persisted, namesTable, _⟩ := f
  cases hpersisted
  cases hnames
  rfl

/-- **The canonical options of a field that was read** can stand in an annotation, and declare the
field. -/
theorem ofForm_canonicalForm (hs : s.Rewritable d) (h : read s line = .ok f) :
    d ∉ f.canonicalOptions s ∧ '\n' ∉ f.canonicalOptions s ∧
      ∀ line', ofForm s line' (f.canonicalForm s) = .ok f := by
  obtain ⟨form, hform, hofForm⟩ := read_eq_ok_iff.1 h
  obtain ⟨_, _, _, _, rest, -, -, htype, -, -, hname, -, -, hcut⟩ := FieldForm.exists_of_read? hform
  have hhost : squeeze (squeeze form.hostType) = squeeze form.hostType :=
    (isHostType_squeeze htype).squeeze_eq
  rcases ofForm_cases hofForm with ⟨-, rfl⟩ | ⟨hmark, rfl⟩ | ⟨o, hmark, ho, hknown, rfl⟩
  · refine ⟨List.not_mem_nil, List.not_mem_nil, fun line' => ?_⟩
    rw [ofForm_of_nil rfl]
    simp only [canonicalForm, hhost]
  · have hstands := Spelling.canStand_of_mem hs.delimiter hcut hmark
    have hoptions : Text.options (join [','] [s.tableMark]) = [s.tableMark] :=
      Text.options_join fun t ht => List.mem_singleton.1 ht ▸ hstands.option
    refine ⟨hstands.noDelimiter, hstands.noLineFeed, fun line' => ?_⟩
    have hmem : s.tableMark ∈ Text.options (join [','] [s.tableMark]) := by
      rw [hoptions]
      exact List.mem_singleton_self s.tableMark
    rw [ofForm_of_mark hmem]
    simp only [canonicalForm, hhost]
  · have hcolumn := rewritable_withOptions hs hcut hmark ho
      { hostType := squeeze form.hostType, name := form.name }
    obtain ⟨hd, hline⟩ := hcolumn.not_mem_join hs
    exact ⟨hd, hline, hcolumn.ofForm_canonicalForm rfl rfl hhost hknown⟩

/-- **A field is read back from its canonical annotation**, whatever gaps stand around it. -/
theorem read_canonical (hs : s.Rewritable d) (h : read s line = .ok f) {before gaps : Text}
    (hbefore : IsGaps before) (hgaps : IsGaps gaps) {line' : SourceLine}
    (hline : line'.text = before ++ (f.hostType ++ [' '] ++ f.name) ++ [] ++
      ';' :: (gaps ++ f.canonicalAnnotation s)) : read s line' = .ok f := by
  obtain ⟨hd, hfeed, hform⟩ := ofForm_canonicalForm hs h
  have hf := read_wellFormed h
  have hcut : IsFirstCut s.delimiter (f.canonicalOptions s ++ s.delimiter)
      (f.canonicalOptions s) := by
    refine cutAt?_eq_some_iff.1 ?_
    rw [hs.delimiter]
    exact cutAt?_singleton [] hd hfeed
  refine read_eq_ok_iff.2 ⟨f.canonicalForm s, ?_, hform line'⟩
  have hannotation : f.canonicalAnnotation s =
      s.opening ++ (f.canonicalOptions s ++ s.delimiter) := by
    unfold canonicalAnnotation
    simp only [Spelling.delimit, Spelling.opening, List.append_assoc]
  rw [hline, hannotation]
  exact @FieldForm.read?_append s hs.valid (f.canonicalForm s) before [' '] [] gaps _ hbefore
    hf.hostType.isTypeWords (List.cons_ne_nil ' ' []) isGaps_space hf.name isGaps_nil hgaps hcut

end Field

end TableBinding
