import TableBinding.Proofs.Annotation.CanonicalField

/-!
# Table marks among the column options

The mark of the field that names the table stands among the options of an annotation, and wins over
all of them. A valid spelling keeps it apart from the column types and from the short options `NULL`
and `PK`, but not from their long forms: the marks that are read as a column option are exactly those
that are spelled `NOT NULL` or `PRIMARY KEY`, with any gaps between the words.

Canonical annotations are written with the long forms. A column whose canonical options hold the mark
(`Field.WritesMark`) is read back from them as the field that names the table, and no other column is
(`Spelling.mark_collides_iff`).
-/

namespace TableBinding

open Text

/-! ## Options of two words -/

/-- The two words with gaps between them. -/
def Text.IsPair (first second t : Text) : Prop :=
  ∃ gaps, gaps ≠ [] ∧ IsGaps gaps ∧ t = first ++ gaps ++ second

theorem Text.isPhrase_iff {first second t : Text}
    (hsecond : second.head?.all (fun c => !isGap c) = true) :
    isPhrase first second t = true ↔ IsPair first second t := by
  simp only [Option.all_eq_true, Bool.not_eq_true'] at hsecond
  unfold isPhrase
  split
  · next c rest h =>
    rw [after?_eq_some_iff.1 h, Bool.and_eq_true, beq_iff_eq]
    constructor
    · rintro ⟨hc, rfl⟩
      obtain ⟨gaps, hrest, hgaps, -⟩ := exists_eq_append_dropGaps rest
      refine ⟨c :: gaps, List.cons_ne_nil c gaps, List.forall_mem_cons.2 ⟨hc, hgaps⟩, ?_⟩
      rw [List.append_assoc, List.cons_append, ← hrest]
    · rintro ⟨gaps, hne, hgaps, hcut⟩
      obtain ⟨d, gaps, rfl⟩ := List.exists_cons_of_ne_nil hne
      rw [List.append_assoc, List.cons_append] at hcut
      obtain ⟨rfl, rfl⟩ := List.cons.inj (List.append_cancel_left hcut)
      obtain ⟨hc, hgaps⟩ := List.forall_mem_cons.1 hgaps
      exact ⟨hc, by rw [dropGaps_append hgaps, dropGaps_eq_self hsecond]⟩
  · next h =>
    simp only [Bool.false_eq_true, false_iff]
    rintro ⟨gaps, hne, -, rfl⟩
    obtain ⟨d, gaps, rfl⟩ := List.exists_cons_of_ne_nil hne
    apply h d (gaps ++ second)
    rw [List.append_assoc, after?_append, List.cons_append]

theorem Text.IsPair.head?_eq {first second t : Text} (h : IsPair first second t)
    (hne : first ≠ []) : t.head? = first.head? := by
  obtain ⟨gaps, -, -, rfl⟩ := h
  rw [List.append_assoc, List.head?_append_of_ne_nil _ hne]

/-! ## The class of the mark -/

namespace Spelling

variable {s : Spelling}

theorem Valid.mark_not_mem_datatypes (hs : s.Valid) : s.tableMark ∉ s.datatypes := by
  have h := (valid_iff.1 hs).2.2.2.2.1
  simpa [isDatatype] using h

/-- A column type of a valid spelling can stand in an annotation. -/
theorem Valid.isOption_of_mem_datatypes (hs : s.Valid) {t : Text} (ht : t ∈ s.datatypes) :
    IsOption t := by
  have hsound := (valid_iff.1 hs).2.2.1 t ht
  simp only [isBroken, Bool.or_eq_false_iff, List.isEmpty_eq_false_iff, List.any_eq_false,
    Bool.or_eq_true, beq_iff_eq, not_or, Bool.not_eq_true] at hsound
  obtain ⟨hne, hchars⟩ := hsound
  have hgap : ∀ c ∈ t, isGap c = false := by
    intro c hc
    by_contra hgap
    rw [Bool.not_eq_false] at hgap
    exact Bool.eq_false_iff.1 (hchars c hc).2 (isBlank_of_isGap hgap)
  exact ⟨hne, fun hcomma => (hchars _ hcomma).1 rfl, fun c hc => hgap c (List.mem_of_head? hc),
    fun c hc => hgap c (List.mem_of_getLast? hc)⟩

theorem Valid.saysNullability_mark_iff (hs : s.Valid) :
    Token.saysNullability s.tableMark = true ↔ IsPair "NOT" "NULL" s.tableMark := by
  rw [Token.saysNullability, Bool.or_eq_true, beq_iff_eq, isPhrase_iff (by decide)]
  exact or_iff_right hs.mark_ne_short.1

theorem Valid.saysPrimaryKey_mark_iff (hs : s.Valid) :
    Token.saysPrimaryKey s.tableMark = true ↔ IsPair "PRIMARY" "KEY" s.tableMark := by
  rw [Token.saysPrimaryKey, Bool.or_eq_true, beq_iff_eq, isPhrase_iff (by decide)]
  exact or_iff_right hs.mark_ne_short.2

/-- The class of the mark of a valid spelling. -/
theorem Valid.ofText_mark (hs : s.Valid) :
    (∀ d, Token.ofText s s.tableMark ≠ .datatype d) ∧
    (∀ b, Token.ofText s s.tableMark = .nullability b ↔
      b = false ∧ IsPair "NOT" "NULL" s.tableMark) ∧
    (Token.ofText s s.tableMark = .primaryKey ↔ IsPair "PRIMARY" "KEY" s.tableMark) := by
  have hdatatype : s.isDatatype s.tableMark = false := (valid_iff.1 hs).2.2.2.2.1
  have hnull : (s.tableMark == ("NULL" : Text)) = false :=
    beq_eq_false_iff_ne.2 hs.mark_ne_short.1
  rw [← hs.saysNullability_mark_iff, ← hs.saysPrimaryKey_mark_iff]
  unfold Token.ofText
  rw [hdatatype, if_neg Bool.false_ne_true, hnull]
  by_cases hnullability : Token.saysNullability s.tableMark = true
  · -- the two long options begin with different letters
    have hkey : Token.saysPrimaryKey s.tableMark ≠ true := by
      intro hkey
      have hN := (hs.saysNullability_mark_iff.1 hnullability).head?_eq (by decide)
      have hP := (hs.saysPrimaryKey_mark_iff.1 hkey).head?_eq (by decide)
      exact absurd (hN.symm.trans hP) (by decide)
    simp [hnullability, hkey, eq_comm]
  · by_cases hkey : Token.saysPrimaryKey s.tableMark = true
    · simp [hnullability, hkey]
    · simp [hnullability, hkey]

end Spelling

/-! ## The mark in canonical options -/

namespace Field

variable {s : Spelling} {line : SourceLine} {form : FieldForm} {f : Field}

/-- The mark is one of the options that the column is written with. -/
def WritesMark (s : Spelling) (f : Field) : Prop :=
  (s.tableMark = ("NOT NULL" : Text) ∧ f.nullable = false) ∨
    (s.tableMark = ("PRIMARY KEY" : Text) ∧ f.primaryKey = true)

theorem nullConstraint_cases (h : f.persisted = true) :
    (f.nullable = true ∧ f.nullConstraint = ("NULL" : Text)) ∨
      (f.nullable = false ∧ f.nullConstraint = ("NOT NULL" : Text)) := by
  unfold nullConstraint
  rw [if_pos h]
  cases f.nullable with
  | true => exact .inl ⟨rfl, rfl⟩
  | false => exact .inr ⟨rfl, rfl⟩

/-- The options that a column is written with can stand in an annotation. -/
theorem IsColumn.isOption (hs : s.Valid) (h : f.IsColumn s) (hpersisted : f.persisted = true) :
    ∀ t ∈ f.columnTokens, IsOption t := by
  intro t ht
  rcases mem_columnTokens_iff.1 ht with rfl | rfl | ⟨-, rfl⟩ | ht
  · exact hs.isOption_of_mem_datatypes h.columnType
  · rcases nullConstraint_cases hpersisted with ⟨-, hnull⟩ | ⟨-, hnull⟩
    · rw [hnull]
      decide
    · rw [hnull]
      decide
  · decide
  · exact (h.extras t ht).option

theorem IsColumn.options_canonicalOptions (hs : s.Valid) (h : f.IsColumn s)
    (hpersisted : f.persisted = true) :
    Text.options (f.canonicalOptions s) = f.columnTokens := by
  rw [canonicalOptions, h.noTableName, hpersisted, if_neg Bool.false_ne_true, if_pos rfl]
  exact options_join (h.isOption hs hpersisted)

theorem IsColumn.mark_mem_iff (hs : s.Valid) (h : f.IsColumn s) (hpersisted : f.persisted = true) :
    s.tableMark ∈ f.columnTokens ↔ f.WritesMark s := by
  have hdatatype : s.tableMark ≠ f.columnType := fun hmark =>
    hs.mark_not_mem_datatypes (hmark ▸ h.columnType)
  have hextras : s.tableMark ∉ f.extras := fun hmem => (h.extras _ hmem).notMark rfl
  have hnull : s.tableMark = f.nullConstraint ↔
      s.tableMark = ("NOT NULL" : Text) ∧ f.nullable = false := by
    rcases nullConstraint_cases hpersisted with ⟨hnullable, hnull⟩ | ⟨hnullable, hnull⟩
    · rw [hnull, hnullable]
      exact iff_of_false hs.mark_ne_short.1 fun hmark => Bool.false_ne_true hmark.2.symm
    · rw [hnull, hnullable]
      exact (and_iff_left rfl).symm
  rw [mem_columnTokens_iff, hnull, or_iff_right hdatatype, or_iff_left hextras, WritesMark]
  exact or_congr_right and_comm

/-- A line declares the field that names the table exactly if the mark is among its options. -/
theorem exists_namesTable_iff (hform : FieldForm.read? s line.text = some form) :
    (∃ g, read s line = .ok g ∧ g.namesTable = true) ↔
      s.tableMark ∈ Text.options form.options := by
  constructor
  · rintro ⟨g, hg, hnames⟩
    obtain ⟨form', hform', hofForm⟩ := read_eq_ok_iff.1 hg
    cases hform.symm.trans hform'
    rcases ofForm_cases hofForm with ⟨-, rfl⟩ | ⟨hmark, -⟩ | ⟨o, -, -, -, rfl⟩
    · cases hnames
    · exact hmark
    · cases hnames
  · intro hmark
    exact ⟨_, read_eq_ok_iff.2 ⟨form, hform, ofForm_of_mark hmark⟩, rfl⟩

end Field

/-! ## Marks that are column options -/

namespace Spelling

/-- **The marks that collide with a column option** are those spelled with one of the long options,
and the columns whose canonical options are read back as the field that names the table are those
that are written with the mark. -/
theorem mark_collides_iff {s : Spelling} (hs : s.Valid) :
    (∀ d, Token.ofText s s.tableMark ≠ .datatype d) ∧
    (∀ b, Token.ofText s s.tableMark = .nullability b ↔
      b = false ∧ IsPair "NOT" "NULL" s.tableMark) ∧
    (Token.ofText s s.tableMark = .primaryKey ↔ IsPair "PRIMARY" "KEY" s.tableMark) ∧
    ∀ line f, Field.read s line = .ok f → f.persisted = true →
      (s.tableMark ∈ Text.options (f.canonicalOptions s) ↔ f.WritesMark s) ∧
      ∀ line' form, FieldForm.read? s line'.text = some form →
        form.options = f.canonicalOptions s →
        ((∃ g, Field.read s line' = .ok g ∧ g.namesTable = true) ↔ f.WritesMark s) := by
  obtain ⟨hdatatype, hnullability, hkey⟩ := hs.ofText_mark
  refine ⟨hdatatype, hnullability, hkey, fun line f hread hpersisted => ?_⟩
  have hcolumn := (Field.read_wellFormed hread).column hpersisted
  have hmem : s.tableMark ∈ Text.options (f.canonicalOptions s) ↔ f.WritesMark s := by
    rw [hcolumn.options_canonicalOptions hs hpersisted]
    exact hcolumn.mark_mem_iff hs hpersisted
  refine ⟨hmem, fun line' form hform hoptions => ?_⟩
  rw [Field.exists_namesTable_iff hform, hoptions]
  exact hmem

/-- A mark that is a long option. -/
def longMark : Spelling := { tableMark := "NOT NULL" }

def keyColumn : Field :=
  { hostType := "int", name := "id", persisted := true, columnType := "INTEGER", nullable := true,
    primaryKey := true }

theorem mark_collides_iff_longMark :
    longMark.Valid ∧ Token.ofText longMark longMark.tableMark = .nullability false ∧
    Field.read longMark { number := 1, text := "int id; //`PK,INTEGER,NULL`" } = .ok keyColumn ∧
    longMark.tableMark ∉ Text.options (keyColumn.canonicalOptions longMark) ∧
    ¬ ∃ g, Field.read longMark { number := 1, text := "int id; //`INTEGER,NULL,PRIMARY KEY`" } =
      .ok g ∧ g.namesTable = true := by
  have hvalid : longMark.Valid := by decide
  have hread : Field.read longMark { number := 1, text := "int id; //`PK,INTEGER,NULL`" } =
      .ok keyColumn := by decide +kernel
  have hform : FieldForm.read? longMark "int id; //`INTEGER,NULL,PRIMARY KEY`" =
      some (keyColumn.canonicalForm longMark) := by decide +kernel
  have hunwritten : ¬ keyColumn.WritesMark longMark := by
    rintro (⟨-, hnullable⟩ | ⟨hmark, -⟩)
    · cases hnullable
    · exact absurd hmark (by decide)
  obtain ⟨-, hnullability, -, hcolumn⟩ := mark_collides_iff hvalid
  obtain ⟨hmem, hagain⟩ := hcolumn _ keyColumn hread rfl
  refine ⟨hvalid, (hnullability false).2 ⟨rfl, [' '], by decide, isGaps_space, rfl⟩, hread,
    fun h => hunwritten (hmem.1 h), ?_⟩
  intro hexists
  exact hunwritten ((hagain { number := 1, text := "int id; //`INTEGER,NULL,PRIMARY KEY`" } _ hform
    rfl).1 hexists)

/-- A delimiter that cuts the long options short, and the mark that is left of one. -/
def shortMark : Spelling := { delimiter := "U", tableMark := "NOT N" }

def plainColumn : Field :=
  { hostType := "int", name := "id", persisted := true, columnType := "INTEGER" }

/-- A valid mark may be read as an option, and a column may be read back from its own annotation as
the field that names the table: because it is written with the mark, or because the delimiter leaves
the mark of an option it is written with. -/
theorem mark_collides_with_option :
    (longMark.Valid ∧ Token.ofText longMark longMark.tableMark = .nullability false ∧
      Field.read longMark { number := 1, text := "int id; //`INTEGER`" } = .ok plainColumn ∧
      longMark.tableMark ∈ Text.options (plainColumn.canonicalOptions longMark) ∧
      Field.read longMark
          { number := 1, text := "int id; " ++ plainColumn.canonicalAnnotation longMark } =
        .ok { hostType := "int", name := "id", namesTable := true }) ∧
    shortMark.Valid ∧ Token.ofText shortMark shortMark.tableMark = .extra "NOT N" ∧
      Field.read shortMark { number := 1, text := "int id; //UINTEGERU" } = .ok plainColumn ∧
      Field.read shortMark
          { number := 1, text := "int id; " ++ plainColumn.canonicalAnnotation shortMark } =
        .ok { hostType := "int", name := "id", namesTable := true } := by
  refine ⟨⟨?_, ?_, ?_, ?_, ?_⟩, ?_, ?_, ?_, ?_⟩ <;> decide +kernel

end Spelling

end TableBinding
