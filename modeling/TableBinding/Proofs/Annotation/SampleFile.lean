import TableBinding.Proofs.Annotation.MarkCollision
import TableBinding.Proofs.Run.LineEnding

/-!
# Spellings that can be used

A small declaration file, written with the tokens of a spelling, shows if the spelling is of any use:
a struct with one column and one field for the table's name. Being valid is not enough for the file
to be read as this struct. What else it takes is said by `Spelling.IsUsable`, and it takes all of it
(`Source.structs_sample_iff`): the line that opens a block is found only if it neither begins nor ends
with a blank, and a type is cut short by a delimiter that stands in it.

The shape of the argument: the lines of the file can be cut into blocks in one way at most, so each
line must be what it is meant to be; and a column type or a table mark is among its own options only
if the first delimiter is the one behind it (`Field.read_sampleColumn_iff`,
`Field.read_sampleTableField_iff`).
-/

namespace TableBinding

open Text

/-! ## The file -/

namespace Spelling

/-- The line that begins the struct. -/
def sampleHeader (s : Spelling) : Text := s.keyword ++ " T " ++ s.comment ++ s.delimit "t"

/-- The line of a column of the type. -/
def sampleColumn (s : Spelling) (type : Text) : Text := "int x; " ++ s.comment ++ s.delimit type

/-- The line of the field that holds the table's name. -/
def sampleTableField (s : Spelling) : Text := "QString n; " ++ s.comment ++ s.delimit s.tableMark

def sampleLines (s : Spelling) (type : Text) : List Text :=
  [s.sampleHeader, s.blockOpen, s.sampleColumn type, s.sampleTableField, s.blockEnd]

/-- The file that declares a struct with both fields. -/
def sample (s : Spelling) (type : Text) : Text := (s.sampleLines type).flatMap (· ++ ['\n'])

end Spelling

/-- What is meant by the line of the column. -/
def Field.sampleColumn (type : Text) : Field :=
  { hostType := "int", name := "x", persisted := true, columnType := type }

def Field.sampleTableField : Field := { hostType := "QString", name := "n", namesTable := true }

/-- What is meant by the file. -/
def Struct.sample (type : Text) : Struct :=
  { typeName := "T"
    tableName := "t"
    fields := [Field.sampleColumn type, Field.sampleTableField] }

/-- What a valid spelling needs for the file to be read as the struct. -/
structure Spelling.IsUsable (s : Spelling) (type : Text) : Prop where
  oneLine : ∀ token ∈ [s.keyword, s.comment, s.delimiter, s.tableMark, s.blockEnd], Text.OneLine token
  noReturn : s.delimiter.getLast? ≠ some '\r' ∧ s.blockEnd.getLast? ≠ some '\r'
  /-- The opener is found between blanks, and so must not have any of its own. -/
  blockOpen : trim s.blockOpen = s.blockOpen
  /-- The block end is found behind blanks. -/
  blockEnd : ∀ c ∈ s.blockEnd.head?, isBlank c = false
  noHeader : ∀ line ∈ [s.blockOpen, s.sampleColumn type, s.sampleTableField, s.blockEnd],
    s.isHeader line = false
  noEnd : ∀ line ∈ [s.blockOpen, s.sampleColumn type, s.sampleTableField],
    s.closesBlock line = false
  noOpener : ∀ line ∈ [s.sampleColumn type, s.sampleTableField], s.opensBlock line = false
  /-- The first delimiter behind the type is the one that ends it. -/
  typeCut : IsFirstCut s.delimiter (type ++ s.delimiter) type
  /-- The first delimiter behind the mark is the one that ends it. -/
  markCut : IsFirstCut s.delimiter (s.tableMark ++ s.delimiter) s.tableMark
  /-- The mark is read as it stands between commas. -/
  mark : IsOption s.tableMark

/-! ## Field lines -/

/-- The first cut is the text itself, if it is not shorter. -/
theorem Text.IsFirstCut.eq_of_length_le {mark t body : Text} (h : IsFirstCut mark (t ++ mark) body)
    (hle : t.length ≤ body.length) : body = t := by
  have hbody : body <+: t ++ mark := (List.prefix_append body mark).trans h.cut
  have hshort : body.length ≤ t.length := h.first t List.prefix_rfl
  have hprefix := List.prefix_of_prefix_length_le hbody (List.prefix_append t mark) hshort
  exact hprefix.eq_of_length (Nat.le_antisymm hshort hle)

namespace Spelling

variable {s : Spelling}

theorem Valid.optionsAt?_append (hs : s.Valid) {gaps : Text} (hgaps : IsGaps gaps) (rest : Text) :
    s.optionsAt? (gaps ++ (s.opening ++ rest)) = cutAt? s.delimiter rest := by
  cases hcut : cutAt? s.delimiter rest with
  | some body => exact hs.behindOpening hgaps hcut
  | none =>
    refine Option.eq_none_iff_forall_ne_some.2 fun body hbody => ?_
    obtain ⟨gaps', rest', hrest, hgaps', hfirst⟩ := FieldForm.exists_of_optionsAt? hbody
    obtain ⟨-, rfl⟩ := hs.opening_inj hgaps hgaps' hrest
    rw [cutAt?_eq_some_iff.2 hfirst] at hcut
    cases hcut

/-- What is read of a declaration with an annotation behind it. -/
theorem Valid.read?_declared (hs : s.Valid) {declaration hostType name : Text}
    (hsemicolon : ';' ∉ declaration)
    (hdeclaration : FieldForm.declaration? declaration = some (hostType, name)) (rest : Text) :
    FieldForm.read? s (declaration ++ ';' :: ([' '] ++ (s.opening ++ rest))) =
      (cutAt? s.delimiter rest).map (⟨hostType, name, ·⟩) := by
  have hfront : ∀ c ∈ declaration, (c != ';') = true := by
    intro c hc
    rw [bne_iff_ne]
    rintro rfl
    exact hsemicolon hc
  have hdrop : ∀ t : Text, (';' :: t).dropWhile (· != ';') = ';' :: t := fun t =>
    List.dropWhile_cons_of_neg (by decide)
  have htake : ∀ t : Text, (';' :: t).takeWhile (· != ';') = [] := fun t =>
    List.takeWhile_cons_of_neg (by decide)
  unfold FieldForm.read?
  rw [List.dropWhile_append_of_pos hfront, List.takeWhile_append_of_pos hfront, hdrop, htake,
    List.append_nil]
  show (FieldForm.declaration? declaration).bind _ = _
  rw [hdeclaration, Option.bind_some, hs.optionsAt?_append isGaps_space]

theorem annotated_eq (s : Spelling) (declaration body : Text) :
    declaration ++ [';', ' '] ++ s.comment ++ s.delimit body =
      declaration ++ ';' :: ([' '] ++ (s.opening ++ (body ++ s.delimiter))) := by
  simp only [delimit, opening, List.append_assoc, List.cons_append, List.nil_append]

theorem Valid.read?_sampleColumn (hs : s.Valid) (type : Text) :
    FieldForm.read? s (s.sampleColumn type) =
      (cutAt? s.delimiter (type ++ s.delimiter)).map (⟨"int", "x", ·⟩) := by
  have hfront : ("int x; " : Text) = "int x" ++ [';', ' '] := by decide
  have hdeclaration : FieldForm.declaration? "int x" = some (("int" : Text), ("x" : Text)) := by decide
  unfold sampleColumn
  rw [hfront, annotated_eq, hs.read?_declared (by decide) hdeclaration]

theorem Valid.read?_sampleTableField (hs : s.Valid) :
    FieldForm.read? s s.sampleTableField =
      (cutAt? s.delimiter (s.tableMark ++ s.delimiter)).map (⟨"QString", "n", ·⟩) := by
  have hfront : ("QString n; " : Text) = "QString n" ++ [';', ' '] := by decide
  have hdeclaration : FieldForm.declaration? "QString n" = some (("QString" : Text), ("n" : Text)) := by decide
  unfold sampleTableField
  rw [hfront, annotated_eq, hs.read?_declared (by decide) hdeclaration]

end Spelling

namespace Field

variable {s : Spelling} {type : Text} {line : SourceLine} {f : Field}

theorem name_of_ofForm {form : FieldForm} (h : ofForm s line form = .ok f) : f.name = form.name := by
  rcases ofForm_cases h with ⟨-, rfl⟩ | ⟨-, rfl⟩ | ⟨o, -, -, -, rfl⟩
  · rfl
  · rfl
  · rfl

theorem name_of_read_sampleColumn (hs : s.Valid) (hline : line.text = s.sampleColumn type)
    (h : read s line = .ok f) : f.name = "x" := by
  obtain ⟨form, hform, h⟩ := read_eq_ok_iff.1 h
  rw [hline, hs.read?_sampleColumn] at hform
  obtain ⟨body, -, rfl⟩ := Option.map_eq_some_iff.1 hform
  exact name_of_ofForm h

/-- **A column type is read** if it ends at the first delimiter behind it. -/
theorem read_sampleColumn_iff (hs : s.Valid) (htype : type ∈ s.datatypes)
    (hline : line.text = s.sampleColumn type) :
    read s line = .ok (Field.sampleColumn type) ↔
      IsFirstCut s.delimiter (type ++ s.delimiter) type := by
  rw [read_eq_ok_iff, hline, hs.read?_sampleColumn]
  constructor
  · rintro ⟨form, hform, h⟩
    obtain ⟨body, hcut, rfl⟩ := Option.map_eq_some_iff.1 hform
    rw [cutAt?_eq_some_iff] at hcut
    rcases ofForm_cases h with ⟨-, hfield⟩ | ⟨-, hfield⟩ | ⟨o, -, ho, -, hfield⟩
    · exact Bool.noConfusion (congrArg Field.persisted hfield)
    · exact Bool.noConfusion (congrArg Field.persisted hfield)
    · obtain ⟨-, hoption, -⟩ := ColumnOptions.of_ofBody? ho
      have hcolumn : type = o.columnType := congrArg Field.columnType hfield
      rw [← hcolumn] at hoption
      have hbody := hcut.eq_of_length_le (mem_options hoption).2.length_le
      rwa [hbody] at hcut
  · intro hcut
    have hoption : IsOption type := hs.isOption_of_mem_datatypes htype
    have hoptions : Text.options type = [type] :=
      options_join (List.forall_mem_singleton.2 hoption)
    have hmark : s.tableMark ∉ Text.options type := by
      rw [hoptions, List.mem_singleton]
      exact fun e => hs.mark_not_mem_datatypes (e ▸ htype)
    have hbody : ColumnOptions.ofBody? s type = some { columnType := type } := by
      rw [ColumnOptions.ofBody?, hoptions, List.map_singleton, Token.ofText_of_mem_datatypes htype]
      exact if_neg (List.isEmpty_iff.not.2 hoption.ne_nil)
    have hknown : HostType.ofName? (squeeze "int") ≠ none := by decide
    refine ⟨⟨"int", "x", type⟩, by rw [cutAt?_eq_some_iff.2 hcut, Option.map_some], ?_⟩
    rw [ofForm_of_column hmark hbody hknown]
    rfl

/-- **The table mark is read** if it ends at the first delimiter behind it and can stand between
commas. -/
theorem read_sampleTableField_iff (hs : s.Valid) (hline : line.text = s.sampleTableField) :
    read s line = .ok Field.sampleTableField ↔
      IsFirstCut s.delimiter (s.tableMark ++ s.delimiter) s.tableMark ∧ IsOption s.tableMark := by
  rw [read_eq_ok_iff, hline, hs.read?_sampleTableField]
  constructor
  · rintro ⟨form, hform, h⟩
    obtain ⟨body, hcut, rfl⟩ := Option.map_eq_some_iff.1 hform
    rw [cutAt?_eq_some_iff] at hcut
    rcases ofForm_cases h with ⟨-, hfield⟩ | ⟨hmark, -⟩ | ⟨o, -, -, -, hfield⟩
    · exact Bool.noConfusion (congrArg Field.namesTable hfield)
    · obtain ⟨hoption, hstands⟩ := mem_options hmark
      have hbody := hcut.eq_of_length_le hstands.length_le
      rw [hbody] at hcut
      exact ⟨hcut, hoption⟩
    · exact Bool.noConfusion (congrArg Field.namesTable hfield)
  · rintro ⟨hcut, hoption⟩
    have hoptions : Text.options s.tableMark = [s.tableMark] :=
      options_join (List.forall_mem_singleton.2 hoption)
    have hmark : s.tableMark ∈ Text.options s.tableMark := by
      rw [hoptions]
      exact List.mem_singleton_self _
    refine ⟨⟨"QString", "n", s.tableMark⟩, by rw [cutAt?_eq_some_iff.2 hcut, Option.map_some], ?_⟩
    rw [ofForm_of_mark hmark]
    rfl

end Field

/-! ## Headers -/

namespace Spelling

variable {s : Spelling} {rest : Text}

/-- A line that begins like the header of the sample. -/
def headed (s : Spelling) (rest : Text) : Text :=
  s.keyword ++ ([' '] ++ ('T' :: ([' '] ++ (s.opening ++ rest))))

theorem sampleHeader_eq (s : Spelling) : s.sampleHeader = s.headed ('t' :: s.delimiter) := by
  have hname : (" T " : Text) = [' ', 'T', ' '] := by decide
  have htable : ("t" : Text) = ['t'] := by decide
  unfold sampleHeader
  rw [hname, delimit, htable]
  simp only [headed, opening, List.append_assoc, List.cons_append, List.nil_append]

theorem isHeader_headed (s : Spelling) (rest : Text) : s.isHeader (s.headed rest) = true :=
  isHeader_iff.2 ⟨' ', _, rfl, by decide⟩

/-- If both names are read of the line, the delimiter stands behind the table name. -/
theorem Valid.prefix_of_read?_headed (hs : s.Valid)
    (h : HeaderForm.read? s (s.headed rest) = some ⟨"T", "t"⟩) : 't' :: s.delimiter <+: rest := by
  obtain ⟨cut, hform, -⟩ := HeaderCut.exists_of_read? hs h
  have hT : cut.typeName = ['T'] := congrArg HeaderForm.typeName hform
  have ht : cut.tableName = ['t'] := congrArg HeaderForm.tableName hform
  have hline : s.keyword ++ ([' '] ++ ('T' :: ([' '] ++ (s.opening ++ rest)))) =
      s.keyword ++ cut.before ++ cut.typeName ++ cut.between ++ s.comment ++ s.delimiter ++
        cut.tableName ++ s.delimiter ++ cut.rest := cut.line_eq
  rw [hT, ht] at hline
  simp only [List.append_assoc] at hline
  have hbehind := List.append_cancel_left hline
  have hnogap : ∀ t : Text, ∀ c ∈ ('T' :: t).head?, isGap c = false := by
    rintro t c ⟨⟩
    decide
  obtain ⟨-, htype⟩ := IsGaps.append_inj isGaps_space cut.before_gaps (hnogap _) (hnogap _) hbehind
  have hopening :
      cut.between ++ (s.comment ++ (s.delimiter ++ (['t'] ++ (s.delimiter ++ cut.rest)))) =
        cut.between ++ (s.opening ++ ('t' :: s.delimiter ++ cut.rest)) := by
    simp only [opening, List.append_assoc, List.cons_append, List.nil_append]
  obtain ⟨-, hrest⟩ := hs.opening_inj isGaps_space cut.between_gaps
    ((List.cons.inj htype).2.trans hopening)
  exact ⟨cut.rest, hrest.symm⟩

theorem Valid.read?_sampleHeader (hs : s.Valid) :
    HeaderForm.read? s s.sampleHeader = some ⟨"T", "t"⟩ := by
  have hT : ("T" : Text) = ['T'] := by decide
  have ht : ("t" : Text) = ['t'] := by decide
  have htype : ∀ c ∈ ['T'], isTypeChar c = true := List.forall_mem_singleton.2 rfl
  have htable : ∀ c ∈ ['t'], isIdentRest c = true := List.forall_mem_singleton.2 rfl
  rw [sampleHeader_eq, hT, ht]
  exact @HeaderForm.read?_append s ⟨['T'], ['t']⟩ hs (List.cons_ne_nil _ _) htype
    (List.cons_ne_nil _ _) htable

/-! ## Ends of lines -/

theorem Valid.delimiter_ne_nil (hs : s.Valid) : s.delimiter ≠ [] := by
  obtain ⟨c, hc, -⟩ := hs.exists_visible ("delimiter", s.delimiter) (by simp [required])
  exact List.ne_nil_of_mem hc

theorem dropReturn_delimit (hne : s.delimiter ≠ []) (hreturn : s.delimiter.getLast? ≠ some '\r')
    (front body : Text) :
    dropReturn (front ++ s.comment ++ s.delimit body) = front ++ s.comment ++ s.delimit body := by
  rw [delimit, ← List.append_assoc, dropReturn_append _ hne, dropReturn_eq_self hreturn]

theorem dropReturn_sampleColumn (hne : s.delimiter ≠ []) (h : s.delimiter.getLast? ≠ some '\r')
    (type : Text) : dropReturn (s.sampleColumn type) = s.sampleColumn type :=
  dropReturn_delimit hne h _ type

theorem dropReturn_sampleTableField (hne : s.delimiter ≠ [])
    (h : s.delimiter.getLast? ≠ some '\r') :
    dropReturn s.sampleTableField = s.sampleTableField :=
  dropReturn_delimit hne h _ s.tableMark

theorem dropReturn_sampleHeader (s : Spelling) :
    dropReturn s.sampleHeader = s.headed (dropReturn ('t' :: s.delimiter)) := by
  have hheaded : ∀ rest : Text,
      s.headed rest = s.keyword ++ [' ', 'T', ' '] ++ s.opening ++ rest := by
    intro rest
    simp only [headed, List.append_assoc, List.cons_append, List.nil_append]
  rw [sampleHeader_eq, hheaded, hheaded, dropReturn_append _ (List.cons_ne_nil _ _)]

theorem dropReturn_of_trim {t : Text} (h : trim t = t) : dropReturn t = t := by
  refine dropReturn_eq_self fun hlast => ?_
  rw [← h] at hlast
  exact absurd (isBlank_getLast?_trimEnd _ _ hlast) (by decide)

/-- The opener opens a block exactly if it has no blanks at its ends. -/
theorem opensBlock_dropReturn_iff :
    s.opensBlock (dropReturn s.blockOpen) = true ↔ trim s.blockOpen = s.blockOpen := by
  rw [opensBlock, beq_iff_eq]
  constructor
  · intro h
    rw [← h, trim_trim]
  · intro h
    rw [dropReturn_of_trim h, h]

/-- The block end closes a block exactly if it neither begins with a blank nor loses its end. -/
theorem closesBlock_dropReturn_iff :
    s.closesBlock (dropReturn s.blockEnd) = true ↔
      s.blockEnd.getLast? ≠ some '\r' ∧ ∀ c ∈ s.blockEnd.head?, isBlank c = false := by
  rw [closesBlock, startsWith_iff]
  constructor
  · intro h
    have hbehind : trimStart (dropReturn s.blockEnd) <:+ dropReturn s.blockEnd :=
      List.dropWhile_suffix isBlank
    have hlast : s.blockEnd.getLast? ≠ some '\r' :=
      getLast?_ne_return (h.length_le.trans hbehind.length_le)
    rw [dropReturn_eq_self hlast] at h hbehind
    have hself : s.blockEnd = trimStart s.blockEnd :=
      h.eq_of_length (Nat.le_antisymm h.length_le hbehind.length_le)
    refine ⟨hlast, fun c hc => isBlank_head?_trimStart s.blockEnd c ?_⟩
    rw [← hself]
    exact hc
  · rintro ⟨hlast, hhead⟩
    rw [dropReturn_eq_self hlast, trimStart_eq_self hhead]

end Spelling

/-! ## The file that is read -/

namespace Source

variable {s : Spelling} {type : Text}

/-- The body of the block consists of the opener and the lines of both fields. -/
theorem body_eq {body after : List SourceLine} {closing column tableField : SourceLine}
    {t u v w : Text}
    (htexts : body.map (·.text) ++ closing.text :: after.map (·.text) = [t, u, v, w])
    (hfields : s.fieldLines body = [column, tableField]) (hfield : tableField.text ≠ u)
    (hopens : s.opensBlock u = true → s.opensBlock t = true) :
    ∃ opener, body = [opener, column, tableField] ∧ after = [] ∧
      (opener.text = t ∧ column.text = u ∧ tableField.text = v ∧ closing.text = w) ∧
      s.opensBlock t = true ∧ s.opensBlock u = false ∧ s.opensBlock v = false := by
  have hsub : ∀ lines, (s.fieldLines lines).Sublist lines := fun _ => List.filter_sublist
  rcases body with _ | ⟨a, _ | ⟨b, _ | ⟨c, _ | ⟨d, body⟩⟩⟩⟩
  · cases hfields
  · have hlength := (hsub [a]).length_le
    rw [hfields] at hlength
    exact (Nat.not_succ_le_self 1 hlength).elim
  · -- without an opener the second line would be the other field
    have hall := hsub [a, b]
    rw [hfields] at hall
    obtain ⟨rfl, rfl⟩ : column = a ∧ tableField = b := by simpa using hall.eq_of_length rfl
    simp only [List.map_cons, List.map_nil, List.cons_append, List.nil_append, List.cons.injEq]
      at htexts
    exact absurd htexts.2.1 hfield
  · simp only [List.map_cons, List.map_nil, List.cons_append, List.nil_append, List.cons.injEq,
      List.map_eq_nil_iff] at htexts
    obtain ⟨ha, hb, hc, hclosing, hafter⟩ := htexts
    cases hopener : s.opensBlock a.text with
    | true =>
      rw [Spelling.fieldLines_cons_of_opens hopener] at hfields
      have hall := hsub [b, c]
      rw [hfields] at hall
      obtain ⟨rfl, rfl⟩ : column = b ∧ tableField = c := by simpa using hall.eq_of_length rfl
      have hno := List.filter_eq_self.1 hfields
      simp only [List.forall_mem_cons, Bool.not_eq_true', hb, hc] at hno
      exact ⟨a, rfl, hafter, ⟨ha, hb, hc, hclosing⟩, ha ▸ hopener, hno.1, hno.2.1⟩
    | false =>
      rw [Spelling.fieldLines_cons hopener] at hfields
      have hsecond : s.opensBlock b.text = false := by
        rw [hb]
        refine Bool.eq_false_iff.2 fun h => ?_
        rw [ha, hopens h] at hopener
        cases hopener
      rw [Spelling.fieldLines_cons hsecond] at hfields
      obtain ⟨-, rfl, -⟩ := by simpa only [List.cons.injEq] using hfields
      exact absurd hb hfield
  · have hlength := congrArg List.length htexts
    simp only [List.length_append, List.length_map, List.length_cons, List.length_nil] at hlength
    omega

theorem oneLine_tokens (hs : s.Valid) {b : BlockLines} (hb : b.Declares s (Struct.sample type))
    (hone : ∀ line ∈ b.lines, OneLine line.text) :
    ∀ token ∈ [s.keyword, s.comment, s.delimiter, s.tableMark, s.blockEnd], OneLine token := by
  have hheader : OneLine b.header.text := hone b.header (by simp [BlockLines.lines])
  have hclosing : OneLine b.closing.text := hone b.closing (by simp [BlockLines.lines])
  obtain ⟨cut, -, -⟩ := HeaderCut.exists_of_read? hs hb.names
  rw [cut.line_eq] at hheader
  simp only [oneLine_append] at hheader
  have hmark : OneLine s.tableMark := by
    have hmem : Field.sampleTableField ∈ (Struct.sample type).fields :=
      List.mem_cons_of_mem _ (List.mem_singleton_self _)
    obtain ⟨line, -, hread⟩ := exists_of_mem_forall₂ hb.fields hmem
    exact Field.oneLine_tableMark hread rfl
  have hend : OneLine s.blockEnd := by
    obtain ⟨rest, hrest⟩ := startsWith_iff.1 hb.closing.2
    intro hmem
    have hbehind : trimStart b.closing.text <:+ b.closing.text := List.dropWhile_suffix isBlank
    exact hclosing (hbehind.mem (hrest ▸ List.mem_append_left rest hmem))
  simp only [List.forall_mem_cons]
  exact ⟨hheader.1.1.1.1.1.1.1.1, hheader.1.1.1.1.2, hheader.1.1.1.2, hmark, hend,
    fun _ h => absurd h List.not_mem_nil⟩

theorem oneLine_sampleLines (hs : s.Valid) (htype : type ∈ s.datatypes)
    (hopen : OneLine s.blockOpen)
    (htokens : ∀ token ∈ [s.keyword, s.comment, s.delimiter, s.tableMark, s.blockEnd],
      OneLine token) : ∀ t ∈ s.sampleLines type, OneLine t := by
  simp only [List.forall_mem_cons] at htokens
  obtain ⟨hkeyword, hcomment, hdelimiter, hmark, hend, -⟩ := htokens
  have hdelimit : ∀ {body : Text}, OneLine body → OneLine (s.delimit body) := fun hbody =>
    (hdelimiter.append hbody).append hdelimiter
  have hname : OneLine " T " := by decide
  have htable : OneLine "t" := by decide
  have hcolumn : OneLine "int x; " := by decide
  have hfield : OneLine "QString n; " := by decide
  simp only [Spelling.sampleLines, List.forall_mem_cons]
  exact ⟨((hkeyword.append hname).append hcomment).append (hdelimit htable), hopen,
    (hcolumn.append hcomment).append (hdelimit (hs.oneLine_datatype htype)),
    (hfield.append hcomment).append (hdelimit hmark), hend, fun _ h => absurd h List.not_mem_nil⟩

theorem texts_of_declares (hs : s.Valid) (htype : type ∈ s.datatypes) (hopen : OneLine s.blockOpen)
    {b : BlockLines} {after : List SourceLine} (hb : b.Declares s (Struct.sample type))
    (hlines : b.lines ++ after = SourceLine.ofText (s.sample type))
    (htokens : ∀ token ∈ [s.keyword, s.comment, s.delimiter, s.tableMark, s.blockEnd],
      OneLine token) :
    s.delimiter.getLast? ≠ some '\r' ∧
      b.body.map (·.text) ++ b.closing.text :: after.map (·.text) =
        [dropReturn s.blockOpen, s.sampleColumn type, s.sampleTableField,
          dropReturn s.blockEnd] := by
  have htexts : (b.lines ++ after).map (·.text) = (s.sampleLines type).map dropReturn := by
    rw [hlines, map_text_ofText, Spelling.sample,
      lines_flatMap_ended (oneLine_sampleLines hs htype hopen htokens)]
  simp only [BlockLines.lines, Spelling.sampleLines, List.append_assoc, List.map_append,
    List.map_cons, List.map_nil, List.cons_append, List.nil_append,
    Spelling.dropReturn_sampleHeader] at htexts
  -- the first line is a header, so no line stands in front of the block
  have hbefore : b.before = [] := by
    rcases hcase : b.before with _ | ⟨line, before⟩
    · rfl
    · rw [hcase, List.map_cons, List.cons_append] at htexts
      have hline : line.text = s.headed (dropReturn ('t' :: s.delimiter)) :=
        (List.cons.inj htexts).1
      have hheader := hb.before line (hcase ▸ List.mem_cons_self ..)
      rw [hline, Spelling.isHeader_headed] at hheader
      cases hheader
  rw [hbefore, List.map_nil, List.nil_append] at htexts
  obtain ⟨hheader, htexts⟩ := List.cons.inj htexts
  have hreturn : s.delimiter.getLast? ≠ some '\r' := by
    have hnames := hb.names
    rw [hheader] at hnames
    intro hlast
    refine getLast?_ne_return (hs.prefix_of_read?_headed hnames).length_le ?_
    rw [List.getLast?_cons, hlast]
    rfl
  rw [Spelling.dropReturn_sampleColumn hs.delimiter_ne_nil hreturn,
    Spelling.dropReturn_sampleTableField hs.delimiter_ne_nil hreturn] at htexts
  exact ⟨hreturn, htexts⟩

/-- **A spelling in which the file is read** is usable. -/
theorem isUsable_of_structs (hs : s.Valid) (htype : type ∈ s.datatypes) (hopen : OneLine s.blockOpen)
    (h : Source.structs s (s.sample type) = .ok [Struct.sample type]) : s.IsUsable type := by
  obtain ⟨⟨blocks, after⟩, hlines, hblocks, -⟩ := structs_eq_ok_iff.1 h
  obtain ⟨b, rfl, hb⟩ : ∃ b, blocks = [b] ∧ b.Declares s (Struct.sample type) := by
    cases hblocks with
    | cons hb hrest =>
      cases hrest
      exact ⟨_, rfl, hb⟩
  simp only [FileCut.lines, List.flatMap_singleton] at hlines
  -- every token stands within a line of the block, so the lines of the file are known
  have htokens := oneLine_tokens hs hb fun line hline =>
    oneLine_of_mem_ofText (hlines ▸ List.mem_append_left after hline)
  obtain ⟨hreturn, htexts⟩ := texts_of_declares hs htype hopen hb hlines htokens
  obtain ⟨column, tableField, hfields, hcolumn, htableField⟩ : ∃ column tableField,
      s.fieldLines b.body = [column, tableField] ∧
        Field.read s column = .ok (Field.sampleColumn type) ∧
        Field.read s tableField = .ok Field.sampleTableField := by
    have hreads := hb.fields
    generalize s.fieldLines b.body = lines at hreads
    rcases hreads with _ | ⟨hcolumn, hreads⟩
    rcases hreads with _ | ⟨htableField, hreads⟩
    cases hreads
    exact ⟨_, _, rfl, hcolumn, htableField⟩
  -- what remains is which of the lines behind the header is the opener
  have hother : tableField.text ≠ s.sampleColumn type := by
    intro htext
    have hname := Field.name_of_read_sampleColumn hs htext htableField
    exact absurd hname (by decide)
  have hopens : s.opensBlock (s.sampleColumn type) = true →
      s.opensBlock (dropReturn s.blockOpen) = true := by
    intro hopens
    rw [Spelling.opensBlock, beq_iff_eq] at hopens
    rw [Spelling.opensBlock_dropReturn_iff, ← hopens, trim_trim]
  obtain ⟨opener, hbody, -, ⟨hopener, hcolumnText, hfieldText, hclosingText⟩, hopens, hnoOpener,
    hnoOpener'⟩ := body_eq htexts hfields hother hopens
  have hblockOpen := Spelling.opensBlock_dropReturn_iff.1 hopens
  have hcloses := hb.closing.2
  rw [hclosingText] at hcloses
  obtain ⟨hendReturn, hendBlank⟩ := Spelling.closesBlock_dropReturn_iff.1 hcloses
  rw [Spelling.dropReturn_of_trim hblockOpen] at hopener
  rw [dropReturn_eq_self hendReturn] at hclosingText
  have hinner := hb.body
  simp only [hbody, List.forall_mem_cons, hopener, hcolumnText, hfieldText] at hinner
  obtain ⟨hmarkCut, hmark⟩ := (Field.read_sampleTableField_iff hs hfieldText).1 htableField
  have hnone : ∀ {p : Text → Prop}, ∀ t ∈ ([] : List Text), p t := fun _ ht =>
    absurd ht List.not_mem_nil
  refine
    { oneLine := htokens
      noReturn := ⟨hreturn, hendReturn⟩
      blockOpen := hblockOpen
      blockEnd := hendBlank
      noHeader := ?_
      noEnd := ?_
      noOpener := ?_
      typeCut := (Field.read_sampleColumn_iff hs htype hcolumnText).1 hcolumn
      markCut := hmarkCut
      mark := hmark }
  · simp only [List.forall_mem_cons]
    exact ⟨hinner.1.1, hinner.2.1.1, hinner.2.2.1.1, hclosingText ▸ hb.closing.1, hnone⟩
  · simp only [List.forall_mem_cons]
    exact ⟨hinner.1.2, hinner.2.1.2, hinner.2.2.1.2, hnone⟩
  · simp only [List.forall_mem_cons]
    exact ⟨hnoOpener, hnoOpener', hnone⟩

theorem declares_of_isUsable (hs : s.Valid) (htype : type ∈ s.datatypes) (h : s.IsUsable type)
    {header opener column tableField closing : SourceLine} (hheader : header.text = s.sampleHeader)
    (hopener : opener.text = s.blockOpen) (hcolumn : column.text = s.sampleColumn type)
    (hfield : tableField.text = s.sampleTableField) (hclosing : closing.text = s.blockEnd) :
    BlockLines.Declares s ⟨[], header, [opener, column, tableField], closing⟩
      (Struct.sample type) := by
  obtain ⟨hopenerHeader, hcolumnHeader, hfieldHeader, hclosingHeader⟩ :
      s.isHeader s.blockOpen = false ∧ s.isHeader (s.sampleColumn type) = false ∧
        s.isHeader s.sampleTableField = false ∧ s.isHeader s.blockEnd = false := by
    simpa using h.noHeader
  obtain ⟨hopenerEnd, hcolumnEnd, hfieldEnd⟩ : s.closesBlock s.blockOpen = false ∧
      s.closesBlock (s.sampleColumn type) = false ∧ s.closesBlock s.sampleTableField = false := by
    simpa using h.noEnd
  obtain ⟨hcolumnOpens, hfieldOpens⟩ : s.opensBlock (s.sampleColumn type) = false ∧
      s.opensBlock s.sampleTableField = false := by
    simpa using h.noOpener
  have hopens := Spelling.opensBlock_dropReturn_iff.2 h.blockOpen
  have hcloses := Spelling.closesBlock_dropReturn_iff.2 ⟨h.noReturn.2, h.blockEnd⟩
  rw [Spelling.dropReturn_of_trim h.blockOpen, ← hopener] at hopens
  rw [dropReturn_eq_self h.noReturn.2, ← hclosing] at hcloses
  rw [← hcolumn] at hcolumnOpens
  rw [← hfield] at hfieldOpens
  have hfields : s.fieldLines [opener, column, tableField] = [column, tableField] := by
    rw [Spelling.fieldLines_cons_of_opens hopens, Spelling.fieldLines_cons hcolumnOpens,
      Spelling.fieldLines_cons hfieldOpens]
    rfl
  refine ⟨fun _ hline => absurd hline List.not_mem_nil, ?_, ?_, ?_, ?_, ?_, ?_⟩
  · rw [hheader, Spelling.sampleHeader_eq, Spelling.isHeader_headed]
  · rw [hheader]
    exact hs.read?_sampleHeader
  · simp only [List.forall_mem_cons, hopener, hcolumn, hfield]
    exact ⟨⟨hopenerHeader, hopenerEnd⟩, ⟨hcolumnHeader, hcolumnEnd⟩, ⟨hfieldHeader, hfieldEnd⟩,
      fun _ hline => absurd hline List.not_mem_nil⟩
  · show List.Forall₂ _ (s.fieldLines [opener, column, tableField]) _
    rw [hfields]
    exact .cons ((Field.read_sampleColumn_iff hs htype hcolumn).2 h.typeCut)
      (.cons ((Field.read_sampleTableField_iff hs hfield).2 ⟨h.markCut, h.mark⟩) .nil)
  · exact Nat.le_refl 1
  · exact ⟨hclosing ▸ hclosingHeader, hcloses⟩

/-- **In a usable spelling the file is read.** -/
theorem structs_of_isUsable (hs : s.Valid) (htype : type ∈ s.datatypes) (hopen : OneLine s.blockOpen)
    (h : s.IsUsable type) : Source.structs s (s.sample type) = .ok [Struct.sample type] := by
  have hne := hs.delimiter_ne_nil
  have hheader : dropReturn s.sampleHeader = s.sampleHeader :=
    Spelling.dropReturn_delimit hne h.noReturn.1 _ "t"
  have htexts : (SourceLine.ofText (s.sample type)).map (·.text) = s.sampleLines type := by
    rw [map_text_ofText, Spelling.sample,
      lines_flatMap_ended (oneLine_sampleLines hs htype hopen h.oneLine), Spelling.sampleLines]
    simp only [List.map_cons, List.map_nil, hheader, Spelling.dropReturn_of_trim h.blockOpen,
      Spelling.dropReturn_sampleColumn hne h.noReturn.1,
      Spelling.dropReturn_sampleTableField hne h.noReturn.1, dropReturn_eq_self h.noReturn.2]
  obtain ⟨header, rest, hlines, hheader, htexts⟩ := List.map_eq_cons_iff.1 htexts
  obtain ⟨opener, rest, rfl, hopener, htexts⟩ := List.map_eq_cons_iff.1 htexts
  obtain ⟨column, rest, rfl, hcolumn, htexts⟩ := List.map_eq_cons_iff.1 htexts
  obtain ⟨tableField, rest, rfl, hfield, htexts⟩ := List.map_eq_cons_iff.1 htexts
  obtain ⟨closing, rest, rfl, hclosing, htexts⟩ := List.map_eq_cons_iff.1 htexts
  obtain rfl := List.map_eq_nil_iff.1 htexts
  have hblock := declares_of_isUsable hs htype h hheader hopener hcolumn hfield hclosing
  exact structs_eq_ok_iff.2 ⟨⟨[⟨[], header, [opener, column, tableField], closing⟩], []⟩,
    hlines.symm, .cons hblock .nil, fun _ hline => absurd hline List.not_mem_nil⟩

/-- **A valid spelling** reads the file as the struct exactly if it is usable. -/
theorem structs_sample_iff (hs : s.Valid) (htype : type ∈ s.datatypes) (hopen : '\n' ∉ s.blockOpen) :
    Source.structs s (s.sample type) = .ok [Struct.sample type] ↔ s.IsUsable type :=
  ⟨isUsable_of_structs hs htype hopen, structs_of_isUsable hs htype hopen⟩

/-- Words for tokens, and a column type that holds half of the delimiter. -/
def worded : Spelling where
  keyword := "entity"
  comment := "#"
  delimiter := "''"
  tableMark := "table name"
  datatypes := ["a'b"]
  blockOpen := "begin"
  blockEnd := "end"

theorem structs_sample_worded :
    worded.Valid ∧ ("a'b" : Text) ∈ worded.datatypes ∧ '\n' ∉ worded.blockOpen ∧
      Source.structs worded (worded.sample "a'b") = .ok [Struct.sample "a'b"] ∧
      worded.IsUsable "a'b" := by
  have hvalid : worded.Valid := by decide
  have htype : ("a'b" : Text) ∈ worded.datatypes := by decide
  have hopen : '\n' ∉ worded.blockOpen := by decide
  have hread : Source.structs worded (worded.sample "a'b") = .ok [Struct.sample "a'b"] := by
    decide +kernel
  exact ⟨hvalid, htype, hopen, hread, (structs_sample_iff hvalid htype hopen).1 hread⟩

/-- The default spelling, but for a blank behind the opener. -/
def spaced : Spelling where
  blockOpen := "\x7b "

/-- No line opens a block in this spelling, so the opener is taken for a field. -/
theorem structs_sample_spaced :
    spaced.Valid ∧ ("INTEGER" : Text) ∈ spaced.datatypes ∧
      Source.structs spaced (spaced.sample "INTEGER") = .error (.unreadable ⟨2, "\x7b "⟩) ∧
      Source.structs spaced (spaced.sample "INTEGER") ≠ .ok [Struct.sample "INTEGER"] := by
  have hread : Source.structs spaced (spaced.sample "INTEGER") =
      .error (.unreadable ⟨2, "\x7b "⟩) := by decide +kernel
  refine ⟨by decide, by decide, hread, ?_⟩
  rw [hread]
  exact fun h => by cases h

end Source

end TableBinding
