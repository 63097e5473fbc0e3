import TableBinding.Proofs.Annotation.WellFormed

/-!
# The grammar of header lines

A header line is the keyword, gaps, a type name, gaps, and an annotation that begins with a table
name (`HeaderCut`). Where the comment mark or the delimiter are spelled with the characters of names,
one line has several cuts; the names that are read are those of the cut with the longest type name
and, with that type name, the longest table name (`HeaderCut.IsLongest`).

Three readers look at a header, and they agree (`Spelling.headers_classified`). A line with a cut
begins like a header and names a type. A line that begins like a header either opens the struct of
its longest cut, or has no cut and is reported with the name that it lacks: the type name exactly if
what follows the keyword and its gaps is no character of a type name.

The shape of the argument: two cuts of one line have the same gaps behind the keyword, and if their
type names agree, the same gaps behind those (`HeaderCut.align`, `HeaderCut.align_table`). They can
differ in the lengths of the two names alone, and the search finds the longest of each.
-/

namespace TableBinding

open Text

/-- A header line with all its boundaries. -/
@[ext]
structure HeaderCut (s : Spelling) (line : Text) where
  before : Text
  typeName : Text
  between : Text
  tableName : Text
  rest : Text
  line_eq : line = s.keyword ++ before ++ typeName ++ between ++ s.comment ++ s.delimiter ++
    tableName ++ s.delimiter ++ rest
  before_ne_nil : before ≠ []
  before_gaps : IsGaps before
  typeName_ne_nil : typeName ≠ []
  typeName_chars : ∀ c ∈ typeName, isTypeChar c = true
  between_gaps : IsGaps between
  tableName_ne_nil : tableName ≠ []
  tableName_chars : ∀ c ∈ tableName, isIdentRest c = true

/-! ## What is read of a header -/

namespace Spelling

variable {s : Spelling} {line body t name : Text}

theorem headerBody?_append {gaps : Text} (hne : gaps ≠ []) (hgaps : IsGaps gaps)
    (hbody : ∀ c ∈ body.head?, isGap c = false) :
    s.headerBody? (s.keyword ++ (gaps ++ body)) = some body := by
  have hheader : s.isHeader (s.keyword ++ (gaps ++ body)) = true := by
    obtain ⟨c, gaps, rfl⟩ := List.exists_cons_of_ne_nil hne
    exact isHeader_iff.2 ⟨c, gaps ++ body, rfl, hgaps c (List.mem_cons_self ..)⟩
  rw [headerBody?, if_pos hheader, after?_append, Option.map_some, dropGaps_append hgaps,
    dropGaps_eq_self hbody]

/-- What follows the keyword of a line and the gaps behind it. -/
def behindKeyword (s : Spelling) (line : Text) : Text := dropGaps (line.drop s.keyword.length)

theorem headerBody?_of_isHeader (h : s.isHeader line = true) :
    s.headerBody? line = some (s.behindKeyword line) := by
  obtain ⟨c, rest, rfl, -⟩ := isHeader_iff.1 h
  rw [headerBody?, if_pos h, after?_append, Option.map_some, behindKeyword, List.drop_left]

theorem exists_of_headerBody? (h : s.headerBody? line = some body) :
    s.isHeader line = true ∧ ∃ gaps, line = s.keyword ++ (gaps ++ body) ∧ gaps ≠ [] ∧ IsGaps gaps := by
  by_cases hheader : s.isHeader line = true
  · refine ⟨hheader, ?_⟩
    rw [headerBody?_of_isHeader hheader] at h
    cases h
    obtain ⟨c, rest, rfl, hc⟩ := isHeader_iff.1 hheader
    obtain ⟨gaps, hcut, hgaps, hhead⟩ := exists_eq_append_dropGaps (c :: rest)
    rw [behindKeyword, List.drop_left]
    refine ⟨gaps, congrArg _ hcut, ?_, hgaps⟩
    rintro rfl
    rw [List.nil_append] at hcut
    rw [← hcut] at hhead
    exact absurd hc (Bool.eq_false_iff.1 (hhead c rfl))
  · rw [headerBody?, if_neg hheader] at h
    cases h

theorem namesType_iff (h : s.isHeader line = true) :
    s.namesType line = true ↔ ∃ c ∈ (s.behindKeyword line).head?, isTypeChar c = true := by
  unfold namesType
  rw [headerBody?_of_isHeader h]
  cases s.behindKeyword line <;> simp

/-- The text begins with the name and the delimiter. -/
structure BeginsTable (s : Spelling) (t name : Text) : Prop where
  ne_nil : name ≠ []
  chars : ∀ c ∈ name, isIdentRest c = true
  fits : name ++ s.delimiter <+: t

theorem tableNameAt?_longest (h : s.tableNameAt? t = some name) :
    s.BeginsTable t name ∧ ∀ other, s.BeginsTable t other → other.length ≤ name.length := by
  obtain ⟨hne, hchars⟩ := tableNameAt?_of_some h
  obtain ⟨hmap, -⟩ := Option.filter_eq_some_iff.1 h
  obtain ⟨⟨run, tail⟩, hfound, rfl⟩ := Option.map_eq_some_iff.1 hmap
  obtain ⟨-, ⟨rest, rfl, hrest⟩, hlongest⟩ := isLongestRun_of_behindRun? hfound
  refine ⟨⟨hne, hchars, ?_⟩, ?_⟩
  · rw [after?_eq_some_iff.1 hrest, ← List.append_assoc]
    exact List.prefix_append _ tail
  · rintro other ⟨-, hother, ⟨u, hu⟩⟩
    rw [List.append_assoc] at hu
    apply hlongest other (s.delimiter ++ u) hu.symm hother
    rw [after?_append]
    exact Option.some_ne_none u

theorem tableNameAt?_ne_none (h : s.BeginsTable t name) : s.tableNameAt? t ≠ none := by
  obtain ⟨hne, hchars, ⟨u, hu⟩⟩ := h
  rw [List.append_assoc] at hu
  have hread : after? s.delimiter (s.delimiter ++ u) ≠ none := by
    rw [after?_append]
    exact Option.some_ne_none u
  obtain ⟨⟨run, tail⟩, hfound⟩ :=
    Option.ne_none_iff_exists'.1 (behindRun?_ne_none hu.symm hchars hread)
  have hlength := (isLongestRun_of_behindRun? hfound).longest name _ hu.symm hchars hread
  have hrun : run ≠ [] := by
    rintro rfl
    exact hne (List.eq_nil_of_length_eq_zero (Nat.le_zero.1 hlength))
  unfold tableNameAt?
  rw [hfound, Option.map_some, Option.filter_some, if_pos (by simpa using hrun)]
  exact Option.some_ne_none run

end Spelling

namespace HeaderCut

variable {s : Spelling} {line : Text}

/-- The names of a cut. -/
def form (cut : HeaderCut s line) : HeaderForm :=
  { typeName := cut.typeName, tableName := cut.tableName }

/-- What the line holds from its table name on. -/
def table (cut : HeaderCut s line) : Text := cut.tableName ++ (s.delimiter ++ cut.rest)

/-- What the line holds behind its type name. -/
def tail (cut : HeaderCut s line) : Text := cut.between ++ (s.opening ++ cut.table)

theorem line_eq_append (cut : HeaderCut s line) :
    line = s.keyword ++ (cut.before ++ (cut.typeName ++ cut.tail)) := by
  have h := cut.line_eq
  simp only [List.append_assoc] at h
  simp only [tail, table, Spelling.opening, List.append_assoc]
  exact h

theorem head_typeName (cut : HeaderCut s line) :
    ∀ c ∈ (cut.typeName ++ cut.tail).head?, isGap c = false := by
  intro c hc
  rw [List.head?_append_of_ne_nil _ cut.typeName_ne_nil] at hc
  exact isGap_eq_false_of_isTypeChar (cut.typeName_chars c (List.mem_of_head? hc))

theorem headerBody?_eq (cut : HeaderCut s line) :
    s.headerBody? line = some (cut.typeName ++ cut.tail) := by
  refine (congrArg s.headerBody? cut.line_eq_append).trans ?_
  exact Spelling.headerBody?_append cut.before_ne_nil cut.before_gaps cut.head_typeName

/-- Two cuts have the same gaps behind the keyword. -/
theorem align (a b : HeaderCut s line) :
    a.before = b.before ∧ a.typeName ++ a.tail = b.typeName ++ b.tail := by
  have h := a.line_eq_append.symm.trans b.line_eq_append
  exact IsGaps.append_inj a.before_gaps b.before_gaps a.head_typeName b.head_typeName
    (List.append_cancel_left h)

/-- Two cuts with the same type name have the same gaps behind it. -/
theorem align_table (hs : s.Valid) {a b : HeaderCut s line} (h : a.typeName = b.typeName) :
    a.between = b.between ∧ a.table = b.table := by
  have hbody := (align a b).2
  rw [h] at hbody
  exact hs.opening_inj a.between_gaps b.between_gaps (List.append_cancel_left hbody)

theorem beginsTable (cut : HeaderCut s line) : s.BeginsTable cut.table cut.tableName := by
  refine ⟨cut.tableName_ne_nil, cut.tableName_chars, cut.rest, ?_⟩
  rw [table, List.append_assoc]

theorem tableAnnotationAt?_ne_none (hs : s.Valid) (cut : HeaderCut s line) :
    s.tableAnnotationAt? cut.tail ≠ none := by
  obtain ⟨name, hname⟩ :=
    Option.ne_none_iff_exists'.1 (Spelling.tableNameAt?_ne_none cut.beginsTable)
  have h : s.tableAnnotationAt? cut.tail = some name := hs.behindOpening cut.between_gaps hname
  rw [h]
  exact Option.some_ne_none name

/-! ## The longest cut -/

/-- No cut of the line has a longer type name, and none with the same type name has a longer table
name. -/
structure IsLongest (cut : HeaderCut s line) : Prop where
  typeName : ∀ other : HeaderCut s line, other.typeName.length ≤ cut.typeName.length
  tableName : ∀ other : HeaderCut s line, other.typeName = cut.typeName →
    other.tableName.length ≤ cut.tableName.length

theorem IsLongest.unique (hs : s.Valid) {a b : HeaderCut s line} (ha : a.IsLongest)
    (hb : b.IsLongest) : a = b := by
  obtain ⟨hbefore, hbody⟩ := align a b
  have htypeLength := Nat.le_antisymm (hb.typeName a) (ha.typeName b)
  have htype : a.typeName = b.typeName := (List.append_inj hbody htypeLength).1
  obtain ⟨hbetween, htable⟩ := align_table hs htype
  have htableLength := Nat.le_antisymm (hb.tableName a htype) (ha.tableName b htype.symm)
  obtain ⟨hname, hrest⟩ := List.append_inj htable htableLength
  exact HeaderCut.ext hbefore htype hbetween hname (List.append_cancel_left hrest)

/-- A line with a cut is read. -/
theorem read?_ne_none (hs : s.Valid) (cut : HeaderCut s line) : HeaderForm.read? s line ≠ none := by
  have hread := cut.tableAnnotationAt?_ne_none hs
  obtain ⟨⟨run, name⟩, hfound⟩ :=
    Option.ne_none_iff_exists'.1 (behindRun?_ne_none rfl cut.typeName_chars hread)
  have hlength := (isLongestRun_of_behindRun? hfound).longest _ _ rfl cut.typeName_chars hread
  have hrun : run ≠ [] := by
    rintro rfl
    exact cut.typeName_ne_nil (List.eq_nil_of_length_eq_zero (Nat.le_zero.1 hlength))
  unfold HeaderForm.read?
  rw [cut.headerBody?_eq, Option.bind_some, hfound, Option.map_some, Option.filter_some,
    if_pos (by simpa using hrun)]
  exact Option.some_ne_none _

/-- What is read of a line are the names of its longest cut. -/
theorem exists_of_read? (hs : s.Valid) {form : HeaderForm} (h : HeaderForm.read? s line = some form) :
    ∃ cut : HeaderCut s line, cut.form = form ∧ cut.IsLongest := by
  obtain ⟨⟨hne, hchars⟩, hne', hchars'⟩ := HeaderForm.names_of_read? h
  obtain ⟨body, hbody, h⟩ := Option.bind_eq_some_iff.1 h
  obtain ⟨hmap, -⟩ := Option.filter_eq_some_iff.1 h
  obtain ⟨⟨typeName, tableName⟩, hfound, rfl⟩ := Option.map_eq_some_iff.1 hmap
  obtain ⟨-, ⟨tail, rfl, htail⟩, hlongest⟩ := isLongestRun_of_behindRun? hfound
  obtain ⟨-, before, hline, hbefore_ne, hbefore⟩ := Spelling.exists_of_headerBody? hbody
  obtain ⟨between, table, rfl, hbetween, hname⟩ := Spelling.exists_of_behindOpening htail
  obtain ⟨⟨-, -, rest, htable⟩, hlongest'⟩ := Spelling.tableNameAt?_longest hname
  let cut : HeaderCut s line :=
    { before, typeName, between, tableName, rest, before_ne_nil := hbefore_ne,
      before_gaps := hbefore, typeName_ne_nil := hne, typeName_chars := hchars,
      between_gaps := hbetween, tableName_ne_nil := hne', tableName_chars := hchars',
      line_eq := by
        rw [hline, ← htable]
        simp only [Spelling.opening, List.append_assoc] }
  have hcutTable : cut.table = table := by
    rw [← htable, List.append_assoc]
    rfl
  have hcutTail : cut.tail = between ++ (s.opening ++ table) := by
    rw [← hcutTable]
    rfl
  -- another cut of the line is one of the runs that the searches have compared
  refine ⟨cut, rfl, ⟨fun other => ?_, fun other htype => ?_⟩⟩
  · refine hlongest _ other.tail ?_ other.typeName_chars (other.tableAnnotationAt?_ne_none hs)
    rw [← hcutTail]
    exact (align cut other).2
  · apply hlongest'
    rw [← hcutTable, ← (align_table hs htype).2]
    exact other.beginsTable

theorem read?_eq_some_iff (hs : s.Valid) {form : HeaderForm} :
    HeaderForm.read? s line = some form ↔
      ∃ cut : HeaderCut s line, cut.form = form ∧ cut.IsLongest := by
  refine ⟨exists_of_read? hs, ?_⟩
  rintro ⟨cut, rfl, hcut⟩
  obtain ⟨form, hform⟩ := Option.ne_none_iff_exists'.1 (cut.read?_ne_none hs)
  obtain ⟨longest, rfl, hlongest⟩ := exists_of_read? hs hform
  rw [hform, hlongest.unique hs hcut]

end HeaderCut

/-! ## Headers in front of a block -/

namespace Spelling

variable {s : Spelling} {line : Text}

/-- A line with a cut begins like a header and names a type. -/
theorem namesType_of_cut (cut : HeaderCut s line) :
    s.isHeader line = true ∧ s.namesType line = true := by
  refine ⟨(exists_of_headerBody? cut.headerBody?_eq).1, ?_⟩
  have hchars := cut.typeName_chars
  unfold namesType
  rw [cut.headerBody?_eq]
  obtain ⟨c, t, ht⟩ := List.exists_cons_of_ne_nil cut.typeName_ne_nil
  rw [ht] at hchars ⊢
  exact hchars c (List.mem_cons_self ..)

/-- **Headers are classified exactly, and none is skipped.** -/
theorem headers_classified (hs : s.Valid) (line : Text) :
    (∀ form, HeaderForm.read? s line = some form ↔
      ∃ cut : HeaderCut s line, cut.form = form ∧ cut.IsLongest) ∧
    (HeaderForm.read? s line ≠ none → s.isHeader line = true ∧ s.namesType line = true) ∧
    (s.isHeader line = true → ∀ number,
      (∃ cut : HeaderCut s line, cut.IsLongest ∧
        Block.feed s { number, text := line } .outside = .ok (.inside
          { typeName := cut.typeName, tableName := cut.tableName, fields := [] })) ∨
      IsEmpty (HeaderCut s line) ∧ ∃ part,
        Block.feed s { number, text := line } .outside =
          .error (.incompleteHeader { number, text := line } part) ∧
        (part = .typeName ↔ ∀ c ∈ (s.behindKeyword line).head?, isTypeChar c = false) ∧
        (part = .tableName ↔ ∃ c ∈ (s.behindKeyword line).head?, isTypeChar c = true)) := by
  refine ⟨fun form => HeaderCut.read?_eq_some_iff hs, fun hread => ?_, fun hheader number => ?_⟩
  · obtain ⟨form, hform⟩ := Option.ne_none_iff_exists'.1 hread
    obtain ⟨cut, -, -⟩ := HeaderCut.exists_of_read? hs hform
    exact namesType_of_cut cut
  · have hfeed : Block.feed s { number, text := line } .outside =
        (Struct.ofHeader s { number, text := line }).map .inside := if_pos hheader
    rw [hfeed]
    cases hread : HeaderForm.read? s line with
    | some form =>
      left
      obtain ⟨cut, rfl, hcut⟩ := HeaderCut.exists_of_read? hs hread
      refine ⟨cut, hcut, ?_⟩
      simp only [Struct.ofHeader, hread]
      rfl
    | none =>
      right
      refine ⟨⟨fun cut => cut.read?_ne_none hs hread⟩, ?_⟩
      have hnames := namesType_iff hheader
      by_cases htype : s.namesType line = true
      · obtain ⟨c, hc, hchar⟩ := hnames.1 htype
        refine ⟨.tableName, ?_, iff_of_false (by decide) fun hall => ?_,
          iff_of_true rfl ⟨c, hc, hchar⟩⟩
        · simp only [Struct.ofHeader, hread, htype, if_true]
          rfl
        · rw [hall c hc] at hchar
          cases hchar
      · refine ⟨.typeName, ?_, iff_of_true rfl fun c hc => Bool.eq_false_iff.2 fun hchar => ?_,
          iff_of_false (by decide) fun hsome => htype (hnames.2 hsome)⟩
        · simp only [Struct.ofHeader, hread, htype, Bool.false_eq_true, if_false]
          rfl
        · exact htype (hnames.2 ⟨c, hc, hchar⟩)

/-- A comment mark and a delimiter that are spelled with the characters of names. -/
def nameLike : Spelling := { comment := "xx", delimiter := "_" }

theorem headers_classified_nameLike :
    nameLike.Valid ∧
    (∃ cut : HeaderCut nameLike "struct\t Axxxxx_a_b_ c_",
      cut.form = { typeName := "Axxx", tableName := "a_b" } ∧ cut.IsLongest) ∧
    nameLike.namesType "struct\t Axxxxx_a_b_ c_" = true ∧
    Block.feed nameLike { number := 3, text := "struct Axx_" } .outside =
      .error (.incompleteHeader { number := 3, text := "struct Axx_" } .tableName) := by
  have hvalid : nameLike.Valid := by decide
  have hread : HeaderForm.read? nameLike "struct\t Axxxxx_a_b_ c_" =
      some { typeName := "Axxx", tableName := "a_b" } := by decide +kernel
  have hnone : HeaderForm.read? nameLike "struct Axx_" = none := by decide +kernel
  obtain ⟨hcut, hnames, -⟩ := headers_classified hvalid "struct\t Axxxxx_a_b_ c_"
  obtain ⟨hcut', -, hfeed⟩ := headers_classified hvalid "struct Axx_"
  refine ⟨hvalid, (hcut _).1 hread, (hnames (hread ▸ Option.some_ne_none _)).2, ?_⟩
  rcases hfeed (by decide +kernel) 3 with ⟨cut, hlongest, -⟩ | ⟨-, part, hpart, -, htable⟩
  · have hread' := (hcut' cut.form).2 ⟨cut, rfl, hlongest⟩
    rw [hnone] at hread'
    cases hread'
  · rw [hpart, htable.2 ⟨'A', by decide +kernel, by decide⟩]

end Spelling

end TableBinding
