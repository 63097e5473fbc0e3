import TableBinding.Proofs.Annotation.CanonicalField
import TableBinding.Proofs.Annotation.Grammar
import TableBinding.Proofs.Annotation.SourceLines

/-!
# Canonical declaration files are read back

The structs of an accepted declaration file, written as a canonical declaration file, are read as
the same structs (`Source.structs_canonical`).

The shape of the argument: every canonical line is of the kind it was written as, whatever the
names in it are (`Field.canonicalLine_isMember`, `Struct.exists_block`), so that the lines of the
written file can be cut into one block for each struct (`Struct.exists_cut`); and the lines survive
because none of them holds a line feed or ends in a carriage return
(`Struct.canonicalLines_isLine`).
-/

namespace TableBinding

open Text

theorem Spelling.rewritable_default : ({} : Spelling).Rewritable '\x60' :=
  ⟨by decide, rfl, by decide, by decide, by decide, by decide⟩

/-- The text can be one line of a file: no line ending is part of it. -/
def Text.IsLine (t : Text) : Prop := '\n' ∉ t ∧ t.getLast? ≠ some '\r'

theorem Text.isLine_concat {t : Text} (h : '\n' ∉ t) : IsLine (t ++ ['\x60']) := by
  refine ⟨fun hmem => ?_, ?_⟩
  · rcases List.mem_append.1 hmem with hmem | hmem
    · exact h hmem
    · exact absurd hmem (by decide)
  · rw [List.getLast?_concat]
    decide

/-! ## Field lines -/

namespace Field

variable {f : Field}

theorem isGaps_indent : IsGaps [' ', ' ', ' ', ' '] := List.all_eq_true.1 rfl

theorem canonicalLine_eq (s : Spelling) (f : Field) :
    f.canonicalLine s = [' ', ' ', ' ', ' '] ++ (f.hostType ++ [' '] ++ f.name) ++ [] ++
      ';' :: ([' '] ++ f.canonicalAnnotation s) := by
  have hline : f.canonicalLine s = [' ', ' ', ' ', ' '] ++ f.hostType ++ [' '] ++ f.name ++
      [';', ' '] ++ f.canonicalAnnotation s := rfl
  rw [hline]
  simp only [List.append_assoc, List.nil_append, List.cons_append]

theorem exists_canonicalLine_eq (s : Spelling) (hf : IsHostType f.hostType) :
    ∃ c rest, f.canonicalLine s = [' ', ' ', ' ', ' '] ++ c :: rest ∧ isTypeChar c = true := by
  obtain ⟨hne, hchars, htight⟩ := hf.isTypeWords
  obtain ⟨c, t, ht⟩ := List.exists_cons_of_ne_nil hne
  refine ⟨c, t ++ ([' '] ++ f.name ++ ';' :: ([' '] ++ f.canonicalAnnotation s)), ?_, ?_⟩
  · rw [canonicalLine_eq, ht]
    simp only [List.append_assoc, List.nil_append, List.cons_append]
  · rw [ht] at hchars htight
    exact (hchars c (List.mem_cons_self ..)).resolve_right
      (Bool.eq_false_iff.1 (htight.head c rfl))

/-- **A canonical field line** is no header, closes no block and opens none, whatever its type. -/
theorem canonicalLine_isMember (hf : IsHostType f.hostType) :
    ({} : Spelling).isHeader (f.canonicalLine {}) = false ∧
      ({} : Spelling).closesBlock (f.canonicalLine {}) = false ∧
      ({} : Spelling).opensBlock (f.canonicalLine {}) = false := by
  obtain ⟨c, rest, hline, hc⟩ := exists_canonicalLine_eq {} hf
  have hblank : isBlank c = false := isBlank_eq_false_of_isTypeChar hc
  have htrim : trimStart (f.canonicalLine {}) = c :: rest := by
    have hindent := fun c hc => isBlank_of_isGap (isGaps_indent c hc)
    rw [hline, trimStart, List.dropWhile_append_of_pos hindent,
      List.dropWhile_cons_of_neg (Bool.eq_false_iff.1 hblank)]
  refine ⟨Bool.eq_false_iff.2 fun h => ?_, Bool.eq_false_iff.2 fun h => ?_,
    Bool.eq_false_iff.2 fun h => ?_⟩
  · obtain ⟨d, tail, hkeyword, -⟩ := Spelling.isHeader_iff.1 h
    rw [hline] at hkeyword
    exact absurd (List.cons.inj hkeyword).1 (by decide)
  · rw [Spelling.closesBlock, htrim, startsWith_iff] at h
    obtain ⟨tail, hend⟩ := h
    obtain ⟨rfl, -⟩ := List.cons.inj hend
    exact absurd hc (by decide)
  · rw [Spelling.opensBlock, beq_iff_eq, trim, htrim] at h
    have hopens : trimEnd (c :: rest) <+: c :: rest := List.rdropWhile_prefix isBlank _
    rw [h] at hopens
    obtain ⟨tail, hend⟩ := hopens
    obtain ⟨rfl, -⟩ := List.cons.inj hend
    exact absurd hc (by decide)

theorem canonicalLine_isLine {line : SourceLine} (h : read {} line = .ok f) :
    IsLine (f.canonicalLine {}) := by
  have hf := read_wellFormed h
  obtain ⟨-, hfeed, -⟩ := ofForm_canonicalForm Spelling.rewritable_default h
  have hannotation : f.canonicalAnnotation {} =
      ['/', '/', '\x60'] ++ f.canonicalOptions {} ++ ['\x60'] := rfl
  have hline : f.canonicalLine {} = [' ', ' ', ' ', ' '] ++ (f.hostType ++ [' '] ++ f.name) ++
      [';', ' ', '/', '/', '\x60'] ++ f.canonicalOptions {} ++ ['\x60'] := by
    rw [canonicalLine_eq, hannotation]
    simp only [List.append_assoc, List.cons_append, List.nil_append]
  rw [hline]
  refine isLine_concat fun hmem => ?_
  simp only [List.mem_append] at hmem
  rcases hmem with ((hindent | (hhost | hspace) | hname) | hopening) | hbody
  · exact absurd hindent (by decide)
  · exact (hf.hostType.isTypeWords.chars _ hhost).elim (by decide) (by decide)
  · exact absurd hspace (by decide)
  · exact absurd ((mem_isIdent hf.name).2 _ hname) (by decide)
  · exact absurd hopening (by decide)
  · exact hfeed hbody

end Field

/-! ## Structs -/

theorem exists_of_mem_forall₂ {α β : Type} {R : α → β → Prop} {as : List α} {bs : List β}
    (h : List.Forall₂ R as bs) {b : β} (hb : b ∈ bs) : ∃ a ∈ as, R a b := by
  induction h with
  | nil => exact absurd hb List.not_mem_nil
  | cons hab _ ih =>
    rcases List.mem_cons.1 hb with rfl | hb
    · exact ⟨_, List.mem_cons_self .., hab⟩
    · obtain ⟨a, ha, hab⟩ := ih hb
      exact ⟨a, List.mem_cons_of_mem _ ha, hab⟩

namespace Struct

/-- What a struct has that was read with the spelling. -/
structure IsRead (s : Spelling) (d : Struct) : Prop where
  typeName : d.typeName ≠ [] ∧ ∀ c ∈ d.typeName, isTypeChar c = true
  tableName : d.tableName ≠ [] ∧ ∀ c ∈ d.tableName, isIdentRest c = true
  tableField : d.fields.countP (·.namesTable) ≤ 1
  fields : ∀ f ∈ d.fields, ∃ line, Field.read s line = .ok f

theorem IsRead.wellFormed {s : Spelling} {d : Struct} (h : d.IsRead s) : d.WellFormed s := by
  refine ⟨h.typeName, h.tableName, h.tableField, fun f hf => ?_⟩
  obtain ⟨line, hread⟩ := h.fields f hf
  exact Field.read_wellFormed hread

theorem isRead_of_declares {s : Spelling} {b : BlockLines} {d : Struct} (h : b.Declares s d) :
    d.IsRead s := by
  obtain ⟨htype, htable⟩ := HeaderForm.names_of_read? h.names
  refine ⟨htype, htable, h.tableField, fun f hf => ?_⟩
  obtain ⟨line, -, hread⟩ := exists_of_mem_forall₂ h.fields hf
  exact ⟨line, hread⟩

variable {d : Struct}

/-- The line that opens the block of the struct. -/
def canonicalHeader (d : Struct) : Text :=
  ({} : Spelling).keyword ++ ' ' :: (d.typeName ++ ' ' :: (({} : Spelling).opening ++
    (d.tableName ++ ({} : Spelling).delimiter)))

theorem canonicalLines_eq (d : Struct) :
    d.canonicalLines {} =
      d.canonicalHeader :: ['\x7b'] ::
        (d.fields.map (Field.canonicalLine {}) ++ [['\x7d', ';']]) := by
  have hspace : (" " : Text) = [' '] := rfl
  unfold canonicalLines canonicalHeader
  simp only [hspace, Spelling.delimit, Spelling.opening, List.append_assoc,
    List.cons_append, List.nil_append]
  rfl

theorem canonicalHeader_isLine (hd : d.IsRead {}) : IsLine d.canonicalHeader := by
  have hheader : d.canonicalHeader = ['s', 't', 'r', 'u', 'c', 't', ' '] ++ d.typeName ++
      [' ', '/', '/', '\x60'] ++ d.tableName ++ ['\x60'] := by
    unfold canonicalHeader
    simp only [List.append_assoc, List.cons_append, List.nil_append]
    rfl
  rw [hheader]
  refine isLine_concat fun hmem => ?_
  simp only [List.mem_append] at hmem
  rcases hmem with ((hkeyword | htype) | hopening) | htable
  · exact absurd hkeyword (by decide)
  · exact absurd (hd.typeName.2 _ htype) (by decide)
  · exact absurd hopening (by decide)
  · exact absurd (hd.tableName.2 _ htable) (by decide)

theorem canonicalLines_isLine (hd : d.IsRead {}) : ∀ l ∈ d.canonicalLines {}, IsLine l := by
  intro l hl
  rw [canonicalLines_eq] at hl
  simp only [List.mem_cons, List.mem_append, List.mem_map, List.not_mem_nil, or_false] at hl
  rcases hl with rfl | rfl | ⟨f, hf, rfl⟩ | rfl
  · exact canonicalHeader_isLine hd
  · exact ⟨by decide, by decide⟩
  · obtain ⟨line, hread⟩ := hd.fields f hf
    exact Field.canonicalLine_isLine hread
  · exact ⟨by decide, by decide⟩

/-- The canonical lines of fields that were read declare these fields. -/
theorem forall₂_read_of_map_eq {fields : List Field} {lines : List SourceLine}
    (hfields : ∀ f ∈ fields, ∃ line, Field.read {} line = .ok f)
    (h : lines.map (·.text) = fields.map (Field.canonicalLine {})) :
    List.Forall₂ (fun line f => Field.read {} line = .ok f) lines fields := by
  induction fields generalizing lines with
  | nil =>
    obtain rfl := List.map_eq_nil_iff.1 h
    exact .nil
  | cons f fields ih =>
    obtain ⟨line, rest, rfl, htext, hrest⟩ := List.map_eq_cons_iff.1 h
    rw [List.forall_mem_cons] at hfields
    obtain ⟨source, hread⟩ := hfields.1
    refine .cons ?_ (ih hfields.2 hrest)
    exact Field.read_canonical Spelling.rewritable_default hread Field.isGaps_indent isGaps_space
      (htext.trans (Field.canonicalLine_eq {} f))

/-- **The canonical lines of a struct form a block** that declares the struct. -/
theorem exists_block (hd : d.IsRead {}) {lines : List SourceLine}
    (h : lines.map (·.text) = d.canonicalLines {}) :
    ∃ b : BlockLines, b.lines = lines ∧ b.Declares {} d := by
  rw [canonicalLines_eq] at h
  obtain ⟨header, rest, rfl, hheader, h⟩ := List.map_eq_cons_iff.1 h
  obtain ⟨opener, rest, rfl, hopener, h⟩ := List.map_eq_cons_iff.1 h
  obtain ⟨members, rest, rfl, hmembers, h⟩ := List.map_eq_append_iff.1 h
  obtain ⟨closing, rest, rfl, hclosing, h⟩ := List.map_eq_cons_iff.1 h
  obtain rfl := List.map_eq_nil_iff.1 h
  have hmember : ∀ line ∈ members, ({} : Spelling).isHeader line.text = false ∧
      ({} : Spelling).closesBlock line.text = false ∧
      ({} : Spelling).opensBlock line.text = false := by
    intro line hline
    have hmem : line.text ∈ d.fields.map (Field.canonicalLine {}) :=
      hmembers ▸ List.mem_map_of_mem hline
    obtain ⟨f, hf, htext⟩ := List.mem_map.1 hmem
    obtain ⟨source, hread⟩ := hd.fields f hf
    rw [← htext]
    exact Field.canonicalLine_isMember (Field.read_wellFormed hread).hostType
  have hopens : ({} : Spelling).opensBlock opener.text = true := by
    rw [hopener]
    decide
  have hfields : ({} : Spelling).fieldLines (opener :: members) = members := by
    rw [Spelling.fieldLines_cons_of_opens hopens]
    refine List.filter_eq_self.2 fun line hline => ?_
    rw [(hmember line hline).2.2]
    rfl
  refine ⟨⟨[], header, opener :: members, closing⟩, rfl,
    ⟨fun _ h => absurd h List.not_mem_nil, ?_, ?_, ?_, ?_, hd.tableField, ?_⟩⟩
  · show ({} : Spelling).isHeader header.text = true
    rw [hheader]
    exact Spelling.isHeader_iff.2 ⟨' ', _, rfl, by decide⟩
  · show HeaderForm.read? {} header.text = _
    rw [hheader]
    exact @HeaderForm.read?_append {} ⟨d.typeName, d.tableName⟩ Spelling.rewritable_default.valid
      hd.typeName.1 hd.typeName.2 hd.tableName.1 hd.tableName.2
  · refine List.forall_mem_cons.2 ⟨?_, fun line hline => ?_⟩
    · rw [hopener]
      decide
    · exact ⟨(hmember line hline).1, (hmember line hline).2.1⟩
  · show List.Forall₂ _ (({} : Spelling).fieldLines (opener :: members)) d.fields
    rw [hfields]
    exact forall₂_read_of_map_eq hd.fields hmembers
  · show ({} : Spelling).isHeader closing.text = false ∧ _
    rw [hclosing]
    decide

/-- The canonical lines of structs can be cut into blocks that declare the structs. -/
theorem exists_cut {structs : List Struct} (hstructs : ∀ d ∈ structs, d.IsRead {})
    {lines : List SourceLine}
    (h : lines.map (·.text) = structs.flatMap (canonicalLines {})) :
    ∃ cut : FileCut, cut.lines = lines ∧ cut.Declares {} structs := by
  induction structs generalizing lines with
  | nil =>
    obtain rfl := List.map_eq_nil_iff.1 h
    exact ⟨⟨[], []⟩, rfl, .nil, fun _ h => absurd h List.not_mem_nil⟩
  | cons d structs ih =>
    rw [List.forall_mem_cons] at hstructs
    rw [List.flatMap_cons] at h
    obtain ⟨front, rest, rfl, hfront, hrest⟩ := List.map_eq_append_iff.1 h
    obtain ⟨b, rfl, hb⟩ := exists_block hstructs.1 hfront
    obtain ⟨cut, rfl, hblocks, hafter⟩ := ih hstructs.2 hrest
    refine ⟨⟨b :: cut.blocks, cut.after⟩, ?_, .cons hb hblocks, hafter⟩
    rw [FileCut.lines, List.flatMap_cons, List.append_assoc, FileCut.lines]

end Struct

/-! ## Files -/

namespace Source

theorem isRead_of_structs {s : Spelling} {source : Text} {structs : List Struct}
    (h : Source.structs s source = .ok structs) : ∀ d ∈ structs, d.IsRead s := by
  obtain ⟨cut, -, hcut⟩ := structs_eq_ok_iff.1 h
  intro d hd
  obtain ⟨b, -, hb⟩ := exists_of_mem_forall₂ hcut.blocks hd
  exact Struct.isRead_of_declares hb

/-- **What was read, written canonically, is read again.** -/
theorem structs_canonical {source : Text} {structs : List Struct}
    (h : Source.structs {} source = .ok structs) :
    Source.structs {} (Source.canonical {} structs) = .ok structs := by
  have hstructs := isRead_of_structs h
  have hlines : lines (Source.canonical {} structs) =
      structs.flatMap (Struct.canonicalLines {}) := by
    refine lines_ended fun l hl => ?_
    obtain ⟨d, hd, hl⟩ := List.mem_flatMap.1 hl
    exact Struct.canonicalLines_isLine (hstructs d hd) l hl
  refine structs_eq_ok_iff.2 (Struct.exists_cut hstructs ?_)
  rw [map_text_ofText, hlines]

/-- A file with two structs, in a spelling of its lines that is not the canonical one. -/
def shop : Text :=
  [("// int x;" : String), "struct  shop::Order //\x60orders\x60 x", " \x7b",
    "\tstruct  Note note ;//\x60\x60", "QString table; //\x60x,ZX_TABLENAME\x60",
    "unsigned \t int id; //\x60PK,, INTEGER ,é,NULL,NOT  NULL\x60", "\x7d; // end",
    "struct T //\x60t\x60", " \x7d;"].flatMap fun line => line.toList ++ ['\r', '\n']

def shopStructs : List Struct :=
  [{ typeName := "shop::Order"
     tableName := "orders"
     fields :=
      [{ hostType := "struct Note", name := "note" },
        { hostType := "QString", name := "table", namesTable := true },
        { hostType := "unsigned int", name := "id", persisted := true, columnType := "INTEGER",
          primaryKey := true, extras := ["é"] }] },
    { typeName := "T", tableName := "t" }]

theorem structs_canonical_shop :
    Source.structs {} shop = .ok shopStructs ∧
      Source.structs {} (Source.canonical {} shopStructs) = .ok shopStructs := by
  have hread : Source.structs {} shop = .ok shopStructs := by decide +kernel
  exact ⟨hread, structs_canonical hread⟩

end Source

end TableBinding
