import TableBinding.Annotation.FieldLine
import TableBinding.Proofs.Annotation.Options

/-!
# Options by their class

What a column takes from the body of its annotation is settled class by class: there has to be a
column type, the last one counts, the last nullability counts, one key option is enough, and the
options of no other class are kept in order. How the options of different classes are mixed, and how
many gaps and empty pieces stand between the commas, does not matter (`ColumnOptions.read_by_kind`).

The shape of the argument: an option keeps its text in whatever class it is (`Token.ofText_cases`),
so the classes of the tokens are the options of that class (`Text.optionsOf`), and `ofTokens_eq`
says what is taken from each. Nothing is asked of the spelling: a column type may be spelled like a
keyword, and an empty one is never met because no option is empty.
-/

namespace TableBinding

open Text

/-! ## The options of a class -/

inductive Token.Kind where
  | datatype
  | nullability
  | primaryKey
  | extra
  deriving DecidableEq, Repr

def Token.kind : Token → Kind
  | datatype _ => .datatype
  | nullability _ => .nullability
  | primaryKey => .primaryKey
  | extra _ => .extra

/-- The options of a body that are of the class, in order. -/
def Text.optionsOf (s : Spelling) (kind : Token.Kind) (body : Text) : List Text :=
  (options body).filter fun t => (Token.ofText s t).kind = kind

namespace Token

variable {s : Spelling} {t : Text}

theorem ofText_cases (s : Spelling) (t : Text) :
    ofText s t = datatype t ∨ ofText s t = nullability (t == "NULL") ∨
      ofText s t = primaryKey ∨ ofText s t = extra t := by
  unfold ofText
  split
  · exact .inl rfl
  · split
    · exact .inr (.inl rfl)
    · split
      · exact .inr (.inr (.inl rfl))
      · exact .inr (.inr (.inr rfl))

/-- What a reader of one class takes from an option: a value of its text, if that is its class. -/
theorem filterMap_ofText {α : Type} {take? : Token → Option α} {value : Text → α} {kind : Kind}
    (h : ∀ t, take? (ofText s t) = if (ofText s t).kind = kind then some (value t) else none)
    (ts : List Text) :
    (ts.map (ofText s)).filterMap take? =
      (ts.filter fun t => (ofText s t).kind = kind).map value := by
  induction ts with
  | nil => rfl
  | cons t ts ih =>
    rw [List.map_cons, List.filterMap_cons, h t]
    by_cases hkind : (ofText s t).kind = kind
    · simp [hkind, ih]
    · simp [hkind, ih]

theorem datatype?_ofText (t : Text) :
    (ofText s t).datatype? = if (ofText s t).kind = .datatype then some t else none := by
  rcases ofText_cases s t with h | h | h | h <;> rw [h] <;> rfl

theorem nullability?_ofText (t : Text) :
    (ofText s t).nullability? =
      if (ofText s t).kind = .nullability then some (t == "NULL") else none := by
  rcases ofText_cases s t with h | h | h | h <;> rw [h] <;> rfl

theorem extra?_ofText (t : Text) :
    (ofText s t).extra? = if (ofText s t).kind = .extra then some t else none := by
  rcases ofText_cases s t with h | h | h | h <;> rw [h] <;> rfl

theorem isPrimaryKey_eq (token : Token) :
    token.isPrimaryKey = decide (token.kind = .primaryKey) := by
  cases token <;> rfl

end Token

namespace ColumnOptions

variable {s : Spelling} {line : SourceLine} {body : Text}

theorem ofTokens_optionsOf (s : Spelling) (body : Text) :
    ofTokens ((Text.options body).map (Token.ofText s)) =
      { columnType := (optionsOf s .datatype body).getLast?.getD []
        nullable := (optionsOf s .nullability body).getLast? == some "NULL"
        primaryKey := !(optionsOf s .primaryKey body).isEmpty
        extras := optionsOf s .extra body } := by
  have hlast : ∀ ts : List Text,
      (ts.map fun t : Text => t == "NULL").getLast?.getD false = (ts.getLast? == some "NULL") := by
    intro ts
    rw [List.getLast?_map]
    cases ts.getLast? <;> rfl
  have hkey : ((Text.options body).map (Token.ofText s)).any Token.isPrimaryKey =
      !(optionsOf s .primaryKey body).isEmpty := by
    rw [Bool.eq_iff_iff]
    simp [optionsOf, Token.isPrimaryKey_eq]
  rw [ofTokens_eq, Token.filterMap_ofText Token.datatype?_ofText,
    Token.filterMap_ofText Token.nullability?_ofText, Token.filterMap_ofText Token.extra?_ofText,
    List.map_id', List.map_id', hkey]
  simp only [← hlast]
  rfl

/-- No column type is found exactly if no option is one: an option is not empty. -/
theorem ofBody?_eq_none_iff : ofBody? s body = none ↔ optionsOf s .datatype body = [] := by
  have hcolumn : (ofTokens ((Text.options body).map (Token.ofText s))).columnType =
      (optionsOf s .datatype body).getLast?.getD [] := by
    rw [ofTokens_optionsOf]
  rw [← List.getLast?_eq_none_iff]
  simp only [ofBody?, hcolumn]
  cases hlast : (optionsOf s .datatype body).getLast? with
  | none => simp
  | some type =>
    have hoption := (mem_options (List.mem_of_mem_filter (List.mem_of_getLast? hlast))).1
    simp [hoption.ne_nil]

theorem ofBody?_of_getLast? {type : Text} (h : (optionsOf s .datatype body).getLast? = some type) :
    ofBody? s body = some
      { columnType := type
        nullable := (optionsOf s .nullability body).getLast? == some "NULL"
        primaryKey := !(optionsOf s .primaryKey body).isEmpty
        extras := optionsOf s .extra body } := by
  have hoption := (mem_options (List.mem_of_mem_filter (List.mem_of_getLast? h))).1
  have hne : type.isEmpty = false := List.isEmpty_eq_false_iff.2 hoption.ne_nil
  simp only [ofBody?, ofTokens_optionsOf, h, Option.getD_some, hne, Bool.false_eq_true, if_false]

/-! ## Bodies that say the same -/

/-- The options of each class are the same, or make no difference. -/
structure AgreesByKind (s : Spelling) (body other : Text) : Prop where
  datatype : optionsOf s .datatype other = optionsOf s .datatype body
  /-- `NOT NULL` may be spelled in several ways. -/
  nullability : (optionsOf s .nullability other).map (Token.ofText s) =
    (optionsOf s .nullability body).map (Token.ofText s)
  primaryKey : optionsOf s .primaryKey other = [] ↔ optionsOf s .primaryKey body = []
  extra : optionsOf s .extra other = optionsOf s .extra body

theorem ofText_eq_of_kind {t : Text} (h : (Token.ofText s t).kind = .nullability) :
    Token.ofText s t = .nullability (t == "NULL") := by
  rcases Token.ofText_cases s t with e | e | e | e <;> rw [e] at h ⊢ <;> cases h

theorem getLast?_eq_null_iff (s : Spelling) (body : Text) :
    (optionsOf s .nullability body).getLast? = some "NULL" ↔
      ((optionsOf s .nullability body).map (Token.ofText s)).getLast? =
        some (.nullability true) := by
  rw [List.getLast?_map]
  cases hlast : (optionsOf s .nullability body).getLast? with
  | none => simp
  | some t =>
    have hkind := (List.mem_filter.1 (List.mem_of_getLast? hlast)).2
    rw [Option.map_some, ofText_eq_of_kind (of_decide_eq_true hkind)]
    simp

theorem AgreesByKind.ofBody?_eq {other : Text} (h : AgreesByKind s body other) :
    ofBody? s other = ofBody? s body := by
  have hnull : ((optionsOf s .nullability other).getLast? == some "NULL") =
      ((optionsOf s .nullability body).getLast? == some "NULL") := by
    rw [Bool.eq_iff_iff, beq_iff_eq, beq_iff_eq, getLast?_eq_null_iff, getLast?_eq_null_iff,
      h.nullability]
  have hkey : (optionsOf s .primaryKey other).isEmpty = (optionsOf s .primaryKey body).isEmpty := by
    rw [Bool.eq_iff_iff, List.isEmpty_iff, List.isEmpty_iff, h.primaryKey]
  cases hlast : (optionsOf s .datatype body).getLast? with
  | none =>
    have hnone := List.getLast?_eq_none_iff.1 hlast
    rw [ofBody?_eq_none_iff.2 hnone, ofBody?_eq_none_iff.2 (h.datatype.trans hnone)]
  | some type =>
    rw [ofBody?_of_getLast? hlast, ofBody?_of_getLast? (h.datatype ▸ hlast), hnull, hkey, h.extra]

/-- The pieces with gaps around them, and with more pieces of nothing but gaps between them. -/
inductive Padded : List Text → List Text → Prop
  | nil : Padded [] []
  | piece {pieces padded : List Text} {piece front back : Text} (hcomma : ',' ∉ piece)
      (hfront : IsGaps front) (hback : IsGaps back) (h : Padded pieces padded) :
      Padded (piece :: pieces) ((front ++ piece ++ back) :: padded)
  | gaps {pieces padded : List Text} {gaps : Text} (hgaps : IsGaps gaps)
      (h : Padded pieces padded) : Padded pieces (gaps :: padded)

theorem options_join_pieces {pieces : List Text} (h : ∀ piece ∈ pieces, ',' ∉ piece) :
    Text.options (join [','] pieces) = (pieces.map trimGaps).filter fun t => !t.isEmpty := by
  cases pieces with
  | nil => rfl
  | cons first others =>
    have hsplit : splitWhen (· == ',') (join [','] (first :: others)) = first :: others := by
      refine splitWhen_join (by decide) (List.cons_ne_nil first others) ?_
      intro piece hpiece c hc
      rw [beq_eq_false_iff_ne]
      rintro rfl
      exact h piece hpiece hc
    rw [Text.options, hsplit]

theorem trimGaps_padded {front piece back : Text} (hfront : IsGaps front) (hback : IsGaps back) :
    trimGaps (front ++ piece ++ back) = trimGaps piece := by
  obtain ⟨before, behind, hpiece, hbefore, hbehind, htight⟩ := exists_eq_append_trimGaps piece
  have hcut : front ++ piece ++ back =
      (front ++ before) ++ trimGaps piece ++ (behind ++ back) := by
    conv_lhs => rw [hpiece]
    simp only [List.append_assoc]
  rw [hcut, trimGaps_append (hfront.append hbefore) (hbehind.append hback) htight]

theorem trimGaps_gaps {gaps : Text} (h : IsGaps gaps) : trimGaps gaps = [] := by
  have hnil : trimGaps ([] ++ [] ++ gaps) = trimGaps [] := trimGaps_padded isGaps_nil h
  rw [List.nil_append, List.nil_append] at hnil
  rw [hnil]
  rfl

theorem IsGaps.not_mem_comma {gaps : Text} (h : IsGaps gaps) : ',' ∉ gaps := fun hmem =>
  absurd (h _ hmem) (by decide)

theorem Padded.options_eq {pieces padded : List Text} (h : Padded pieces padded) :
    Text.options (join [','] padded) = Text.options (join [','] pieces) := by
  have hcommas : (∀ piece ∈ pieces, ',' ∉ piece) ∧ ∀ piece ∈ padded, ',' ∉ piece := by
    induction h with
    | nil => simp
    | piece hcomma hfront hback h ih =>
      have hpiece := List.not_mem_append
        (List.not_mem_append (IsGaps.not_mem_comma hfront) hcomma) (IsGaps.not_mem_comma hback)
      exact ⟨List.forall_mem_cons.2 ⟨hcomma, ih.1⟩, List.forall_mem_cons.2 ⟨hpiece, ih.2⟩⟩
    | gaps hgaps h ih =>
      exact ⟨ih.1, List.forall_mem_cons.2 ⟨IsGaps.not_mem_comma hgaps, ih.2⟩⟩
  rw [options_join_pieces hcommas.1, options_join_pieces hcommas.2]
  clear hcommas
  induction h with
  | nil => rfl
  | piece hcomma hfront hback h ih =>
    rw [List.map_cons, List.map_cons, trimGaps_padded hfront hback, List.filter_cons,
      List.filter_cons, ih]
  | gaps hgaps h ih =>
    rw [List.map_cons, trimGaps_gaps hgaps]
    exact ih

/-! ## What a column takes from its annotation -/

/-- What the body of a column's annotation says, or the fault of its line. -/
def read (s : Spelling) (line : SourceLine) (body : Text) : Except Fault ColumnOptions :=
  match ofBody? s body with
  | some o => .ok o
  | none => .error (.missingDatatype line)

/-- A line is read as a column by what its annotation says. -/
theorem ofForm_eq_read {form : FieldForm} (hne : form.options ≠ [])
    (hmark : s.tableMark ∉ Text.options form.options) :
    Field.ofForm s line form = (read s line form.options).bind fun o =>
      let field : Field := { hostType := squeeze form.hostType, name := form.name }
      match HostType.ofName? field.hostType with
      | none => .error (.unsupportedHostType line field.hostType)
      | some _ => .ok (field.withOptions o) := by
  have hempty : form.options.isEmpty = false := List.isEmpty_eq_false_iff.2 hne
  simp only [Field.ofForm, read, hempty, List.contains_iff_mem, hmark, if_false, Bool.false_eq_true]
  cases ofBody? s form.options with
  | none => rfl
  | some o => rfl

/-- **What a column takes from its annotation is settled class by class.** -/
theorem read_by_kind (s : Spelling) (line : SourceLine) (body : Text) :
    (read s line body = .error (.missingDatatype line) ↔ optionsOf s .datatype body = []) ∧
    (∀ type, (optionsOf s .datatype body).getLast? = some type →
      read s line body = .ok
        { columnType := type
          nullable := (optionsOf s .nullability body).getLast? == some "NULL"
          primaryKey := !(optionsOf s .primaryKey body).isEmpty
          extras := optionsOf s .extra body }) ∧
    (∀ other, AgreesByKind s body other → read s line other = read s line body) ∧
    ∀ pieces padded, Padded pieces padded →
      read s line (join [','] padded) = read s line (join [','] pieces) := by
  refine ⟨?_, ?_, ?_, ?_⟩
  · rw [← ofBody?_eq_none_iff, read]
    cases ofBody? s body <;> simp
  · intro type htype
    rw [read, ofBody?_of_getLast? htype]
  · intro other hother
    rw [read, read, hother.ofBody?_eq]
  · intro pieces padded hpadded
    rw [read, read, ofBody?, ofBody?, hpadded.options_eq]

/-- A spelling in which NULL is a column type; the empty one makes it unfit for a run. -/
def shadowing : Spelling := { datatypes := ["TEXT", "NULL", ""] }

def shadowedLine : SourceLine :=
  { number := 4, text := "int n; //\x60x,TEXT,NOT NULL,NULL,PK,y\x60" }

def shadowedBody : Text := "x,TEXT,NOT NULL,NULL,PK,y"

def mixedBody : Text := "NOT\t NULL,x,PRIMARY KEY,PK,TEXT,y,NULL"

theorem read_by_kind_shadowing :
    AgreesByKind shadowing shadowedBody mixedBody ∧
      read shadowing shadowedLine mixedBody =
        .ok { columnType := "NULL", nullable := false, primaryKey := true, extras := ["x", "y"] } ∧
      Padded ["PK", "x"] ["\t", " PK", "", "x\t"] ∧
      read shadowing shadowedLine "\t, PK,,x\t" = .error (.missingDatatype shadowedLine) := by
  have hagrees : AgreesByKind shadowing shadowedBody mixedBody :=
    ⟨by decide, by decide, by decide, by decide⟩
  have hspace : IsGaps "\t" := List.all_eq_true.1 rfl
  have hx := Padded.piece (by decide : ',' ∉ ("x" : Text)) isGaps_nil hspace .nil
  have hpk := Padded.piece (by decide : ',' ∉ ("PK" : Text)) isGaps_space isGaps_nil
    (.gaps isGaps_nil hx)
  have hpadded : Padded ["PK", "x"] ["\t", " PK", "", "x\t"] := .gaps hspace hpk
  obtain ⟨-, hread, hsame, -⟩ := read_by_kind shadowing shadowedLine shadowedBody
  obtain ⟨hmissing, -, -, hpad⟩ := read_by_kind shadowing shadowedLine (join [','] ["PK", "x"])
  refine ⟨hagrees, ?_, hpadded, ?_⟩
  · rw [hsame _ hagrees, hread "NULL" (by decide)]
    rfl
  · exact (hpad _ _ hpadded).trans (hmissing.2 (by decide))

end ColumnOptions

end TableBinding
