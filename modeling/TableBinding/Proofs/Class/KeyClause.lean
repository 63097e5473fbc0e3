import TableBinding.Proofs.Annotation.CanonicalFile
import TableBinding.Proofs.Class.CreateTable
import TableBinding.Proofs.Class.Declarations
import TableBinding.Proofs.Text.Occurrences

/-!
# Where a table declares its primary key

The statement that creates a table says `PRIMARY KEY` once if there are key columns and not at all
if there are none, provided that no option of a column speaks of a key: for a single key column in
its definition, for more in an entry behind the columns (`Struct.keyClause_once`). Options are
passed on as they were written, so one can declare a key by itself. Of such a key the comparison of
two objects knows nothing: apart from it, the definitions and the comparison agree
(`Struct.keyClause_compared`).

The shape of the argument: a definition says the phrase where it declares the key and where its
options do, since the words of a name, a type and a nullability never make it
(`Field.occurrences_definition`); and what stands between definitions keeps them apart
(`Struct.occurrences_createStatement`).
-/

namespace TableBinding

open Text

/-- What declares a primary key. -/
def keyPhrase : Text := "PRIMARY KEY"

theorem keyPhrase_ne_nil : keyPhrase ≠ [] := List.cons_ne_nil _ _

theorem keyPhrase_eq : keyPhrase = "PRIMARY" ++ ' ' :: "KEY" := by decide

/-! ## Texts that meet -/

/-- At a space the phrase is made only of its two words. -/
theorem occurrences_append_space {t u : Text}
    (h : ¬(("PRIMARY" : Text) <:+ t ∧ ("KEY" : Text) <+: u)) :
    occurrences keyPhrase (t ++ ' ' :: u) = occurrences keyPhrase t + occurrences keyPhrase u := by
  rw [keyPhrase_eq]
  exact occurrences_append_between (by decide) (by decide) (by decide) h

theorem occurrences_space (t : Text) :
    occurrences keyPhrase (' ' :: t) = occurrences keyPhrase t :=
  occurrences_cons_of_head (by decide) keyPhrase_ne_nil t

/-- Texts with a space in front of each are these texts joined by spaces, but for the first. -/
theorem occurrences_flatMap_space {phrase : Text} (hhead : phrase.head? ≠ some ' ')
    (hphrase : phrase ≠ []) (ts : List Text) :
    occurrences phrase (ts.flatMap (' ' :: ·)) = occurrences phrase (join [' '] ts) := by
  have hjoin : ∀ (t : Text) (rest : List Text),
      (t :: rest).flatMap (' ' :: ·) = ' ' :: join [' '] (t :: rest) := by
    intro t rest
    induction rest generalizing t with
    | nil => exact List.append_nil _
    | cons u rest ih =>
      rw [List.flatMap_cons, ih, join, List.cons_append, List.append_assoc, List.singleton_append]
  cases ts with
  | nil => rfl
  | cons t rest => rw [hjoin, occurrences_cons_of_head hhead hphrase]

/-- Options none of which says `KEY` do not say it together. -/
theorem occurrences_join_extras {extras : List Text} (h : ∀ e ∈ extras, ¬ ("KEY" : Text) <:+: e) :
    occurrences keyPhrase (join [' '] extras) = 0 := by
  have hne : ("KEY" : Text) ≠ [] := List.cons_ne_nil _ _
  have hspace : ∀ t u : Text, occurrences "KEY" (t ++ [' '] ++ u) =
      occurrences "KEY" t + occurrences "KEY" u := by
    intro t u
    rw [List.append_assoc]
    exact occurrences_append_cons (by decide) hne t u
  have hword : occurrences "KEY" (join [' '] extras) = 0 := by
    rw [occurrences_join hne hspace, List.sum_eq_zero_iff_forall_eq_nat]
    intro n hn
    obtain ⟨e, he, rfl⟩ := List.mem_map.1 hn
    exact occurrences_eq_zero_iff.2 (h e he)
  refine occurrences_eq_zero_iff.2 fun hphrase => occurrences_eq_zero_iff.1 hword ?_
  have hstands : ("KEY" : Text) <:+: keyPhrase := ⟨"PRIMARY ", [], by decide⟩
  exact hstands.trans hphrase

/-- Trimming stops at a text that does not end with a blank. -/
theorem Text.trimEnd_append {t : Text} (ht : ∀ c ∈ t.getLast?, isBlank c = false) (u : Text) :
    trimEnd (t ++ u) = t ++ trimEnd u := by
  have hcut : u = trimEnd u ++ u.rtakeWhile isBlank := List.rdropWhile_append_rtakeWhile.symm
  have hlast : ∀ c ∈ (t ++ trimEnd u).getLast?, isBlank c = false := by
    intro c hc
    by_cases hnone : trimEnd u = []
    · rw [hnone, List.append_nil] at hc
      exact ht c hc
    · rw [List.getLast?_append_of_ne_nil t hnone] at hc
      obtain ⟨hne, rfl⟩ := List.mem_getLast?_eq_getLast hc
      exact Bool.eq_false_iff.2 (List.rdropWhile_last_not isBlank u hne)
  have hdrop := (rdropWhile_rtakeWhile_append hlast fun _ => List.mem_rtakeWhile_imp (l := u)).1
  rwa [List.append_assoc, ← hcut] at hdrop

/-- A name in front of words without a `K` does not make the phrase with them. -/
theorem occurrences_name_append {name rest : Text} (hname : ' ' ∉ name) (hrest : 'K' ∉ rest) :
    occurrences keyPhrase (name ++ rest) = 0 := by
  have happart : ¬ Straddles keyPhrase name rest := by
    rintro ⟨front, back, hcut, -, -, hends, hbegins⟩
    -- What ends the name stops in front of the space, so the `K` would stand in the rest.
    have hfront : ' ' ∉ front := fun h => hname (hends.mem h)
    have hback : 'K' ∉ back := fun h => hrest (hbegins.mem h)
    have hopening : ("PRIMARY " : Text) <+: keyPhrase := ⟨"KEY", by decide⟩
    have hprefix : front <+: keyPhrase := ⟨back, hcut.symm⟩
    rcases List.prefix_or_prefix_of_prefix hprefix hopening with h | h
    · have hkey : 'K' ∈ front ++ back := hcut ▸ (by decide)
      rcases List.mem_append.1 hkey with hmem | hmem
      · exact absurd (h.mem hmem) (by decide)
      · exact hback hmem
    · exact hfront (h.mem (by decide))
  rw [occurrences_append keyPhrase_ne_nil happart,
    occurrences_of_not_mem (c := ' ') (by decide) hname,
    occurrences_of_not_mem (c := 'K') (by decide) hrest]

/-! ## Definitions -/

namespace Field

variable {f : Field}

/-- The name, the type and the nullability of a column, in columns of their own. -/
def described (width : Nat) (f : Field) : Text :=
  padEnd width f.name ++ [' '] ++ padEnd 7 f.columnType ++ [' '] ++ padStart 8 f.nullConstraint

/-- The key of a column that declares it. -/
def inlineKey (declaresKey : Bool) : Text := if declaresKey then " PRIMARY KEY" else []

theorem definitionFront_eq (width : Nat) (onlyKey : Bool) (f : Field) :
    f.definitionFront width onlyKey = f.described width ++ inlineKey (onlyKey && f.primaryKey) :=
  rfl

theorem exists_described_eq (width : Nat) (f : Field) :
    ∃ n m, f.described width = f.name ++ (List.replicate (n + 1) ' ' ++ (f.columnType ++
      (List.replicate (m + 1) ' ' ++ f.nullConstraint))) := by
  refine ⟨width - f.name.length, 7 - f.columnType.length + (8 - f.nullConstraint.length), ?_⟩
  have hgap : ∀ n m : Nat, List.replicate (n + m + 1) ' ' =
      List.replicate n ' ' ++ (' ' :: List.replicate m ' ') := by
    intro n m
    rw [← List.replicate_succ, List.replicate_append_replicate, Nat.add_assoc]
  rw [hgap _ 0, hgap]
  unfold described padEnd padStart
  simp only [List.append_assoc, List.cons_append, List.nil_append, List.replicate_zero]

theorem nullConstraint_eq (hf : f.persisted = true) :
    f.nullConstraint = "NULL" ∨ f.nullConstraint = "NOT NULL" := by
  rw [nullConstraint, if_pos hf]
  split
  · exact .inl rfl
  · exact .inr rfl

theorem getLast?_described (hf : f.persisted = true) (width : Nat) :
    (f.described width).getLast? = some 'L' := by
  obtain ⟨n, m, hdescribed⟩ := exists_described_eq width f
  rw [hdescribed]
  simp only [← List.append_assoc]
  rcases nullConstraint_eq hf with h | h
  · rw [h]
    exact List.getLast?_append_of_ne_nil _ (by decide)
  · rw [h]
    exact List.getLast?_append_of_ne_nil _ (by decide)

/-- The entry defines the column: its name, its type, its nullability, directly behind that the key
if the entry declares it, and then the other options up to their last blanks. -/
def Defines (f : Field) (declaresKey : Bool) (entry : Text) : Prop :=
  ∃ n m, entry = f.name ++ (List.replicate (n + 1) ' ' ++ (f.columnType ++
    (List.replicate (m + 1) ' ' ++ f.nullConstraint))) ++ inlineKey declaresKey ++
    trimEnd (f.extras.flatMap (' ' :: ·))

theorem defines_definition (hf : f.persisted = true) (width : Nat) (onlyKey : Bool) :
    f.Defines (onlyKey && f.primaryKey) (f.definition width onlyKey) := by
  obtain ⟨n, m, hdescribed⟩ := exists_described_eq width f
  have hlast : ∀ c ∈ (f.definitionFront width onlyKey).getLast?, isBlank c = false := by
    intro c hc
    rw [definitionFront_eq, inlineKey] at hc
    split at hc
    · rw [List.getLast?_append_of_ne_nil _ (by decide)] at hc
      cases hc
      decide
    · rw [List.append_nil, getLast?_described hf] at hc
      cases hc
      decide
  exact ⟨n, m, by rw [definition_eq, trimEnd_append hlast, definitionFront_eq, hdescribed]⟩

/-- No name, type and nullability make the phrase. -/
theorem occurrences_described (hf : f.persisted = true) (hname : ' ' ∉ f.name)
    (htype : 'K' ∉ f.columnType) (width : Nat) :
    occurrences keyPhrase (f.described width) = 0 := by
  obtain ⟨n, m, hdescribed⟩ := exists_described_eq width f
  have hgap : ∀ k : Nat, 'K' ∉ List.replicate k ' ' := fun k h =>
    absurd (List.eq_of_mem_replicate h) (by decide)
  have hnull : 'K' ∉ f.nullConstraint := by
    rcases nullConstraint_eq hf with h | h
    · rw [h]
      decide
    · rw [h]
      decide
  rw [hdescribed]
  exact occurrences_name_append hname (List.not_mem_append (hgap _)
    (List.not_mem_append htype (List.not_mem_append (hgap _) hnull)))

/-- The key and what options there are behind it. -/
theorem occurrences_inlineKey_append (declaresKey : Bool) (extras : List Text) :
    occurrences keyPhrase (inlineKey declaresKey ++ extras.flatMap (' ' :: ·)) =
      (if declaresKey then 1 else 0) + occurrences keyPhrase (extras.flatMap (' ' :: ·)) := by
  cases declaresKey with
  | false => exact (Nat.zero_add _).symm
  | true =>
    have hone : occurrences keyPhrase " PRIMARY KEY" = 1 := by decide
    cases extras with
    | nil => exact hone
    | cons e extras =>
      have hends : ¬(("PRIMARY" : Text) <:+ " PRIMARY KEY" ∧
          ("KEY" : Text) <+: e ++ extras.flatMap (' ' :: ·)) := fun h => absurd h.1 (by decide)
      have hmeet := occurrences_append_space hends
      rw [hone] at hmeet
      rw [List.flatMap_cons, List.cons_append, occurrences_space]
      exact hmeet

/-- **A definition says the phrase** where it declares the key, and where its options do. -/
theorem occurrences_definition (hf : f.persisted = true) (hname : ' ' ∉ f.name)
    (htype : 'K' ∉ f.columnType) (width : Nat) (onlyKey : Bool) :
    occurrences keyPhrase (f.definition width onlyKey) =
      (if onlyKey && f.primaryKey then 1 else 0) +
        occurrences keyPhrase (join [' '] f.extras) := by
  have hlast : ∀ c ∈ (f.described width).getLast?, c ∉ keyPhrase := by
    rw [getLast?_described hf]
    rintro c ⟨⟩
    decide
  have hphrase : ∀ c ∈ keyPhrase.getLast?, isBlank c = false := by
    have hletter : keyPhrase.getLast? = some 'Y' := by decide
    rw [hletter]
    rintro c ⟨⟩
    rfl
  rw [definition_eq, occurrences_trimEnd keyPhrase_ne_nil hphrase, definitionFront_eq,
    List.append_assoc, occurrences_append_of_last keyPhrase_ne_nil hlast,
    occurrences_described hf hname htype, Nat.zero_add, occurrences_inlineKey_append,
    occurrences_flatMap_space (by decide) keyPhrase_ne_nil]

end Field

/-! ## Tables -/

namespace Struct

variable {d : Struct}

/-- The fields that are key columns, in order of declaration. -/
def keyFields (d : Struct) : List Field := d.fields.filter fun f => f.persisted && f.primaryKey

theorem keyNames_eq (d : Struct) : d.keyNames = d.keyFields.map (·.name) := by
  rw [keyNames, columns, List.filter_filter, keyFields]
  simp only [Bool.and_comm]

theorem length_keyNames (d : Struct) : d.keyNames.length = d.columns.countP (·.primaryKey) := by
  rw [keyNames, List.length_map, List.countP_eq_length_filter]

/-- The columns have one word for a name, and a type without a `K`. -/
def IsWorded (d : Struct) : Prop := ∀ f ∈ d.columns, ' ' ∉ f.name ∧ 'K' ∉ f.columnType

/-- How often the phrase occurs in the options of the columns. -/
def passedKeys (d : Struct) : Nat :=
  (d.columns.map fun f => occurrences keyPhrase (join [' '] f.extras)).sum

theorem occurrences_keyDefinition {names : List Text} (h : ∀ name ∈ names, ' ' ∉ name) :
    occurrences keyPhrase (keyDefinition names) = 1 := by
  have hone : occurrences keyPhrase "PRIMARY KEY" = 1 := by decide
  have hclosed : ' ' ∉ join [','] names ++ [')'] := by
    refine List.not_mem_append (fun hmem => ?_) (by decide)
    rcases mem_join hmem with hmem | ⟨name, hname, hmem⟩
    · exact absurd hmem (by decide)
    · exact h name hname hmem
  have hcut : keyDefinition names = "PRIMARY KEY" ++ '(' :: (join [','] names ++ [')']) := rfl
  rw [hcut, occurrences_append_cons (by decide) keyPhrase_ne_nil, hone,
    occurrences_of_not_mem (c := ' ') (by decide) hclosed]

/-- What the definitions of the columns say. -/
theorem sum_occurrences_columns (hd : d.IsWorded) (width : Nat) (onlyKey : Bool) :
    ((d.columns.map (Field.definition width onlyKey)).map (occurrences keyPhrase)).sum =
      (if onlyKey then d.columns.countP (·.primaryKey) else 0) + d.passedKeys := by
  have hpersisted : ∀ f ∈ d.columns, f.persisted = true := fun f hf => (List.mem_filter.1 hf).2
  unfold passedKeys
  unfold IsWorded at hd
  generalize d.columns = columns at hd hpersisted
  induction columns with
  | nil => cases onlyKey <;> rfl
  | cons f fs ih =>
    rw [List.forall_mem_cons] at hd hpersisted
    have hdefinition := Field.occurrences_definition hpersisted.1 hd.1.1 hd.1.2 width onlyKey
    simp only [List.map_cons, List.sum_cons, List.countP_cons, ih hd.2 hpersisted.2, hdefinition]
    cases onlyKey with
    | false => simp only [Bool.false_and, Bool.false_eq_true, if_false]; omega
    | true => simp only [Bool.true_and, if_true]; omega

/-- **The definitions say the phrase once if there are key columns**, and where options do. -/
theorem sum_occurrences_definitions (hd : d.IsWorded) :
    (d.definitions.map (occurrences keyPhrase)).sum = min 1 d.keyNames.length + d.passedKeys := by
  have hnames : ∀ name ∈ d.keyNames, ' ' ∉ name := by
    intro name hname
    obtain ⟨f, hf, rfl⟩ := List.mem_map.1 hname
    exact (hd f (List.mem_filter.1 hf).1).1
  have hlast : ((if 2 ≤ d.keyNames.length then [keyDefinition d.keyNames] else []).map
      (occurrences keyPhrase)).sum = if 2 ≤ d.keyNames.length then 1 else 0 := by
    split
    · rw [List.map_singleton, List.sum_singleton, occurrences_keyDefinition hnames]
    · rfl
  rw [definitions, List.map_append, List.sum_append, hlast, sum_occurrences_columns hd,
    ← length_keyNames, hasInlineKey]
  by_cases hone : d.keyNames.length = 1
  · simp [hone]
  · simp only [beq_iff_eq, if_neg hone]
    split
    · omega
    · omega

/-- **Around its definitions the statement says nothing of a key.** -/
theorem occurrences_createStatement {table : Text} (htable : ∀ c ∈ table, isIdentRest c = true)
    (d : Struct) : occurrences keyPhrase (d.createStatement table) =
      (d.definitions.map (occurrences keyPhrase)).sum := by
  have hword : ' ' ∉ table := fun h => absurd (htable _ h) (by decide)
  have hseparator : ∀ t u : Text, occurrences keyPhrase (t ++ ", " ++ u) =
      occurrences keyPhrase t + occurrences keyPhrase u := by
    intro t u
    have hcut : t ++ ", " ++ u = t ++ ',' :: ' ' :: u := by
      rw [List.append_assoc]
      rfl
    rw [hcut, occurrences_append_cons (by decide) keyPhrase_ne_nil, occurrences_space]
  have hcut : d.createStatement table = "CREATE TABLE IF NOT EXISTS" ++ ' ' :: (table ++ ' ' ::
      ([] ++ '(' :: (join ", " d.definitions ++ ')' :: []))) := by
    have hopen : ("CREATE TABLE IF NOT EXISTS " : Text) =
        "CREATE TABLE IF NOT EXISTS" ++ [' '] := by decide
    have hparenthesis : (" (" : Text) = [' ', '('] := by decide
    unfold createStatement
    rw [hopen, hparenthesis]
    simp only [List.append_assoc, List.cons_append, List.nil_append]
  have hopening : occurrences keyPhrase "CREATE TABLE IF NOT EXISTS" = 0 := by decide
  have hbegins : ¬(("PRIMARY" : Text) <:+ table ∧ ("KEY" : Text) <+:
      [] ++ '(' :: (join ", " d.definitions ++ ')' :: [])) := fun h => by
    have hfirst := (List.cons_prefix_cons.1 h.2).1
    exact absurd hfirst (by decide)
  rw [hcut, occurrences_append_space fun h => absurd h.1 (by decide), hopening,
    occurrences_append_space hbegins, occurrences_of_not_mem (c := ' ') (by decide) hword,
    occurrences_append_cons (by decide) keyPhrase_ne_nil,
    occurrences_append_cons (by decide) keyPhrase_ne_nil, occurrences_nil keyPhrase_ne_nil,
    occurrences_join keyPhrase_ne_nil hseparator]
  omega

/-! ## The clause -/

/-- The columns are named by identifiers, have one of the usual types, and no option that speaks of
a key. -/
def IsOrdinary (d : Struct) : Prop := ∀ f ∈ d.columns, isIdent f.name = true ∧
  f.columnType ∈ (["INTEGER", "REAL", "TEXT", "BLOB"] : List Text) ∧
    ∀ e ∈ f.extras, ¬ ("KEY" : Text) <:+: e

theorem isWorded_of_names (hd : ∀ f ∈ d.columns, isIdent f.name = true ∧
    f.columnType ∈ (["INTEGER", "REAL", "TEXT", "BLOB"] : List Text)) : d.IsWorded := by
  have htypes : ∀ t ∈ (["INTEGER", "REAL", "TEXT", "BLOB"] : List Text), 'K' ∉ t := by decide
  intro f hf
  obtain ⟨hname, htype⟩ := hd f hf
  exact ⟨fun h => absurd ((mem_isIdent hname).2 _ h) (by decide), htypes _ htype⟩

/-- **A table declares its primary key once**, if it has one: a single key column in its own
definition, directly behind the nullability, and two or more, by their names, in one more entry
behind the columns. -/
theorem keyClause_once (hd : d.IsOrdinary) {table : Text}
    (htable : ∀ c ∈ table, isIdentRest c = true) :
    occurrences "PRIMARY KEY" (d.createStatement table) = min 1 d.keyFields.length ∧
    ∃ entries, d.definitions = entries ++ (if 2 ≤ d.keyFields.length then
        ["PRIMARY KEY(" ++ join [','] (d.keyFields.map (·.name)) ++ [')']] else []) ∧
      List.Forall₂ (fun f entry =>
        f.Defines (d.keyFields.length == 1 && f.primaryKey) entry ∧
          occurrences "PRIMARY KEY" entry =
            if d.keyFields.length == 1 && f.primaryKey then 1 else 0) d.columns entries ∧
      (2 ≤ d.keyFields.length →
        occurrences "PRIMARY KEY" (d.definitions.getLast?.getD []) = 1) := by
  have hworded : d.IsWorded := isWorded_of_names fun f hf => ⟨(hd f hf).1, (hd f hf).2.1⟩
  have hextras : ∀ f ∈ d.columns, occurrences keyPhrase (join [' '] f.extras) = 0 :=
    fun f hf => occurrences_join_extras (hd f hf).2.2
  have hpassed : d.passedKeys = 0 := by
    rw [passedKeys, List.sum_eq_zero_iff_forall_eq_nat]
    intro n hn
    obtain ⟨f, hf, rfl⟩ := List.mem_map.1 hn
    exact hextras f hf
  have hlength : d.keyFields.length = d.keyNames.length := by rw [keyNames_eq, List.length_map]
  have hnames : ∀ name ∈ d.keyNames, ' ' ∉ name := by
    intro name hname
    obtain ⟨f, hf, rfl⟩ := List.mem_map.1 hname
    exact (hworded f (List.mem_filter.1 hf).1).1
  rw [hlength, ← keyNames_eq]
  refine ⟨?_, _, rfl, ?_, fun htwo => ?_⟩
  · exact (occurrences_createStatement htable d).trans
      ((sum_occurrences_definitions hworded).trans (by rw [hpassed, Nat.add_zero]))
  · rw [List.forall₂_map_right_iff, List.forall₂_same]
    intro f hf
    have hpersisted : f.persisted = true := (List.mem_filter.1 hf).2
    have hsays := Field.occurrences_definition hpersisted (hworded f hf).1 (hworded f hf).2
      d.nameWidth d.hasInlineKey
    rw [hextras f hf, Nat.add_zero] at hsays
    exact ⟨Field.defines_definition hpersisted _ _, hsays⟩
  · rw [definitions, if_pos htwo, List.getLast?_concat]
    exact occurrences_keyDefinition hnames

/-- A table with the words of the clause in its names, types and options. -/
def locks : Struct where
  typeName := "Lock"
  tableName := "KEY"
  fields :=
    [{ hostType := "int", name := "PRIMARY", persisted := true, columnType := "INTEGER",
       primaryKey := true, extras := ["CHECK(x > 0)", "PRIMARY"] },
      { hostType := "QString", name := "KEY", persisted := true, columnType := "TEXT",
        nullable := true, extras := ["K EY", "PRIMARY"] },
      { hostType := "QString", name := "t", namesTable := true, primaryKey := true }]

theorem keyClause_once_locks :
    occurrences "PRIMARY KEY" (locks.createStatement "PRIMARY") = 1 ∧
      locks.definitions = ([
        "PRIMARY INTEGER NOT NULL PRIMARY KEY CHECK(x > 0) PRIMARY",
        "KEY     TEXT        NULL K EY PRIMARY"] : List Text) := by
  have hordinary : locks.IsOrdinary := by
    unfold IsOrdinary
    decide +kernel
  have htable : ("PRIMARY" : Text).all isIdentRest = true := by decide
  have hone : locks.keyFields.length = 1 := by decide
  obtain ⟨honce, -⟩ := keyClause_once hordinary (List.all_eq_true.1 htable)
  rw [hone] at honce
  exact ⟨honce, by decide +kernel⟩

/-! ## The clause and the comparison -/

theorem compareKeys_mem (d : Struct) : d.compareKeys ∈ d.methods := by
  rw [mem_methods]
  simp only [or_true]

/-- The code of a method that gives nothing back but false. -/
def falseCode : List Text := ["return false;"]

/-- **Objects are compared exactly if there are key columns.** -/
theorem code_compareKeys_eq_iff (d : Struct) :
    d.compareKeys.code = falseCode ↔ d.keyNames = [] := by
  have hcode : d.compareKeys.code = (Statement.compare d.keyNames).lines.map Line.text := by
    rw [Method.code_eq]
    exact List.flatMap_singleton _ _
  rw [hcode]
  cases d.keyNames with
  | nil => exact iff_of_true rfl rfl
  | cons name names =>
    refine iff_of_false (fun h => ?_) (List.cons_ne_nil _ _)
    -- Behind `return` a parenthesis opens.
    have hfirst : '(' = 'f' := by
      cases names with
      | nil => exact (List.cons.inj (congrArg (List.drop 7) (List.cons.inj h).1)).1
      | cons name' names => exact (List.cons.inj (congrArg (List.drop 7) (List.cons.inj h).1)).1
    exact absurd hfirst (by decide)

/-- The phrase occurs in one of the texts exactly if it occurs at all. -/
theorem sum_occurrences_eq_zero_iff (ts : List Text) :
    (ts.map (occurrences keyPhrase)).sum = 0 ↔ ∀ t ∈ ts, ¬ keyPhrase <:+: t := by
  rw [List.sum_eq_zero_iff_forall_eq_nat, List.forall_mem_map]
  simp only [occurrences_eq_zero_iff]

theorem passedKeys_eq_zero_iff :
    d.passedKeys = 0 ↔ ∀ f ∈ d.columns, ¬ keyPhrase <:+: join [' '] f.extras := by
  have hsum := sum_occurrences_eq_zero_iff (d.columns.map fun f => join [' '] f.extras)
  rw [List.map_map, List.forall_mem_map] at hsum
  exact hsum

/-- A text that says the phrase says it at least once. -/
theorem countP_le_sum_occurrences (ts : List Text) :
    ts.countP (fun t => 0 < occurrences keyPhrase t) ≤ (ts.map (occurrences keyPhrase)).sum := by
  induction ts with
  | nil => exact Nat.le_refl 0
  | cons t ts ih =>
    rw [List.countP_cons, List.map_cons, List.sum_cons]
    split
    · next h =>
      have hpos := of_decide_eq_true h
      omega
    · omega

/-- **The definitions and the comparison agree on whether there is a key**, but for what options
say: the definitions of a struct that was read say the phrase exactly if objects are compared or an
option says it, and without such an option in one entry at most. -/
theorem keyClause_compared {source : Text} {structs : List Struct}
    (h : Source.structs {} source = .ok structs) (hd : d ∈ structs) :
    ∃ m ∈ d.methods, m.signature = "bool pk_equal(const " ++ d.typeName ++ "& other) const" ∧
      ((∃ entry ∈ d.definitions, ("PRIMARY KEY" : Text) <:+: entry) ↔
        m.code ≠ falseCode ∨ ∃ f ∈ d.columns, ("PRIMARY KEY" : Text) <:+: join [' '] f.extras) ∧
      d.definitions.countP (fun entry => 0 < occurrences "PRIMARY KEY" entry) ≤
        (if m.code = falseCode then 0 else 1) + d.passedKeys := by
  have hformed := (Source.isRead_of_structs h d hd).wellFormed
  have hworded : d.IsWorded := isWorded_of_names fun f hf => by
    obtain ⟨hmem, hpersisted⟩ := List.mem_filter.1 hf
    exact ⟨(hformed.fields f hmem).name, ((hformed.fields f hmem).column hpersisted).columnType⟩
  have hsum := sum_occurrences_definitions hworded
  have hcode := code_compareKeys_eq_iff d
  have hlength : d.keyNames = [] ↔ d.keyNames.length = 0 := List.length_eq_zero_iff.symm
  refine ⟨d.compareKeys, compareKeys_mem d, rfl, ?_, ?_⟩
  · have hnone := sum_occurrences_eq_zero_iff d.definitions
    have hpassed := passedKeys_eq_zero_iff (d := d)
    have hzero : (∀ entry ∈ d.definitions, ¬ keyPhrase <:+: entry) ↔
        d.compareKeys.code = falseCode ∧
          ∀ f ∈ d.columns, ¬ keyPhrase <:+: join [' '] f.extras := by
      rw [← hnone, ← hpassed, hcode, hlength, hsum]
      omega
    have hboth := not_congr hzero
    rw [not_and_or] at hboth
    push Not at hboth
    exact hboth
  · refine (countP_le_sum_occurrences d.definitions).trans ?_
    rw [hsum]
    split
    · next hfalse =>
      rw [hlength.1 (hcode.1 hfalse)]
      exact Nat.le_refl _
    · omega

/-- A struct with a key column, and with options that make the phrase neither alone nor together. -/
def ticket : Struct where
  typeName := "Ticket"
  tableName := "t"
  fields :=
    [{ hostType := "int", name := "a", persisted := true, columnType := "INTEGER",
       primaryKey := true, extras := ["KEY", "PRIMARY"] },
      { hostType := "int", name := "b", persisted := true, columnType := "INTEGER",
        extras := ["primary key"] }]

def ticketSource : Text :=
  [("struct Ticket //\x60t\x60" : String), "\x7b", "int a; //\x60KEY,PK,INTEGER,PRIMARY\x60",
    "int b; //\x60INTEGER,primary key\x60", "\x7d;"].flatMap fun line => line.toList ++ ['\n']

theorem keyClause_compared_ticket :
    Source.structs {} ticketSource = .ok [ticket] ∧
      (∃ m ∈ ticket.methods, m.signature = "bool pk_equal(const Ticket& other) const" ∧
        m.code ≠ falseCode) ∧
      ticket.definitions.countP (fun entry => 0 < occurrences "PRIMARY KEY" entry) = 1 := by
  have hread : Source.structs {} ticketSource = .ok [ticket] := by decide +kernel
  have hentry : ∃ entry ∈ ticket.definitions, ("PRIMARY KEY" : Text) <:+: entry := by
    decide +kernel
  have hextras : ¬ ∃ f ∈ ticket.columns, ("PRIMARY KEY" : Text) <:+: join [' '] f.extras := by
    decide +kernel
  obtain ⟨m, hm, hsignature, hiff, -⟩ := keyClause_compared hread (List.mem_singleton_self _)
  exact ⟨hread, ⟨m, hm, hsignature, (hiff.1 hentry).resolve_right hextras⟩, by decide +kernel⟩

/-- A struct whose only key is declared by an option. -/
def counter : Struct where
  typeName := "T"
  tableName := "t"
  fields :=
    [{ hostType := "int", name := "id", persisted := true, columnType := "INTEGER",
       extras := ["PRIMARY KEY AUTOINCREMENT"] }]

def counterSource : Text :=
  [("struct T //\x60t\x60" : String), "\x7b", "int id; //\x60INTEGER,PRIMARY KEY AUTOINCREMENT\x60",
    "\x7d;"].flatMap fun line => line.toList ++ ['\n']

/-- **A key that an option declares is not compared.** -/
theorem keyClause_of_option :
    Source.structs {} counterSource = .ok [counter] ∧
      counter.definitions = [("id INTEGER NOT NULL PRIMARY KEY AUTOINCREMENT" : Text)] ∧
      (∃ entry ∈ counter.definitions, ("PRIMARY KEY" : Text) <:+: entry) ∧
      ∀ m ∈ counter.methods, m.signature = "bool pk_equal(const T& other) const" →
        m.code = falseCode := by
  refine ⟨by decide +kernel, by decide +kernel, by decide +kernel, ?_⟩
  decide +kernel

end Struct

end TableBinding
