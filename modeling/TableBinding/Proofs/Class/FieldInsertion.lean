import TableBinding.Class.Definition

/-!
# One more field

What one more field changes in a class depends on what the field is for. A transient field adds the
line that declares its member and nothing else, at whatever place it stands and whatever it carries
(`Struct.insert_transient`).

The shape of the argument: a class is made of the name of the type, the name of the table, the
columns, the field that names the table and the flags. A field that is no column does not touch the
first three, nor what is made of them alone (`Struct.SameTable`); a transient field does not touch
the other two either.
-/

namespace TableBinding

open Text

/-! ## Places in a list -/

section

variable {α β : Type} {xs : List α} {i : Nat}

theorem insertIdx_eq_append (h : i ≤ xs.length) (x : α) :
    xs.insertIdx i x = xs.take i ++ x :: xs.drop i := by
  induction xs generalizing i with
  | nil =>
    obtain rfl := Nat.le_zero.1 h
    rfl
  | cons y ys ih =>
    cases i with
    | zero => rfl
    | succ i =>
      rw [List.insertIdx_succ_cons, ih (Nat.le_of_succ_le_succ h)]
      rfl

theorem insertIdx_length_append (front back : List α) (x : α) :
    (front ++ back).insertIdx front.length x = front ++ x :: back := by
  rw [insertIdx_eq_append (by simp), List.take_left, List.drop_left]

theorem filter_insertIdx {p : α → Bool} {x : α} (h : i ≤ xs.length) (hx : p x = false) :
    (xs.insertIdx i x).filter p = xs.filter p := by
  have hsplit : xs.filter p = (xs.take i).filter p ++ (xs.drop i).filter p := by
    rw [← List.filter_append, List.take_append_drop]
  rw [insertIdx_eq_append h, List.filter_append, List.filter_cons_of_neg (by simp [hx]), hsplit]

theorem find?_insertIdx {p : α → Bool} {x : α} (h : i ≤ xs.length) (hx : p x = false) :
    (xs.insertIdx i x).find? p = xs.find? p := by
  rw [← List.head?_filter, ← List.head?_filter, filter_insertIdx h hx]

theorem find?_insertIdx_of_none {p : α → Bool} {x : α} (h : i ≤ xs.length) (hx : p x = true)
    (hnone : xs.find? p = none) : (xs.insertIdx i x).find? p = some x := by
  have htake : (xs.take i).find? p = none := by
    rw [List.find?_eq_none] at hnone ⊢
    exact fun y hy => hnone y (List.mem_of_mem_take hy)
  rw [insertIdx_eq_append h, List.find?_append, htake, Option.none_or,
    List.find?_cons_of_pos hx]

theorem flatMap_take_drop (g : α → List β) (i : Nat) :
    xs.flatMap g = (xs.take i).flatMap g ++ (xs.drop i).flatMap g := by
  rw [← List.flatMap_append, List.take_append_drop]

theorem flatMap_insertIdx (h : i ≤ xs.length) (x : α) (g : α → List β) :
    (xs.insertIdx i x).flatMap g = (xs.take i).flatMap g ++ (g x ++ (xs.drop i).flatMap g) := by
  rw [insertIdx_eq_append h, List.flatMap_append, List.flatMap_cons]

end

/-! ## Structs with the same table -/

namespace Struct

variable {d e : Struct}

/-- The struct with one more field at the place. -/
def insertField (d : Struct) (i : Nat) (f : Field) : Struct :=
  { d with fields := d.fields.insertIdx i f }

/-- Members of other names are found as before. -/
theorem field?_insertField {i : Nat} {f : Field} {name : Text} (hi : i ≤ d.fields.length)
    (hname : f.name ≠ name) : (d.insertField i f).field? name = d.field? name :=
  find?_insertIdx hi (beq_eq_false_iff_ne.2 hname)

/-- The new member is found, where none had its name. -/
theorem field?_insertField_self {i : Nat} {f : Field} (hi : i ≤ d.fields.length)
    (hnone : d.field? f.name = none) : (d.insertField i f).field? f.name = some f :=
  find?_insertIdx_of_none hi (beq_self_eq_true _) hnone

/-- The structs differ in nothing but fields that are no columns. -/
structure SameTable (d e : Struct) : Prop where
  typeName : e.typeName = d.typeName
  tableName : e.tableName = d.tableName
  columns : e.columns = d.columns

namespace SameTable

theorem keyNames (h : SameTable d e) : e.keyNames = d.keyNames := by
  simp only [Struct.keyNames, h.columns]

theorem nameWidth (h : SameTable d e) : e.nameWidth = d.nameWidth := by
  simp only [Struct.nameWidth, h.columns]

theorem definitions (h : SameTable d e) : e.definitions = d.definitions := by
  simp only [Struct.definitions, hasInlineKey, h.columns, h.keyNames, h.nameWidth]

theorem createStatement (h : SameTable d e) (table : Text) :
    e.createStatement table = d.createStatement table := by
  unfold Struct.createStatement
  rw [h.definitions]

theorem conditions (h : SameTable d e) (v : Local) : e.conditions v = d.conditions v := by
  simp only [Struct.conditions, h.columns]

theorem constructorMethod (h : SameTable d e) : e.constructorMethod = d.constructorMethod := by
  unfold Struct.constructorMethod
  rw [h.typeName]

theorem readResult (h : SameTable d e) : e.readResult = d.readResult := by
  unfold Struct.readResult
  rw [h.typeName, h.columns]

theorem compareKeys (h : SameTable d e) : e.compareKeys = d.compareKeys := by
  unfold Struct.compareKeys
  rw [h.typeName, h.keyNames]

/-- The methods of a class are made of no more than this. -/
theorem methods (h : SameTable d e) (htable : e.tableField? = d.tableField?)
    (hflags : e.flags = d.flags) : e.methods = d.methods := by
  have hredirection : e.redirection? = d.redirection? := by
    simp only [redirection?, htable]
  have hbuilders : e.builders = d.builders := by
    funext method params binding body
    simp only [builders, hredirection]
  have hchoose : e.choose = d.choose := by
    funext method args
    simp only [choose, hredirection]
  unfold Struct.methods tableNames dropTable createTable insert delete query update flushFlags
  rw [h.constructorMethod, h.readResult, h.compareKeys, h.definitions, h.typeName, h.tableName,
    h.columns, htable, hflags, hbuilders, hchoose]
  simp only [h.conditions]

end SameTable

variable {i : Nat} {f : Field}

theorem sameTable_insertField (hi : i ≤ d.fields.length) (hf : f.persisted = false) :
    SameTable d (d.insertField i f) :=
  ⟨rfl, rfl, filter_insertIdx hi hf⟩

/-! ## Places in a class -/

/-- The lines of the class in front of the members of the field at the place. -/
def linesBefore (d : Struct) (s : Spelling) (i : Nat) : List Line :=
  [⟨0, "class " ++ d.typeName⟩, ⟨0, "\x7b"⟩, ⟨0, "public:"⟩] ++
    (d.fields.take i).flatMap (Field.memberLines s)

/-- The lines from there on, up to the methods. -/
def linesBetween (d : Struct) (s : Spelling) (i : Nat) : List Line :=
  (d.fields.drop i).flatMap (Field.memberLines s) ++ [⟨0, "public:"⟩]

/-- The lines of the methods, and the end of the class. -/
def methodLines (d : Struct) : List Line := d.methods.flatMap Method.lines ++ [⟨0, "\x7d;"⟩]

theorem classLines_eq (d : Struct) (s : Spelling) (i : Nat) :
    d.classLines s = d.linesBefore s i ++ (d.linesBetween s i ++ d.methodLines) := by
  rw [classLines, flatMap_take_drop (Field.memberLines s) i]
  simp only [linesBefore, linesBetween, methodLines, List.append_assoc]

theorem classLines_insertField (hi : i ≤ d.fields.length) (f : Field) (s : Spelling) :
    (d.insertField i f).classLines s = d.linesBefore s i ++
      (f.memberLines s ++ (d.linesBetween s i ++ (d.insertField i f).methodLines)) := by
  have hmembers : (d.insertField i f).fields.flatMap (Field.memberLines s) =
      (d.fields.take i).flatMap (Field.memberLines s) ++
        (f.memberLines s ++ (d.fields.drop i).flatMap (Field.memberLines s)) :=
    flatMap_insertIdx hi f (Field.memberLines s)
  simp only [classLines, hmembers, linesBefore, linesBetween, methodLines, List.append_assoc]
  rfl

theorem flags_insertField (hi : i ≤ d.fields.length) (f : Field) :
    (d.insertField i f).flags = (d.fields.take i).flatMap Field.flags ++
      (f.flags ++ (d.fields.drop i).flatMap Field.flags) :=
  flatMap_insertIdx hi f Field.flags

/-! ## Transient fields -/

theorem flags_of_transient (hf : f.persisted = false) (hnames : f.namesTable = false) :
    f.flags = [] := by
  simp only [Field.flags, hf, hnames, Bool.false_eq_true, if_false]

theorem canonicalOptions_of_transient (hf : f.persisted = false) (hnames : f.namesTable = false)
    (s : Spelling) : f.canonicalOptions s = [] := by
  simp only [Field.canonicalOptions, hf, hnames, Bool.false_eq_true, if_false]

/-- **A transient field adds the line of its member to the class, and nothing else.** -/
theorem insert_transient (d : Struct) (hi : i ≤ d.fields.length) (hf : f.persisted = false)
    (hnames : f.namesTable = false) (s : Spelling) (l : Layout) :
    (d.classLines s = d.linesBefore s i ++ (d.linesBetween s i ++ d.methodLines) ∧
      (d.insertField i f).classLines s =
        d.linesBefore s i ++ f.memberLine s :: (d.linesBetween s i ++ d.methodLines)) ∧
    (l.render (d.classLines s) =
        l.render (d.linesBefore s i) ++ l.render (d.linesBetween s i ++ d.methodLines) ∧
      l.render ((d.insertField i f).classLines s) = l.render (d.linesBefore s i) ++
        (l.line (f.memberLine s) ++ l.render (d.linesBetween s i ++ d.methodLines))) ∧
    (f.memberLine s).text =
      f.hostType ++ " " ++ f.name ++ ";//" ++ (s.delimiter ++ s.delimiter) ∧
    (d.insertField i f).methods = d.methods ∧
    (d.insertField i f).flags = d.flags ∧
    (d.insertField i f).columns = d.columns ∧
    (d.insertField i f).keyNames = d.keyNames ∧
    (d.insertField i f).nameWidth = d.nameWidth ∧
    (d.insertField i f).definitions = d.definitions ∧
    ∀ table, (d.insertField i f).createStatement table = d.createStatement table := by
  have hsame := sameTable_insertField hi hf
  have hflags : (d.insertField i f).flags = d.flags := by
    rw [flags_insertField hi, flags_of_transient hf hnames, List.nil_append]
    exact (flatMap_take_drop Field.flags i).symm
  have hmethods := hsame.methods (find?_insertIdx hi hnames) hflags
  have hmember : f.memberLines s = [f.memberLine s] := by
    rw [Field.memberLines, flags_of_transient hf hnames, List.map_nil]
  have hbefore := d.classLines_eq s i
  have hafter : (d.insertField i f).classLines s =
      d.linesBefore s i ++ f.memberLine s :: (d.linesBetween s i ++ d.methodLines) := by
    rw [classLines_insertField hi, hmember, methodLines, hmethods, ← methodLines]
    rfl
  refine ⟨⟨hbefore, hafter⟩, ⟨?_, ?_⟩, ?_, hmethods, hflags, hsame.columns, hsame.keyNames,
    hsame.nameWidth, hsame.definitions, hsame.createStatement⟩
  · rw [hbefore, Layout.render, List.flatMap_append]
    rfl
  · rw [hafter, Layout.render, List.flatMap_append, List.flatMap_cons]
    rfl
  · simp only [Field.memberLine, canonicalOptions_of_transient hf hnames, Spelling.delimit,
      List.append_nil]

/-- A column, a field that names the table and the key. -/
def basket : Struct where
  typeName := "Basket"
  tableName := "baskets"
  fields :=
    [{ hostType := "QString", name := "table", namesTable := true },
      { hostType := "int", name := "id", persisted := true, columnType := "INTEGER",
        primaryKey := true }]

/-- A transient field that carries what a column would. -/
def disguised : Field where
  hostType := "QString"
  name := "a_longer_name"
  columnType := "TEXT"
  nullable := true
  primaryKey := true
  extras := ["UNIQUE"]

theorem insert_transient_disguised :
    (basket.insertField 1 disguised).classLines {} = (basket.classLines {}).insertIdx 5
        ⟨1, "QString a_longer_name;//\x60\x60"⟩ ∧
      (basket.insertField 1 disguised).methods = basket.methods := by
  obtain ⟨⟨hbefore, hafter⟩, -, -, hmethods, -⟩ :=
    insert_transient basket (i := 1) (f := disguised) (by decide) rfl rfl {} {}
  have hplace : (basket.linesBefore {} 1).length = 5 := by decide
  refine ⟨?_, hmethods⟩
  rw [hbefore, hafter, ← hplace, insertIdx_length_append]
  rfl

end Struct

end TableBinding
