import TableBinding.Class.Definition
import TableBinding.Proofs.Annotation.CanonicalField
import TableBinding.Proofs.Text.Code

/-!
# What a class declares

The members, flags and methods of a generated class are read from the lines that declare them:
members and flags from the member lines (`Struct.declaredMembers`, `Struct.declaredFlags`), the
flags that are set from the lines of the method that sets them (`Struct.setFlags`), and methods from
their signatures (`Struct.methodNames`). Of a well-formed struct the members are the names of its
fields and their flags, the flags are declared and set in the order of the fields, and the methods
include the variants of every builder (`Struct.variants_mem`).
-/

namespace TableBinding

open Text Code

/-! ## Reading declarations -/

/-- The name between the two texts, if there is nothing else. -/
def Text.nameBetween? (front back t : Text) : Option Text :=
  (after? front t).bind fun rest =>
    let name := rest.takeWhile isIdentRest
    if isIdent name ∧ rest = name ++ back then some name else none

/-- The name in front of the first such character. -/
def Text.nameBefore? (stop : Char) (t : Text) : Option Text :=
  let name := (t.takeWhile (· != stop)).rtakeWhile isIdentRest
  if isIdent name then some name else none

theorem Text.of_nameBetween? {front back t name : Text}
    (h : nameBetween? front back t = some name) :
    t = front ++ name ++ back ∧ isIdent name = true := by
  unfold nameBetween? at h
  cases hrest : after? front t with
  | none =>
    rw [hrest] at h
    cases h
  | some rest =>
    rw [hrest, Option.bind_some] at h
    dsimp only at h
    split at h
    · next hname =>
      cases h
      refine ⟨?_, hname.1⟩
      rw [after?_eq_some_iff.1 hrest, List.append_assoc, ← hname.2]
    · cases h

theorem Text.nameBetween?_eq {front back name : Text} (hname : isIdent name = true)
    (hback : EndsName back) : nameBetween? front back (front ++ name ++ back) = some name := by
  have hstop : (name ++ back).takeWhile isIdentRest = name := by
    rw [List.takeWhile_append_of_pos (mem_isIdent hname).2]
    cases back with
    | nil => cases hback
    | cons c back =>
      have hc : (!isIdentRest c) = true := hback
      rw [List.takeWhile_cons_of_neg (by simpa using hc), List.append_nil]
  rw [nameBetween?, List.append_assoc, after?_append, Option.bind_some, hstop]
  exact if_pos ⟨hname, rfl⟩

theorem Text.nameBefore?_eq {front name back : Text} {stop : Char} (hname : isIdent name = true)
    (hfront : stop ∉ front) (hstop : isIdentRest stop = false)
    (hlast : front.getLast?.any isIdentRest = false) :
    nameBefore? stop (front ++ name ++ stop :: back) = some name := by
  have hpass : ∀ c ∈ front ++ name, (c != stop) = true := by
    intro c hc
    rw [bne_iff_ne]
    rintro rfl
    rcases List.mem_append.1 hc with hc | hc
    · exact hfront hc
    · exact Bool.eq_false_iff.1 hstop ((mem_isIdent hname).2 _ hc)
  have htake : (front ++ name ++ stop :: back).takeWhile (· != stop) = front ++ name := by
    rw [List.takeWhile_append_of_pos hpass, List.takeWhile_cons_of_neg (by simp), List.append_nil]
  have hnone : front.reverse.takeWhile isIdentRest = [] := by
    rcases List.eq_nil_or_concat front with rfl | ⟨rest, c, rfl⟩
    · rfl
    · rw [List.concat_eq_append, List.getLast?_concat] at hlast
      have hc : ¬ isIdentRest c = true := Bool.eq_false_iff.1 hlast
      rw [List.concat_eq_append, List.reverse_append, List.reverse_singleton,
        List.singleton_append, List.takeWhile_cons_of_neg hc]
  have hname' : ∀ c ∈ name.reverse, isIdentRest c = true := fun c hc =>
    (mem_isIdent hname).2 c (List.mem_reverse.1 hc)
  have hrtake : (front ++ name).rtakeWhile isIdentRest = name := by
    rw [List.rtakeWhile, List.reverse_append, List.takeWhile_append_of_pos hname', hnone,
      List.append_nil, List.reverse_reverse]
  unfold nameBefore?
  rw [htake]
  dsimp only
  rw [hrtake]
  exact if_pos hname

theorem Text.isIdent_append {front t : Text} (hfront : isIdent front = true)
    (ht : ∀ c ∈ t, isIdentRest c = true) : isIdent (front ++ t) = true := by
  cases front with
  | nil => cases hfront
  | cons c front =>
    obtain ⟨hc, hrest⟩ := Bool.and_eq_true_iff.1 hfront
    refine Bool.and_eq_true_iff.2 ⟨hc, List.all_eq_true.2 ?_⟩
    exact List.forall_mem_append.2 ⟨List.all_eq_true.1 hrest, ht⟩

/-! ## What a class declares -/

namespace Struct

/-- The lines that declare the members of the class. -/
def memberLines (s : Spelling) (d : Struct) : List Line := d.fields.flatMap (Field.memberLines s)

/-- The flags that the member lines declare. -/
def declaredFlags (s : Spelling) (d : Struct) : List Text :=
  (d.memberLines s).filterMap fun line => nameBetween? "bool " ";" line.text

/-- The members that the member lines declare. -/
def declaredMembers (s : Spelling) (d : Struct) : List Text :=
  (d.memberLines s).filterMap fun line => nameBefore? ';' line.text

/-- The flags that the method sets to the value of its parameter. -/
def setFlags (d : Struct) : List Text :=
  d.flushFlags.lines.filterMap fun line => nameBetween? "this->" " = flagValue;" line.text

/-- The methods of the class, by name. -/
def methodNames (d : Struct) : List Text := d.methods.filterMap fun m => nameBefore? '(' m.signature

end Struct

variable {s : Spelling} {d : Struct} {f : Field}

theorem Field.isIdent_of_mem_flags (hf : isIdent f.name = true) :
    ∀ flag ∈ f.flags, isIdent flag.member = true := by
  have hmember : ∀ front : Text, isIdent front = true → isIdent (front ++ f.name) = true :=
    fun _ hfront => isIdent_append hfront (mem_isIdent hf).2
  intro flag hflag
  unfold Field.flags at hflag
  split at hflag
  · simp only [List.mem_cons, List.not_mem_nil, or_false] at hflag
    rcases hflag with rfl | rfl | rfl
    · exact hmember "iuq_" (by decide)
    · exact hmember "w_" (by decide)
    · exact hmember "idq_" (by decide)
  · split at hflag
    · cases List.mem_singleton.1 hflag
      exact hmember "otn_" (by decide)
    · cases hflag

namespace Struct

theorem isIdent_of_mem_flags (hd : d.WellFormed s) :
    ∀ flag ∈ d.flags, isIdent flag.member = true := by
  intro flag hflag
  obtain ⟨f, hf, hflag⟩ := List.mem_flatMap.1 hflag
  exact Field.isIdent_of_mem_flags (hd.fields f hf).name flag hflag

end Struct

/-! ### Member lines -/

/-- The line of a field declares no flag: there is an annotation behind the name. -/
theorem Field.nameBetween?_memberLine (s : Spelling) (f : Field) :
    nameBetween? "bool " ";" (f.memberLine s).text = none := by
  cases h : nameBetween? "bool " ";" (f.memberLine s).text with
  | none => rfl
  | some name =>
    obtain ⟨htext, hname⟩ := of_nameBetween? h
    have hslash : '/' ∈ (f.memberLine s).text := by simp [Field.memberLine]
    rw [htext] at hslash
    rcases List.mem_append.1 hslash with hslash | hslash
    · rcases List.mem_append.1 hslash with hslash | hslash
      · exact absurd hslash (by decide)
      · exact absurd ((mem_isIdent hname).2 _ hslash) (by decide)
    · exact absurd hslash (by decide)

theorem Field.nameBefore?_memberLine (hf : f.WellFormed s) :
    nameBefore? ';' (f.memberLine s).text = some f.name := by
  have htext : (f.memberLine s).text =
      (f.hostType ++ [' ']) ++ f.name ++ ';' :: ("//" ++ s.delimit (f.canonicalOptions s)) := by
    have hsemicolon : (";//" : Text) = ';' :: "//" := by decide
    unfold memberLine
    rw [hsemicolon]
    simp only [List.append_assoc, List.cons_append]
    rfl
  rw [htext]
  refine nameBefore?_eq hf.name (fun hmem => ?_) (by decide) ?_
  · rcases List.mem_append.1 hmem with hmem | hmem
    · exact absurd (hf.hostType.isTypeWords.chars _ hmem) (by decide)
    · exact absurd hmem (by decide)
  · rw [List.getLast?_concat]
    decide

theorem Flag.nameBetween?_memberLine {flag : Flag} (h : isIdent flag.member = true) :
    nameBetween? "bool " ";" flag.memberLine.text = some flag.member :=
  nameBetween?_eq h (by decide)

theorem Flag.nameBefore?_memberLine {flag : Flag} (h : isIdent flag.member = true) :
    nameBefore? ';' flag.memberLine.text = some flag.member :=
  nameBefore?_eq h (by decide) (by decide) (by decide)

namespace Struct

theorem filterMap_memberLines (s : Spelling) (d : Struct) {α : Type} (read : Line → Option α) :
    (d.memberLines s).filterMap read = d.fields.flatMap fun f =>
      (read (f.memberLine s)).toList ++ (f.flags.map Flag.memberLine).filterMap read := by
  rw [memberLines, List.filterMap_flatMap]
  refine List.flatMap_congr fun f _ => ?_
  rw [Field.memberLines, List.filterMap_cons]
  cases read (f.memberLine s) with
  | none => rfl
  | some a => rfl

/-- **The member lines declare the flags of the class**, each where it is declared. -/
theorem declaredFlags_eq (hd : d.WellFormed s) : d.declaredFlags s = d.flags.map Flag.member := by
  rw [declaredFlags, filterMap_memberLines, flags, List.map_flatMap]
  refine List.flatMap_congr fun f hf => ?_
  rw [Field.nameBetween?_memberLine, List.filterMap_map]
  refine List.filterMap_eq_map_iff_forall_eq_some.2 fun flag hflag => ?_
  exact Flag.nameBetween?_memberLine (Field.isIdent_of_mem_flags (hd.fields f hf).name flag hflag)

theorem declaredMembers_eq (hd : d.WellFormed s) :
    d.declaredMembers s = d.fields.flatMap fun f => f.name :: f.flags.map Flag.member := by
  rw [declaredMembers, filterMap_memberLines]
  refine List.flatMap_congr fun f hf => ?_
  rw [Field.nameBefore?_memberLine (hd.fields f hf), List.filterMap_map]
  refine congrArg (f.name :: ·) (List.filterMap_eq_map_iff_forall_eq_some.2 fun flag hflag => ?_)
  exact Flag.nameBefore?_memberLine (Field.isIdent_of_mem_flags (hd.fields f hf).name flag hflag)

/-- **The method that sets the flags sets those of the class**, in order of declaration. -/
theorem setFlags_eq (hd : d.WellFormed s) : d.setFlags = d.flags.map Flag.member := by
  have hopening : ([⟨1, "void flush_flag(bool flagValue)"⟩, ⟨1, "\x7b"⟩] : List Line).filterMap
      (fun line => nameBetween? "this->" " = flagValue;" line.text) = [] := by decide
  have hclosing : ([⟨1, "\x7d;"⟩] : List Line).filterMap
      (fun line => nameBetween? "this->" " = flagValue;" line.text) = [] := by decide
  have hflag : ∀ flag ∈ d.flags, (Statement.setFlag flag).lines.filterMap
      (fun line => nameBetween? "this->" " = flagValue;" line.text) = [flag.member] := by
    intro flag hflag
    have hread : nameBetween? "this->" " = flagValue;"
        ("this->" ++ flag.member ++ " = flagValue;") = some flag.member :=
      nameBetween?_eq (isIdent_of_mem_flags hd flag hflag) (by decide)
    exact List.filterMap_cons_some hread
  have hbody : (d.flags.map Statement.setFlag).flatMap Statement.lines =
      d.flags.flatMap fun flag => (Statement.setFlag flag).lines := List.flatMap_map ..
  rw [setFlags, Method.lines, List.filterMap_append, List.filterMap_append]
  unfold flushFlags
  dsimp only
  rw [hopening, hclosing, hbody, List.filterMap_flatMap, List.flatMap_congr hflag,
    List.append_nil, List.nil_append]
  exact List.flatMap_pure_eq_map ..

end Struct

/-! ### Methods -/

/-- The lines between the braces of a method, without their indentation. -/
def Method.code (m : Method) : List Text := (m.lines.drop 2).dropLast.map Line.text

theorem Method.code_eq (m : Method) :
    m.code = m.body.flatMap fun statement => statement.lines.map Line.text := by
  have hlines : m.lines.drop 2 = m.body.flatMap Statement.lines ++ [⟨1, "\x7d;"⟩] := rfl
  rw [code, hlines, List.dropLast_concat, List.map_flatMap]

/-- The name of the variant about the struct's table. -/
def Binding.variant : Binding → Text → Text
  | classLevel, method => staticVariant method
  | instanceLevel, method => method

theorem Text.nameBefore?_callExpr {front method params : Text} (hmethod : isIdent method = true)
    (hfront : '(' ∉ front) (hlast : front.getLast?.any isIdentRest = false) :
    nameBefore? '(' (front ++ callExpr method params) = some method := by
  have htext : front ++ callExpr method params =
      front ++ method ++ '(' :: (params ++ [')']) := by
    rw [callExpr]
    simp only [List.append_assoc, List.cons_append, List.nil_append]
  rw [htext]
  exact nameBefore?_eq hmethod hfront (by decide) hlast

theorem isIdent_objectVariant {method : Text} (h : isIdent method = true) :
    isIdent (objectVariant method) = true := isIdent_append (by decide) (mem_isIdent h).2

theorem Binding.nameBefore?_signature {method : Text} (hmethod : isIdent method = true)
    (b : Binding) (params : Text) :
    nameBefore? '(' (b.signature method params) = some (b.variant method) := by
  cases b with
  | classLevel =>
    have hvariant : isIdent (staticVariant method) = true :=
      isIdent_append (by decide) (mem_isIdent hmethod).2
    have htext : Binding.classLevel.signature method params =
        "static QString " ++ callExpr (staticVariant method) params := rfl
    rw [htext]
    exact nameBefore?_callExpr hvariant (by decide) (by decide)
  | instanceLevel => exact nameBefore?_callExpr hmethod (by decide) (by decide)

namespace Struct

theorem mem_methodNames {m : Method} {name : Text} (hm : m ∈ d.methods)
    (hname : nameBefore? '(' m.signature = some name) : name ∈ d.methodNames :=
  List.mem_filterMap.2 ⟨m, hm, hname⟩

/-- The variants of a builder are methods of the class. -/
theorem variants_mem {method params : Text} {binding : Binding} {body : TableRef → List Statement}
    (hmethod : isIdent method = true)
    (h : ∀ m ∈ d.builders method params binding body, m ∈ d.methods) :
    binding.variant method ∈ d.methodNames ∧
      ∀ flag ∈ d.redirection?, objectVariant method ∈ d.methodNames := by
  refine ⟨?_, fun flag hflag => ?_⟩
  · exact mem_methodNames (h _ (List.mem_cons_self ..)) (binding.nameBefore?_signature hmethod _)
  · have hmem : { signature := textSignature (objectVariant method) params
                  body := .demand flag :: body .chosen ++ [.giveSql] : Method } ∈
        d.builders method params binding body :=
      List.mem_cons_of_mem _ (List.mem_map.2 ⟨flag, Option.mem_toList.2 hflag, rfl⟩)
    exact mem_methodNames (h _ hmem)
      (nameBefore?_callExpr (isIdent_objectVariant hmethod) (by decide) (by decide))

theorem mem_methods {m : Method} :
    m ∈ d.methods ↔ m = d.constructorMethod ∨ m ∈ d.tableNames ∨ m ∈ d.dropTable ∨
      m ∈ d.createTable ∨ m ∈ d.insert ∨ m ∈ d.delete ∨ m = d.readResult ∨ m ∈ d.query ∨
      m ∈ d.update ∨ m = d.flushFlags ∨ m = d.compareKeys := by
  simp only [methods, List.mem_append, List.mem_cons, List.not_mem_nil, or_false, or_assoc]

/-- The methods about the rows of a table are methods of the class. -/
theorem mem_methods_of_mem_builders {ms : List Method}
    (h : ms ∈ [d.insert, d.delete, d.query, d.update]) : ∀ m ∈ ms, m ∈ d.methods := by
  intro m hm
  simp only [List.mem_cons, List.not_mem_nil, or_false] at h
  rw [mem_methods]
  rcases h with rfl | rfl | rfl | rfl
  all_goals simp only [hm, true_or, or_true]

theorem tableNames_subset : ∀ m ∈ d.tableNames, m ∈ d.methods := fun _ hm =>
  mem_methods.2 (.inr (.inl hm))

theorem flush_flag_mem : ("flush_flag" : Text) ∈ d.methodNames := by
  have hmem : d.flushFlags ∈ d.methods := by
    rw [mem_methods]
    simp only [true_or, or_true]
  have hname : nameBefore? '(' "void flush_flag(bool flagValue)" = some "flush_flag" := by decide
  exact mem_methodNames hmem hname

theorem get_data_mem : ("get_data" : Text) ∈ d.methodNames := by
  have hmem : d.readResult ∈ d.methods := by
    rw [mem_methods]
    simp only [true_or, or_true]
  have hopening : ("static void get_data(QSqlQuery& query, QList<" : Text) =
      "static void " ++ "get_data" ++ '(' :: "QSqlQuery& query, QList<" := by decide
  have hsignature : d.readResult.signature = "static void " ++ "get_data" ++
      '(' :: ("QSqlQuery& query, QList<" ++ (d.typeName ++ ">& dataOut)")) := by
    unfold readResult
    dsimp only
    rw [hopening]
    simp only [List.append_assoc, List.cons_append]
  refine mem_methodNames hmem ?_
  rw [hsignature]
  exact nameBefore?_eq (by decide) (by decide) (by decide) (by decide)

end Struct

end TableBinding
