import TableBinding.Proofs.Class.Builders
import TableBinding.Proofs.Class.FilledTable

/-!
# The templates of INSERT and UPDATE, filled

The template of a statement is filled one value after the other, and each time the marks of the
lowest number are looked for in all that has been filled in before. The INSERT builder fills in the
values of the columns last, so whatever they hold, its statement is what it is meant to be. The
UPDATE builder fills in the conditions behind the assignments, which hold such values: its statement
is what it is meant to be exactly if none of the assigned values has a place mark of a number up to
that of the conditions (`Struct.statements_filled`). Where one has, the conditions get into that
value, and if its number is lower, not to their own place (`Struct.update_filled_memo`).
-/

namespace TableBinding

open Text Code Program

/-! ## Filling behind a text -/

namespace Text

theorem marks_join (ts : List Text) : marks (join "," ts) = ts.flatMap marks := by
  have hcomma : ("," : Text) = [','] := by decide
  rw [hcomma]
  fun_induction join [','] ts with
  | case1 => rfl
  | case2 t => exact (List.flatMap_singleton ..).symm
  | case3 t u rest ih =>
    rw [List.append_assoc, List.singleton_append, marks_append_cons (by decide) (by decide), ih,
      List.flatMap_cons (x := t)]

/-- **A value gets to the last place mark alone** exactly if all marks in front of it are of higher
numbers, provided that the value does not begin like a mark, and that the digit of the mark does not
stand where the value ends. -/
theorem fillLowest_concat_mark_iff {c : Char} (hdigit : c.isDigit = true) (hzero : c ≠ '0')
    {front value : Text} (hvalue : (dense value).head? ≠ some '%')
    (hlast : (front ++ value).getLast? ≠ some c) :
    fillLowest value (front ++ ['%', c]) = front ++ value ↔
      ∀ n ∈ marks front, Number.digitValue c < n := by
  have hhead : NoDigitHead [] := fun _ h => nomatch h
  constructor
  · intro h n hn
    have hmarks : marks (front ++ ['%', c]) = marks front ++ [Number.digitValue c] :=
      marks_append_mark hdigit hzero front hhead
    obtain ⟨lowest, hlowest⟩ : ∃ lowest, (marks (front ++ ['%', c])).min? = some lowest := by
      refine Option.ne_none_iff_exists'.1 fun hnone => ?_
      rw [List.min?_eq_none_iff, hmarks] at hnone
      exact List.append_ne_nil_of_right_ne_nil _ (List.cons_ne_nil _ _) hnone
    obtain ⟨hmem, hle⟩ := List.min?_eq_some_iff.1 hlowest
    rw [hmarks] at hmem hle
    rw [fillLowest, hlowest] at h
    dsimp only at h
    rw [fill_append lowest value (noDigitHead_mark c [])] at h
    have hlow := hle n (List.mem_append_left _ hn)
    by_contra hcontra
    by_cases heq : lowest = Number.digitValue c
    · -- The value gets to its place, and to the mark of the same number as well.
      subst heq
      rw [fill_mark hdigit hzero, List.append_left_inj] at h
      refine (dense_fill_eq_iff hvalue _ front).1 (congrArg dense h) ?_
      have hsame : n = Number.digitValue c := by omega
      exact hsame ▸ hn
    · -- The mark stays where it is, at the end.
      have hother : lowest ∉ marks ['%', c] := by
        rw [marks_mark hdigit hzero]
        exact fun hmark => heq (List.mem_singleton.1 hmark)
      rw [fill_of_not_mem value hother] at h
      refine hlast ?_
      rw [← h, List.getLast?_append_of_ne_nil _ (List.cons_ne_nil _ _)]
      rfl
  · intro hfront
    have hfill := fillLowest_append_mark hdigit hzero value hhead hfront fun n hn => by cases hn
    rwa [List.append_nil] at hfill

/-- A mark behind a text without percent signs is filled, if no lower one follows. -/
theorem fillLowest_behind_plain {c : Char} (hdigit : c.isDigit = true) (hzero : c ≠ '0')
    {front back : Text} (value : Text) (hfront : '%' ∉ front) (hback : NoDigitHead back)
    (hbehind : ∀ n ∈ marks back, Number.digitValue c < n) :
    fillLowest value (front ++ '%' :: c :: back) = front ++ (value ++ back) := by
  refine fillLowest_append_mark hdigit hzero value hback ?_ hbehind
  rw [marks_of_not_mem hfront]
  exact fun n hn => absurd hn List.not_mem_nil

/-- **The template of INSERT**: what is filled in before the values has no percent sign. -/
theorem fillLowest_insert {keyword table keys : Text} (hkeyword : '%' ∉ keyword)
    (htable : '%' ∉ table) (hkeys : '%' ∉ keys) (values : Text) :
    fillLowest values (fillLowest keys (fillLowest table
        (fillLowest keyword "%1 %2(%3) VALUES(%4)"))) =
      keyword ++ " " ++ table ++ "(" ++ keys ++ ") VALUES(" ++ values ++ ")" := by
  have hcuts : ("%1 %2(%3) VALUES(%4)" : Text) = [] ++ '%' :: '1' :: " %2(%3) VALUES(%4)" ∧
      (" %2(%3) VALUES(%4)" : Text) = " " ++ '%' :: '2' :: "(%3) VALUES(%4)" ∧
      ("(%3) VALUES(%4)" : Text) = "(" ++ '%' :: '3' :: ") VALUES(%4)" ∧
      (") VALUES(%4)" : Text) = ") VALUES(" ++ '%' :: '4' :: ")" := by decide
  obtain ⟨hfirst, hsecond, hthird, hfourth⟩ := hcuts
  have hbefore : '%' ∉ keyword ++ (" " : Text) := List.not_mem_append hkeyword (by decide)
  have hopen : '%' ∉ keyword ++ (" " : Text) ++ table ++ ("(" : Text) :=
    List.not_mem_append (List.not_mem_append hbefore htable) (by decide)
  have hvalues : '%' ∉ keyword ++ (" " : Text) ++ table ++ ("(" : Text) ++ keys ++
      (") VALUES(" : Text) := List.not_mem_append (List.not_mem_append hopen hkeys) (by decide)
  rw [hfirst, fillLowest_behind_plain rfl (by decide) keyword List.not_mem_nil (by decide)
      (by decide), List.nil_append, hsecond, ← List.append_assoc,
    fillLowest_behind_plain rfl (by decide) table hbefore (by decide) (by decide), hthird,
    ← List.append_assoc, ← List.append_assoc,
    fillLowest_behind_plain rfl (by decide) keys hopen (by decide) (by decide), hfourth,
    ← List.append_assoc, ← List.append_assoc,
    fillLowest_behind_plain rfl (by decide) values hvalues (by decide) (by decide)]
  simp only [List.append_assoc]

/-- The template of UPDATE, up to the conditions. -/
theorem fillLowest_update {table : Text} (htable : '%' ∉ table) (assignments : Text) :
    fillLowest assignments (fillLowest table "UPDATE %1 SET %2 WHERE 1=1 %3") =
      "UPDATE " ++ table ++ " SET " ++ assignments ++ " WHERE 1=1 " ++ ['%', '3'] := by
  have hcuts : ("UPDATE %1 SET %2 WHERE 1=1 %3" : Text) =
        "UPDATE " ++ '%' :: '1' :: " SET %2 WHERE 1=1 %3" ∧
      (" SET %2 WHERE 1=1 %3" : Text) = " SET " ++ '%' :: '2' :: " WHERE 1=1 %3" ∧
      (" WHERE 1=1 %3" : Text) = " WHERE 1=1 " ++ ['%', '3'] := by decide
  obtain ⟨hfirst, hsecond, hthird⟩ := hcuts
  have hbefore : '%' ∉ ("UPDATE " : Text) ++ table ++ (" SET " : Text) :=
    List.not_mem_append (List.not_mem_append (by decide) htable) (by decide)
  rw [hfirst, fillLowest_behind_plain rfl (by decide) table (by decide) (by decide) (by decide),
    hsecond, ← List.append_assoc, ← List.append_assoc,
    fillLowest_behind_plain rfl (by decide) assignments hbefore (by decide) (by decide), hthird]
  simp only [List.append_assoc]

end Text

namespace Struct

variable {arg : Text → Text → Text} {c : Context} {d : Struct} {ref : TableRef}

/-- The marks of assigned values, one after the other. -/
theorem marks_assigned {fs : List Field} (hfs : ∀ f ∈ fs, IsName f.name) :
    marks (join "," (fs.map c.assigned)) = fs.flatMap fun f => marks (c.member f.name) := by
  rw [marks_join, List.flatMap_map]
  refine List.flatMap_congr fun f hf => ?_
  have hname := (hfs f hf).not_mem_percent
  unfold Context.assigned Context.quoted
  rw [marks_append_of_not_mem hname, marks_cons (by decide), List.cons_append,
    marks_cons (by decide), marks_append_cons (by decide) (by decide)]
  exact List.append_nil _

/-- Conditions do not begin like a mark. -/
theorem head?_dense_conditions (c : Context) (fs : List Field) :
    (dense (fs.flatMap c.condition)).head? ≠ some '%' := by
  cases fs with
  | nil =>
    intro h
    cases h
  | cons f fs =>
    have hand : dense "AND " = 'A' :: "ND" := by decide
    rw [List.flatMap_cons]
    unfold Context.condition
    rw [dense_append, dense_append, dense_append, hand]
    intro h
    exact absurd (Option.some.inj h) (by decide)

/-- Behind a space, conditions end with a space. -/
theorem getLast?_conditions (c : Context) (fs : List Field) (front : Text) :
    (front ++ [' '] ++ fs.flatMap c.condition).getLast? = some ' ' := by
  rcases List.eq_nil_or_concat fs with rfl | ⟨rest, f, rfl⟩
  · rw [List.flatMap_nil, List.append_nil, List.getLast?_concat]
  · unfold Context.condition
    rw [List.concat_eq_append, List.flatMap_append, List.flatMap_singleton, ← List.append_assoc,
      ← List.append_assoc, List.getLast?_concat]

theorem keyword_not_mem (c : Context) : '%' ∉ c.keyword := by
  unfold Context.keyword
  split
  · decide
  · decide

theorem not_mem_join_names {fs : List Field} (hfs : ∀ f ∈ fs, IsName f.name) :
    '%' ∉ join "," (fs.map Field.name) := by
  intro hmem
  rcases mem_join hmem with h | ⟨name, hname, h⟩
  · exact absurd h (by decide)
  · obtain ⟨f, hf, rfl⟩ := List.mem_map.1 hname
    exact (hfs f hf).not_mem_percent h

/-- **The statements of INSERT and UPDATE.** For every struct that was read, whatever flags its
object has set and whatever its members hold, the INSERT builder gives the statement of its table,
its names and its values. The UPDATE builder gives the statement of its table, its assignments and
its conditions exactly if no value that is assigned has a place mark of a number up to three. -/
theorem statements_filled (harg : FillsLowest arg) {s : Spelling} {source : Text}
    {structs : List Struct} (h : Source.structs s source = .ok structs) (hd : d ∈ structs)
    (href : d.Offers c ref) {table : Text} (hcall : c.call ref.method = table)
    (htable : ∀ ch ∈ table, isIdentRest ch = true) :
    (d.Leaves arg c ref "insert_sql" "bool insertOrReplace" fun last =>
      last.given? = some (c.keyword ++ " " ++ table ++ "(" ++ last.value "strKey" ++
        ") VALUES(" ++ last.value "strVal" ++ ")")) ∧
    d.Leaves arg c ref "update_sql" [] fun last =>
      last.given? = some ("UPDATE " ++ table ++ " SET " ++ last.value "strSet" ++ " WHERE 1=1 " ++
          last.value "strWhere") ↔
        ∀ f ∈ d.written c, ∀ n ∈ marks (c.member f.name), 3 < n := by
  have hnamed := IsNamed.of_structs h hd
  have hpercent : '%' ∉ table := fun hmem => absurd (htable _ hmem) (by decide)
  have hnames : ∀ f ∈ d.written c, IsName f.name := fun f hf =>
    hnamed.columns f (List.mem_of_mem_filter hf)
  constructor
  · refine (leaves_insert harg.fillsOnce hnamed href).mono fun last hlast => ?_
    obtain ⟨hkeys, hvalues, hgiven⟩ := hlast
    rw [hgiven, hkeys, hvalues, hcall]
    simp only [harg _ _]
    rw [fillLowest_insert (keyword_not_mem c) hpercent (not_mem_join_names hnames)]
  · refine (leaves_update harg.fillsOnce hnamed href).mono fun last hlast => ?_
    obtain ⟨hset, hwhere, hgiven⟩ := hlast
    rw [hgiven, hset, hwhere, hcall]
    simp only [harg _ _]
    have hends : ("UPDATE " ++ table ++ " SET " ++ join "," ((d.written c).map c.assigned) ++
        " WHERE 1=1 " ++ (d.required c).flatMap c.condition).getLast? ≠ some '3' := by
      have hspace : (" WHERE 1=1 " : Text) = " WHERE 1=1" ++ [' '] := by decide
      rw [hspace, ← List.append_assoc, getLast?_conditions]
      decide
    have hmarks : marks ("UPDATE " ++ table ++ " SET " ++
        join "," ((d.written c).map c.assigned) ++ " WHERE 1=1 ") =
          (d.written c).flatMap fun f => marks (c.member f.name) := by
      have hbefore : '%' ∉ ("UPDATE " : Text) ++ table ++ (" SET " : Text) :=
        List.not_mem_append (List.not_mem_append (by decide) hpercent) (by decide)
      have hbehind : '%' ∉ (" WHERE 1=1 " : Text) := by decide
      rw [marks_append (by decide), marks_append_of_not_mem hbefore, marks_of_not_mem hbehind,
        List.append_nil, marks_assigned hnames]
    rw [fillLowest_update hpercent, Option.some_inj,
      fillLowest_concat_mark_iff rfl (by decide) (head?_dense_conditions c _) hends, hmarks]
    simp only [List.mem_flatMap, forall_exists_index, and_imp]
    exact ⟨fun h f hf n hn => h n f hf hn, fun h n f hf hn => h f hf n hn⟩

/-- A struct with a single column. -/
def memo : Struct where
  typeName := "T"
  tableName := "t"
  fields := [{ hostType := "QString", name := "a", persisted := true, columnType := "TEXT" }]

def memoSource : Text :=
  [("struct T //\x60t\x60" : String), "\x7b", "QString a; //\x60TEXT\x60",
    "\x7d;"].flatMap fun line => line.toList ++ ['\n']

/-- An object of it with all flags set that holds the value. -/
def memoObject (value : Text) : Context where
  flag := fun _ => true
  member := fun _ => value
  call := fun _ => "t"
  parameter := fun _ => true

theorem statements_filled_memo :
    Source.structs {} memoSource = .ok [memo] ∧ memo.Offers (memoObject "%4 'x'") .fixed ∧
      memo.Leaves (fun template value => fillLowest value template) (memoObject "%4 'x'") .fixed
        "update_sql" [] fun last =>
          last.given? = some ("UPDATE " ++ "t" ++ " SET " ++ last.value "strSet" ++ " WHERE 1=1 " ++
            last.value "strWhere") := by
  have hread : Source.structs {} memoSource = .ok [memo] := by decide +kernel
  have harg : FillsLowest fun template value => fillLowest value template := fun _ _ => rfl
  have htable : ("t" : Text).all isIdentRest = true := by decide
  have hmarks : ∀ f ∈ memo.written (memoObject "%4 'x'"),
      ∀ n ∈ marks ((memoObject "%4 'x'").member f.name), 3 < n := by decide +kernel
  have hoffers : memo.Offers (memoObject "%4 'x'") .fixed := trivial
  have hcall : (memoObject "%4 'x'").call TableRef.fixed.method = "t" := rfl
  obtain ⟨-, hupdate⟩ := statements_filled harg hread (List.mem_singleton_self _) hoffers hcall
    (List.all_eq_true.1 htable)
  exact ⟨hread, hoffers, hupdate.mono fun last hlast => hlast.2 hmarks⟩

/-- **The conditions get into a value** that has a place mark, and their own mark stays. -/
theorem update_filled_memo :
    Source.structs {} memoSource = .ok [memo] ∧
      (∃ m ∈ memo.methods, m.signature = "QString update_sql()") ∧
      ∀ arg, FillsLowest arg → ∀ m ∈ memo.methods, m.signature = "QString update_sql()" →
        ∃ program, m.program? = some program ∧
          (run arg (memoObject "%1") program).value "strSet" = "a='%1'" ∧
          (run arg (memoObject "%1") program).value "strWhere" = "AND a='%1' " ∧
          (run arg (memoObject "%1") program).given? =
            some "UPDATE t SET a='AND a='%1' ' WHERE 1=1 %3" ∧
          (run arg (memoObject "%1") program).given? ≠
            some ("UPDATE " ++ "t" ++ " SET " ++ "a='%1'" ++ " WHERE 1=1 " ++ "AND a='%1' ") := by
  refine ⟨by decide +kernel, by decide +kernel, fun arg harg => ?_⟩
  obtain rfl : arg = fun template value => fillLowest value template :=
    funext fun template => funext fun value => harg template value
  have hrun : ∀ m ∈ memo.methods, m.signature = "QString update_sql()" →
      m.program?.map (fun program =>
        let last := run (fun template value => fillLowest value template) (memoObject "%1") program
        (last.value "strSet", last.value "strWhere", last.given?)) =
      some (("a='%1'" : Text), ("AND a='%1' " : Text),
        some ("UPDATE t SET a='AND a='%1' ' WHERE 1=1 %3" : Text)) := by
    decide +kernel
  intro m hm hsignature
  obtain ⟨program, hprogram, hlast⟩ := Option.map_eq_some_iff.1 (hrun m hm hsignature)
  obtain ⟨hset, hlast⟩ := Prod.mk.inj hlast
  obtain ⟨hwhere, hgiven⟩ := Prod.mk.inj hlast
  refine ⟨program, hprogram, hset, hwhere, hgiven, ?_⟩
  rw [hgiven]
  decide

end Struct

end TableBinding
