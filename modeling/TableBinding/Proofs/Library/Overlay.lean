import Mathlib.Data.List.Nodup
import Mathlib.Data.List.TakeWhile
import TableBinding.Library.KeyPath
import TableBinding.Proofs.Settings.Laws

/-!
# Sources laid over a tree

What stands under a key when entries were laid over others (`Tree.lookup_overlayEntries`), and what
becomes of a tree when the entries of a source are put into it: with keys that lead no deeper they
are laid over it as they stand (`Tree.putAll_of_plain`), and what is set behind keys stands where
these lead (`Tree.isSet_changeWithin`).
-/

namespace TableBinding

namespace KeyPath

theorem steps?_eq_none {c : Char} {t : Text} (hdot : c ≠ '.') (hbracket : c ≠ '[') :
    steps? (c :: t) = none := by
  unfold steps?
  split
  · rename_i h
    cases h
  · rename_i h
    exact absurd (List.cons.inj h).1 hdot
  · rename_i h
    exact absurd (List.cons.inj h).1 hbracket
  · rfl

theorem ofText_of_plain {key : Text} (h : IsPlainKey key) : ofText key = [.key key] := by
  unfold ofText
  split
  · rfl
  · have hkey : key.takeWhile isNameChar ++ key.dropWhile isNameChar = key :=
      List.takeWhile_append_dropWhile
    cases hrest : key.dropWhile isNameChar with
    | nil =>
      rw [hrest, List.append_nil] at hkey
      rw [steps?, hkey]
    | cons c rest =>
      have hc : c ∈ key := (List.dropWhile_suffix isNameChar).subset (hrest ▸ List.mem_cons_self)
      have hdot : c ≠ '.' := fun hdot => h.1 (hdot ▸ hc)
      have hbracket : c ≠ '[' := fun hbracket => h.2 (hbracket ▸ hc)
      rw [steps?_eq_none hdot hbracket]

/-- The name of a group and a name in it, with a dot between them, lead to the second level. -/
theorem ofText_join {group name : Text} (hgroup : group ≠ [])
    (hgroupChars : group.all isNameChar = true) (hname : name ≠ [])
    (hnameChars : name.all isNameChar = true) :
    ofText (Text.join "." [group, name]) = [.key group, .key name] := by
  have hgroupChars := List.all_eq_true.mp hgroupChars
  have hnameChars := List.all_eq_true.mp hnameChars
  have hfront : (group ++ '.' :: name).takeWhile isNameChar = group := by
    rw [List.takeWhile_append_of_pos hgroupChars, List.takeWhile_cons_of_neg (by decide),
      List.append_nil]
  have hbehind : (group ++ '.' :: name).dropWhile isNameChar = '.' :: name := by
    rw [List.dropWhile_append_of_pos hgroupChars, List.dropWhile_cons_of_neg (by decide)]
  have hwhole : name.takeWhile isNameChar = name := List.takeWhile_eq_self_iff.mpr hnameChars
  have hnothing : name.dropWhile isNameChar = [] := List.dropWhile_eq_nil_iff.mpr hnameChars
  have hsteps : steps? ('.' :: name) = some [.key name] := by
    rw [steps?, hwhole, hnothing, steps?, if_neg (by simpa using hname)]
    rfl
  show ofText (group ++ ['.'] ++ name) = _
  rw [List.append_assoc, List.singleton_append, ofText, hfront, hbehind, hsteps,
    if_neg (by simpa using hgroup)]

theorem exists_ofText_eq (key : Text) : ∃ name path, ofText key = .key name :: path := by
  unfold ofText
  split
  · exact ⟨_, _, rfl⟩
  · split
    · exact ⟨_, _, rfl⟩
    · exact ⟨_, _, rfl⟩

end KeyPath

namespace Tree

variable {base incoming source : List (Text × Tree)} {key : Text}

theorem lookup_cons_eq {α : Type} (key : Text) (a : α) (entries : List (Text × α)) (k : Text) :
    ((key, a) :: entries).lookup k = if k = key then some a else entries.lookup k := by
  rw [List.lookup_cons]
  by_cases hk : k = key
  · rw [if_pos hk, beq_iff_eq.mpr hk]
  · rw [if_neg hk, beq_eq_false_iff_ne.mpr hk]

theorem lookup_setKey (key : Text) (t : Tree) (entries : List (Text × Tree)) (k : Text) :
    (setKey key t entries).lookup k = if k = key then some t else entries.lookup k := by
  induction entries with
  | nil => rw [setKey, lookup_cons_eq]
  | cons entry entries ih =>
    obtain ⟨first, old⟩ := entry
    by_cases hfirst : first = key
    · subst hfirst
      rw [setKey, if_pos rfl, lookup_cons_eq, lookup_cons_eq]
      split <;> rfl
    · rw [setKey, if_neg hfirst, lookup_cons_eq, ih, lookup_cons_eq]
      by_cases hk : k = first
      · subst hk
        rw [if_pos rfl, if_neg hfirst, if_pos rfl]
      · rw [if_neg hk, if_neg hk]

theorem find_setKey_of_ne {k : Text} (h : k ≠ key) (t : Tree) (entries : List (Text × Tree)) :
    find k (setKey key t entries) = find k entries := by
  rw [find, lookup_setKey, if_neg h, find]

/-- **What stands under a key behind an overlay**: what came in, laid over what stood there, or
else what stood there. -/
theorem lookup_overlayEntries (hincoming : (incoming.map Prod.fst).Nodup) (k : Text) :
    (overlayEntries base incoming).lookup k =
      ((incoming.lookup k).map (overlay (find k base))).or (base.lookup k) := by
  induction incoming generalizing base with
  | nil => simp [overlayEntries]
  | cons entry rest ih =>
    obtain ⟨first, t⟩ := entry
    obtain ⟨hfirst, hrest⟩ := List.nodup_cons.mp hincoming
    rw [overlayEntries, ih hrest, lookup_setKey, lookup_cons_eq]
    by_cases hk : k = first
    · subst hk
      have hnone : rest.lookup k = none := lookup_eq_none_iff_notMem.mpr hfirst
      rw [hnone, if_pos rfl, if_pos rfl]
      rfl
    · rw [if_neg hk, if_neg hk, find_setKey_of_ne hk]

theorem keys_setKey (key : Text) (t : Tree) (entries : List (Text × Tree)) :
    (setKey key t entries).map Prod.fst =
      if key ∈ entries.map Prod.fst then entries.map Prod.fst
      else entries.map Prod.fst ++ [key] := by
  induction entries with
  | nil => simp [setKey]
  | cons e rest ih =>
    obtain ⟨first, old⟩ := e
    by_cases hfirst : first = key
    · simp [setKey, hfirst]
    · have hother : key ≠ first := Ne.symm hfirst
      simp only [setKey, if_neg hfirst, List.map_cons, ih, List.mem_cons, hother, false_or]
      split <;> simp

theorem nodup_overlayEntries (hbase : (base.map Prod.fst).Nodup) :
    ((overlayEntries base incoming).map Prod.fst).Nodup := by
  induction incoming generalizing base with
  | nil => rwa [overlayEntries]
  | cons entry rest ih =>
    obtain ⟨key, t⟩ := entry
    rw [overlayEntries]
    apply ih
    rw [keys_setKey]
    split
    · exact hbase
    · rename_i hkey
      rw [← List.concat_eq_append]
      exact hbase.concat hkey

/-! ## The entries of a source -/

theorem put_of_plain (hkey : IsPlainKey key) (t : Tree) (entries : List (Text × Tree)) :
    (table entries).put key t =
      table (setKey key (overlay (find key entries) t) entries) := by
  rw [put, KeyPath.ofText_of_plain hkey, changeWithin, changeWithin]
  rfl

theorem putAll_of_plain (hsource : ∀ e ∈ source, IsPlainKey e.1) :
    (table base).putAll source = table (overlayEntries base source) := by
  induction source generalizing base with
  | nil => rw [overlayEntries]; rfl
  | cons entry rest ih =>
    obtain ⟨key, t⟩ := entry
    obtain ⟨hkey, hrest⟩ := List.forall_mem_cons.mp hsource
    have hstep : (table base).putAll ((key, t) :: rest) = ((table base).put key t).putAll rest :=
      rfl
    rw [hstep, put_of_plain hkey, ih hrest, overlayEntries]

/-- A table stays one, wherever the keys of the source lead. -/
theorem exists_putAll_eq (source base : List (Text × Tree)) :
    ∃ entries, (table base).putAll source = table entries := by
  induction source generalizing base with
  | nil => exact ⟨base, rfl⟩
  | cons entry rest ih =>
    obtain ⟨name, path, hpath⟩ := KeyPath.exists_ofText_eq entry.1
    have hstep : (table base).putAll (entry :: rest) =
        ((table base).put entry.1 entry.2).putAll rest := rfl
    rw [hstep, put, hpath, changeWithin]
    exact ih _

/-! ## What is set behind keys -/

theorem entries_eq (t? : Option Tree) :
    lenientReading.entries t? = entries (t?.getD nothing) := by
  cases t? with
  | none => rfl
  | some t => cases t <;> rfl

theorem isSet_changeWithin (x : Tree) (path : List Text) (t? : Option Tree) :
    lenientReading.IsSet x path t?
      (changeWithin (fun _ => x) (path.map .key) (t?.getD nothing)) := by
  induction path generalizing t? with
  | nil => exact .here t?
  | cons key path ih =>
    rw [List.map_cons, changeWithin]
    refine .within rfl (ih ((lenientReading.entries t?).lookup key)) ?_
    rw [entries_eq]
    constructor
    · rw [lookup_setKey, if_pos rfl, find]
    · intro k hk
      rw [lookup_setKey, if_neg hk]

end Tree

end TableBinding
