import Mathlib.Data.List.Basic
import TableBinding.Proofs.Text.Pieces
import TableBinding.Storage.Disk

/-!
# What a disk keeps

Making directories adds directories and nothing else: every entry stays as it was, also if a
directory could not be made and the work stopped half-way, and each new directory is one that a
path of the list leads to (`Disk.grows_makeNested`). Writing a file changes one location, where the
path leads from then on (`Disk.exists_of_write`).

The shape of the argument: a disk on which every directory is still a directory and every entry
still stands is walked as before (`Disk.KeepsWays.find`). So a path that was just made, or written
to, leads to the new entry.
-/

namespace TableBinding

namespace Disk

variable {d e : Disk} {l m : Location} {name : Text} {p : Path}

/-! ## Entries -/

theorem root_directory (d : Disk) : d.entry? [] = some .directory := rfl

theorem ne_nil_of_not_directory (h : d.entry? l ≠ some .directory) : l ≠ [] := by
  rintro rfl
  exact h (root_directory d)

theorem not_directory_of_none (h : d.entry? l = none) : d.entry? l ≠ some .directory :=
  h ▸ (Option.some_ne_none _).symm

theorem lookup_filter_ne (entries : List (Location × Entry)) (h : m ≠ l) :
    (entries.filter (fun entry => entry.1 != l)).lookup m = entries.lookup m := by
  induction entries with
  | nil => rfl
  | cons entry entries ih =>
    obtain ⟨k, content⟩ := entry
    by_cases hk : k = l
    · subst hk
      rw [List.filter_cons_of_neg (by simp), ih, List.lookup_cons, beq_eq_false_iff_ne.2 h]
    · rw [List.filter_cons_of_pos (by simpa using hk), List.lookup_cons, List.lookup_cons, ih]

theorem erase_elsewhere (h : m ≠ l) : entry? (d.erase l) m = d.entry? m := by
  unfold entry? erase
  rw [lookup_filter_ne _ h]

theorem put_at (hl : l ≠ []) (content : Entry) :
    entry? (d.put l content) l = some content := by
  unfold entry? put
  rw [if_neg (List.isEmpty_iff.not.2 hl), List.lookup_cons_self]

theorem put_elsewhere (h : m ≠ l) (content : Entry) :
    entry? (d.put l content) m = d.entry? m := by
  have hput : entry? (d.put l content) m = entry? (d.erase l) m := by
    unfold entry? put
    rw [List.lookup_cons, beq_eq_false_iff_ne.2 h]
  rw [hput, erase_elsewhere h]

/-! ## Ways -/

/-- Every directory is still a directory, and every entry still stands. -/
structure KeepsWays (d e : Disk) : Prop where
  here : e.here = d.here
  directory : ∀ l, d.entry? l = some .directory → e.entry? l = some .directory
  present : ∀ l, (d.entry? l).isSome = true → (e.entry? l).isSome = true

theorem keepsWays_put (h : d.entry? l ≠ some .directory) (content : Entry) :
    d.KeepsWays (d.put l content) := by
  have hl := ne_nil_of_not_directory h
  refine ⟨rfl, fun m hm => ?_, fun m hm => ?_⟩
  · have hne : m ≠ l := fun e => h (e ▸ hm)
    rw [put_elsewhere hne, hm]
  · by_cases hml : m = l
    · rw [hml, put_at hl]
      rfl
    · rw [put_elsewhere hml, hm]

theorem directory_of_step (h : d.step l name = .ok m) : d.entry? l = some .directory := by
  unfold step at h
  split at h
  · cases h
  · cases h
  · next hl => exact hl

/-- A name that leads nowhere from a directory names no entry of it. -/
theorem of_step_eq_missing (hl : d.entry? l = some .directory)
    (h : d.step l name = .error .missing) :
    name ≠ ['.'] ∧ name ≠ ['.', '.'] ∧ ¬ longestName < Text.byteLength name ∧
      d.entry? (l ++ [name]) = none := by
  simp only [step, hl] at h
  split at h
  · cases h
  · next hdot =>
    split at h
    · cases h
    · next hdots =>
      split at h
      · cases h
      · next hlength =>
        split at h
        · cases h
        · next hpresent => exact ⟨hdot, hdots, hlength, by simpa using hpresent⟩

theorem step_of_present (hl : d.entry? l = some .directory) (hdot : name ≠ ['.'])
    (hdots : name ≠ ['.', '.']) (hlength : ¬ longestName < Text.byteLength name)
    (hpresent : (d.entry? (l ++ [name])).isSome = true) : d.step l name = .ok (l ++ [name]) := by
  simp only [step, hl, if_neg hdot, if_neg hdots, if_neg hlength, if_pos hpresent]

theorem step_dot (hl : d.entry? l = some .directory) : d.step l ['.'] = .ok l := by
  simp only [step, hl, if_pos]

namespace KeepsWays

theorem step (h : d.KeepsWays e) (hm : d.step l name = .ok m) : e.step l name = .ok m := by
  have hdir := directory_of_step hm
  simp only [Disk.step, hdir] at hm
  simp only [Disk.step, h.directory l hdir]
  split
  · next hdot => rwa [if_pos hdot] at hm
  · next hdot =>
    rw [if_neg hdot] at hm
    split
    · next hdots => rwa [if_pos hdots] at hm
    · next hdots =>
      rw [if_neg hdots] at hm
      split
      · next hlength => rwa [if_pos hlength] at hm
      · next hlength =>
        rw [if_neg hlength] at hm
        split at hm
        · next hpresent => rw [if_pos (h.present _ hpresent), Except.ok.inj hm]
        · cases hm

theorem walk (h : d.KeepsWays e) {names : List Text} (hm : d.walk l names = .ok m) :
    e.walk l names = .ok m := by
  induction names generalizing l with
  | nil => exact hm
  | cons name names ih =>
    simp only [Disk.walk] at hm ⊢
    cases hstep : d.step l name with
    | error fault =>
      rw [hstep] at hm
      cases hm
    | ok next =>
      rw [hstep] at hm
      rw [h.step hstep]
      exact ih hm

theorem route (h : d.KeepsWays e) (p : Path) : e.route p = d.route p := by
  unfold Disk.route
  rw [h.here]

/-- **A path that leads somewhere leads there still.** -/
theorem find (h : d.KeepsWays e) (hm : d.find p = .ok m) : e.find p = .ok m := by
  unfold Disk.find at hm ⊢
  rw [h.route]
  cases hroute : d.route p with
  | error fault =>
    rw [hroute] at hm
    cases hm
  | ok found =>
    rw [hroute] at hm
    exact h.walk hm

end KeepsWays

/-- **A missing entry that is put in its place** is led to. -/
theorem step_put_of_missing (hl : d.entry? l = some .directory)
    (h : d.step l name = .error .missing) (content : Entry) :
    d.entry? (l ++ [name]) = none ∧
      (d.put (l ++ [name]) content).step l name = .ok (l ++ [name]) := by
  obtain ⟨hdot, hdots, hlength, hnone⟩ := of_step_eq_missing hl h
  have hways : d.KeepsWays (d.put (l ++ [name]) content) :=
    keepsWays_put (not_directory_of_none hnone) content
  refine ⟨hnone, step_of_present (hways.directory l hl) hdot hdots hlength ?_⟩
  rw [put_at (List.append_ne_nil_of_right_ne_nil _ (List.cons_ne_nil _ _))]
  rfl

theorem walk_append (d : Disk) (l : Location) (names more : List Text) :
    d.walk l (names ++ more) = (d.walk l names).bind (d.walk · more) := by
  induction names generalizing l with
  | nil => rfl
  | cons name names ih =>
    simp only [List.cons_append, walk]
    cases d.step l name with
    | error fault => rfl
    | ok next => exact ih next

/-! ## Places -/

/-- A path of which no piece says anything is a row of slashes. -/
theorem isAbsolute_of_pieces (hp : p ≠ [])
    (h : p.pieces.filter (fun piece => !piece.isEmpty) = []) : p.isAbsolute = true := by
  obtain ⟨c, t, rfl⟩ := List.exists_cons_of_ne_nil hp
  by_cases hc : c = '/'
  · subst hc
    rfl
  · obtain ⟨first, rest, hfirst, -, -⟩ := Text.exists_splitWhen_eq_cons (· == '/') t
    have hpieces : Path.pieces (c :: t) = (c :: first) :: rest := by
      rw [Path.pieces, Text.splitWhen, if_neg (by simpa using hc), hfirst, List.modifyHead_cons]
    rw [hpieces, List.filter_cons_of_pos rfl] at h
    cases h

/-- The pieces of a path that say something, a dot for a slash at its end, and where they start. -/
theorem of_route {start : Location} {tail : List Text} (h : d.route p = .ok (start, tail)) :
    p ≠ [] ∧ start = (if p.isAbsolute then [] else d.here) ∧
      tail = p.pieces.filter (fun piece => !piece.isEmpty) ++
        if p.getLast? = some '/' then [['.']] else [] := by
  unfold route at h
  split at h
  · cases h
  · split at h
    · cases h
    · next hp =>
      split at h
      · cases h
      · obtain ⟨rfl, rfl⟩ := Prod.mk.inj (Except.ok.inj h)
        refine ⟨fun hnil => hp (List.isEmpty_iff.2 hnil), rfl, ?_⟩
        split
        · rfl
        · exact (List.append_nil _).symm

/-- **Where an entry of the path belongs**: in the root, under no name of its own, or in the
directory that the path leads to without its last name. -/
theorem of_place {parent : Location} (h : d.place p = .ok (parent, name)) :
    (parent = [] ∧ name = ['.']) ∨
      d.entry? parent = some .directory ∧
        ∃ start names, d.walk start names = .ok parent ∧
          d.route p =
            .ok (start, names ++ name :: if p.getLast? = some '/' then [['.']] else []) := by
  unfold place at h
  cases hroute : d.route p with
  | error fault =>
    rw [hroute] at h
    cases h
  | ok found =>
    obtain ⟨start, tail⟩ := found
    obtain ⟨hp, hstart, htail⟩ := of_route hroute
    have hnames : (if p.getLast? = some '/' then tail.dropLast else tail) =
        p.pieces.filter (fun piece => !piece.isEmpty) := by
      rw [htail]
      split
      · exact List.dropLast_concat
      · exact List.append_nil _
    rw [hroute] at h
    simp only [Except.bind, hnames] at h
    cases hlast : (p.pieces.filter (fun piece => !piece.isEmpty)).getLast? with
    | none =>
      have hnone := isAbsolute_of_pieces hp (List.getLast?_eq_none_iff.1 hlast)
      rw [if_pos hnone] at hstart
      simp only [hlast] at h
      obtain ⟨rfl, rfl⟩ := Prod.mk.inj (Except.ok.inj h)
      exact .inl ⟨hstart, rfl⟩
    | some last =>
      simp only [hlast] at h
      generalize hwalk : d.walk start _ = walked at h
      cases walked with
      | error fault => cases h
      | ok reached =>
        simp only at h
        split at h
        · next hdir =>
          obtain ⟨rfl, rfl⟩ := Prod.mk.inj (Except.ok.inj h)
          refine .inr ⟨hdir, start, _, hwalk, ?_⟩
          rw [htail, List.append_cons, List.dropLast_append_getLast? _ hlast]
        · cases h

/-- A path leads to the entry that its last name leads to, seen from where the entry belongs. -/
theorem find_of_place (h : d.KeepsWays e) {parent start : Location} {names dots : List Text}
    (hwalk : d.walk start names = .ok parent)
    (hroute : d.route p = .ok (start, names ++ name :: dots))
    (hstep : e.step parent name = .ok l) : e.find p = e.walk l dots := by
  have hstart : e.find p = e.walk start (names ++ name :: dots) := by
    rw [find, h.route, hroute]
    rfl
  rw [hstart, walk_append, h.walk hwalk]
  show (e.step parent name).bind _ = _
  rw [hstep]
  rfl

/-! ## Making directories -/

/-- Only directories were added, and each is one that a path of the list leads to. -/
structure Grows (paths : List Path) (d e : Disk) : Prop where
  here : e.here = d.here
  kept : ∀ l content, d.entry? l = some content → e.entry? l = some content
  made : ∀ l, d.entry? l = none →
    e.entry? l = none ∨ e.entry? l = some .directory ∧ ∃ p ∈ paths, e.find p = .ok l

namespace Grows

variable {paths : List Path}

theorem refl (paths : List Path) (d : Disk) : d.Grows paths d :=
  ⟨rfl, fun _ _ h => h, fun _ h => .inl h⟩

theorem keepsWays (h : d.Grows paths e) : d.KeepsWays e := by
  refine ⟨h.here, fun l hl => h.kept l _ hl, fun l hl => ?_⟩
  obtain ⟨content, hcontent⟩ := Option.isSome_iff_exists.1 hl
  rw [h.kept l content hcontent]
  rfl

theorem trans {f : Disk} (h : d.Grows paths e) (h' : e.Grows paths f) : d.Grows paths f := by
  refine ⟨h'.here.trans h.here, fun l content hl => h'.kept l content (h.kept l content hl), ?_⟩
  intro l hl
  rcases h.made l hl with hnone | ⟨hdir, p, hp, hfind⟩
  · exact h'.made l hnone
  · exact .inr ⟨h'.kept l _ hdir, p, hp, h'.keepsWays.find hfind⟩

end Grows

/-- The disk that is left by work on it, done or not. -/
def left : Except (StorageFault × Disk) Disk → Disk
  | .ok d => d
  | .error (_, d) => d

/-- **Where a directory is made** nothing stood, and the path leads there from then on. -/
theorem exists_of_makeDirectory (h : d.makeDirectory p = .ok e) :
    ∃ l, d.entry? l = none ∧ e = d.put l .directory ∧ e.find p = .ok l := by
  unfold makeDirectory at h
  cases hplace : d.place p with
  | error fault =>
    rw [hplace] at h
    cases h
  | ok place =>
    obtain ⟨parent, name⟩ := place
    rw [hplace] at h
    simp only [Except.bind] at h
    split at h
    · cases h
    · next hmissing =>
      obtain rfl := Except.ok.inj h
      rcases of_place hplace with ⟨rfl, rfl⟩ | ⟨hdir, start, names, hwalk, hroute⟩
      · rw [step_dot (root_directory d)] at hmissing
        cases hmissing
      · obtain ⟨hnone, hstep⟩ := step_put_of_missing hdir hmissing .directory
        have hways := keepsWays_put (not_directory_of_none hnone) .directory
        refine ⟨parent ++ [name], hnone, rfl, ?_⟩
        rw [find_of_place hways hwalk hroute hstep]
        split
        · -- a slash at the end of the path asks for the new directory itself
          have hnew : parent ++ [name] ≠ [] := by simp
          show (step _ _ _).bind _ = _
          rw [step_dot (put_at hnew .directory)]
          rfl
        · rfl
    · cases h

theorem makeDirectory_grows {paths : List Path} (hp : p ∈ paths)
    (h : d.makeDirectory p = .ok e) : d.Grows paths e := by
  obtain ⟨l, hnone, rfl, hfind⟩ := exists_of_makeDirectory h
  refine ⟨rfl, fun m content hm => ?_, fun m hm => ?_⟩
  · have hne : m ≠ l := by
      rintro rfl
      rw [hnone] at hm
      cases hm
    rw [put_elsewhere hne, hm]
  · by_cases hml : m = l
    · subst hml
      have hroot := ne_nil_of_not_directory (not_directory_of_none hnone)
      exact .inr ⟨put_at hroot .directory, p, hp, hfind⟩
    · rw [put_elsewhere hml]
      exact .inl hm

theorem ensureDirectory_grows {paths : List Path} (hp : p ∈ paths) (d : Disk) :
    d.Grows paths (left (d.ensureDirectory p)) := by
  unfold ensureDirectory
  split
  · next made h => exact makeDirectory_grows hp h
  · split <;> exact .refl paths d
  · exact .refl paths d

/-- **Making directories adds directories and nothing else**, whether it succeeds or stops. -/
theorem makeNested_grows {paths : List Path} {ps : List Path} (hps : ∀ p ∈ ps, p ∈ paths)
    (d : Disk) : d.Grows paths (left (d.makeNested ps)) := by
  induction ps with
  | nil => exact .refl paths d
  | cons p outer ih =>
    rw [List.forall_mem_cons] at hps
    have hensure := ensureDirectory_grows hps.1 d
    have houter := ih hps.2
    unfold makeNested
    split
    · next made h =>
      rw [h] at hensure
      exact hensure
    · cases hmade : d.makeNested outer with
      | error failure =>
        rw [hmade] at houter
        exact houter
      | ok made =>
        rw [hmade] at houter
        exact houter.trans (ensureDirectory_grows hps.1 made)
    · next failure _ h =>
      rw [h] at hensure
      exact hensure

/-! ## Writing a file -/

/-- **Writing changes the one location** where the path leads from then on. -/
theorem exists_of_write {content : ByteArray} (h : d.write p content = .ok e) :
    ∃ l, e.find p = .ok l ∧ e.entry? l = some (.file content) ∧
      (∀ m, m ≠ l → e.entry? m = d.entry? m) ∧ d.KeepsWays e := by
  unfold write at h
  cases hplace : d.place p with
  | error fault =>
    rw [hplace] at h
    cases h
  | ok place =>
    obtain ⟨parent, name⟩ := place
    rw [hplace] at h
    simp only [Except.bind] at h
    split at h
    · cases h
    · next hslash =>
      rcases of_place hplace with ⟨rfl, rfl⟩ | ⟨hdir, start, names, hwalk, hroute⟩
      · rw [step_dot (root_directory d)] at h
        cases h
      · rw [if_neg hslash] at hroute
        -- it is enough that the last name leads to the location that is written
        have hwritten : ∀ l, d.entry? l ≠ some .directory →
            ((d.put l (.file content)).step parent name = .ok l) →
            ∃ l', (d.put l (.file content)).find p = .ok l' ∧
              entry? (d.put l (.file content)) l' = some (.file content) ∧
              (∀ m, m ≠ l' → entry? (d.put l (.file content)) m = d.entry? m) ∧
              d.KeepsWays (d.put l (.file content)) := by
          intro l hl hstep
          have hways := keepsWays_put hl (.file content)
          refine ⟨l, ?_, put_at (ne_nil_of_not_directory hl) _,
            fun m hm => put_elsewhere hm _, hways⟩
          rw [find_of_place hways hwalk hroute hstep]
          rfl
        split at h
        · next l hstep =>
          split at h
          · cases h
          · next hl =>
            obtain rfl := Except.ok.inj h
            exact hwritten l hl ((keepsWays_put hl _).step hstep)
        · next hmissing =>
          obtain rfl := Except.ok.inj h
          obtain ⟨hnone, hstep⟩ := step_put_of_missing hdir hmissing (.file content)
          exact hwritten _ (not_directory_of_none hnone) hstep
        · cases h

/-- A file that is written where directories were made is the one thing that is no addition. -/
theorem Grows.exists_of_write {f : Disk} {paths : List Path} {content : ByteArray}
    (h : d.Grows paths e) (hwrite : e.write p content = .ok f) :
    ∃ l, f.here = d.here ∧ f.find p = .ok l ∧ f.entry? l = some (.file content) ∧
      ∀ m, m ≠ l →
        f.entry? m = d.entry? m ∨
          d.entry? m = none ∧ f.entry? m = some .directory ∧ ∃ q ∈ paths, f.find q = .ok m := by
  obtain ⟨l, hfind, hl, hothers, hways⟩ := Disk.exists_of_write hwrite
  refine ⟨l, hways.here.trans h.here, hfind, hl, fun m hm => ?_⟩
  rw [hothers m hm]
  cases hbefore : d.entry? m with
  | some standing => exact .inl (h.kept m standing hbefore)
  | none =>
    rcases h.made m hbefore with hnone | ⟨hdir, q, hq, hway⟩
    · exact .inl hnone
    · exact .inr ⟨rfl, hdir, q, hq, hways.find hway⟩

end Disk

end TableBinding
