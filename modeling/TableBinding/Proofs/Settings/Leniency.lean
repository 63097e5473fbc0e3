import TableBinding.Proofs.Settings.Laws

/-!
# The strict and the lenient reading of the same values

Settings that a strict reading takes from a group, a reading that keeps values of the wanted type
takes from a group of the same values, unless a group of settings is written as a date
(`Reading.Keeps.settings?`).

The shape of the argument: each of the readers gives for the same value what the strict one gives
(`Reading.Keeps.text?` and the like), so what it takes under a key is the same
(`Reading.Keeps.getD`), and settings are read key by key.
-/

namespace TableBinding

open Toml (Value)

variable {T : Type}

/-- What the groups give at a place is the same. -/
def Group.Same (same : Value → T → Prop) (g : Group Value) (h : Group T) : Prop :=
  ∀ position key, Option.Rel same (g.get? position key) (h.get? position key)

theorem mapM_of_forall₂ {α β γ : Type} {R : α → β → Prop} {f : α → Option γ} {f' : β → Option γ}
    (hf : ∀ a b c, R a b → f a = some c → f' b = some c) {as : List α} {bs : List β}
    {cs : List γ} (h : List.Forall₂ R as bs) (has : as.mapM f = some cs) :
    bs.mapM f' = some cs := by
  induction h generalizing cs with
  | nil => exact has
  | @cons a b as bs hab _ ih =>
    rw [List.mapM_cons] at has ⊢
    obtain ⟨c, hc, has⟩ := Option.bind_eq_some_iff.mp has
    obtain ⟨cs', hcs, has⟩ := Option.bind_eq_some_iff.mp has
    cases has
    rw [hf a b c hab hc, ih hcs]
    rfl

theorem rel_getElem? {α β : Type} {R : α → β → Prop} {as : List α} {bs : List β}
    (h : List.Forall₂ R as bs) (i : Nat) : Option.Rel R as[i]? bs[i]? := by
  induction h generalizing i with
  | nil => exact .none
  | cons hab _ ih =>
    cases i with
    | zero => exact .some hab
    | succ i => exact ih i

namespace Reading.Keeps

variable {strict : Reading Value} {r : Reading T} {same : Value → T → Prop}
  (hr : r.Keeps same) (hstrict : strict.IsStrict) {v : Value} {t : T} {g : Group Value}
  {h : Group T}

include hr hstrict

theorem text? (hvt : same v t) {s : Text} (hs : strict.text? v = some s) : r.text? t = some s := by
  obtain rfl := hstrict.text? hs
  exact (hr.string hvt).1

theorem optionalText? (hvt : same v t) {s : Option Text} (hs : strict.optionalText? v = some s) :
    r.optionalText? t = some s := by
  rw [Reading.optionalText?, hstrict.isNothing v] at hs
  obtain ⟨s', hs', rfl⟩ := Option.map_eq_some_iff.mp hs
  obtain rfl := hstrict.text? hs'
  obtain ⟨htext, hpresent⟩ := hr.string hvt
  rw [Reading.optionalText?, hpresent, htext]
  rfl

theorem truth? (hvt : same v t) {b : Bool} (hb : strict.truth? v = some b) :
    r.truth? t = some b := by
  obtain rfl := hstrict.truth? hb
  exact hr.boolean hvt

theorem texts? (hvt : same v t) {ss : List Text} (hs : strict.texts? v = some ss) :
    r.texts? t = some ss := by
  obtain ⟨items, hitems, hread⟩ := Option.bind_eq_some_iff.mp hs
  obtain rfl := hstrict.list? hitems
  obtain ⟨ts, hts, -, hsame⟩ := hr.array hvt
  have htext : ∀ v t s, same v t → strict.text? v = some s → r.text? t = some s :=
    fun _ _ _ hvt hs => text? hr hstrict hvt hs
  rw [Reading.texts?, hts, Option.bind_some]
  exact mapM_of_forall₂ htext hsame hread

/-- A group that is no date is a group of the same values. -/
theorem group? (hvt : same v t) (hdate : ∀ d, v ≠ .datetime d) (hg : strict.group? v = some g) :
    ∃ h, r.group? t = some h ∧ g.Same same h := by
  rcases hstrict.group? hg with ⟨entries, rfl, rfl⟩ | ⟨items, rfl, rfl⟩ | ⟨d, rfl⟩
  · obtain ⟨ts, hts, hsame⟩ := hr.table hvt
    exact ⟨_, hts, fun _ key => hsame key⟩
  · obtain ⟨ts, -, hts, hsame⟩ := hr.array hvt
    exact ⟨_, hts, fun position _ => rel_getElem? hsame position⟩
  · exact absurd rfl (hdate d)

omit hr hstrict in
theorem getD {α : Type} {read? : Value → Option α} {read?' : T → Option α} {position : Nat}
    {key : Text} {d a : α} (hgh : g.Same same h)
    (hread : ∀ {v t}, g.get? position key = some v → same v t → read? v = some a →
      read?' t = some a)
    (ha : Reading.getD read? g position key d = some a) :
    Reading.getD read?' h position key d = some a := by
  have hrel := hgh position key
  unfold Reading.getD at ha ⊢
  generalize g.get? position key = v? at hrel hread ha
  generalize h.get? position key = t? at hrel ⊢
  cases hrel with
  | none => exact ha
  | some hvt => exact hread rfl hvt ha

theorem getD_text? {position : Nat} {key d s : Text} (hgh : g.Same same h)
    (hs : Reading.getD strict.text? g position key d = some s) :
    Reading.getD r.text? h position key d = some s :=
  getD hgh (fun _ hvt hs => text? hr hstrict hvt hs) hs

theorem getD_texts? {position : Nat} {key : Text} {d ss : List Text} (hgh : g.Same same h)
    (hs : Reading.getD strict.texts? g position key d = some ss) :
    Reading.getD r.texts? h position key d = some ss :=
  getD hgh (fun _ hvt hs => texts? hr hstrict hvt hs) hs

theorem spelling? (hgh : g.Same same h) {s : Spelling} (hs : strict.spelling? g = some s) :
    r.spelling? h = some s := by
  obtain ⟨hkeyword, hcomment, hdelimiter, hmark, hdatatypes, hopening, hending⟩ :=
    spelling?_eq_some_iff.mp hs
  exact spelling?_eq_some_iff.mpr
    ⟨getD_text? hr hstrict hgh hkeyword, getD_text? hr hstrict hgh hcomment,
      getD_text? hr hstrict hgh hdelimiter, getD_text? hr hstrict hgh hmark,
      getD_texts? hr hstrict hgh hdatatypes, getD_text? hr hstrict hgh hopening,
      getD_text? hr hstrict hgh hending⟩

theorem layout? (hgh : g.Same same h) {l : Layout} (hl : strict.layout? g = some l) :
    r.layout? h = some l := by
  obtain ⟨hindent, hlineEnding, hincludes⟩ := layout?_eq_some_iff.mp hl
  exact layout?_eq_some_iff.mpr
    ⟨getD_text? hr hstrict hgh hindent, getD_text? hr hstrict hgh hlineEnding,
      getD_texts? hr hstrict hgh hincludes⟩

/-- **A group of the same values gives the same settings**, if neither the spelling nor the layout
is a date. -/
theorem settings? (hgh : g.Same same h) (hspelling : ∀ d, g.get? 2 "syntax" ≠ some (.datetime d))
    (hlayout : ∀ d, g.get? 3 "output" ≠ some (.datetime d)) {s : Settings}
    (hs : strict.settings? g = some s) : r.settings? h = some s := by
  obtain ⟨hinput, houtput, hspelled, hlaid, hdryRun, hlogLevel⟩ := settings?_eq_some_iff.mp hs
  refine settings?_eq_some_iff.mpr
    ⟨getD_text? hr hstrict hgh hinput, getD_text? hr hstrict hgh houtput, getD hgh ?_ hspelled,
      getD hgh ?_ hlaid, getD hgh (fun _ hvt hb => truth? hr hstrict hvt hb) hdryRun,
      getD hgh (fun _ hvt hs => optionalText? hr hstrict hvt hs) hlogLevel⟩
  · intro v t hv hvt hread
    have hdate : ∀ d, v ≠ .datetime d := fun d hd => hspelling d (hd ▸ hv)
    obtain ⟨g', hg', hread⟩ := Option.bind_eq_some_iff.mp hread
    obtain ⟨h', hh', hsame⟩ := group? hr hstrict hvt hdate hg'
    exact Option.bind_eq_some_iff.mpr ⟨h', hh', spelling? hr hstrict hsame hread⟩
  · intro v t hv hvt hread
    have hdate : ∀ d, v ≠ .datetime d := fun d hd => hlayout d (hd ▸ hv)
    obtain ⟨g', hg', hread⟩ := Option.bind_eq_some_iff.mp hread
    obtain ⟨h', hh', hsame⟩ := group? hr hstrict hvt hdate hg'
    exact Option.bind_eq_some_iff.mpr ⟨h', hh', layout? hr hstrict hsame hread⟩

end Reading.Keeps

end TableBinding
