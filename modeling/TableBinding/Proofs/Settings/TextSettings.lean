import TableBinding.Proofs.Settings.Reading

/-!
# Settings that are texts

Which settings are texts, and what becomes of the settings of a group when a value is set under the
keys of one of them (`Reading.settings?_of_isSet`): that setting is the text that the value is taken
for, and all others stay, unless its group is given as a list. A list gives way to a group with that
setting alone.

The shape of the argument: what is read from a group under one key does not depend on the others
(`Replaced.getD_of_ne`), and settings are read key by key (`Reading.settings?_eq_some_iff`), so only
the changed key has to be looked at, at both levels.
-/

namespace TableBinding

/-! ## The settings -/

/-- The tokens of a spelling, without the column types. -/
inductive SpellingText where
  | keyword | comment | delimiter | tableMark | blockOpen | blockEnd
  deriving DecidableEq, Repr

inductive LayoutText where
  | indent | lineEnding
  deriving DecidableEq, Repr

/-- The settings that are texts. -/
inductive TextSetting where
  | input | output | logLevel
  | spelling (k : SpellingText)
  | layout (k : LayoutText)
  deriving DecidableEq, Repr

namespace SpellingText

def key : SpellingText → Text
  | keyword => "struct_keyword"
  | comment => "comment_marker"
  | delimiter => "delimiter"
  | tableMark => "table_name_marker"
  | blockOpen => "block_open"
  | blockEnd => "block_end"

/-- The spelling with the text for this token. -/
def set (t : Text) (s : Spelling) : SpellingText → Spelling
  | keyword => { s with keyword := t }
  | comment => { s with comment := t }
  | delimiter => { s with delimiter := t }
  | tableMark => { s with tableMark := t }
  | blockOpen => { s with blockOpen := t }
  | blockEnd => { s with blockEnd := t }

end SpellingText

namespace LayoutText

def key : LayoutText → Text
  | indent => "indent"
  | lineEnding => "line_ending"

def set (t : Text) (l : Layout) : LayoutText → Layout
  | indent => { l with indent := t }
  | lineEnding => { l with lineEnding := t }

end LayoutText

namespace TextSetting

/-- The key of the group that the setting is in. -/
def group? : TextSetting → Option Text
  | spelling _ => some "syntax"
  | layout _ => some "output"
  | input | output | logLevel => none

def name : TextSetting → Text
  | input => "input_file"
  | output => "output_file"
  | logLevel => "log_level"
  | spelling k => k.key
  | layout k => k.key

/-- The keys that lead to the setting. -/
def path (k : TextSetting) : List Text := k.group?.toList ++ [k.name]

/-- The settings with the text in the place of this one. -/
def set (t : Text) (s : Settings) : TextSetting → Settings
  | input => { s with input := t }
  | output => { s with output := t }
  | logLevel => { s with logLevel := some t }
  | spelling k => { s with spelling := k.set t s.spelling }
  | layout k => { s with layout := k.set t s.layout }

/-- The settings with the group of this one at its defaults. -/
def alone (s : Settings) : TextSetting → Settings
  | spelling _ => { s with spelling := {} }
  | layout _ => { s with layout := {} }
  | input | output | logLevel => s

end TextSetting

/-! ## Values set under keys -/

/-- The entries are the others, but for the value under the key. -/
structure Replaced {V : Type} (key : Text) (v : V) (old new : List (Text × V)) : Prop where
  self : new.lookup key = some v
  others : ∀ k, k ≠ key → new.lookup k = old.lookup k

namespace Reading

variable {V : Type} (r : Reading V)

/-- The entries of a value that is a group with keys; any other has none. -/
def entries (v? : Option V) : List (Text × V) :=
  match v?.bind r.group? with
  | some (.named entries) => entries
  | _ => []

/-- Whether the value is a group without keys. -/
def isOrdered (v? : Option V) : Bool :=
  match v?.bind r.group? with
  | some (.ordered _) => true
  | _ => false

/-- What stands in the place of `old?` once `v` is set where the keys lead. A group with keys takes
the place of what is none on the way, and keeps what it has under other keys. -/
inductive IsSet (v : V) : List Text → Option V → V → Prop
  | here (old? : Option V) : IsSet v [] old? v
  | within {key : Text} {path : List Text} {old? : Option V} {inner new : V}
      {entries : List (Text × V)} (hgroup : r.group? new = some (.named entries))
      (hinner : IsSet v path ((r.entries old?).lookup key) inner)
      (hreplaced : Replaced key inner (r.entries old?) entries) : IsSet v (key :: path) old? new

/-- Whether the group of the setting is given without keys. -/
def isInOrdered (base : V) (k : TextSetting) : Bool :=
  k.group?.any fun group => r.isOrdered ((r.entries (some base)).lookup group)

variable {r} {v : V} {key : Text} {old? : Option V} {new : V}

theorem IsSet.eq_of_nil (h : r.IsSet v [] old? new) : new = v := by
  cases h
  rfl

theorem IsSet.exists_of_single (h : r.IsSet v [key] old? new) :
    ∃ entries, r.group? new = some (.named entries) ∧
      Replaced key v (r.entries old?) entries := by
  cases h with
  | within hgroup hinner hreplaced =>
    rw [hinner.eq_of_nil] at hreplaced
    exact ⟨_, hgroup, hreplaced⟩

theorem optionalText?_of_text? {c : Text} (hv : r.text? v = some c)
    (hpresent : r.isNothing v = false) : r.optionalText? v = some (some c) := by
  rw [optionalText?, hpresent, hv]
  rfl

end Reading

/-! ## Reading a changed group -/

namespace Replaced

open Reading

variable {V α : Type} {r : Reading V} {v : V} {key k : Text} {old new : List (Text × V)}
  {read? : V → Option α} {position : Nat} {d a b : α} {c : Text}

theorem getD_self (h : Replaced key v old new) (position : Nat) (d : α) :
    getD read? (.named new) position key d = read? v := by
  rw [getD, Group.get?, h.self]

theorem getD_of_ne (h : Replaced key v old new) (hk : k ≠ key) (position : Nat) (d : α) :
    getD read? (.named new) position k d = getD read? (.named old) position k d := by
  rw [getD, getD, Group.get?, Group.get?, h.others k hk]

theorem getD (h : Replaced key v old new) (hv : read? v = some b)
    (ha : getD read? (.named old) position k d = some a) :
    Reading.getD read? (.named new) position k d = some (if k = key then b else a) := by
  by_cases hk : k = key
  · subst hk
    rw [if_pos rfl, h.getD_self, hv]
  · rw [if_neg hk, h.getD_of_ne hk, ha]

theorem spelling? {k : SpellingText} (h : Replaced k.key v old new) (hv : r.text? v = some c)
    {s : Spelling} (hs : r.spelling? (.named old) = some s) :
    r.spelling? (.named new) = some (k.set c s) := by
  obtain ⟨hkeyword, hcomment, hdelimiter, hmark, hdatatypes, hopening, hending⟩ :=
    spelling?_eq_some_iff.mp hs
  have hlist : ("datatypes" : Text) ≠ k.key := by
    cases k <;> decide
  refine spelling?_eq_some_iff.mpr ⟨(h.getD hv hkeyword).trans ?_, (h.getD hv hcomment).trans ?_,
    (h.getD hv hdelimiter).trans ?_, (h.getD hv hmark).trans ?_,
    ((h.getD_of_ne hlist ..).trans hdatatypes).trans ?_, (h.getD hv hopening).trans ?_,
    (h.getD hv hending).trans ?_⟩
  all_goals cases k <;> rfl

theorem layout? {k : LayoutText} (h : Replaced k.key v old new) (hv : r.text? v = some c)
    {l : Layout} (hl : r.layout? (.named old) = some l) :
    r.layout? (.named new) = some (k.set c l) := by
  obtain ⟨hindent, hlineEnding, hincludes⟩ := layout?_eq_some_iff.mp hl
  have hlist : ("includes" : Text) ≠ k.key := by
    cases k <;> decide
  refine layout?_eq_some_iff.mpr ⟨(h.getD hv hindent).trans ?_, (h.getD hv hlineEnding).trans ?_,
    ((h.getD_of_ne hlist ..).trans hincludes).trans ?_⟩
  all_goals cases k <;> rfl

/-- A text under the key of a setting that is in no group. -/
theorem settings? {k : TextSetting} (hk : k.group? = none) (h : Replaced k.name v old new)
    (hv : r.text? v = some c) (hpresent : r.isNothing v = false) {s : Settings}
    (hs : r.settings? (.named old) = some s) : r.settings? (.named new) = some (k.set c s) := by
  obtain ⟨hinput, houtput, hspelling, hlayout, hdryRun, hlogLevel⟩ := settings?_eq_some_iff.mp hs
  have hothers : ∀ other ∈ (["syntax", "output", "dry_run"] : List Text), other ≠ k.name := by
    cases k with
    | input | output | logLevel => decide
    | spelling | layout => cases hk
  refine settings?_eq_some_iff.mpr ⟨(h.getD hv hinput).trans ?_, (h.getD hv houtput).trans ?_,
    ((h.getD_of_ne (hothers _ (by simp)) ..).trans hspelling).trans ?_,
    ((h.getD_of_ne (hothers _ (by simp)) ..).trans hlayout).trans ?_,
    ((h.getD_of_ne (hothers _ (by simp)) ..).trans hdryRun).trans ?_,
    (h.getD (optionalText?_of_text? hv hpresent) hlogLevel).trans ?_⟩
  all_goals
    cases k with
    | input | output | logLevel => rfl
    | spelling | layout => cases hk

/-- A group of settings under the key of the spelling. -/
theorem settings?_spelling (h : Replaced "syntax" v old new) {spelling : Spelling}
    (hv : (r.group? v).bind r.spelling? = some spelling) {s : Settings}
    (hs : r.settings? (.named old) = some s) :
    r.settings? (.named new) = some { s with spelling } := by
  obtain ⟨hinput, houtput, -, hlayout, hdryRun, hlogLevel⟩ := settings?_eq_some_iff.mp hs
  refine settings?_eq_some_iff.mpr ⟨?_, ?_, (h.getD_self ..).trans hv, ?_, ?_, ?_⟩
  all_goals
    rw [h.getD_of_ne]
    · assumption
    · decide

/-- A group of settings under the key of the layout. -/
theorem settings?_layout (h : Replaced "output" v old new) {layout : Layout}
    (hv : (r.group? v).bind r.layout? = some layout) {s : Settings}
    (hs : r.settings? (.named old) = some s) :
    r.settings? (.named new) = some { s with layout } := by
  obtain ⟨hinput, houtput, hspelling, -, hdryRun, hlogLevel⟩ := settings?_eq_some_iff.mp hs
  refine settings?_eq_some_iff.mpr ⟨?_, ?_, ?_, (h.getD_self ..).trans hv, ?_, ?_⟩
  all_goals
    rw [h.getD_of_ne]
    · assumption
    · decide

end Replaced

namespace Reading

variable {V : Type} {r : Reading V} {v base new : V} {c : Text} {entries : List (Text × V)}

/-- What a group of settings gives by the keys that it has; a list has none. -/
theorem read?_entries {α : Type} {read? : Group V → Option α} {key : Text} {position : Nat}
    {d a : α} (hnothing : read? (.named []) = some d)
    (ha : getD (fun v => (r.group? v).bind read?) (.named entries) position key d = some a) :
    read? (.named (r.entries (entries.lookup key))) =
      some (if r.isOrdered (entries.lookup key) then d else a) := by
  simp only [getD, Group.get?] at ha
  unfold Reading.entries isOrdered
  cases hlookup : entries.lookup key with
  | none =>
    rw [hlookup] at ha
    cases ha
    exact hnothing
  | some v =>
    rw [hlookup] at ha
    obtain ⟨group, hgroup, hread⟩ := Option.bind_eq_some_iff.mp ha
    rw [Option.bind_some, hgroup]
    cases group with
    | named inner => exact hread
    | ordered items => exact hnothing

/-- A group in which one setting was set, from the group that stood there. -/
theorem read?_of_isSet {α : Type} {read? : Group V → Option α} (change : α → α) {key name : Text}
    {position : Nat} {d a : α} {inner : V} (hnothing : read? (.named []) = some d)
    (hread : ∀ {old new : List (Text × V)} {a : α}, Replaced name v old new →
      read? (.named old) = some a → read? (.named new) = some (change a))
    (ha : getD (fun v => (r.group? v).bind read?) (.named entries) position key d = some a)
    (hset : r.IsSet v [name] (entries.lookup key) inner) :
    (r.group? inner).bind read? =
      some (change (if r.isOrdered (entries.lookup key) then d else a)) := by
  obtain ⟨new, hnew, hreplaced⟩ := hset.exists_of_single
  rw [hnew, Option.bind_some]
  exact hread hreplaced (read?_entries hnothing ha)

theorem ite_alone_spelling (k : SpellingText) {s : Settings}
    (hbase : r.entries (some base) = entries) :
    (if r.isInOrdered base (.spelling k) then (TextSetting.spelling k).alone s else s) =
      { s with
        spelling :=
          if r.isOrdered (entries.lookup ("syntax" : Text)) then {} else s.spelling } := by
  subst hbase
  show (if r.isOrdered _ then _ else s) = _
  split <;> rfl

theorem ite_alone_layout (k : LayoutText) {s : Settings}
    (hbase : r.entries (some base) = entries) :
    (if r.isInOrdered base (.layout k) then (TextSetting.layout k).alone s else s) =
      { s with
        layout := if r.isOrdered (entries.lookup ("output" : Text)) then {} else s.layout } := by
  subst hbase
  show (if r.isOrdered _ then _ else s) = _
  split <;> rfl

/-- **A text in the place of a setting changes that setting only**, but where its group is given as
a list: that gives way, and with it the other settings of the group. -/
theorem settings?_of_isSet (k : TextSetting) (hv : r.text? v = some c)
    (hpresent : r.isNothing v = false) {s : Settings}
    (hbase : r.group? base = some (.named entries))
    (hs : r.settings? (.named entries) = some s) (hset : r.IsSet v k.path (some base) new) :
    (r.group? new).bind r.settings? =
      some (k.set c (if r.isInOrdered base k then k.alone s else s)) := by
  have hentries : r.entries (some base) = entries := by
    rw [Reading.entries, Option.bind_some, hbase]
  obtain ⟨-, -, hspelling, hlayout, -, -⟩ := settings?_eq_some_iff.mp hs
  cases k with
  | input | output | logLevel =>
    obtain ⟨group, hgroup, h⟩ := hset.exists_of_single
    rw [hentries] at h
    rw [hgroup, Option.bind_some]
    exact h.settings? rfl hv hpresent hs
  | spelling k =>
    cases hset with
    | within hgroup hinner h =>
      rw [hentries] at hinner h
      have hspelled := read?_of_isSet (fun s => k.set c s) rfl (fun h hs => h.spelling? hv hs)
        hspelling hinner
      rw [hgroup, Option.bind_some, ite_alone_spelling k hentries, h.settings?_spelling hspelled hs]
      rfl
  | layout k =>
    cases hset with
    | within hgroup hinner h =>
      rw [hentries] at hinner h
      have hlaid := read?_of_isSet (fun s => k.set c s) rfl (fun h hs => h.layout? hv hs)
        hlayout hinner
      rw [hgroup, Option.bind_some, ite_alone_layout k hentries, h.settings?_layout hlaid hs]
      rfl

end Reading

end TableBinding
