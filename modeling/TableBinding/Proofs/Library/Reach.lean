import Mathlib.Data.Option.Basic
import TableBinding.Library.Toml.Document

/-!
# Documents and the reach of dotted keys

A document that is read where dotted keys reach the least says the same to a reader where they reach
further (`Toml.read?_of_dotted`). Of two byte order marks at its front the second is no part of any
document (`Toml.read?_mark`).

The shape of the argument: the reach is asked for at one place, where a dotted key ends
(`Entries.define_of_dotted`); everything in front of that place and behind it is the same for all
reaches, so a change that succeeds stays as it is on every way (`Entries.within_mono`).
-/

namespace TableBinding.Toml

theorem DottedReach.includes_of_dotted {reach : DottedReach} {origin : Origin}
    (h : DottedReach.dotted.includes origin = true) : reach.includes origin = true := by
  cases origin with
  | passed => cases h
  | dotted => cases reach <;> rfl
  | headed => cases h

namespace Entries

theorem within_mono {dotted : Bool} {change change' : Origin → Entries → Option Entries}
    (hchange : ∀ {origin es es'}, change origin es = some es' → change' origin es = some es')
    {path : List Text} {origin : Origin} {es es' : Entries}
    (h : within dotted change path origin es = some es') :
    within dotted change' path origin es = some es' := by
  induction path generalizing origin es es' with
  | nil => exact hchange h
  | cons key path ih =>
    unfold within at h ⊢
    split at h
    · obtain ⟨inner, hinner, rfl⟩ := Option.map_eq_some_iff.mp h
      exact Option.map_eq_some_iff.mpr ⟨inner, ih hinner, rfl⟩
    · split at h
      · cases h
      · rename_i hway
        obtain ⟨inner, hinner, rfl⟩ := Option.map_eq_some_iff.mp h
        rw [if_neg hway, ih hinner, Option.map_some]
    · split at h
      · obtain ⟨inner, hinner, rfl⟩ := Option.map_eq_some_iff.mp h
        rw [ih hinner, Option.map_some]
      · cases h
    · cases h

variable {reach : DottedReach} {header keys : List Text} {v : Value} {es es' : Entries}

theorem define_of_dotted (h : define .dotted keys v es = some es') :
    define reach keys v es = some es' := by
  unfold define at h ⊢
  split at h
  · cases h
  · refine within_mono ?_ h
    intro origin es es' hplace
    by_cases hfar : (!keys.dropLast.isEmpty && !DottedReach.dotted.includes origin) = true
    · rw [if_pos hfar] at hplace
      cases hplace
    · have hreach : ¬ (!keys.dropLast.isEmpty && !reach.includes origin) = true := by
        intro hnear
        simp only [Bool.and_eq_true, Bool.not_eq_true'] at hfar hnear
        have hdotted : DottedReach.dotted.includes origin ≠ true := by
          intro hdotted
          rw [DottedReach.includes_of_dotted hdotted] at hnear
          cases hnear.2
        exact hfar ⟨hnear.1, Bool.eq_false_iff.mpr hdotted⟩
      rw [if_neg hfar] at hplace
      rw [if_neg hreach]
      exact hplace

theorem defineUnder_of_dotted (h : defineUnder .dotted header keys v es = some es') :
    defineUnder reach header keys v es = some es' :=
  within_mono (fun h => define_of_dotted h) h

end Entries

theorem readLines?_of_dotted {reach : DottedReach} {size steps : Nat} {header : List Text}
    {es es' : Entries} {t : Text} (h : readLines? .dotted size steps header es t = some es') :
    readLines? reach size steps header es t = some es' := by
  induction steps generalizing header es t with
  | zero =>
    rw [readLines?] at h
    cases h
  | succ steps ih =>
    unfold readLines? at h ⊢
    obtain ⟨behind, hskip, h⟩ := Option.bind_eq_some_iff.mp h
    refine Option.bind_eq_some_iff.mpr ⟨behind, hskip, ?_⟩
    split at h
    · exact h
    · obtain ⟨⟨several, keys, behind⟩, hheader, h⟩ := Option.bind_eq_some_iff.mp h
      refine Option.bind_eq_some_iff.mpr ⟨_, hheader, ?_⟩
      cases several with
      | true =>
        obtain ⟨opened, hopen, h⟩ := Option.bind_eq_some_iff.mp h
        obtain ⟨behind, hend, h⟩ := Option.bind_eq_some_iff.mp h
        exact Option.bind_eq_some_iff.mpr ⟨opened, hopen,
          Option.bind_eq_some_iff.mpr ⟨behind, hend, ih h⟩⟩
      | false =>
        obtain ⟨opened, hopen, h⟩ := Option.bind_eq_some_iff.mp h
        obtain ⟨behind, hend, h⟩ := Option.bind_eq_some_iff.mp h
        exact Option.bind_eq_some_iff.mpr ⟨opened, hopen,
          Option.bind_eq_some_iff.mpr ⟨behind, hend, ih h⟩⟩
    · obtain ⟨⟨keys, behind⟩, hkeys, h⟩ := Option.bind_eq_some_iff.mp h
      refine Option.bind_eq_some_iff.mpr ⟨_, hkeys, ?_⟩
      obtain ⟨behind, hsign, h⟩ := Option.bind_eq_some_iff.mp h
      refine Option.bind_eq_some_iff.mpr ⟨_, hsign, ?_⟩
      obtain ⟨⟨v, behind⟩, hv, h⟩ := Option.bind_eq_some_iff.mp h
      refine Option.bind_eq_some_iff.mpr ⟨_, hv, ?_⟩
      obtain ⟨defined, hdefine, h⟩ := Option.bind_eq_some_iff.mp h
      refine Option.bind_eq_some_iff.mpr ⟨_, Entries.defineUnder_of_dotted hdefine, ?_⟩
      obtain ⟨behind, hend, h⟩ := Option.bind_eq_some_iff.mp h
      exact Option.bind_eq_some_iff.mpr ⟨_, hend, ih h⟩

theorem readKeys?_mark {steps : Nat} {t : Text} : readKeys? steps ('\ufeff' :: t) = none := by
  have hkey : readKey? ('\ufeff' :: t) = none := by simp [readKey?, isBareKey]
  cases steps with
  | zero => rw [readKeys?]
  | succ steps =>
    rw [readKeys?, hkey]
    rfl

theorem readLines?_mark {reach : DottedReach} {size steps : Nat} {header : List Text}
    {es : Entries} {t : Text} : readLines? reach size steps header es ('\ufeff' :: t) = none := by
  cases steps with
  | zero => rw [readLines?]
  | succ steps =>
    have hskip : skipLayout false ('\ufeff' :: t) = some ('\ufeff' :: t) := by
      simp [skipLayout, Text.isGap]
    refine Option.eq_none_iff_forall_ne_some.mpr ?_
    intro es' h
    unfold readLines? at h
    obtain ⟨behind, hbehind, h⟩ := Option.bind_eq_some_iff.mp h
    rw [hskip] at hbehind
    cases hbehind
    obtain ⟨keys, hkeys, -⟩ := Option.bind_eq_some_iff.mp h
    rw [readKeys?_mark] at hkeys
    cases hkeys

/-- **What a document says is the same for every reach**, where the least reach suffices. -/
theorem read?_of_dotted {reach : DottedReach} {document : Text} {t : Table}
    (h : read? .dotted document = some t) : read? reach document = some t := by
  obtain ⟨es, hread, rfl⟩ := Option.map_eq_some_iff.mp h
  rw [read?, readLines?_of_dotted hread, Option.map_some]

/-- A byte order mark behind the first one begins no document. -/
theorem read?_mark {reach : DottedReach} {document : Text} :
    read? reach ('\ufeff' :: '\ufeff' :: document) = none := by
  rw [read?, dropByteOrderMark, readLines?_mark, Option.map_none]

/-- A document says the same without the byte order mark at its front. -/
theorem read?_of_mark {reach : DottedReach} {document : Text} {t : Table}
    (h : read? .dotted ('\ufeff' :: document) = some t) : read? reach document = some t := by
  have hkept : dropByteOrderMark document = document := by
    unfold dropByteOrderMark
    split
    · rw [read?_mark] at h
      cases h
    · rfl
  have hread : read? reach ('\ufeff' :: document) = some t := read?_of_dotted h
  rw [read?, dropByteOrderMark] at hread
  rw [read?, hkept]
  exact hread

end TableBinding.Toml
