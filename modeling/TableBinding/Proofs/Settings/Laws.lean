import Mathlib.Data.List.Forall2
import TableBinding.Proofs.Settings.TextSettings
import TableBinding.Proofs.Settings.Values
import TableBinding.Settings.Sources

/-!
# What is relied on

Settings are read by a `DocumentReader` and put together by a `Collector`, which may be any. This
module says what is relied on of them: `Collector.Lawful` of every collector,
`Collector.ReadsDocuments` where a collector and a reader read one file, and
`Collector.TakesVariables` where a variable gives a setting. Nothing is relied on in how the entries
of a settings file are written, found or ordered beyond what these say.
-/

namespace TableBinding

open Toml (Value)

/-! ## Variables -/

namespace Variables.Convention

variable (c : Convention)

/-- What the names of the variables begin with. -/
def front : Text := c.start ++ c.startSeparator

/-- Whether a variable of that name is one that gives settings, in any case. -/
def covers (name : Text) : Bool := Text.startsWith (Text.toLower c.front) (Text.toLower name)

/-- The name of the variable for the setting that the keys lead to. -/
def nameOf (path : List Text) : Text := c.front ++ Text.join c.separator path

end Variables.Convention

namespace Collector

variable {m : Type → Type} {T : Type}

structure Lawful (collector : Collector m T) : Prop where
  /-- A source without entries changes nothing. -/
  lay_nil : ∀ t, collector.lay t [] = t
  /-- Variables that do not begin as the convention says give nothing. -/
  ofEnvironment_eq_nil : ∀ {env : Variables.Environment},
    (∀ v ∈ env, Variables.convention.covers v.1 = false) →
    collector.ofEnvironment Variables.convention env = []

/-! ## One variable -/

/-- What is relied on where one variable gives a setting, with the values that the collector has for
scalars. -/
structure TakesVariables (collector : Collector m T) (scalar : Scalar → T) : Prop where
  /-- What is collected from a settings file is a group with keys. -/
  exists_group?_base : ∀ entries, ∃ group,
    collector.reading.group? (collector.base entries) = some (.named group)
  /-- The value of a variable is tried as a truth value, a whole number and a number, and is a text
  otherwise. Its key is that of the setting in its name, with a dot between a group and what is in
  it. -/
  ofEnvironment_eq_single : ∀ (k : TextSetting) {name value : Text}
    {before after : Variables.Environment},
    Text.toLower name = Text.toLower (Variables.convention.nameOf k.path) →
    (∀ v ∈ before ++ after, Variables.convention.covers v.1 = false) →
    collector.ofEnvironment Variables.convention (before ++ (name, value) :: after) =
      [(Text.join "." k.path, scalar (Scalar.ofText value))]
  /-- A value under such a key is set where the key leads. -/
  lay_single : ∀ (k : TextSetting) (entries : List (Text × T)) (x : Scalar),
    collector.reading.IsSet (scalar x) k.path (some (collector.base entries))
      (collector.lay (collector.base entries) [(Text.join "." k.path, scalar x)])
  /-- Where a text is wanted, a scalar is taken as it is written. -/
  text?_scalar : ∀ x, collector.reading.text? (scalar x) = some x.written
  isNothing_scalar : ∀ x, collector.reading.isNothing (scalar x) = false

end Collector

/-! ## One document -/

/-- A key that leads no deeper than one level, where a dot or a bracket may lead deeper. -/
def IsPlainKey (key : Text) : Prop := '.' ∉ key ∧ '[' ∉ key

instance (key : Text) : Decidable (IsPlainKey key) :=
  inferInstanceAs (Decidable ('.' ∉ key ∧ '[' ∉ key))

/-- What the file at the path says, if it is text and a document. -/
def Disk.table? (d : Disk) (reader : DocumentReader) (path : Path) : Option Toml.Table :=
  match d.read path with
  | .ok bytes => (Utf8.decode? bytes).bind reader.table?
  | .error _ => none

namespace Reading

/-- Values are taken for what they are written as only. Nothing is said of what is taken from a
date. -/
structure IsStrict (r : Reading Value) : Prop where
  text? : ∀ {v t}, r.text? v = some t → v = .string t
  truth? : ∀ {v b}, r.truth? v = some b → v = .boolean b
  list? : ∀ {v items}, r.list? v = some items → v = .array items
  group? : ∀ {v g}, r.group? v = some g →
    (∃ entries, v = .table entries ∧ g = .named entries) ∨
    (∃ items, v = .array items ∧ g = .ordered items) ∨ ∃ d, v = .datetime d
  isNothing : ∀ v, r.isNothing v = false

variable {T : Type}

/-- The entries have the same under every key as the table. -/
def SameEntries (same : Value → T → Prop) (table : Toml.Table) (entries : List (Text × T)) : Prop :=
  ∀ key, Option.Rel same (table.lookup key) (entries.lookup key)

/-- A value that is the `same` as one of the wanted type is taken for that. -/
structure Keeps (r : Reading T) (same : Value → T → Prop) : Prop where
  string : ∀ {s t}, same (.string s) t → r.text? t = some s ∧ r.isNothing t = false
  boolean : ∀ {b t}, same (.boolean b) t → r.truth? t = some b
  array : ∀ {items t}, same (.array items) t →
    ∃ ts, r.list? t = some ts ∧ r.group? t = some (.ordered ts) ∧ List.Forall₂ same items ts
  table : ∀ {entries t}, same (.table entries) t →
    ∃ ts, r.group? t = some (.named ts) ∧ SameEntries same entries ts

end Reading

/-- What is relied on where a collector and a reader read one TOML file, with the values of the
collector that are the `same` as a value of the document. -/
structure Collector.ReadsDocuments {T : Type} (collector : Collector (StateM Workspace) T)
    (reader : DocumentReader) (same : Value → T → Prop) : Prop where
  /-- Both read the same document, where its whole numbers take no more than 64 bits. -/
  entries? : ∀ {w : Workspace} {path : Path} {table : Toml.Table},
    path.extension? = some ("toml" : Text) → w.disk.table? reader path = some table →
    (Value.table table).FitsInt64 →
    ∃ entries, (collector.entries? { path, required := true }).run w = (some entries, w) ∧
      (entries.map Prod.fst).Nodup ∧ Reading.SameEntries same table entries
  /-- A source is laid over nothing key by key. -/
  lay : ∀ {table : Toml.Table} {entries : List (Text × T)}, (entries.map Prod.fst).Nodup →
    (∀ e ∈ entries, IsPlainKey e.1) → Reading.SameEntries same table entries →
    ∃ group, collector.reading.group? (collector.base entries) = some (.named group) ∧
      Reading.SameEntries same table group
  /-- A value of the wanted type is taken for what it is. -/
  reading : collector.reading.Keeps same

end TableBinding
