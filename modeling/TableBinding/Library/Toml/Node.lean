import TableBinding.Toml.Value

/-!
# The tables of a document while it is read

How a table came to be decides what may still be added to it: a header may complete a table that
was only passed through, dotted keys may add to tables made by dotted keys, and what is written as
a value is complete. Whether dotted keys may also add to a table that was only passed through is for
the reader of the document to say (`DottedReach`).
-/

namespace TableBinding.Toml

/-- How a table came to be. -/
inductive Origin where
  /-- It stood on the way of a header. -/
  | passed
  /-- It stood on the way of a dotted key. -/
  | dotted
  /-- It has a header of its own, or is the document. -/
  | headed
  deriving DecidableEq, Repr

/-- Which tables dotted keys may add to. -/
inductive DottedReach where
  /-- Those that dotted keys made. -/
  | dotted
  /-- Those, and the ones that headers only passed through. -/
  | passed
  deriving DecidableEq, Repr

/-- Whether dotted keys may add to a table that came to be in this way. -/
def DottedReach.includes : DottedReach → Origin → Bool
  | _, .dotted => true
  | reach, .passed => reach == .passed
  | _, .headed => false

/-- What stands under a key while a document is read. -/
inductive Node where
  /-- A value, which is complete. -/
  | value (v : Value)
  | table (origin : Origin) (entries : List (Text × Node))
  /-- Tables under one header, the last of them still open. -/
  | tables (items : List (List (Text × Node)))

/-- The entries of a table while a document is read. -/
abbrev Entries := List (Text × Node)

mutual

/-- The value of a node. -/
def Node.toValue : Node → Value
  | .value v => v
  | .table _ entries => .table (Entries.toTable entries)
  | .tables items => .array (Entries.toTables items)

/-- The table of entries. -/
def Entries.toTable : List (Text × Node) → Table
  | [] => []
  | (key, node) :: rest => (key, Node.toValue node) :: Entries.toTable rest

/-- The tables of a list of entries. -/
def Entries.toTables : List (List (Text × Node)) → List Value
  | [] => []
  | item :: rest => .table (Entries.toTable item) :: Entries.toTables rest

end

namespace Entries

/-- The entries with the node under the key, in the place of one that stood there. -/
def set (key : Text) (node : Node) : Entries → Entries
  | [] => [(key, node)]
  | (k, n) :: rest => if k = key then (key, node) :: rest else (k, n) :: set key node rest

/-- Changes the table that the keys lead to. Tables on the way are made if they are missing; of
several tables under one header, the way leads through the last. Dotted keys (`dotted`) do not lead
through other tables with a header. -/
def within (dotted : Bool) (change : Origin → Entries → Option Entries) :
    List Text → Origin → Entries → Option Entries
  | [], origin, entries => change origin entries
  | key :: path, _, entries =>
    match entries.lookup key with
    | none =>
      let origin := if dotted then Origin.dotted else Origin.passed
      (within dotted change path origin []).map fun inner => set key (.table origin inner) entries
    | some (.table origin inner) =>
      if dotted && origin == .headed then none
      else (within dotted change path origin inner).map fun inner =>
        set key (.table origin inner) entries
    | some (.tables items) =>
      match items.getLast? with
      | some last =>
        (within dotted change path .headed last).map fun inner =>
          set key (.tables (items.dropLast ++ [inner])) entries
      | none => none
    | some (.value _) => none

/-- Defines the value of a dotted key. -/
def define (reach : DottedReach) (keys : List Text) (v : Value) (entries : Entries) :
    Option Entries :=
  match keys.getLast? with
  | none => none
  | some key =>
    let place (origin : Origin) (entries : Entries) : Option Entries :=
      if !keys.dropLast.isEmpty && !reach.includes origin then none
      else if (entries.lookup key).isSome then none
      else some (entries ++ [(key, .value v)])
    within true place keys.dropLast .headed entries

/-- Opens the table of a header. -/
def openTable (keys : List Text) (entries : Entries) : Option Entries :=
  match keys.getLast? with
  | none => none
  | some key =>
    let place (_ : Origin) (entries : Entries) : Option Entries :=
      match entries.lookup key with
      | none => some (entries ++ [(key, .table .headed [])])
      | some (.table .passed inner) => some (set key (.table .headed inner) entries)
      | some _ => none
    within false place keys.dropLast .headed entries

/-- Opens one more table under a header. -/
def openItem (keys : List Text) (entries : Entries) : Option Entries :=
  match keys.getLast? with
  | none => none
  | some key =>
    let place (_ : Origin) (entries : Entries) : Option Entries :=
      match entries.lookup key with
      | none => some (entries ++ [(key, .tables [[]])])
      | some (.tables items) => some (set key (.tables (items ++ [[]])) entries)
      | some _ => none
    within false place keys.dropLast .headed entries

/-- Defines the value of a dotted key in the table of the header that was opened last. -/
def defineUnder (reach : DottedReach) (header keys : List Text) (v : Value) (entries : Entries) :
    Option Entries :=
  within false (fun _ inner => define reach keys v inner) header .headed entries

end Entries

end TableBinding.Toml
