import TableBinding.Library.Toml.Node
import TableBinding.Library.Toml.Scalar

/-!
# TOML documents

A document is read line by line: comments, headers in brackets, and keys with their values. A value
in brackets may reach over several lines. Every reader gives the text behind what it read.
-/

namespace TableBinding.Toml

/-- The text behind spaces, line endings and comments. -/
def skipLayout (inComment : Bool) : Text → Option Text
  | [] => some []
  | '\r' :: '\n' :: t => skipLayout false t
  | '\n' :: t => skipLayout false t
  | c :: t =>
    if inComment then if isPrinting c then skipLayout true t else none
    else if Text.isGap c then skipLayout false t
    else if c = '#' then skipLayout true t
    else some (c :: t)

/-- The text behind the end of a line, in front of which a comment may stand. -/
def endLine? (t : Text) : Option Text :=
  match dropSpace t with
  | [] => some []
  | '#' :: rest =>
    match rest.dropWhile isPrinting with
    | [] => some []
    | behind => dropNewline? behind
  | rest => dropNewline? rest

/-- The characters of a key without quotes. -/
def isBareKey (c : Char) : Bool := c.isAlphanum || c == '_' || c == '-'

/-- One key, and what follows. -/
def readKey? (t : Text) : Option (Text × Text) :=
  match t with
  | '"' :: '"' :: '"' :: _ => none
  | '\x27' :: '\x27' :: '\x27' :: _ => none
  | '"' :: _ => readString? t
  | '\x27' :: _ => readString? t
  | _ =>
    let key := t.takeWhile isBareKey
    if key.isEmpty then none else some (key, t.dropWhile isBareKey)

/-- A key has no more parts. -/
def mostParts : Nat := 80

/-- Keys with dots between them, no more of them than there are steps, and what follows. -/
def readKeys? : (steps : Nat) → Text → Option (List Text × Text)
  | 0, _ => none
  | steps + 1, t => do
    let (key, rest) ← readKey? t
    match dropSpace rest with
    | '.' :: more =>
      let (keys, rest) ← readKeys? steps (dropSpace more)
      pure (key :: keys, rest)
    | rest => pure ([key], rest)

/-- Values in brackets nest no deeper. -/
def deepest : Nat := 80

mutual

/-- The value at the front of the text, and what follows. Every call takes one of the steps, and
every bracket one of the levels. -/
def readValue? : (steps level : Nat) → Text → Option (Value × Text)
  | 0, _, _ => none
  | steps + 1, level, t =>
    match t with
    | '[' :: rest =>
      match level with
      | 0 => none
      | level + 1 => do
        let (items, rest) ← readItems? steps level rest
        pure (.array items, rest)
    | '\x7b' :: rest =>
      match level with
      | 0 => none
      | level + 1 => do
        let (entries, rest) ← readEntries? steps level [] rest
        pure (.table (Entries.toTable entries), rest)
    | '"' :: _ => do
      let (s, rest) ← readString? t
      pure (.string s, rest)
    | '\x27' :: _ => do
      let (s, rest) ← readString? t
      pure (.string s, rest)
    | _ => do
      let (token, rest) := takeToken t
      let v ← scalar? token
      pure (v, rest)

/-- The items of an array up to its closing bracket, and what follows. -/
def readItems? : (steps level : Nat) → Text → Option (List Value × Text)
  | 0, _, _ => none
  | steps + 1, level, t => do
    match ← skipLayout false t with
    | ']' :: rest => pure ([], rest)
    | t =>
      let (item, rest) ← readValue? steps level t
      match ← skipLayout false rest with
      | ',' :: rest =>
        let (items, rest) ← readItems? steps level rest
        pure (item :: items, rest)
      | ']' :: rest => pure ([item], rest)
      | _ => none

/-- The entries of a table in braces up to the closing one, added to those before, and what
follows. Layout may stand between any two parts of an entry. -/
def readEntries? : (steps level : Nat) → Entries → Text → Option (Entries × Text)
  | 0, _, _, _ => none
  | steps + 1, level, entries, t => do
    match ← skipLayout false t with
    | '\x7d' :: rest => pure (entries, rest)
    | t =>
      let (keys, rest) ← readKeys? mostParts t
      let rest ← afterChar? '=' (← skipLayout false rest)
      let (v, rest) ← readValue? steps level (← skipLayout false rest)
      let entries ← Entries.define .dotted keys v entries
      match ← skipLayout false rest with
      | ',' :: rest => readEntries? steps level entries rest
      | '\x7d' :: rest => pure (entries, rest)
      | _ => none

end

/-- The header at the front of the text and whether it opens one of several tables, and what
follows. -/
def readHeader? (t : Text) : Option (Bool × List Text × Text) :=
  match t with
  | '[' :: '[' :: rest => do
    let (keys, rest) ← readKeys? mostParts (dropSpace rest)
    let rest ← afterChar? ']' rest
    let rest ← afterChar? ']' rest
    pure (true, keys, rest)
  | '[' :: rest => do
    let (keys, rest) ← readKeys? mostParts (dropSpace rest)
    let rest ← afterChar? ']' rest
    pure (false, keys, rest)
  | _ => none

/-- The entries of a document of no more than `size` characters from here on, the last header being
`header`, added to those before. Every line takes one of the steps. -/
def readLines? (reach : DottedReach) (size : Nat) :
    (steps : Nat) → (header : List Text) → Entries → Text → Option Entries
  | 0, _, _, _ => none
  | steps + 1, header, entries, t => do
    match ← skipLayout false t with
    | [] => pure entries
    | '[' :: rest =>
      let (several, keys, rest) ← readHeader? ('[' :: rest)
      let entries ←
        if several then Entries.openItem keys entries else Entries.openTable keys entries
      readLines? reach size steps keys entries (← endLine? rest)
    | t =>
      let (keys, rest) ← readKeys? mostParts t
      let rest ← afterChar? '=' rest
      let (v, rest) ← readValue? (2 * size + 2) deepest (dropSpace rest)
      let entries ← Entries.defineUnder reach header keys v entries
      readLines? reach size steps header entries (← endLine? rest)

/-- The text without a byte order mark at its front. -/
def dropByteOrderMark : Text → Text
  | '\ufeff' :: t => t
  | t => t

/-- The table that a document says, where dotted keys may add to the tables within their reach. -/
def read? (reach : DottedReach) (document : Text) : Option Table :=
  let t := dropByteOrderMark document
  (readLines? reach t.length (t.length + 1) [] [] t).map Entries.toTable

end TableBinding.Toml
