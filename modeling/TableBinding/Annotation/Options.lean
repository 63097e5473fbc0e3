import TableBinding.Annotation.Spelling

/-!
# Column options

The body of an annotation is a list of options between commas. Each option is of one class
(`Token.ofText`); what a column takes from the list depends on the options of each class alone
(`ColumnOptions.ofTokens`): the last column type and the last nullability count, one key option
makes a key column, and the rest is kept as it is.
-/

namespace TableBinding

/-- A column option by its class. -/
inductive Token where
  | datatype (name : Text)
  | nullability (nullable : Bool)
  | primaryKey
  | extra (text : Text)
  deriving DecidableEq, Repr

/-- Whether the text consists of the two words with gaps between them. -/
def Text.isPhrase (first second t : Text) : Bool :=
  match Text.after? first t with
  | some (c :: rest) => Text.isGap c && Text.dropGaps rest == second
  | _ => false

namespace Token

/-- Whether the option says if NULL is accepted. -/
def saysNullability (t : Text) : Bool := t == "NULL" || Text.isPhrase "NOT" "NULL" t

/-- Whether the option makes the column a key column. -/
def saysPrimaryKey (t : Text) : Bool := t == "PK" || Text.isPhrase "PRIMARY" "KEY" t

/-- The class of an option. A column type is one whatever its spelling. -/
def ofText (s : Spelling) (t : Text) : Token :=
  if s.isDatatype t then datatype t
  else if saysNullability t then nullability (t == "NULL")
  else if saysPrimaryKey t then primaryKey
  else extra t

end Token

/-- The options of an annotation's body: what stands between the commas, without the gaps around
it, where that is not empty. -/
def Text.options (body : Text) : List Text :=
  ((Text.splitWhen (· == ',') body).map Text.trimGaps).filter (fun t => !t.isEmpty)

/-- What the options of a column say. -/
structure ColumnOptions where
  /-- Empty as long as no option is a column type. -/
  columnType : Text := []
  nullable : Bool := false
  primaryKey : Bool := false
  extras : List Text := []
  deriving DecidableEq, Repr

namespace ColumnOptions

/-- One more option. -/
def add (o : ColumnOptions) : Token → ColumnOptions
  | .datatype name => { o with columnType := name }
  | .nullability nullable => { o with nullable }
  | .primaryKey => { o with primaryKey := true }
  | .extra text => { o with extras := o.extras ++ [text] }

/-- What a list of options says. -/
def ofTokens (tokens : List Token) : ColumnOptions := tokens.foldl add {}

/-- What the body of an annotation says, if it names a column type. -/
def ofBody? (s : Spelling) (body : Text) : Option ColumnOptions :=
  let o := ofTokens ((Text.options body).map (Token.ofText s))
  if o.columnType.isEmpty then none else some o

end ColumnOptions

end TableBinding
