import TableBinding.Annotation.Options
import TableBinding.Proofs.Text.Pieces

/-!
# What the options of a column say

The options of a body are pieces of it that can stand between commas (`mem_options`), and such
pieces, joined by commas, are read back (`options_join`). What a list of options says is given class by
class: the last column type, the last nullability, whether one of them makes a key column, and the
rest in order (`ColumnOptions.ofTokens_eq`).
-/

namespace TableBinding

namespace Text

/-- A text that is read as it stands between two commas. -/
structure IsOption (t : Text) : Prop where
  ne_nil : t ≠ []
  noComma : ',' ∉ t
  tight : IsTight t

theorem isOption_iff {t : Text} :
    IsOption t ↔ t ≠ [] ∧ ',' ∉ t ∧ t.head?.all (fun c => !isGap c) = true ∧
      t.getLast?.all (fun c => !isGap c) = true := by
  simp only [Option.all_eq_true, Bool.not_eq_true']
  constructor
  · rintro ⟨hne, hcomma, hhead, hlast⟩
    exact ⟨hne, hcomma, hhead, hlast⟩
  · rintro ⟨hne, hcomma, hhead, hlast⟩
    exact ⟨hne, hcomma, hhead, hlast⟩

instance (t : Text) : Decidable (IsOption t) := decidable_of_iff _ isOption_iff.symm

theorem mem_options {body t : Text} (h : t ∈ options body) : IsOption t ∧ t <:+: body := by
  obtain ⟨hmem, hne⟩ := List.mem_filter.1 h
  obtain ⟨piece, hpiece, rfl⟩ := List.mem_map.1 hmem
  obtain ⟨front, back, htrim, -, -, htight⟩ := exists_eq_append_trimGaps piece
  have hstands : trimGaps piece <:+: piece := ⟨front, back, htrim.symm⟩
  refine ⟨⟨by simpa using hne, fun hcomma => ?_, htight⟩,
    hstands.trans (isInfix_of_mem_splitWhen hpiece)⟩
  have h := not_of_mem_splitWhen hpiece ',' (hstands.mem hcomma)
  exact absurd h (by decide)

/-- **Joined options are read back as these options.** -/
theorem options_join {ts : List Text} (h : ∀ t ∈ ts, IsOption t) :
    options (join [','] ts) = ts := by
  cases ts with
  | nil => rfl
  | cons t ts =>
    have hsplit : splitWhen (· == ',') (join [','] (t :: ts)) = t :: ts := by
      refine splitWhen_join (by decide) (List.cons_ne_nil t ts) fun u hu c hc => ?_
      exact beq_eq_false_iff_ne.2 fun e => (h u hu).noComma (e ▸ hc)
    have htrim : (t :: ts).map trimGaps = t :: ts := by
      calc (t :: ts).map trimGaps = (t :: ts).map id :=
            List.map_congr_left fun u hu => trimGaps_eq_self (h u hu).tight
        _ = t :: ts := List.map_id _
    rw [options, hsplit, htrim]
    exact List.filter_eq_self.2 fun u hu => by simpa using (h u hu).ne_nil

end Text

namespace Token

def datatype? : Token → Option Text
  | datatype name => some name
  | _ => none

def nullability? : Token → Option Bool
  | nullability nullable => some nullable
  | _ => none

def isPrimaryKey : Token → Bool
  | primaryKey => true
  | _ => false

def extra? : Token → Option Text
  | extra text => some text
  | _ => none

theorem datatype?_eq_some_iff {token : Token} {u : Text} :
    token.datatype? = some u ↔ token = datatype u := by
  cases token <;> simp [datatype?]

theorem nullability?_eq_some_iff {token : Token} {b : Bool} :
    token.nullability? = some b ↔ token = nullability b := by
  cases token <;> simp [nullability?]

theorem extra?_eq_some_iff {token : Token} {u : Text} :
    token.extra? = some u ↔ token = extra u := by
  cases token <;> simp [extra?]

variable {s : Spelling} {t u : Text}

theorem of_ofText_eq_datatype (h : ofText s t = datatype u) : u = t ∧ t ∈ s.datatypes := by
  unfold ofText at h
  split at h
  · next hdatatype =>
    cases h
    exact ⟨rfl, by simpa [Spelling.isDatatype] using hdatatype⟩
  · split at h
    · cases h
    · split at h <;> cases h

theorem eq_of_ofText_eq_nullability (h : ofText s t = nullability true) : t = "NULL" := by
  unfold ofText at h
  split at h
  · cases h
  · split at h
    · exact beq_iff_eq.1 (Token.nullability.inj h)
    · split at h <;> cases h

theorem of_ofText_eq_extra (h : ofText s t = extra u) : u = t := by
  unfold ofText at h
  split at h
  · cases h
  · split at h
    · cases h
    · split at h
      · cases h
      · exact (Token.extra.inj h).symm

theorem ofText_of_mem_datatypes (h : t ∈ s.datatypes) : ofText s t = datatype t :=
  if_pos (by simpa [Spelling.isDatatype] using h)

end Token

namespace ColumnOptions

/-- **What a list of options says, class by class.** -/
theorem ofTokens_eq (tokens : List Token) :
    ofTokens tokens =
      { columnType := (tokens.filterMap Token.datatype?).getLast?.getD []
        nullable := (tokens.filterMap Token.nullability?).getLast?.getD false
        primaryKey := tokens.any Token.isPrimaryKey
        extras := tokens.filterMap Token.extra? } := by
  induction tokens using List.reverseRecOn with
  | nil => rfl
  | append_singleton tokens token ih =>
    rw [ofTokens, List.foldl_append, List.foldl_cons, List.foldl_nil, ← ofTokens, ih]
    cases token <;>
      simp [add, Token.datatype?, Token.nullability?, Token.isPrimaryKey, Token.extra?]

variable {s : Spelling} {body : Text} {o : ColumnOptions}

/-- What the options of a body say names one of the column types, and keeps options that are of no
other class. -/
theorem of_ofBody? (h : ofBody? s body = some o) :
    o.columnType ∈ s.datatypes ∧ o.columnType ∈ Text.options body ∧
      ∀ e ∈ o.extras, e ∈ Text.options body ∧ Token.ofText s e = .extra e := by
  simp only [ofBody?] at h
  split at h
  · cases h
  · next hne =>
    cases h
    rw [ofTokens_eq] at hne ⊢
    have htype : ∃ u, (((Text.options body).map (Token.ofText s)).filterMap
        Token.datatype?).getLast? = some u := by
      cases hlast : (((Text.options body).map (Token.ofText s)).filterMap
          Token.datatype?).getLast? with
      | some u => exact ⟨u, rfl⟩
      | none =>
        rw [hlast] at hne
        exact absurd rfl hne
    obtain ⟨u, hlast⟩ := htype
    rw [hlast, Option.getD_some]
    obtain ⟨token, htoken, hu⟩ := List.mem_filterMap.1 (List.mem_of_getLast? hlast)
    obtain ⟨t, ht, rfl⟩ := List.mem_map.1 htoken
    obtain ⟨rfl, hmem⟩ := Token.of_ofText_eq_datatype (Token.datatype?_eq_some_iff.1 hu)
    refine ⟨hmem, ht, fun e he => ?_⟩
    obtain ⟨token, htoken, he⟩ := List.mem_filterMap.1 he
    obtain ⟨t, ht, rfl⟩ := List.mem_map.1 htoken
    have hextra := Token.extra?_eq_some_iff.1 he
    obtain rfl := Token.of_ofText_eq_extra hextra
    exact ⟨ht, hextra⟩

/-- A column that accepts NULL says so. -/
theorem mem_of_nullable (h : ofBody? s body = some o) (hnullable : o.nullable = true) :
    ("NULL" : Text) ∈ Text.options body ∧ Token.ofText s "NULL" = .nullability true := by
  simp only [ofBody?] at h
  split at h
  · cases h
  · cases h
    rw [ofTokens_eq] at hnullable
    cases hlast : (((Text.options body).map (Token.ofText s)).filterMap
        Token.nullability?).getLast? with
    | none =>
      simp only [hlast, Option.getD_none] at hnullable
      cases hnullable
    | some b =>
      simp only [hlast, Option.getD_some] at hnullable
      subst hnullable
      obtain ⟨token, htoken, hb⟩ := List.mem_filterMap.1 (List.mem_of_getLast? hlast)
      obtain ⟨t, ht, rfl⟩ := List.mem_map.1 htoken
      have hclass := Token.nullability?_eq_some_iff.1 hb
      obtain rfl := Token.eq_of_ofText_eq_nullability hclass
      exact ⟨ht, hclass⟩

end ColumnOptions

end TableBinding
