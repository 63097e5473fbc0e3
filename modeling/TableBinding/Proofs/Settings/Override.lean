import TableBinding.Proofs.Number.Numeral
import TableBinding.Proofs.Settings.Loaders

/-!
# A variable in the place of a setting

A single variable changes the settings that are loaded in the one setting it is named for, where
that is a text (`Settings.load_override`), whatever file they come from. The value does not pass
through untouched: what is the text of a truth value, a whole number or a number arrives in the
spelling in which such a value is written (`Scalar.received`), which is its own exactly under
`Scalar.SpellsItself`; so a number with an exponent never arrives as it is
(`Scalar.SpellsItself.not_mem`).

The shape of the argument: the variable is one entry, and what it stands for is set under the key of
the setting (`Collector.TakesVariables`), so `Reading.settings?_of_isSet` gives what is read from
the two sources together. What arrives is settled by the reading of the value as a number
(`Number.ofInt_readInt?_iff`).
-/

namespace TableBinding

namespace Scalar

variable {value : Text}

/-! ## What arrives of a value -/

/-- What a setting that is a text receives from a variable. -/
def received (value : Text) : Text := (ofText value).written

/-- The value is spelled as it is written, if it is the text of a truth value or a number. -/
structure SpellsItself (value : Text) : Prop where
  truth : ∀ b, readTruth? value = some b → value = "true" ∨ value = "false"
  /-- No plus sign, no negative zero, and no zeros in front. -/
  integer : ∀ n, readInteger? value = some n →
    value.head? ≠ some '+' ∧ value ≠ "-0" ∧ Text.IsNumeral (Number.takeSign value).2
  number : ∀ x, readInteger? value = none → Number.readBinary64? value = some x →
    value = Number.write x

theorem received_eq_iff_of_truth? {b : Bool} (h : readTruth? value = some b) :
    received value = value ↔ SpellsItself value := by
  have hreceived : received value = (if b then "true" else "false" : Text) := by
    simp only [received, ofText, h, written]
  constructor
  · intro heq
    have hword : value = "true" ∨ value = "false" := by
      rw [hreceived] at heq
      cases b
      · exact .inr heq.symm
      · exact .inl heq.symm
    -- neither word is the text of a number
    rcases hword with rfl | rfl
    · exact ⟨fun _ _ => .inl rfl, fun n hn => (by cases hn), fun x _ hx => (by cases hx)⟩
    · exact ⟨fun _ _ => .inr rfl, fun n hn => (by cases hn), fun x _ hx => (by cases hx)⟩
  · intro hitself
    rcases hitself.truth b h with rfl | rfl
    · cases h
      exact hreceived
    · cases h
      exact hreceived

/-- **A value arrives as it is exactly if** it spells itself. -/
theorem received_eq_iff (value : Text) : received value = value ↔ SpellsItself value := by
  cases htruth : readTruth? value with
  | some b => exact received_eq_iff_of_truth? htruth
  | none =>
    have hword : ∀ b, readTruth? value = some b → value = "true" ∨ value = "false" := by
      simp [htruth]
    cases hinteger : readInteger? value with
    | some n =>
      have hreceived : received value = Text.ofInt n := by
        simp only [received, ofText, htruth, hinteger, written]
      have hread : Number.readInt? value = some n := (Option.filter_eq_some_iff.mp hinteger).1
      rw [hreceived, Number.ofInt_readInt?_iff hread]
      exact ⟨fun h => ⟨hword, fun _ _ => h, by simp [hinteger]⟩, fun h => h.integer n hinteger⟩
    | none =>
      cases hnumber : Number.readBinary64? value with
      | some x =>
        have hreceived : received value = Number.write x := by
          simp only [received, ofText, htruth, hinteger, hnumber, written]
        rw [hreceived, eq_comm]
        have hsame : ∀ y, Number.readBinary64? value = some y → x = y :=
          fun y hy => Option.some.inj (hnumber.symm.trans hy)
        exact ⟨fun h => ⟨hword, by simp [hinteger], fun y _ hy => hsame y hy ▸ h⟩,
          fun h => h.number x hinteger hnumber⟩
      | none =>
        have hreceived : received value = value := by
          simp only [received, ofText, htruth, hinteger, hnumber, written]
        exact iff_of_true hreceived ⟨hword, by simp [hinteger], by simp [hnumber]⟩

/-- A number with a plus sign or an exponent never arrives as it is. -/
theorem SpellsItself.not_mem (h : SpellsItself value) {x : Binary64} {c : Char}
    (hinteger : readInteger? value = none) (hx : Number.readBinary64? value = some x)
    (hc : c = '+' ∨ c = 'e' ∨ c = 'E') : c ∉ value := by
  rw [h.number x hinteger hx]
  exact Number.not_mem_write x hc

end Scalar

namespace Settings

variable {σ T : Type} {collector : Collector (StateM σ) T} {scalar : Scalar → T}

/-! ## One variable -/

/-- Whether the settings file gives the group of the setting as a list. -/
def givesList (collector : Collector (StateM σ) T) (path? : Option Path) (w : σ)
    (k : TextSetting) : Bool :=
  (((collector.entries? (settingsFile path?)).run w).1).any fun entries =>
    collector.reading.isInOrdered (collector.base entries) k

/-- The settings of a settings file and one variable, from those of the file. -/
theorem settings?_override (hlaws : collector.Lawful) (htakes : collector.TakesVariables scalar)
    (k : TextSetting) {value name : Text} {before after : Variables.Environment}
    {entries : List (Text × T)} {s : Settings}
    (hname : Text.toLower name = Text.toLower (Variables.convention.nameOf k.path))
    (hothers : ∀ v ∈ before ++ after, Variables.convention.covers v.1 = false)
    (hsettings : collector.settings? (before ++ after) entries = some s) :
    collector.settings? (before ++ (name, value) :: after) entries =
      some (k.set (Scalar.received value)
        (if collector.reading.isInOrdered (collector.base entries) k then k.alone s else s)) := by
  obtain ⟨group, hbase⟩ := htakes.exists_group?_base entries
  have hread : collector.reading.settings? (.named group) = some s := by
    rw [settings?_of_ofEnvironment_eq_nil hlaws hothers, hbase, Option.bind_some] at hsettings
    exact hsettings
  have hset := htakes.lay_single k entries (Scalar.ofText value)
  rw [Collector.settings?, htakes.ofEnvironment_eq_single k hname hothers]
  exact Reading.settings?_of_isSet k (htakes.text?_scalar _) (htakes.isNothing_scalar _) hbase hread
    hset

/-- **A variable replaces the text setting that it is named for, and nothing else**, whatever its
value and whatever the settings file: the settings are those without it, but for the text that
arrives, unless the file gives the setting's group as a list, which the variable replaces. That text
is the value, character for character, exactly if the value is not the text of a truth value or a
number in another than its own spelling. -/
theorem load_override (hlaws : collector.Lawful) (htakes : collector.TakesVariables scalar)
    (k : TextSetting) (value name : Text) (before after : Variables.Environment)
    (path? : Option Path) (w : σ) (s : Settings)
    (hname : Text.toLower name = Text.toLower (Variables.convention.nameOf k.path))
    (hothers : ∀ v ∈ before ++ after, Variables.convention.covers v.1 = false)
    (hload : ((loadWith collector (before ++ after) path?).outcome w).1 = .ok s) :
    (loadWith collector (before ++ (name, value) :: after) path?).outcome w =
      (.ok (k.set (Scalar.received value)
          (if givesList collector path? w k then k.alone s else s)),
        ((loadWith collector (before ++ after) path?).outcome w).2) ∧
    (Scalar.received value = value ↔ Scalar.SpellsItself value) := by
  refine ⟨?_, Scalar.received_eq_iff value⟩
  obtain ⟨entries, hrun, hsettings⟩ := loadWith_outcome_eq_ok_iff.mp (Prod.ext hload rfl)
  have hlist : givesList collector path? w k =
      collector.reading.isInOrdered (collector.base entries) k := by
    rw [givesList, hrun]
    rfl
  rw [loadWith_outcome_eq_ok_iff, hlist]
  exact ⟨entries, hrun, settings?_override hlaws htakes k hname hothers hsettings⟩

/-- What the file of this document gives without the variable, and with it. -/
def overridden (document name value : Text) : Except Failure Settings × Except Failure Settings :=
  (((load [] (some "c.toml") : Task (StateM Workspace) Settings).outcome
      (holding "c.toml" document)).1,
    ((load [(name, value)] (some "c.toml") : Task (StateM Workspace) Settings).outcome
      (holding "c.toml" document)).1)

/-- A document with settings at both levels. -/
def warningDocument : Text :=
  "log_level = 'warn'\n[syntax]\ndelimiter = '|'\nblock_end = 'E'\n"

/-- With the library's own collector, a number in its own spelling arrives, and the rest of its
group stays. -/
theorem load_override_number :
    overridden warningDocument "qtorm_codegen_Syntax__Delimiter" "1.5" =
      (.ok { logLevel := some "warn", spelling := { delimiter := "|", blockEnd := "E" } },
        .ok { logLevel := some "warn", spelling := { delimiter := "1.5", blockEnd := "E" } }) ∧
    Scalar.SpellsItself "1.5" := by
  have hload : ((load ([] ++ []) (some "c.toml") : Task (StateM Workspace) Settings).outcome
      (holding "c.toml" warningDocument)).1 =
        .ok { logLevel := some "warn", spelling := { delimiter := "|", blockEnd := "E" } } := by
    decide +kernel
  obtain ⟨hwith, hiff⟩ := load_override Tree.lawful Tree.takesVariables (.spelling .delimiter) "1.5"
    "qtorm_codegen_Syntax__Delimiter" [] [] (some "c.toml") _ _ (by decide) (by simp) hload
  have harrives : Scalar.received "1.5" = ("1.5" : Text) := by
    decide +kernel
  have hlist : givesList Tree.collector (some "c.toml") (holding "c.toml" warningDocument)
      (.spelling .delimiter) = false := by
    decide +kernel
  rw [hlist, harrives] at hwith
  exact ⟨Prod.ext hload (congrArg Prod.fst hwith), hiff.mp harrives⟩

/-- Signs, zeros and the case of letters are lost, and a list gives way to what is put into it. -/
theorem overridden_loses :
    overridden "" "QTORM_CODEGEN_OUTPUT__INDENT" "+5" =
      (.ok {}, .ok { layout := { indent := "5" } }) ∧
    overridden "" "QTORM_CODEGEN_INPUT_FILE" "TRUE" = (.ok {}, .ok { input := "true" }) ∧
    overridden "" "QTORM_CODEGEN_OUTPUT_FILE" "1.50" = (.ok {}, .ok { output := "1.5" }) ∧
    overridden "syntax = ['class']\n" "QTORM_CODEGEN_SYNTAX__DELIMITER" "|" =
      (.ok { spelling := { keyword := "class" } }, .ok { spelling := { delimiter := "|" } }) := by
  decide +kernel

end Settings

end TableBinding
