import TableBinding.Settings.Reading

/-!
# Settings key by key

A group gives settings exactly if each of them can be read under its own key or keeps its default
(`Reading.settings?_eq_some_iff`), and so do the groups inside it.
-/

namespace TableBinding.Reading

variable {V : Type} {r : Reading V} {g : Group V}

theorem spelling?_eq_some_iff {s : Spelling} :
    r.spelling? g = some s ↔
      getD r.text? g 0 "struct_keyword" ({} : Spelling).keyword = some s.keyword ∧
      getD r.text? g 1 "comment_marker" ({} : Spelling).comment = some s.comment ∧
      getD r.text? g 2 "delimiter" ({} : Spelling).delimiter = some s.delimiter ∧
      getD r.text? g 3 "table_name_marker" ({} : Spelling).tableMark = some s.tableMark ∧
      getD r.texts? g 4 "datatypes" ({} : Spelling).datatypes = some s.datatypes ∧
      getD r.text? g 5 "block_open" ({} : Spelling).blockOpen = some s.blockOpen ∧
      getD r.text? g 6 "block_end" ({} : Spelling).blockEnd = some s.blockEnd := by
  simp only [spelling?, Option.bind_eq_bind, Option.bind_eq_some_iff]
  constructor
  · rintro ⟨keyword, hkeyword, comment, hcomment, delimiter, hdelimiter, mark, hmark, datatypes,
      hdatatypes, opening, hopening, ending, hending, hs⟩
    obtain rfl := Option.some.inj hs
    exact ⟨hkeyword, hcomment, hdelimiter, hmark, hdatatypes, hopening, hending⟩
  · rintro ⟨hkeyword, hcomment, hdelimiter, hmark, hdatatypes, hopening, hending⟩
    exact ⟨_, hkeyword, _, hcomment, _, hdelimiter, _, hmark, _, hdatatypes, _, hopening, _,
      hending, rfl⟩

theorem layout?_eq_some_iff {l : Layout} :
    r.layout? g = some l ↔
      getD r.text? g 0 "indent" ({} : Layout).indent = some l.indent ∧
      getD r.text? g 1 "line_ending" ({} : Layout).lineEnding = some l.lineEnding ∧
      getD r.texts? g 2 "includes" ({} : Layout).includes = some l.includes := by
  simp only [layout?, Option.bind_eq_bind, Option.bind_eq_some_iff]
  constructor
  · rintro ⟨indent, hindent, lineEnding, hlineEnding, includes, hincludes, hl⟩
    obtain rfl := Option.some.inj hl
    exact ⟨hindent, hlineEnding, hincludes⟩
  · rintro ⟨hindent, hlineEnding, hincludes⟩
    exact ⟨_, hindent, _, hlineEnding, _, hincludes, rfl⟩

theorem settings?_eq_some_iff {s : Settings} :
    r.settings? g = some s ↔
      getD r.text? g 0 "input_file" ({} : Settings).input = some s.input ∧
      getD r.text? g 1 "output_file" ({} : Settings).output = some s.output ∧
      getD (fun v => (r.group? v).bind r.spelling?) g 2 "syntax" {} = some s.spelling ∧
      getD (fun v => (r.group? v).bind r.layout?) g 3 "output" {} = some s.layout ∧
      getD r.truth? g 4 "dry_run" false = some s.dryRun ∧
      getD r.optionalText? g 5 "log_level" none = some s.logLevel := by
  simp only [settings?, Option.bind_eq_bind, Option.bind_eq_some_iff]
  constructor
  · rintro ⟨input, hinput, output, houtput, spelling, hspelling, layout, hlayout, dryRun, hdryRun,
      logLevel, hlogLevel, hs⟩
    obtain rfl := Option.some.inj hs
    exact ⟨hinput, houtput, hspelling, hlayout, hdryRun, hlogLevel⟩
  · rintro ⟨hinput, houtput, hspelling, hlayout, hdryRun, hlogLevel⟩
    exact ⟨_, hinput, _, houtput, _, hspelling, _, hlayout, _, hdryRun, _, hlogLevel, rfl⟩

end TableBinding.Reading
