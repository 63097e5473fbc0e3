import TableBinding.Proofs.Annotation.Form
import TableBinding.Proofs.Text.Literal

/-!
# Reading code

The bodies of generated methods are read as far as it takes to see what they refer to. Code is cut
into names, signs and string literals (`Code.lexemes`), and these into phrases, at semicolons,
braces and closing parentheses. A phrase mentions a member where this stands behind its object, a
flag where that member is tested, decides or is set to a truth value, and a method of the same
object where a name is called that nothing in front qualifies (`Code.mentions`).

What is read in a text put together from pieces is what is read in the pieces one after the other
(`Reads.append`), and pieces that end a phrase each mention what they mention by themselves
(`Yields.append`). So what code mentions can be told line by line.
-/

namespace TableBinding.Code

open Text

/-! ## Lexemes -/

/-- A lexeme of code. -/
inductive Lexeme where
  /-- A longest run of letters, digits and underscores. -/
  | name (t : Text)
  | sign (c : Char)
  | literal
  deriving DecidableEq, Repr

/-- Where in the code a character stands. -/
inductive Mode where
  /-- Behind a run of letters, digits and underscores, which may be empty. -/
  | code (run : Text)
  /-- In a literal. -/
  | literal
  /-- In a literal, behind a backslash. -/
  | escaped

/-- The name that the run is, if it is not empty. -/
def Mode.pending : Mode → List Lexeme
  | .code run => if run.isEmpty then [] else [.name run]
  | _ => []

/-- The lexemes that a character completes, and where the next character stands. -/
def step : Mode → Char → List Lexeme × Mode
  | .code run, c =>
    if isIdentRest c then ([], .code (run ++ [c]))
    else if c = '"' then ((Mode.code run).pending ++ [.literal], .literal)
    else if isBlank c then ((Mode.code run).pending, .code [])
    else ((Mode.code run).pending ++ [.sign c], .code [])
  | .literal, c => ([], if c = '\\' then .escaped else if c = '"' then .code [] else .literal)
  | .escaped, _ => ([], .literal)

/-- The lexemes that the text completes, and where what follows it stands. -/
def run (mode : Mode) : Text → List Lexeme × Mode
  | [] => ([], mode)
  | c :: t =>
    let (ws, next) := step mode c
    let (vs, last) := run next t
    (ws ++ vs, last)

/-- The lexemes of a text. -/
def lexemes (t : Text) : List Lexeme :=
  let (ws, last) := run (.code []) t
  ws ++ last.pending

/-! ## Mentions -/

/-- Whether the lexeme ends a phrase. -/
def isEnd : Lexeme → Bool
  | .sign c => c == ';' || c == '\x7b' || c == '\x7d' || c == ')'
  | _ => false

/-- The phrases of the code: always one more than there are lexemes that end one. -/
def phrases : List Lexeme → List (List Lexeme)
  | [] => [[]]
  | w :: ws => if isEnd w then [] :: phrases ws else (phrases ws).modifyHead (w :: ·)

/-- What code refers to. -/
inductive Mention where
  /-- A member of an object of the class. -/
  | member (name : Text)
  /-- A member that is a truth value. -/
  | flag (name : Text)
  /-- A method of the class, called without an object. -/
  | call (name : Text)
  deriving DecidableEq, Repr

/-- Whether what stands before and behind a member makes it a truth value: it is tested, it decides
between two values, or it is set to one. What stands before comes with the last lexeme first. -/
def isTruth (before after : List Lexeme) : Bool :=
  [.sign '(', .name "if"].isPrefixOf before || [.sign '?'].isPrefixOf after ||
    [.sign '=', .name "false"].isPrefixOf after || [.sign '=', .name "flagValue"].isPrefixOf after

/-- Whether what stands before a name says whose it is. -/
def isQualified (before : List Lexeme) : Bool :=
  [.sign '.'].isPrefixOf before || [.sign '>', .sign '-'].isPrefixOf before ||
    [.sign ':', .sign ':'].isPrefixOf before

/-- What an access to a member mentions. -/
def accessed (before : List Lexeme) (member : Text) (after : List Lexeme) : List Mention :=
  .member member :: if isTruth before after then [.flag member] else []

/-- The words that stand in front of a parenthesis without being called. -/
def keywords : List Text := ["if", "while", "return"]

/-- What a name in front of a parenthesis mentions. -/
def called (before : List Lexeme) (method : Text) : List Mention :=
  if isQualified before ∨ method ∈ keywords then [] else [.call method]

/-- What is mentioned where the lexemes begin. -/
def mentionsAt (before : List Lexeme) : List Lexeme → List Mention
  | .name object :: .sign '-' :: .sign '>' :: .name member :: after =>
    if object = "this" then accessed before member after else []
  | .name object :: .sign '.' :: .name member :: after =>
    if object = "currData" ∨ object = "other" then accessed before member after else []
  | .name method :: .sign '(' :: _ => called before method
  | _ => []

/-- What a phrase mentions behind what stands before. -/
def scan : List Lexeme → List Lexeme → List Mention
  | _, [] => []
  | before, w :: ws => mentionsAt before (w :: ws) ++ scan (w :: before) ws

/-- What code mentions. -/
def mentions (ws : List Lexeme) : List Mention := (phrases ws).flatMap (scan [])

example : mentions (lexemes "if (this->w_a) \x7b sql = QObject::tr(\"this->b\"); \x7d get_c(1);") =
    [.member "w_a", .flag "w_a", .call "get_c"] := by
  decide +kernel

/-! ## Reading pieces -/

/-- The text, read there, gives the lexemes and leads there. -/
def Reads (mode : Mode) (t : Text) (ws : List Lexeme) (last : Mode) : Prop :=
  run mode t = (ws, last)

/-- The text begins with a character that ends a name. -/
def EndsName (t : Text) : Prop := t.head?.any (fun c => !isIdentRest c) = true

instance (t : Text) : Decidable (EndsName t) := inferInstanceAs (Decidable (_ = true))

/-- One or more letters, digits and underscores. -/
def IsName (t : Text) : Prop := t ≠ [] ∧ ∀ c ∈ t, isIdentRest c = true

instance (t : Text) : Decidable (IsName t) :=
  decidable_of_iff (t ≠ [] ∧ t.all isIdentRest = true) (and_congr_right' List.all_eq_true)

theorem IsName.append {front name : Text} (hfront : IsName front) (hname : IsName name) :
    IsName (front ++ name) :=
  ⟨List.append_ne_nil_of_left_ne_nil hfront.1 _, List.forall_mem_append.2 ⟨hfront.2, hname.2⟩⟩

theorem not_special_of_isIdentRest {c : Char} (h : isIdentRest c = true) :
    ¬(c = '\\' ∨ c = '"') := by
  rintro (rfl | rfl)
  · exact absurd h (by decide)
  · exact absurd h (by decide)

/-- A name can stand in quotes. -/
theorem isLiteralBody_of_isIdentRest {t : Text} (h : ∀ c ∈ t, isIdentRest c = true) :
    IsLiteralBody t := .of_plain fun c hc => not_special_of_isIdentRest (h c hc)

namespace Reads

variable {mode next last : Mode} {c : Char} {t u n : Text} {ws vs : List Lexeme}

theorem cons (hstep : step mode c = (ws, next)) (ht : Reads next t vs last) :
    Reads mode (c :: t) (ws ++ vs) last := by
  have hrun : run mode (c :: t) = ((step mode c).1 ++ (run (step mode c).2 t).1,
      (run (step mode c).2 t).2) := rfl
  rw [Reads, hrun, hstep]
  exact congrArg (fun r : List Lexeme × Mode => (ws ++ r.1, r.2)) ht

theorem of_cons (h : Reads mode (c :: t) ws last) :
    ∃ front back, ws = front ++ back ∧ step mode c = (front, (step mode c).2) ∧
      Reads (step mode c).2 t back last := by
  obtain ⟨rfl, rfl⟩ := Prod.mk.inj h
  exact ⟨_, _, rfl, rfl, rfl⟩

theorem append (ht : Reads mode t ws next) (hu : Reads next u vs last) :
    Reads mode (t ++ u) (ws ++ vs) last := by
  induction t generalizing mode ws with
  | nil =>
    obtain ⟨rfl, rfl⟩ := Prod.mk.inj ht
    exact hu
  | cons c t ih =>
    obtain ⟨front, back, rfl, hstep, hrest⟩ := of_cons ht
    rw [List.append_assoc]
    exact cons hstep (ih hrest)

/-- A name is not complete where it ends. -/
theorem name (hn : IsName n) : Reads (.code []) n [] (.code n) := by
  have hrun : ∀ (t front : Text), (∀ c ∈ t, isIdentRest c = true) →
      Reads (.code front) t [] (.code (front ++ t)) := by
    intro t
    induction t with
    | nil =>
      intro front _
      rw [List.append_nil]
      rfl
    | cons c t ih =>
      intro front ht
      rw [List.forall_mem_cons] at ht
      have hrest := ih (front ++ [c]) ht.2
      rw [List.append_assoc, List.singleton_append] at hrest
      have hstep : step (.code front) c = ([], .code (front ++ [c])) := if_pos ht.1
      exact cons hstep hrest
  exact hrun n [] hn.2

/-- What follows a name completes it. -/
theorem behind (hn : IsName n) (hu : EndsName u) (h : Reads (.code []) u ws last) :
    Reads (.code n) u (.name n :: ws) last := by
  cases u with
  | nil => cases hu
  | cons c u =>
    have hc : ¬ isIdentRest c = true := by
      have hnot : (!isIdentRest c) = true := hu
      rwa [Bool.not_eq_true', ← Bool.not_eq_true] at hnot
    have hpending : (Mode.code n).pending = [.name n] :=
      if_neg fun e => hn.1 (List.isEmpty_iff.1 e)
    have hnone : (Mode.code []).pending = [] := rfl
    have hstep : step (.code n) c = (.name n :: (step (.code []) c).1, (step (.code []) c).2) := by
      simp only [step, if_neg hc, hpending, hnone]
      split
      · rfl
      · split
        · rfl
        · rfl
    obtain ⟨front, back, rfl, hfront, hrest⟩ := of_cons h
    rw [hfront] at hstep
    exact cons hstep hrest

/-- The body of a literal stays in the literal. -/
theorem body (ht : IsLiteralBody t) : Reads .literal t [] .literal := by
  induction ht with
  | nil => rfl
  | @plain c t hc _ ih =>
    rw [not_or] at hc
    have hstep : step .literal c = ([], .literal) := by
      simp only [step, if_neg hc.1, if_neg hc.2]
    exact cons hstep ih
  | @escaped c t _ ih => exact cons rfl (cons rfl ih)

/-- Text that can be read by itself. -/
theorem fixed (mode : Mode) (t : Text) : Reads mode t (run mode t).1 (run mode t).2 := rfl

end Reads

/-! ## Blanks -/

/-- Nothing is open there but a literal. -/
def Mode.IsSettled (mode : Mode) : Prop := mode = .code [] ∨ mode = .literal

theorem step_literal_of_blank {c : Char} (hc : isBlank c = true) :
    step .literal c = ([], .literal) := by
  have hbackslash : c ≠ '\\' := fun e => absurd (e ▸ hc) (by decide)
  have hquote : c ≠ '"' := fun e => absurd (e ▸ hc) (by decide)
  simp only [step, if_neg hbackslash, if_neg hquote]

theorem step_code_of_blank {c : Char} (hc : isBlank c = true) (front : Text) :
    step (.code front) c = ((Mode.code front).pending, .code []) := by
  have hname : ¬ isIdentRest c = true := by
    intro hname
    have hno := isBlank_eq_false_of_isTypeChar (isTypeChar_of_isIdentRest hname)
    rw [hc] at hno
    cases hno
  have hquote : c ≠ '"' := fun e => absurd (e ▸ hc) (by decide)
  simp only [step, if_neg hname, if_neg hquote, if_pos hc]

namespace Reads

variable {mode : Mode} {t : Text}

/-- Where nothing is open but a literal, blanks are passed over. -/
theorem blanks (hmode : mode.IsSettled) (ht : ∀ c ∈ t, isBlank c = true) :
    Reads mode t [] mode := by
  induction t with
  | nil => rfl
  | cons c t ih =>
    rw [List.forall_mem_cons] at ht
    rcases hmode with rfl | rfl
    · exact cons (step_code_of_blank ht.1 []) (ih ht.2)
    · exact cons (step_literal_of_blank ht.1) (ih ht.2)

/-- One blank or more are read as a line feed is, and leave nothing open but a literal. -/
theorem exists_ending (mode : Mode) : ∃ ws next, next.IsSettled ∧
    ∀ t, t ≠ [] → (∀ c ∈ t, isBlank c = true) → Reads mode t ws next := by
  have hcut : ∀ {ws next}, next.IsSettled → (∀ c, isBlank c = true → step mode c = (ws, next)) →
      ∀ t, t ≠ [] → (∀ c ∈ t, isBlank c = true) → Reads mode t (ws ++ []) next := by
    intro ws next hnext hstep t hne ht
    obtain ⟨c, t, rfl⟩ := List.exists_cons_of_ne_nil hne
    rw [List.forall_mem_cons] at ht
    exact cons (hstep c ht.1) (blanks hnext ht.2)
  cases mode with
  | code front => exact ⟨_, _, .inl rfl, hcut (.inl rfl) fun c hc => step_code_of_blank hc front⟩
  | literal => exact ⟨_, _, .inr rfl, hcut (.inr rfl) fun c hc => step_literal_of_blank hc⟩
  | escaped => exact ⟨_, _, .inr rfl, hcut (.inr rfl) fun c _ => rfl⟩

end Reads

/-! ## Phrases -/

/-- Behind the lexemes a phrase begins. -/
def Ended (ws : List Lexeme) : Prop := ws.getLast?.all isEnd = true

theorem phrases_ne_nil (ws : List Lexeme) : phrases ws ≠ [] := by
  induction ws with
  | nil => exact List.cons_ne_nil _ _
  | cons w ws ih =>
    rw [phrases]
    split
    · exact List.cons_ne_nil _ _
    · obtain ⟨first, others, h⟩ := List.exists_cons_of_ne_nil ih
      rw [h]
      exact List.cons_ne_nil _ _

theorem phrases_append {e : Lexeme} (he : isEnd e = true) (ws vs : List Lexeme) :
    phrases (ws ++ e :: vs) = phrases ws ++ phrases vs := by
  induction ws with
  | nil => exact if_pos he
  | cons w ws ih =>
    rw [List.cons_append, phrases, phrases, ih]
    split
    · rfl
    · obtain ⟨first, others, h⟩ := List.exists_cons_of_ne_nil (phrases_ne_nil ws)
      rw [h]
      rfl

/-- **Where a phrase begins, nothing from before is looked at.** -/
theorem mentions_append {ws : List Lexeme} (h : Ended ws) (vs : List Lexeme) :
    mentions (ws ++ vs) = mentions ws ++ mentions vs := by
  rcases List.eq_nil_or_concat ws with rfl | ⟨front, e, rfl⟩
  · rfl
  · have he : isEnd e = true := by
      rw [List.concat_eq_append, Ended, List.getLast?_concat] at h
      exact h
    rw [List.concat_eq_append, List.append_assoc, List.singleton_append, mentions,
      phrases_append he, mentions, phrases_append he, mentions, List.flatMap_append,
      List.flatMap_append]
    -- Behind `e` the first part has one phrase more, but nothing stands in it.
    exact congrArg (· ++ _) (List.append_nil _).symm

theorem mem_of_mem_phrases {ws phrase : List Lexeme} (h : phrase ∈ phrases ws) {w : Lexeme}
    (hw : w ∈ phrase) : w ∈ ws := by
  induction ws generalizing phrase with
  | nil =>
    obtain rfl := List.mem_singleton.1 h
    cases hw
  | cons v ws ih =>
    rw [phrases] at h
    split at h
    · rcases List.mem_cons.1 h with rfl | h
      · cases hw
      · exact List.mem_cons_of_mem _ (ih h hw)
    · obtain ⟨first, others, hphrases⟩ := List.exists_cons_of_ne_nil (phrases_ne_nil ws)
      rw [hphrases] at h ih
      rcases List.mem_cons.1 h with rfl | h
      · rcases List.mem_cons.1 hw with rfl | hw
        · exact List.mem_cons_self ..
        · exact List.mem_cons_of_mem _ (ih (List.mem_cons_self ..) hw)
      · exact List.mem_cons_of_mem _ (ih (List.mem_cons_of_mem _ h) hw)

/-- The signs behind an object, and behind a method that is called. -/
def accessSigns : List Lexeme := [.sign '-', .sign '.', .sign '(']

theorem mentionsAt_eq_nil {ws : List Lexeme} (h : ∀ w ∈ ws, w ∉ accessSigns)
    (before : List Lexeme) : mentionsAt before ws = [] := by
  unfold mentionsAt
  split
  · exact absurd (by decide) (h (.sign '-') (by simp))
  · exact absurd (by decide) (h (.sign '.') (by simp))
  · exact absurd (by decide) (h (.sign '(') (by simp))
  · rfl

/-- Code in which nothing is accessed and nothing called mentions nothing. -/
theorem mentions_eq_nil {ws : List Lexeme} (h : ∀ w ∈ ws, w ∉ accessSigns) : mentions ws = [] := by
  have hscan : ∀ phrase before : List Lexeme, (∀ w ∈ phrase, w ∉ accessSigns) →
      scan before phrase = [] := by
    intro phrase
    induction phrase with
    | nil => exact fun _ _ => rfl
    | cons w phrase ih =>
      intro before hphrase
      rw [scan, mentionsAt_eq_nil hphrase, ih _ fun v hv => hphrase v (List.mem_cons_of_mem _ hv)]
      rfl
  refine List.flatMap_eq_nil_iff.2 ?_
  intro phrase hphrase
  exact hscan phrase [] fun w hw => h w (mem_of_mem_phrases hphrase hw)

theorem called_eq {before : List Lexeme} {method : Text} (hbefore : isQualified before = false)
    (hmethod : method ∉ keywords) : called before method = [.call method] := by
  refine if_neg fun h => ?_
  rcases h with h | h
  · rw [hbefore] at h
    cases h
  · exact hmethod h

/-- The characters of a list of types and names. -/
def isQuiet (c : Char) : Bool := isIdentRest c || isBlank c || c == ',' || c == ':'

theorem pending_quiet (front : Text) : ∀ w ∈ (Mode.code front).pending, w ∉ accessSigns := by
  simp only [Mode.pending]
  split
  · exact fun w hw => absurd hw List.not_mem_nil
  · intro w hw
    cases List.mem_singleton.1 hw
    simp [accessSigns]

/-- A quiet character leads to nothing that is accessed or called. -/
theorem step_quiet {c : Char} (hc : isQuiet c = true) (front : Text) :
    ∃ ws next, step (.code front) c = (ws, .code next) ∧ ∀ w ∈ ws, w ∉ accessSigns := by
  have hpending := pending_quiet front
  have hquote : c ≠ '"' := fun e => absurd (e ▸ hc) (by decide)
  by_cases hname : isIdentRest c = true
  · exact ⟨[], front ++ [c], if_pos hname, fun w hw => absurd hw List.not_mem_nil⟩
  by_cases hblank : isBlank c = true
  · refine ⟨(Mode.code front).pending, [], ?_, hpending⟩
    simp only [step, if_neg hname, if_neg hquote, if_pos hblank]
  refine ⟨(Mode.code front).pending ++ [.sign c], [], ?_, ?_⟩
  · simp only [step, if_neg hname, if_neg hquote, if_neg hblank]
  · intro w hw
    rcases List.mem_append.1 hw with hw | hw
    · exact hpending w hw
    · cases List.mem_singleton.1 hw
      intro hmem
      have hsigns : c = '-' ∨ c = '.' ∨ c = '(' := by simpa [accessSigns] using hmem
      rcases hsigns with rfl | rfl | rfl
      · exact absurd hc (by decide)
      · exact absurd hc (by decide)
      · exact absurd hc (by decide)

theorem exists_reads_of_quiet {t : Text} (ht : ∀ c ∈ t, isQuiet c = true) (front : Text) :
    ∃ ws back, Reads (.code front) t ws (.code back) ∧ ∀ w ∈ ws, w ∉ accessSigns := by
  induction t generalizing front with
  | nil => exact ⟨[], front, rfl, fun w hw => absurd hw List.not_mem_nil⟩
  | cons c t ih =>
    rw [List.forall_mem_cons] at ht
    obtain ⟨ws, next, hstep, hws⟩ := step_quiet ht.1 front
    obtain ⟨vs, back, hreads, hvs⟩ := ih ht.2 next
    exact ⟨ws ++ vs, back, .cons hstep hreads, List.forall_mem_append.2 ⟨hws, hvs⟩⟩

/-! ## Code put together from phrases -/

/-- The text ends a phrase, and this is what it mentions. -/
def Yields (t : Text) (xs : List Mention) : Prop :=
  ∃ ws, Reads (.code []) t ws (.code []) ∧ Ended ws ∧ mentions ws = xs

namespace Yields

variable {t u : Text} {xs ys : List Mention}

theorem mentions_eq (h : Yields t xs) : mentions (lexemes t) = xs := by
  obtain ⟨ws, hreads, -, hmentions⟩ := h
  have hlexemes : lexemes t = ws ++ [] := by
    rw [lexemes, hreads]
    rfl
  rwa [hlexemes, List.append_nil]

/-- Text without open names is read by computing. -/
theorem fixed (hlast : (run (.code []) t).2 = .code []) (hended : Ended (run (.code []) t).1)
    (h : mentions (run (.code []) t).1 = xs) : Yields t xs := ⟨_, Prod.ext rfl hlast, hended, h⟩

theorem nil : Yields [] [] := .fixed rfl rfl rfl

theorem append (ht : Yields t xs) (hu : Yields u ys) : Yields (t ++ u) (xs ++ ys) := by
  obtain ⟨ws, hws, hended, rfl⟩ := ht
  obtain ⟨vs, hvs, hended', rfl⟩ := hu
  refine ⟨ws ++ vs, hws.append hvs, ?_, mentions_append hended vs⟩
  unfold Ended at hended hended' ⊢
  rw [List.getLast?_append]
  cases h : vs.getLast? with
  | none => exact hended
  | some e =>
    rw [h] at hended'
    exact hended'

section
variable {α : Type} {pieces : List α} {text : α → Text} {named : α → List Mention}

theorem flatMap (h : ∀ a ∈ pieces, Yields (text a) (named a)) :
    Yields (pieces.flatMap text) (pieces.flatMap named) := by
  induction pieces with
  | nil => exact nil
  | cons a pieces ih =>
    rw [List.forall_mem_cons] at h
    exact h.1.append (ih h.2)

/-- Between texts that end a phrase, a separator may begin the next. -/
theorem join {front separator : Text} (hfirst : ∀ a ∈ pieces, Yields (front ++ text a) (named a))
    (h : ∀ a ∈ pieces, Yields (separator ++ text a) (named a)) (hpieces : pieces ≠ []) :
    Yields (front ++ Text.join separator (pieces.map text)) (pieces.flatMap named) := by
  induction pieces generalizing front with
  | nil => exact absurd rfl hpieces
  | cons a rest ih =>
    rw [List.forall_mem_cons] at hfirst h
    cases rest with
    | nil =>
      rw [List.flatMap_singleton]
      exact hfirst.1
    | cons b rest =>
      have hcut : front ++ Text.join separator ((a :: b :: rest).map text) =
          (front ++ text a) ++ (separator ++ Text.join separator ((b :: rest).map text)) := by
        simp only [List.map_cons, Text.join, List.append_assoc]
      rw [hcut, List.flatMap_cons]
      exact hfirst.1.append (ih h.2 h.2 (List.cons_ne_nil _ _))

end

/-- A declaration mentions nothing. -/
theorem quiet (ht : ∀ c ∈ t, isQuiet c = true) : Yields (t ++ [';']) [] := by
  obtain ⟨ws, back, hreads, hws⟩ := exists_reads_of_quiet ht []
  have hend : Reads (.code back) [';'] ((Mode.code back).pending ++ [.sign ';'] ++ []) (.code []) :=
    .cons rfl rfl
  rw [List.append_nil] at hend
  refine ⟨_, hreads.append hend, ?_, mentions_eq_nil ?_⟩
  · rw [← List.append_assoc, Ended, List.getLast?_concat]
    rfl
  · refine List.forall_mem_append.2 ⟨hws, List.forall_mem_append.2 ⟨pending_quiet back, ?_⟩⟩
    decide

end Yields

end TableBinding.Code
