import FeatureLexer.Proofs.Lexer.Prediction

/-!
# Which rule it is

`Lexer.ruleFor` names the rule that reads the next lexeme: it looks at the next
character, at the line so far and, at the start of a line, once at how the line
opens. No rule is tried for it. Running the rule that it names is what trying
all rules in their order comes to, from every state of the lexer, and both come
to the reading that is predicted.

The rules are tried in their order all the same, and `Lexer.ComesTo` says how
far: a rule is come to where all patterns before it are refused. Where the
rule for titles is come to, the newline and the placeholder have been refused,
so that a title is not empty; where the rule for the text of a step is come to,
all symbols have been refused too. The last rule, which skips a character, is
come to on an idle line alone.
-/

namespace FeatureLexer

open Text

namespace Lexer

/-- The rule for the start of a line, from the character `c` on. -/
def lineStartRule (lexer : Lexer) (c : Char) : Rule :=
  if isSpace c then .indentation
  else
    match lexer.lineOpening with
    | .block _ _ => .blockKeyword
    | .step _ _ => .stepKeyword
    | .unknown => .description

/-- The rule for the next lexeme, which begins with the character `c`. -/
def ruleFor (lexer : Lexer) (c : Char) : Rule :=
  if c = '\n' then .newline
  else if c = '#' then .comment
  else if c = '@' then .tag
  else if c = '|' then .cell
  else if lexer.line.atStart then lexer.lineStartRule c
  else if c = '<' then .placeholder
  else if lexer.line.block.isSome then .title
  else if c = '"' then .quoted
  else if isDigit c then .integer
  else if lexer.line.keyword.isSome then .stepText
  else .skip

end Lexer

/-- A rule and a reading that are chosen by the same condition. -/
theorem Rule.run_ite {lexer : Lexer} {applies : Prop} [Decidable applies] {first others : Rule}
    {reading otherwise : Reading} (hfirst : applies → first.run lexer = lexer.accept reading)
    (hothers : ¬applies → others.run lexer = lexer.accept otherwise) :
    (if applies then first else others).run lexer =
      lexer.accept (if applies then reading else otherwise) := by
  by_cases h : applies
  · rw [if_pos h, if_pos h, hfirst h]
  · rw [if_neg h, if_neg h, hothers h]

namespace Lexer

open Pattern

variable {lexer : Lexer} {c : Char} {s : List Char}

theorem lineStartRule_run (hstart : lexer.line.atStart = true) (h : lexer.rest = c :: s) :
    (lexer.lineStartRule c).run lexer =
      lexer.accept (.lineStart lexer.language lexer.line c s) := by
  refine Rule.run_ite (fun hspace => indentation_run hstart h hspace) fun _ => ?_
  have hlookup : lexer.language.openingOf (lineUntil (· == ':') (c :: s)) = lexer.lineOpening := by
    rw [← h]
    rfl
  cases hopening : lexer.lineOpening with
  | block block spelling =>
    rw [hlookup, hopening, ← h]
    exact blockKeyword_run hstart hopening
  | step keyword spelling =>
    rw [hlookup, hopening, ← h]
    exact stepKeyword_run hstart hopening
  | unknown =>
    rw [hlookup, hopening, ← h]
    exact description_run hstart

/-- **The rule that is named reads the predicted lexeme.** -/
theorem ruleFor_run (h : lexer.rest = c :: s) :
    (lexer.ruleFor c).run lexer =
      lexer.accept (.next lexer.language lexer.line (c :: s)) := by
  refine Rule.run_ite ?_ fun hnewline => ?_
  · rintro rfl
    exact newline_run h
  refine Rule.run_ite ?_ fun _ => ?_
  · rintro rfl
    exact comment_run h
  refine Rule.run_ite ?_ fun _ => ?_
  · rintro rfl
    exact tag_run h
  refine Rule.run_ite ?_ fun _ => ?_
  · rintro rfl
    exact cell_run h
  refine Rule.run_ite (fun hstart => lineStartRule_run hstart h) fun _ => ?_
  refine Rule.run_ite ?_ fun hopen => ?_
  · rintro rfl
    exact placeholder_run h
  refine Rule.run_ite (fun hblock => title_run_of_ne h hnewline hopen hblock) fun _ => ?_
  refine Rule.run_ite ?_ fun hquote => ?_
  · rintro rfl
    exact quoted_run h
  refine Rule.run_ite (fun hdigit => integer_run_of_isDigit h hnewline hdigit) fun hdigit => ?_
  have hsymbol : isSymbol c = false := by simp [isSymbol, hquote, hopen, hdigit]
  exact Rule.run_ite (fun hkeyword => stepText_run_of_not_isSymbol h hnewline hsymbol hkeyword)
    fun _ => skip_run c

theorem rest_ne_nil_of_pos_lt (h : lexer.pos < lexer.cursor.text.length) : lexer.rest ≠ [] := by
  have hrest : lexer.rest = lexer.cursor.text.drop lexer.pos := lexer.cursor.rest_eq
  rw [hrest, Ne, List.drop_eq_nil_iff]
  omega

end Lexer

open Lexer Pattern

/-- **Trying the rules is choosing by the next character.** From every state of
the lexer before the end of the text, in every language, the rules that are
tried in their order come to the same tokens, the same state and the same
ending as the one rule that the next character, the line so far and the opening
of the line name; that rule is not refused. Both are the taking over of the
predicted reading, in which no rule is tried and the opening of the line is
looked up once. -/
theorem trying_rules_chooses_by_next_character (lexer : Lexer)
    (h : lexer.pos < lexer.cursor.text.length) :
    ∃ c s, lexer.rest = c :: s ∧
      nextLexeme.run lexer = (lexer.ruleFor c).run lexer ∧
      nextLexeme.run lexer = lexer.accept (.next lexer.language lexer.line (c :: s)) ∧
      ∀ why, ((lexer.ruleFor c).run lexer).ending ≠ .refused why := by
  have hne := rest_ne_nil_of_pos_lt h
  obtain ⟨c, s, hrest⟩ := List.exists_cons_of_ne_nil hne
  have hrule := ruleFor_run hrest
  have hpredicted := nextLexeme_run hne
  rw [hrest] at hpredicted
  refine ⟨c, s, hrest, ?_, hpredicted, fun why => ?_⟩
  · rw [hrule, hpredicted]
  · rw [hrule]
    exact lexer.accept_ending_ne_refused _ why

/-- The theorem at work in a state that no text leads to: a block and a step
have been opened on one line, and the lexer stands on a quote. -/
theorem trying_rules_chooses_by_next_character_title :
    let lexer := { fresh "<>\"x".toList .unnamed (.ofDialect .english) with
      cursor := (Cursor.ofText "<>\"x".toList).seek 2
      line := ⟨false, some .unknown, some .givenStep⟩ }
    lexer.ruleFor '"' = .title ∧ nextLexeme.run lexer = Rule.title.run lexer := by
  intro lexer
  obtain ⟨c, s, hrest, hrun, _⟩ := trying_rules_chooses_by_next_character lexer (by decide)
  obtain ⟨rfl, rfl⟩ := List.cons.inj (hrest.symm.trans (rfl : lexer.rest = ['"', 'x']))
  exact ⟨rfl, hrun⟩

/-! ### How far the trying goes -/

namespace Pattern

/-- Whether a pattern is a rule by itself. -/
def isRule (rule : Rule) : Pattern → Bool
  | .rule r => r == rule
  | _ => false

/-- The patterns of a choice that are tried before a rule of it. -/
def triedBefore (rule : Rule) : Pattern → List Pattern
  | .choice patterns => patterns.takeWhile (!·.isRule rule)
  | _ => []

@[simp] theorem lexeme_triedBefore_title :
    lexeme.triedBefore .title =
      [.rule .newline, .rule .comment, .rule .tag, .rule .cell, lineStart, .rule .placeholder] :=
  rfl

@[simp] theorem lexeme_triedBefore_stepText :
    lexeme.triedBefore .stepText =
      lexeme.triedBefore .title ++ [.rule .title, .rule .quoted, .rule .integer] :=
  rfl

@[simp] theorem lexeme_triedBefore_skip :
    lexeme.triedBefore .skip = lexeme.triedBefore .stepText ++ [.rule .stepText] :=
  rfl

end Pattern

namespace Lexer

/-- Whether the choice between all lexemes comes to a rule: all patterns before
it are refused. -/
def ComesTo (lexer : Lexer) (rule : Rule) : Prop :=
  ∀ pattern ∈ lexeme.triedBefore rule, ∃ why, (pattern.run lexer).ending = .refused why

namespace ComesTo

variable {lexer : Lexer} {rule : Rule} {c : Char} {s : List Char}

theorem ne_accept (h : lexer.ComesTo rule) (pattern : Pattern)
    (hmem : pattern ∈ lexeme.triedBefore rule) (reading : Reading) :
    pattern.run lexer ≠ lexer.accept reading := by
  intro haccept
  obtain ⟨why, hrefused⟩ := h pattern hmem
  rw [haccept] at hrefused
  exact lexer.accept_ending_ne_refused reading why hrefused

theorem ne_newline (h : lexer.ComesTo rule) (hrest : lexer.rest = c :: s)
    (hmem : .rule .newline ∈ lexeme.triedBefore rule) : c ≠ '\n' := by
  rintro rfl
  exact h.ne_accept _ hmem _ (newline_run hrest)

theorem ne_bracket (h : lexer.ComesTo rule) (hrest : lexer.rest = c :: s)
    (hmem : .rule .placeholder ∈ lexeme.triedBefore rule) : c ≠ '<' := by
  rintro rfl
  exact h.ne_accept _ hmem _ (placeholder_run hrest)

theorem isSymbol_eq_false (h : lexer.ComesTo rule) (hrest : lexer.rest = c :: s)
    (hnewline : .rule .newline ∈ lexeme.triedBefore rule)
    (hplaceholder : .rule .placeholder ∈ lexeme.triedBefore rule)
    (hquoted : .rule .quoted ∈ lexeme.triedBefore rule)
    (hinteger : .rule .integer ∈ lexeme.triedBefore rule) : isSymbol c = false := by
  have hquote : c ≠ '"' := by
    rintro rfl
    exact h.ne_accept _ hquoted _ (quoted_run hrest)
  have hdigit : isDigit c ≠ true := fun hdigit =>
    h.ne_accept _ hinteger _ (integer_run_of_isDigit hrest (h.ne_newline hrest hnewline) hdigit)
  simp [isSymbol, hquote, h.ne_bracket hrest hplaceholder, hdigit]

/-- **No title is empty** where the rule for titles is come to. -/
theorem title_eq (h : lexer.ComesTo .title) (hrest : lexer.rest = c :: s) :
    lexer.title = .refuse (.titleBlock lexer.pos) lexer ∨
      ∃ text next, text ≠ [] ∧ lexer.title = .give (.title text) next := by
  have hnewline := h.ne_newline hrest (by simp)
  have hopen := h.ne_bracket hrest (by simp)
  by_cases hblock : lexer.line.block.isSome = true
  · right
    refine ⟨_, _, ?_, title_run_of_ne hrest hnewline hopen hblock⟩
    rw [lineUntil_cons_of_passes hnewline (by simpa using hopen)]
    exact List.cons_ne_nil _ _
  · left
    exact title_of_none hblock

/-- **No text of a step is empty** where the rule for it is come to. -/
theorem stepText_eq (h : lexer.ComesTo .stepText) (hrest : lexer.rest = c :: s) :
    lexer.stepText = .refuse (.stepTextKeyword lexer.pos) lexer ∨
      ∃ text next, text ≠ [] ∧ lexer.stepText = .give (.stepText text) next := by
  have hnewline := h.ne_newline hrest (by simp)
  have hsymbol : isSymbol c = false := by
    apply h.isSymbol_eq_false hrest <;> simp
  by_cases hkeyword : lexer.line.keyword.isSome = true
  · right
    refine ⟨_, _, ?_, stepText_run_of_not_isSymbol hrest hnewline hsymbol hkeyword⟩
    rw [lineUntil_cons_of_passes hnewline hsymbol]
    exact List.cons_ne_nil _ _
  · left
    exact stepText_of_none hkeyword

/-- **Only an idle line is skipped on,** and not its newline. -/
theorem idle_of_skip (h : lexer.ComesTo .skip) (hrest : lexer.rest = c :: s) :
    lexer.line.Idle ∧ c ≠ '\n' := by
  have hnewline := h.ne_newline hrest (by simp)
  have hopen := h.ne_bracket hrest (by simp)
  have hsymbol : isSymbol c = false := by
    apply h.isSymbol_eq_false hrest <;> simp
  have hstart : lexer.line.atStart ≠ true := fun hstart =>
    h.ne_accept lineStart (by simp) _ (lineStart_run hstart hrest)
  have hblock : lexer.line.block.isSome ≠ true := fun hblock =>
    h.ne_accept (.rule .title) (by simp) _
      (title_run_of_ne hrest hnewline hopen hblock)
  have hkeyword : lexer.line.keyword.isSome ≠ true := fun hkeyword =>
    h.ne_accept (.rule .stepText) (by simp) _
      (stepText_run_of_not_isSymbol hrest hnewline hsymbol hkeyword)
  exact ⟨⟨by simpa using hstart, by simpa using hblock, by simpa using hkeyword⟩, hnewline⟩

end ComesTo
end Lexer
end FeatureLexer
