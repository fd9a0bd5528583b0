import FeatureLexer.Proofs.Session.Draws
import FeatureLexer.Proofs.Session.Warnings

/-!
# A line opens a block or a step, never both

Titles belong to blocks and the text of a step to steps, and which of the two is
looked for depends on the line state alone. That the state cannot say both holds
whatever is asked of a session: any rule may be run at any place of the text,
the lexer may be moved in the middle of a line, and every request may fail.

The reason is that no rule looks at the text to decide what becomes of the line.
A rule leaves the line as it is, begins a new one, or opens the line, and it
opens the line only at its start (`LineState.Moves`). At its start a line has
neither a block nor a step, and what opens it sets one of them at most; so the
line state stays consistent (`LineState.Consistent`). Everything else that a
session does leaves the line alone or begins a new one.
-/

namespace FeatureLexer

namespace LineState

/-- Whether a line state makes sense: a line at its start has neither a block nor
a step, no line has both, and what is kept as a block is one. -/
structure Consistent (line : LineState) : Prop where
  atStart : line.atStart = true → line.block = none ∧ line.keyword = none
  exclusive : ¬(line.block.isSome = true ∧ line.keyword.isSome = true)
  block : ∀ kind, line.block = some kind → kind ∈ LineKind.blockKinds

/-- What a rule can make of a line. -/
inductive Moves (line : LineState) : LineState → Prop where
  | stays : Moves line line
  | begins : Moves line .start
  | opensBlock (hstart : line.atStart = true) (block : Block) :
      Moves line { line with atStart := false, block := some (.block block) }
  | opensStep (hstart : line.atStart = true) (keyword : StepKeyword) :
      Moves line { line with atStart := false, keyword := some keyword }
  | describes (hstart : line.atStart = true) : Moves line { line with atStart := false }

theorem consistent_start : LineState.start.Consistent where
  atStart _ := ⟨rfl, rfl⟩
  exclusive h := Bool.false_ne_true h.1
  block _ h := absurd h.symm (Option.some_ne_none _)

/-- **No move breaks a line.** -/
theorem Moves.consistent {line next : LineState} (h : line.Moves next) (hline : line.Consistent) :
    next.Consistent := by
  cases h with
  | stays => exact hline
  | begins => exact consistent_start
  | opensBlock hstart block =>
    obtain ⟨_, hkeyword⟩ := hline.atStart hstart
    refine ⟨fun h => absurd h Bool.false_ne_true, ?_, ?_⟩
    · rintro ⟨_, hsome⟩
      rw [hkeyword] at hsome
      exact Bool.false_ne_true hsome
    · intro kind hkind
      obtain rfl := Option.some.inj hkind
      exact (LineKind.opensBlock_iff _).1 rfl
  | opensStep hstart keyword =>
    obtain ⟨hblock, _⟩ := hline.atStart hstart
    refine ⟨fun h => absurd h Bool.false_ne_true, ?_, hline.block⟩
    rintro ⟨hsome, _⟩
    rw [hblock] at hsome
    exact Bool.false_ne_true hsome
  | describes => exact ⟨fun h => absurd h Bool.false_ne_true, hline.exclusive, hline.block⟩

end LineState

open LineState

namespace Lexer

/-! ### Across every rule -/

theorem expecting_moves (lexer : Lexer) (c : Char) {read : List Char → Run}
    (h : ∀ s, lexer.line.Moves (read s).lexer.line) :
    lexer.line.Moves (lexer.expecting c read).lexer.line := by
  rw [expecting]
  split
  · exact .stays
  · split
    · exact h _
    · exact .stays

theorem expectingLineStart_moves (lexer : Lexer) {read : Unit → Run}
    (h : lexer.line.atStart = true → lexer.line.Moves (read ()).lexer.line) :
    lexer.line.Moves (lexer.expectingLineStart read).lexer.line := by
  rw [expectingLineStart]
  split
  next hstart => exact h hstart
  next => exact .stays

/-- A change of language leaves the line alone. -/
theorem adoptLanguage_line {lexer next : Lexer} {name : Option (List Char)}
    (h : lexer.adoptLanguage name = .ok next) : next.line = lexer.line := by
  rw [adoptLanguage] at h
  split at h
  · obtain rfl := Except.ok.inj h
    rfl
  · exact (note_standsAt h).line

/-- A comment begins a line, whether or not its directive can take effect. -/
theorem comment_moves (lexer : Lexer) : lexer.line.Moves lexer.comment.lexer.line := by
  refine lexer.expecting_moves '#' fun s => ?_
  dsimp only
  split
  next name _ =>
    generalize hnext : (lexer.advance ((Text.lineUntil Text.never s).length + 2)).beginLine = next
    have hline : next.line = .start := by
      rw [← hnext]
      rfl
    cases hchange : next.adoptLanguage (some name) with
    | ok changed =>
      have hchanged : changed.line = .start := (adoptLanguage_line hchange).trans hline
      show lexer.line.Moves changed.line
      rw [hchanged]
      exact .begins
    | error error =>
      show lexer.line.Moves next.line
      rw [hline]
      exact .begins
  next => exact .begins

/-- **What a rule makes of the line,** wherever it is run and however it ends. -/
theorem rule_moves (rule : Rule) (lexer : Lexer) :
    lexer.line.Moves (rule.run lexer).lexer.line := by
  cases rule with
  | newline => exact lexer.expecting_moves '\n' fun _ => .begins
  | comment => exact lexer.comment_moves
  | tag => exact lexer.expecting_moves '@' fun _ => .stays
  | cell =>
    refine lexer.expecting_moves '|' fun s => ?_
    dsimp only
    split <;> exact .stays
  | indentation =>
    refine lexer.expectingLineStart_moves fun _ => ?_
    split <;> exact .stays
  | blockKeyword =>
    refine lexer.expectingLineStart_moves fun hstart => ?_
    split
    · exact .opensBlock hstart _
    · exact .stays
  | stepKeyword =>
    refine lexer.expectingLineStart_moves fun hstart => ?_
    split
    · exact .opensStep hstart _
    · exact .stays
  | description => exact lexer.expectingLineStart_moves fun hstart => .describes hstart
  | placeholder => exact lexer.expecting_moves '<' fun _ => .stays
  | title =>
    rw [Rule.run, title]
    split
    · exact .stays
    · split <;> exact .stays
  | quoted => exact lexer.expecting_moves '"' fun _ => .stays
  | integer =>
    rw [Rule.run, integer]
    split <;> exact .stays
  | stepText =>
    rw [Rule.run, stepText]
    split
    · exact .stays
    · split <;> exact .stays
  | skip => exact .stays
  | endOfText =>
    rw [Rule.run, endOfText]
    split <;> exact .stays

/-- **Whatever is run, a consistent line stays so.** -/
theorem consistent_acrossRules :
    AcrossRules fun lexer next => lexer.line.Consistent → next.line.Consistent where
  refl _ := id
  trans h h' := h' ∘ h
  rule rule lexer := (rule_moves rule lexer).consistent

end Lexer

namespace Session

/-! ### Across every step -/

variable {session : Session} (h : session.lexer.line.Consistent)
include h

theorem draw_consistent : session.draw.2.lexer.line.Consistent := by
  rw [draw]
  split
  · exact h
  · have hmoved := Lexer.consistent_acrossRules.untilToken
      (Lexer.consistent_acrossRules.run Pattern.nextLexeme) session.lexer h
    dsimp only
    split
    · rw [(giveOut_standsAt _ _).1.line]
      exact hmoved
    · rw [(conclude_standsAt _).1.line]
      exact hmoved
    · exact hmoved
    · exact hmoved

theorem take_consistent (n : Nat) : (session.take n).2.lexer.line.Consistent := by
  induction n generalizing session with
  | zero => exact h
  | succ n ih =>
    have hdraw := draw_consistent h
    rw [take]
    split
    next hdrawn =>
      rw [hdrawn] at hdraw
      exact hdraw
    next hdrawn =>
      rw [hdrawn] at hdraw
      exact hdraw
    next after hdrawn =>
      rw [hdrawn] at hdraw
      exact ih hdraw

theorem runPattern_consistent (pattern : Pattern) :
    (session.runPattern pattern).2.lexer.line.Consistent := by
  have hmoved := Lexer.consistent_acrossRules.run pattern session.lexer h
  rw [runPattern]
  split
  · exact hmoved
  · exact hmoved
  · exact hmoved
  · exact hmoved

theorem change_consistent {outcome : Except LocatorError Lexer}
    (houtcome : ∀ next, outcome = .ok next → next.line = session.lexer.line) :
    (session.change outcome).2.lexer.line.Consistent := by
  cases outcome with
  | ok next =>
    show next.line.Consistent
    rw [houtcome next rfl]
    exact h
  | error error => exact h

/-- **Every step keeps the line consistent,** whether or not it fails. -/
theorem perform_consistent (step : Step) :
    (session.perform step).2.lexer.line.Consistent := by
  cases step with
  | draw => exact draw_consistent h
  | drain => exact take_consistent h _
  | take n => exact take_consistent h n
  | run pattern => exact runPattern_consistent h pattern
  | adoptLanguage name => exact change_consistent h fun _ => Lexer.adoptLanguage_line
  | note category problem =>
    exact change_consistent h fun _ hnote => (Lexer.note_standsAt hnote).line
  | flush =>
    show session.flush.2.lexer.line.Consistent
    rw [session.flush_standsAt.line]
    exact h
  | fileName =>
    rw [perform]
    split
    · exact h
    · exact h
  | beginLine => exact LineState.consistent_start
  | seek | read | readAll | setPolicy => exact h

end Session

open Lexer

/-- **A line opens a block or a step, never both,** whatever is asked of a session
over whatever text, in every language, and whichever of the steps fail. After
each step, a line at its start has neither a block nor a step, no line has both,
and what is kept as a block is one of the kinds that open a block. -/
theorem line_never_opens_block_and_step (text : List Char) (source : Source) (language : Language)
    (policy : Policy) (steps : List Step) (report : Session.Report)
    (h : report ∈ (Session.start (fresh text source language) policy).performAll steps) :
    report.after.lexer.line.Consistent := by
  refine Session.of_mem_performAll (P := fun session => session.lexer.line.Consistent)
    (fun session step _ hsession => ?_) ?_ h
  · exact Session.perform_consistent hsession step
  · exact consistent_start

/-- The theorem at work: a block is opened, the lexer is moved to the next line
without a newline, where the rule for steps is refused, and opens a step there
once a line is begun. -/
theorem line_never_opens_block_and_step_moved :
    let session := Session.start
      (fresh "Feature: a\nGiven b".toList .unnamed (.ofDialect .english)) .record
    let steps : List Step := [.run (.rule .blockKeyword), .seek 11, .run (.rule .stepKeyword),
      .beginLine, .run (.rule .stepKeyword)]
    ∃ refused opened, refused ∈ session.performAll steps ∧ opened ∈ session.performAll steps ∧
      refused.after.lexer.line = ⟨false, some (.block .feature), none⟩ ∧
      refused.after.lexer.line.Consistent ∧
      opened.after.lexer.line = ⟨false, none, some .givenStep⟩ ∧
      opened.after.lexer.line.Consistent := by
  intro session steps
  have hrefused : _ ∈ session.performAll steps := .tail _ (.tail _ (.head _))
  have hopened : _ ∈ session.performAll steps := .tail _ (.tail _ (.tail _ (.tail _ (.head _))))
  refine ⟨_, _, hrefused, hopened, by decide +kernel, ?_, by decide +kernel, ?_⟩
  · exact line_never_opens_block_and_step _ _ _ _ steps _ hrefused
  · exact line_never_opens_block_and_step _ _ _ _ steps _ hopened

end FeatureLexer
