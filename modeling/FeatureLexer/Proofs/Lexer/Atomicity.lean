import FeatureLexer.Proofs.Lexer.Prediction
import FeatureLexer.Session.Step

/-!
# A refusal leaves no trace

A choice runs its patterns one after the other, each where the one before it
left the lexer. This is trying and not a sequence only because a pattern that
is refused leaves the lexer as it was and gives no token
(`Run.LeavesNoTrace`). Several rules read before they decide, and some change
the line; that each of them decides before it changes anything is checked rule
by rule (`Rule.run_leavesNoTrace`).

For patterns it follows by recursion on the pattern. A choice that is refused
has been refused by all of its patterns, so that nothing has moved. A
repetition is never refused: the refusal of its pattern is its regular end.
-/

namespace FeatureLexer

/-- Whether a run from a lexer, if it is refused, has given no token and left
the lexer as it was. -/
def Run.LeavesNoTrace (lexer : Lexer) (run : Run) : Prop :=
  ∀ why, run.ending = .refused why → run = .refuse why lexer

namespace Run

variable (lexer : Lexer)

theorem refuse_leavesNoTrace (why : Refusal) : LeavesNoTrace lexer (refuse why lexer) := by
  intro other hending
  obtain rfl : why = other := Ending.refused.inj hending
  rfl

theorem silent_leavesNoTrace (next : Lexer) : LeavesNoTrace lexer (silent next) :=
  fun _ hending => Ending.noConfusion hending

theorem give_leavesNoTrace (token : Token) (next : Lexer) :
    LeavesNoTrace lexer (give token next) :=
  fun _ hending => Ending.noConfusion hending

theorem ofChange_leavesNoTrace (next : Lexer) (change : Except LocatorError Lexer) :
    LeavesNoTrace lexer (ofChange next change) := by
  cases change with
  | ok changed => exact silent_leavesNoTrace lexer changed
  | error error => exact fun _ hending => Ending.noConfusion hending

/-- **A repetition is not refused.** -/
theorem iterate_ending_ne_refused (step : Lexer → Run) (lexer : Lexer) (why : Refusal) :
    (iterate step lexer).ending ≠ .refused why := by
  fun_induction iterate step lexer with
  | case1 lexer run hdone hless ih => exact ih
  | case2 lexer run hdone hless => exact Ending.noConfusion
  | case3 lexer run other hrefused => exact Ending.noConfusion
  | case4 lexer run error hfailed =>
    rw [hfailed]
    exact Ending.noConfusion
  | case5 lexer run hendless =>
    rw [hendless]
    exact Ending.noConfusion

end Run

namespace Lexer

open Run

variable {lexer : Lexer}

theorem expecting_leavesNoTrace (c : Char) {read : List Char → Run}
    (h : ∀ s, LeavesNoTrace lexer (read s)) : LeavesNoTrace lexer (lexer.expecting c read) := by
  rw [expecting]
  split
  · exact refuse_leavesNoTrace lexer _
  · split
    · exact h _
    · exact refuse_leavesNoTrace lexer _

theorem expectingLineStart_leavesNoTrace {read : Unit → Run}
    (h : LeavesNoTrace lexer (read ())) :
    LeavesNoTrace lexer (lexer.expectingLineStart read) := by
  rw [expectingLineStart]
  split
  · exact h
  · exact refuse_leavesNoTrace lexer _

theorem comment_leavesNoTrace (lexer : Lexer) : LeavesNoTrace lexer lexer.comment := by
  refine expecting_leavesNoTrace '#' fun s => ?_
  -- The lexer has moved by now, but a comment is not refused any more.
  dsimp only
  split
  · exact ofChange_leavesNoTrace lexer _ _
  · exact silent_leavesNoTrace lexer _

theorem cell_leavesNoTrace (lexer : Lexer) : LeavesNoTrace lexer lexer.cell := by
  refine expecting_leavesNoTrace '|' fun s => ?_
  dsimp only
  split
  · exact give_leavesNoTrace lexer _ _
  · exact silent_leavesNoTrace lexer _

theorem indentation_leavesNoTrace (lexer : Lexer) : LeavesNoTrace lexer lexer.indentation := by
  refine expectingLineStart_leavesNoTrace ?_
  split
  · exact silent_leavesNoTrace lexer _
  · exact refuse_leavesNoTrace lexer _

theorem blockKeyword_leavesNoTrace (lexer : Lexer) : LeavesNoTrace lexer lexer.blockKeyword := by
  refine expectingLineStart_leavesNoTrace ?_
  split
  · exact give_leavesNoTrace lexer _ _
  · exact refuse_leavesNoTrace lexer _

theorem stepKeyword_leavesNoTrace (lexer : Lexer) : LeavesNoTrace lexer lexer.stepKeyword := by
  refine expectingLineStart_leavesNoTrace ?_
  split
  · exact give_leavesNoTrace lexer _ _
  · exact refuse_leavesNoTrace lexer _

theorem title_leavesNoTrace (lexer : Lexer) : LeavesNoTrace lexer lexer.title := by
  rw [title]
  split
  · exact refuse_leavesNoTrace lexer _
  · split
    · exact silent_leavesNoTrace lexer _
    · exact give_leavesNoTrace lexer _ _

theorem integer_leavesNoTrace (lexer : Lexer) : LeavesNoTrace lexer lexer.integer := by
  rw [integer]
  split
  · exact refuse_leavesNoTrace lexer _
  · exact give_leavesNoTrace lexer _ _

theorem stepText_leavesNoTrace (lexer : Lexer) : LeavesNoTrace lexer lexer.stepText := by
  rw [stepText]
  split
  · exact refuse_leavesNoTrace lexer _
  · split
    · exact refuse_leavesNoTrace lexer _
    · exact give_leavesNoTrace lexer _ _

theorem endOfText_leavesNoTrace (lexer : Lexer) : LeavesNoTrace lexer lexer.endOfText := by
  rw [endOfText]
  split
  · exact silent_leavesNoTrace lexer _
  · exact refuse_leavesNoTrace lexer _

end Lexer

open Run Lexer

/-- **A rule that is refused leaves no trace.** -/
theorem Rule.run_leavesNoTrace (rule : Rule) (lexer : Lexer) :
    LeavesNoTrace lexer (rule.run lexer) := by
  cases rule with
  | newline => exact expecting_leavesNoTrace '\n' fun _ => give_leavesNoTrace lexer _ _
  | comment => exact comment_leavesNoTrace lexer
  | tag => exact expecting_leavesNoTrace '@' fun _ => give_leavesNoTrace lexer _ _
  | cell => exact cell_leavesNoTrace lexer
  | indentation => exact indentation_leavesNoTrace lexer
  | blockKeyword => exact blockKeyword_leavesNoTrace lexer
  | stepKeyword => exact stepKeyword_leavesNoTrace lexer
  | description => exact expectingLineStart_leavesNoTrace (give_leavesNoTrace lexer _ _)
  | placeholder => exact expecting_leavesNoTrace '<' fun _ => give_leavesNoTrace lexer _ _
  | title => exact title_leavesNoTrace lexer
  | quoted => exact expecting_leavesNoTrace '"' fun _ => give_leavesNoTrace lexer _ _
  | integer => exact integer_leavesNoTrace lexer
  | stepText => exact stepText_leavesNoTrace lexer
  | skip => exact silent_leavesNoTrace lexer _
  | endOfText => exact endOfText_leavesNoTrace lexer

namespace Pattern

mutual

/-- **A pattern that is refused leaves no trace.** -/
theorem run_leavesNoTrace : ∀ (pattern : Pattern) (lexer : Lexer),
    LeavesNoTrace lexer (pattern.run lexer)
  | .rule r, lexer => by
    rw [run]
    exact r.run_leavesNoTrace lexer
  | .choice patterns, lexer => by
    rw [run]
    exact runFirst_leavesNoTrace patterns [] lexer
  | .many pattern, lexer => by
    intro why hending
    rw [run] at hending
    exact absurd hending (iterate_ending_ne_refused _ _ why)
  | .beforeEnd pattern, lexer => by
    rw [run]
    split
    · exact refuse_leavesNoTrace lexer _
    · exact run_leavesNoTrace pattern lexer

/-- A choice is refused where the lexer stood at first: whatever was tried
before has been refused, and left no trace. -/
theorem runFirst_leavesNoTrace : ∀ (patterns : List Pattern) (refusals : List Refusal)
    (lexer : Lexer), LeavesNoTrace lexer (runFirst patterns refusals lexer)
  | [], refusals, lexer => by
    rw [runFirst]
    exact refuse_leavesNoTrace lexer _
  | pattern :: patterns, refusals, lexer => by
    have hfirst := run_leavesNoTrace pattern lexer
    cases hending : (pattern.run lexer).ending with
    | refused why =>
      rw [runFirst_of_refuse pattern (hfirst why hending)]
      exact runFirst_leavesNoTrace patterns _ lexer
    | done | failed | endless =>
      intro why hrefused
      rw [runFirst] at hrefused
      simp only [hending] at hrefused
      exact Ending.noConfusion hrefused

end

end Pattern

open Pattern

/-- **A refusal leaves no trace.** A pattern, however it is put together, that
is refused has given no token and leaves the lexer in every respect as it was,
wherever it stands; so does a request to a session to run such a pattern. A
repetition is never refused. -/
theorem refused_pattern_leaves_no_trace (pattern : Pattern) (lexer : Lexer) :
    (∀ why, (pattern.run lexer).ending = .refused why →
      (pattern.run lexer).tokens = [] ∧ (pattern.run lexer).lexer = lexer ∧
      ∀ session : Session, session.lexer = lexer →
        session.perform (.run pattern) = (.error (.refused why), session)) ∧
    ∀ why, ((many pattern).run lexer).ending ≠ .refused why := by
  constructor
  · intro why hending
    have hrun := pattern.run_leavesNoTrace lexer why hending
    refine ⟨by rw [hrun]; rfl, by rw [hrun]; rfl, ?_⟩
    rintro session rfl
    simp only [Session.perform, Session.runPattern, hrun]
    rfl
  · intro why
    rw [Pattern.run]
    exact iterate_ending_ne_refused _ _ why

/-- The theorem at work past the end of a text, behind the start of a line: a
choice within a choice, all of whose rules look for something else. -/
theorem refused_pattern_leaves_no_trace_past_end :
    let lexer := { fresh "a\n".toList .unnamed (.ofDialect .english) with
      cursor := (Cursor.ofText "a\n".toList).seek 7, line := ⟨false, none, some .whenStep⟩ }
    let pattern := choice [.rule .title, lineStart, choice [.rule .integer, .rule .stepText]]
    (pattern.run lexer).tokens = [] ∧ (pattern.run lexer).lexer = lexer := by
  intro lexer pattern
  obtain ⟨htokens, hlexer, _⟩ := (refused_pattern_leaves_no_trace pattern lexer).1 _ rfl
  exact ⟨htokens, hlexer⟩

end FeatureLexer
