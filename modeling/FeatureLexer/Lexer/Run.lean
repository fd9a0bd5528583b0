import FeatureLexer.Lexer.Refusal
import FeatureLexer.Lexer.State

/-!
# Runs

Running a rule, or a pattern of rules, from a lexer gives tokens, the lexer
afterwards, and how the run ended. `Run.iterate` runs a step over and over
until it refuses. It ends because each step has to make progress: either
characters are read, or the start of the line is left behind. A step that
succeeds without progress would succeed in the same way for ever, and the
iteration says so.
-/

namespace FeatureLexer

/-- How a run ends. -/
inductive Ending where
  /-- It succeeded. -/
  | done
  /-- It did not apply. -/
  | refused (why : Refusal)
  /-- A problem had to be noted for a file that has no name to give. -/
  | failed (error : LocatorError)
  /-- It would go on for ever. -/
  | endless
deriving Repr

/-- The outcome of a run. -/
structure Run where
  tokens : List Token
  lexer : Lexer
  ending : Ending
deriving Repr

/-- A bound on how often a lexer can still make progress: twice for each
character left, and once for being at the start of a line. -/
def Lexer.remaining (lexer : Lexer) : Nat :=
  2 * lexer.rest.length + lexer.line.atStart.toNat

namespace Run

/-- Succeeds without a token. -/
def silent (lexer : Lexer) : Run :=
  ⟨[], lexer, .done⟩

/-- Succeeds with a token. -/
def give (token : Token) (lexer : Lexer) : Run :=
  ⟨[token], lexer, .done⟩

/-- Does not apply. -/
def refuse (why : Refusal) (lexer : Lexer) : Run :=
  ⟨[], lexer, .refused why⟩

/-- The outcome of a change that may fail, which gives no token. The lexer of a
failure is the one before the change. -/
def ofChange (before : Lexer) : Except LocatorError Lexer → Run
  | .ok lexer => silent lexer
  | .error error => ⟨[], before, .failed error⟩

/-- A run that comes after tokens already given. -/
def after (tokens : List Token) (run : Run) : Run :=
  { run with tokens := tokens ++ run.tokens }

/-- Runs a step until it refuses, and succeeds then. -/
def iterate (step : Lexer → Run) (lexer : Lexer) : Run :=
  let run := step lexer
  match run.ending with
  | .done =>
    if run.lexer.remaining < lexer.remaining then
      (iterate step run.lexer).after run.tokens
    else { run with ending := .endless }
  | .refused _ => { run with ending := .done }
  | .failed _ => run
  | .endless => run
termination_by lexer.remaining

/-- Runs a step until it gives a token or does not succeed. -/
def untilToken (step : Lexer → Run) (lexer : Lexer) : Run :=
  let run := step lexer
  match run.ending, run.tokens with
  | .done, [] =>
    if run.lexer.remaining < lexer.remaining then untilToken step run.lexer
    else { run with ending := .endless }
  | _, _ => run
termination_by lexer.remaining

end Run
end FeatureLexer
