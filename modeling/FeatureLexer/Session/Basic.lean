import FeatureLexer.Lexer.Pattern

/-!
# Sessions

A session gives out the tokens of a text one after the other. Before a token
is given out, and once more at the end of the text, the pending diagnostics
are given out as warnings; the policy in force says what becomes of them. At
the end of the text, a session that has seen no structure notes that too. A
session that has reached the end, or that a failure has stopped, is finished
and stays so, wherever its lexer is moved.
-/

namespace FeatureLexer

/-- Why a request to a session fails. -/
inductive Failure where
  /-- A pattern does not apply. -/
  | refused (why : Refusal)
  /-- A problem had to be noted for a file that has no name to give. -/
  | unnamable (error : LocatorError)
  /-- A warning is raised. -/
  | raised (diagnostic : Diagnostic)
  /-- A pattern would go on for ever. -/
  | endless
deriving Repr

/-- The message of a failure. -/
def Failure.message : Failure → String
  | .refused why => why.message
  | .unnamable error => error.message
  | .raised diagnostic => diagnostic.message
  | .endless => "The pattern would go on for ever"

/-- The giving out of the tokens of a text. -/
structure Session where
  lexer : Lexer
  policy : Policy
  finished : Bool
  /-- The warnings recorded so far. -/
  recorded : List Diagnostic
deriving DecidableEq, Repr

namespace Session

/-- A session that has given out nothing yet. -/
def start (lexer : Lexer) (policy : Policy) : Session where
  lexer := lexer
  policy := policy
  finished := false
  recorded := []

/-- Gives the pending diagnostics out as warnings. When a warning is raised,
all of them stay pending. -/
def flush (session : Session) : Except Failure Unit × Session :=
  let emptied := { session with lexer := { session.lexer with pending := [] } }
  match session.policy with
  | .record => (.ok (), { emptied with recorded := session.recorded ++ session.lexer.pending })
  | .discard => (.ok (), emptied)
  | .raise =>
    match session.lexer.pending with
    | [] => (.ok (), emptied)
    | first :: _ => (.error (.raised first), session)

/-- Stops a session. -/
def finish (session : Session) : Session :=
  { session with finished := true }

/-- Gives a token out. -/
def giveOut (session : Session) (token : Token) : Except Failure (Option Token) × Session :=
  let lexer := session.lexer
  let seen := { session with
    lexer := { lexer with sawStructure := lexer.sawStructure || token.showsStructure } }
  match seen.flush with
  | (.ok _, after) => (.ok (some token), after)
  | (.error failure, after) => (.error failure, after.finish)

/-- Notes the problem of a text without structure. -/
def noteProse (lexer : Lexer) : Except LocatorError Lexer :=
  if lexer.sawStructure then .ok lexer else lexer.note .noStructure Lexer.proseProblem

/-- Ends a session at the end of the text. -/
def conclude (session : Session) : Except Failure (Option Token) × Session :=
  match session.lexer.endOfText.ending with
  | .refused why => (.error (.refused why), session.finish)
  | _ =>
    match noteProse session.lexer with
    | .error error => (.error (.unnamable error), session.finish)
    | .ok lexer =>
      match { session with lexer }.flush with
      | (.ok _, after) => (.ok none, after.finish)
      | (.error failure, after) => (.error failure, after.finish)

/-- Draws the next token; `none` means that there are no more. -/
def draw (session : Session) : Except Failure (Option Token) × Session :=
  if session.finished then (.ok none, session)
  else
    let run := Run.untilToken Pattern.nextLexeme.run session.lexer
    let moved := { session with lexer := run.lexer }
    match run.tokens, run.ending with
    | token :: _, _ => moved.giveOut token
    | [], .refused _ => moved.conclude
    | [], .failed error => (.error (.unnamable error), moved.finish)
    | [], _ => (.error .endless, moved.finish)

/-- **Finished is final.** A finished session gives out nothing and stays as it is. -/
theorem draw_of_finished {session : Session} (h : session.finished = true) :
    session.draw = (.ok none, session) := by
  simp [draw, h]

/-- Draws up to `n` tokens. A failure loses the tokens drawn before it. -/
def take : Nat → Session → Except Failure (List Token) × Session
  | 0, session => (.ok [], session)
  | n + 1, session =>
    match session.draw with
    | (.error failure, after) => (.error failure, after)
    | (.ok none, after) => (.ok [], after)
    | (.ok (some token), after) =>
      let others := take n after
      (others.1.map (token :: ·), others.2)

/-- Draws all tokens that are left. Each token takes a character at least, so
that one draw more than there are characters reaches the end. -/
def drain (session : Session) : Except Failure (List Token) × Session :=
  session.take (session.lexer.rest.length + 1)

end Session
end FeatureLexer
