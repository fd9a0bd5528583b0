import FeatureLexer.Session.Basic

/-!
# Steps of a session

Between draws a caller may do other things with the lexer of a session: run a
pattern of its own, move the lexer, change the language or the policy, note a
problem. Each such request is a step, and each step has a reply.
-/

namespace FeatureLexer

/-- What can be asked of a session. -/
inductive Step where
  /-- The next token. -/
  | draw
  /-- All tokens that are left. -/
  | drain
  /-- Up to `n` tokens. -/
  | take (n : Nat)
  /-- The tokens of a pattern, run where the lexer stands. -/
  | run (pattern : Pattern)
  /-- To move to a position. -/
  | seek (pos : Nat)
  /-- The next `n` characters. -/
  | read (n : Nat)
  /-- All characters that are left. -/
  | readAll
  /-- To begin a line. -/
  | beginLine
  /-- To put the language of a name in force. -/
  | adoptLanguage (name : Option (List Char))
  /-- To note a problem. -/
  | note (category : Category) (problem : String)
  /-- To give the pending diagnostics out. -/
  | flush
  /-- The name of the file. -/
  | fileName
  /-- To change the policy. -/
  | setPolicy (policy : Policy)
deriving Repr

/-- What a step answers. -/
inductive Reply where
  | nothing
  | token (token : Option Token)
  | tokens (tokens : List Token)
  | position (pos : Nat)
  | text (text : List Char)
deriving DecidableEq, Repr

namespace Session

/-- Replaces the lexer by the outcome of a change, unless it fails. -/
def change (session : Session) : Except LocatorError Lexer → Except Failure Reply × Session
  | .ok lexer => (.ok .nothing, { session with lexer })
  | .error error => (.error (.unnamable error), session)

/-- Runs a pattern to its end, past the session's own giving out of tokens. -/
def runPattern (session : Session) (pattern : Pattern) : Except Failure Reply × Session :=
  let run := pattern.run session.lexer
  let moved := { session with lexer := run.lexer }
  match run.ending with
  | .done => (.ok (.tokens run.tokens), moved)
  | .refused why => (.error (.refused why), moved)
  | .failed error => (.error (.unnamable error), moved)
  | .endless => (.error .endless, moved)

/-- Replaces the cursor after a reading. -/
def readText (session : Session) (reading : List Char × Cursor) : Except Failure Reply × Session :=
  (.ok (.text reading.1), { session with lexer := { session.lexer with cursor := reading.2 } })

/-- Performs one step. -/
def perform (session : Session) : Step → Except Failure Reply × Session
  | .draw => let drawn := session.draw; (drawn.1.map .token, drawn.2)
  | .drain => let drawn := session.drain; (drawn.1.map .tokens, drawn.2)
  | .take n => let drawn := session.take n; (drawn.1.map .tokens, drawn.2)
  | .run pattern => session.runPattern pattern
  | .seek pos =>
    (.ok (.position pos),
      { session with lexer := { session.lexer with cursor := session.lexer.cursor.seek pos } })
  | .read n => session.readText (session.lexer.cursor.read n)
  | .readAll => session.readText session.lexer.cursor.readAll
  | .beginLine => (.ok .nothing, { session with lexer := session.lexer.beginLine })
  | .adoptLanguage name => session.change (session.lexer.adoptLanguage name)
  | .note category problem => session.change (session.lexer.note category problem)
  | .flush => let flushed := session.flush; (flushed.1.map fun _ => .nothing, flushed.2)
  | .fileName =>
    match session.lexer.source.fileName with
    | .ok name => (.ok (.text name), session)
    | .error error => (.error (.unnamable error), session)
  | .setPolicy policy => (.ok .nothing, { session with policy })

/-- What one step did: its reply, the warnings recorded during it, and the
session after it. -/
structure Report where
  reply : Except Failure Reply
  warnings : List Diagnostic
  after : Session

/-- Performs steps in order; a step that fails does not stop the later ones. -/
def performAll (session : Session) : List Step → List Report
  | [] => []
  | step :: steps =>
    let outcome := session.perform step
    { reply := outcome.1
      warnings := outcome.2.recorded.drop session.recorded.length
      after := outcome.2 } :: outcome.2.performAll steps

end Session
end FeatureLexer
