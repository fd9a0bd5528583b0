import FeatureLexer.Cursor.Cell
import FeatureLexer.Diagnostic
import FeatureLexer.Language.Name
import FeatureLexer.Source.Basic
import FeatureLexer.Token

/-!
# The state of a lexer

A lexer stands at a place in a text. How it reads on depends on the line so
far (whether a keyword or a description has been read on it, and which) and
on the language in force. Beside these it keeps what it has found out: whether
the text holds any structure, every diagnostic so far, and those diagnostics
that are still to be given out as warnings.
-/

namespace FeatureLexer

/-- What has been read on the current line. -/
structure LineState where
  /-- Nothing but tags, cells and space has been read. -/
  atStart : Bool
  /-- The kind of the block whose keyword has been read. -/
  block : Option LineKind
  /-- The step keyword that has been read. -/
  keyword : Option StepKeyword
deriving DecidableEq, Repr

/-- The start of a line. -/
def LineState.start : LineState where
  atStart := true
  block := none
  keyword := none

/-- A lexer at a place in a text. -/
structure Lexer where
  cursor : Cursor
  source : Source
  language : Language
  line : LineState
  sawStructure : Bool
  diagnostics : List Diagnostic
  pending : List Diagnostic
deriving DecidableEq, Repr

namespace Lexer

/-- A lexer at the start of a text. -/
def fresh (text : List Char) (source : Source) (language : Language) : Lexer where
  cursor := .ofText text
  source := source
  language := language
  line := .start
  sawStructure := false
  diagnostics := []
  pending := []

/-- What is left of the text. -/
def rest (lexer : Lexer) : List Char :=
  lexer.cursor.rest

/-- The position in the text. -/
def pos (lexer : Lexer) : Nat :=
  lexer.cursor.pos

/-- The next character, if there is one. -/
def peek? (lexer : Lexer) : Option Char :=
  lexer.cursor.peek?

/-- Moves `n` characters on, or to the end if fewer are left. -/
def advance (lexer : Lexer) (n : Nat) : Lexer :=
  { lexer with cursor := lexer.cursor.advance n }

/-- Moves past the run of space that comes next. -/
def dropSpace (lexer : Lexer) : Lexer :=
  { lexer with cursor := lexer.cursor.dropSpace }

/-- Moves past the next character if it is `c`. -/
def dropChar (lexer : Lexer) (c : Char) : Lexer :=
  { lexer with cursor := lexer.cursor.dropChar c }

/-- Begins a line. -/
def beginLine (lexer : Lexer) : Lexer :=
  { lexer with line := .start }

/-- Notes a problem with the file, or fails if the file has no name to give. -/
def note (lexer : Lexer) (category : Category) (problem : String) :
    Except LocatorError Lexer :=
  lexer.source.fileName.map fun fileName =>
    let diagnostic : Diagnostic := { category, fileName, problem }
    { lexer with
      diagnostics := lexer.diagnostics ++ [diagnostic]
      pending := lexer.pending ++ [diagnostic] }

/-- The problem with a declared language that has no dialect. -/
def unsupportedProblem : String := "declares an unsupported language"

/-- The problem with a file that holds nothing but prose. -/
def proseProblem : String := "does not contain any valid gherkin"

/-- Puts the language of a name in force. If the name means none, the language
stays and the problem is noted. -/
def adoptLanguage (lexer : Lexer) (name : Option (List Char)) : Except LocatorError Lexer :=
  match Language.requested? name with
  | some language => .ok { lexer with language }
  | none => lexer.note .unsupportedLanguage unsupportedProblem

end Lexer
end FeatureLexer
