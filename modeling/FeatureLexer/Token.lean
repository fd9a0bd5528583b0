import FeatureLexer.Keyword

/-!
# Tokens

The tokens of a feature file. The line

    Given I have 3 "red" <fruit>

gives a keyword, the step text `I have `, the integer `3`, step text, the
quoted text `red`, step text and the placeholder `fruit`. Texts are kept as
they stand in the file, integers too.
-/

namespace FeatureLexer

/-- A token of a feature file. -/
inductive Token where
  /-- The end of a line. -/
  | newline
  /-- A tag, without the `@` before it. -/
  | tag (text : List Char)
  /-- A cell of a table row, without the space around it. -/
  | cell (text : List Char)
  /-- A placeholder, without the angle brackets around it. -/
  | placeholder (text : List Char)
  /-- The title of a block, or a part of it between placeholders. -/
  | title (text : List Char)
  /-- A quoted text, without the quotes around it. -/
  | quoted (text : List Char)
  /-- A run of digits in a step. -/
  | integer (text : List Char)
  /-- Free text in a step. -/
  | stepText (text : List Char)
  /-- The keyword of a block. -/
  | block (kind : LineKind)
  /-- The keyword of a step. -/
  | keyword (keyword : StepKeyword)
  /-- A line that opens neither a block nor a step. -/
  | description (text : List Char)
deriving DecidableEq, Repr

namespace Token

/-- Whether a token is a description. -/
def isDescription : Token → Bool
  | .description _ => true
  | _ => false

/-- Whether a token shows that its file holds more than prose: all tokens do
but descriptions and newlines. -/
def showsStructure : Token → Bool
  | .newline => false
  | .description _ => false
  | _ => true

/-- For each token of a list, the index of the first token equal to it. The lexer
compares no tokens; this is for its callers, who may group or count them, and
for whom tokens of one kind with one text are the same token. -/
def firstIndices (tokens : List Token) : List Nat :=
  tokens.map tokens.idxOf

end Token
end FeatureLexer
