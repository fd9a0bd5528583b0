import FeatureLexer.Lexer.Rule

/-!
# Patterns

Patterns combine rules: a choice takes the first of several patterns that
applies, a repetition takes a pattern as often as it applies, and a guard
keeps a pattern from the end of the text. The lexer itself is one pattern,
`Pattern.nextLexeme`, which reads on by one lexeme.
-/

namespace FeatureLexer

/-- Combinations of rules. -/
inductive Pattern where
  | rule (r : Rule)
  /-- The first of several patterns that applies. -/
  | choice (patterns : List Pattern)
  /-- A pattern as often as it applies. -/
  | many (pattern : Pattern)
  /-- A pattern where the text has not ended. -/
  | beforeEnd (pattern : Pattern)
deriving Repr

namespace Pattern

mutual

/-- Runs a pattern where a lexer stands. -/
def run : Pattern → Lexer → Run
  | .rule r, lexer => r.run lexer
  | .choice patterns, lexer => runFirst patterns [] lexer
  | .many pattern, lexer => Run.iterate (run pattern) lexer
  | .beforeEnd pattern, lexer =>
    if lexer.rest.isEmpty then .refuse (.ended lexer.pos) lexer else run pattern lexer

/-- Runs the first of several patterns that applies; `refusals` are those of
the patterns before them. -/
def runFirst : List Pattern → List Refusal → Lexer → Run
  | [], refusals, lexer => .refuse (.noneOf refusals) lexer
  | pattern :: patterns, refusals, lexer =>
    let attempt := run pattern lexer
    match attempt.ending with
    | .refused why =>
      (runFirst patterns (refusals ++ [why]) attempt.lexer).after attempt.tokens
    | _ => attempt

end

/-- The start of a line: space, a keyword, or else a description. -/
def lineStart : Pattern :=
  .choice [.rule .indentation, .rule .blockKeyword, .rule .stepKeyword, .rule .description]

/-- Any lexeme. The order matters: the first rule that applies wins. -/
def lexeme : Pattern :=
  .choice [.rule .newline, .rule .comment, .rule .tag, .rule .cell, lineStart, .rule .placeholder,
    .rule .title, .rule .quoted, .rule .integer, .rule .stepText, .rule .skip]

/-- The next lexeme of a text that has not ended. -/
def nextLexeme : Pattern :=
  .beforeEnd lexeme

end Pattern
end FeatureLexer
