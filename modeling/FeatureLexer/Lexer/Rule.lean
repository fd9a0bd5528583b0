import FeatureLexer.Lexer.Directive
import FeatureLexer.Lexer.Run

/-!
# Rules

Each rule reads one kind of lexeme where the lexer stands, or refuses and
leaves the lexer as it was.

| rule | reads | gives |
| --- | --- | --- |
| `newline` | a newline | the newline |
| `comment` | `#`, the rest of the line and its newline | nothing |
| `tag` | `@` and tag characters | the tag |
| `cell` | a bar and a cell, up to the next bar | the cell |
| `indentation` | space at the start of a line | nothing |
| `blockKeyword` | a block's keyword, its colon and space | the block |
| `stepKeyword` | a step keyword and space | the keyword |
| `description` | the rest of the line | the description |
| `placeholder` | a text in angle brackets | the placeholder |
| `title` | the line up to the next `<` | the title |
| `quoted` | a text in double quotes | the quoted text |
| `integer` | digits | the integer |
| `stepText` | the line up to the next symbol | the step text |
| `skip` | any character | nothing |
| `endOfText` | nothing, at the end of the text | nothing |

A placeholder or a quoted text that is not closed ends with its line. A cell
that no bar closes is read and dropped.
-/

namespace FeatureLexer

/-- The rules of the lexer. -/
inductive Rule where
  | newline
  | comment
  | tag
  | cell
  | indentation
  | blockKeyword
  | stepKeyword
  | description
  | placeholder
  | title
  | quoted
  | integer
  | stepText
  | skip
  | endOfText
deriving DecidableEq, Repr

namespace Lexer

/-- Runs `read` on what follows the character `c`, or refuses if another
character comes next. -/
def expecting (c : Char) (lexer : Lexer) (read : List Char → Run) : Run :=
  match lexer.rest with
  | [] => .refuse (.char c lexer.pos none) lexer
  | found :: rest =>
    if found = c then read rest else .refuse (.char c lexer.pos (some found)) lexer

/-- Runs `read` at the start of a line, and refuses elsewhere. -/
def expectingLineStart (lexer : Lexer) (read : Unit → Run) : Run :=
  if lexer.line.atStart then read () else .refuse (.lineStart lexer.pos) lexer

/-- The start of a line as far as keywords are looked for in it: up to the
first colon. -/
def keywordText (lexer : Lexer) : List Char :=
  Text.lineUntil (· == ':') lexer.rest

/-- What the line is, in the language in force. -/
def lineOpening (lexer : Lexer) : Opening :=
  lexer.language.openingOf lexer.keywordText

/-- Reads a newline. -/
def newline (lexer : Lexer) : Run :=
  lexer.expecting '\n' fun _ => .give .newline (lexer.advance 1).beginLine

/-- Reads a comment and the newline that ends it; a language directive takes
effect. -/
def comment (lexer : Lexer) : Run :=
  lexer.expecting '#' fun rest =>
    let text := Text.lineUntil Text.never rest
    let next := (lexer.advance (text.length + 2)).beginLine
    match Directive.declaredName? text with
    | some name => .ofChange next (next.adoptLanguage (some name))
    | none => .silent next

/-- Reads a tag. -/
def tag (lexer : Lexer) : Run :=
  lexer.expecting '@' fun rest =>
    let text := Text.lineUntil (!Text.isTagChar ·) rest
    .give (.tag text) (lexer.advance (text.length + 1))

/-- Reads a cell. The bar that closes it is left, since it opens the next one. -/
def cell (lexer : Lexer) : Run :=
  lexer.expecting '|' fun rest =>
    let contents := Cell.read Cell.isBar rest
    let next := lexer.advance (contents.2 + 1)
    if next.peek? = some '|' then .give (.cell (Text.trimSpace contents.1)) next
    else .silent next

/-- Reads the space at the start of a line. -/
def indentation (lexer : Lexer) : Run :=
  lexer.expectingLineStart fun _ =>
    if lexer.peek?.any Text.isSpace then .silent lexer.dropSpace
    else .refuse (.space lexer.pos) lexer

/-- Reads the keyword of a block, with the colon after it if there is one. -/
def blockKeyword (lexer : Lexer) : Run :=
  lexer.expectingLineStart fun _ =>
    match lexer.lineOpening with
    | .block block _ =>
      let next := ((lexer.advance lexer.keywordText.length).dropChar ':').dropSpace
      .give (.block (.block block))
        { next with line := { lexer.line with atStart := false, block := some (.block block) } }
    | _ => .refuse (.blockKeyword lexer.pos) lexer

/-- Reads the keyword of a step. -/
def stepKeyword (lexer : Lexer) : Run :=
  lexer.expectingLineStart fun _ =>
    match lexer.lineOpening with
    | .step keyword spelling =>
      let next := (lexer.advance spelling.length).dropSpace
      .give (.keyword keyword)
        { next with line := { lexer.line with atStart := false, keyword := some keyword } }
    | _ => .refuse (.stepKeyword lexer.pos) lexer

/-- Reads a line as a description. -/
def description (lexer : Lexer) : Run :=
  lexer.expectingLineStart fun _ =>
    let text := Text.lineUntil Text.never lexer.rest
    let next := lexer.advance text.length
    .give (.description (Text.trimSpace text))
      { next with line := { lexer.line with atStart := false } }

/-- Reads a text in angle brackets. -/
def placeholder (lexer : Lexer) : Run :=
  lexer.expecting '<' fun rest =>
    let text := Text.lineUntil (· == '>') rest
    .give (.placeholder text) ((lexer.advance (text.length + 1)).dropChar '>')

/-- Reads the title of a block up to a placeholder. Where no title comes next,
one character is read, so that something always is. -/
def title (lexer : Lexer) : Run :=
  if lexer.line.block.isNone then .refuse (.titleBlock lexer.pos) lexer
  else
    match Text.lineUntil (· == '<') lexer.rest with
    | [] => .silent (lexer.advance 1)
    | text => .give (.title text) (lexer.advance text.length)

/-- Reads a text in double quotes. -/
def quoted (lexer : Lexer) : Run :=
  lexer.expecting '"' fun rest =>
    let text := Text.lineUntil (· == '"') rest
    .give (.quoted text) ((lexer.advance (text.length + 1)).dropChar '"')

/-- Reads digits. -/
def integer (lexer : Lexer) : Run :=
  match Text.lineUntil (!Text.isDigit ·) lexer.rest with
  | [] => .refuse (.integer lexer.pos) lexer
  | text => .give (.integer text) (lexer.advance text.length)

/-- Reads the text of a step up to a symbol. -/
def stepText (lexer : Lexer) : Run :=
  if lexer.line.keyword.isNone then .refuse (.stepTextKeyword lexer.pos) lexer
  else
    match Text.lineUntil Text.isSymbol lexer.rest with
    | [] => .refuse (.stepText lexer.pos) lexer
    | text => .give (.stepText text) (lexer.advance text.length)

/-- Reads any character, or nothing at the end of the text. -/
def skip (lexer : Lexer) : Run :=
  .silent (lexer.advance 1)

/-- Accepts the end of the text. -/
def endOfText (lexer : Lexer) : Run :=
  match lexer.rest with
  | [] => .silent lexer
  | found :: _ => .refuse (.endOfText lexer.pos found) lexer

end Lexer

/-- Runs a rule where a lexer stands. -/
def Rule.run : Rule → Lexer → Run
  | .newline => Lexer.newline
  | .comment => Lexer.comment
  | .tag => Lexer.tag
  | .cell => Lexer.cell
  | .indentation => Lexer.indentation
  | .blockKeyword => Lexer.blockKeyword
  | .stepKeyword => Lexer.stepKeyword
  | .description => Lexer.description
  | .placeholder => Lexer.placeholder
  | .title => Lexer.title
  | .quoted => Lexer.quoted
  | .integer => Lexer.integer
  | .stepText => Lexer.stepText
  | .skip => Lexer.skip
  | .endOfText => Lexer.endOfText

end FeatureLexer
