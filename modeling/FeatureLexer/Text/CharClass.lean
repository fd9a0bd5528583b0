import FeatureLexer.Text.Blank
import FeatureLexer.Text.Digit

/-!
# The character classes of a feature file

Three classes decide where a lexeme ends.

| class | members | role |
| --- | --- | --- |
| space | blank, except the newline | layout within a line |
| tag character | not blank, not `@`, not `#` | continues a tag |
| symbol | `"`, `<` and the digits | ends the free text of a step |

Each class is also defined on whole texts, for callers that hold a text and
not a character: a text is space when it is not the newline and consists of
blanks, and so on. On a text of one character the two notions agree.

The lexer asks about one character at a time. The members of a class are listed
(`survey`) only for comparison with other tables: blanks and digits are what one
version of Unicode says they are, and another version may say otherwise.
-/

namespace FeatureLexer
namespace Text

/-- Space separates words within a line. -/
def isSpace (c : Char) : Bool :=
  c != '\n' && isBlank c

/-- Tag characters continue a tag. -/
def isTagChar (c : Char) : Bool :=
  !isBlank c && c != '@' && c != '#'

/-- Symbols end the free text that follows a step keyword. -/
def isSymbol (c : Char) : Bool :=
  c == '"' || c == '<' || isDigit c

/-- A text without the space around it; newlines are kept. -/
def trimSpace (s : List Char) : List Char :=
  trim isSpace s

theorem ne_newline_of_isSpace {c : Char} (h : isSpace c = true) : c ≠ '\n' := by
  rintro rfl
  exact absurd h (by decide)

theorem isBlank_of_isSpace {c : Char} (h : isSpace c = true) : isBlank c = true := by
  simp only [isSpace, Bool.and_eq_true] at h
  exact h.2

/-- What ends a tag. -/
theorem not_isTagChar (c : Char) : (!isTagChar c) = (isBlank c || c == '@' || c == '#') := by
  simp [isTagChar, Bool.not_and, bne]

/-- Whether a text is non-empty and consists of characters of one class. -/
def consistsOf (p : Char → Bool) (s : List Char) : Bool :=
  !s.isEmpty && s.all p

/-- Space, for a whole text. -/
def isSpaceText (s : List Char) : Bool :=
  s != ['\n'] && consistsOf isBlank s

/-- Tag characters, for a whole text. -/
def isTagText (s : List Char) : Bool :=
  !consistsOf isBlank s && s != ['@'] && s != ['#']

/-- Symbols, for a whole text. -/
def isSymbolText (s : List Char) : Bool :=
  s == ['"'] || s == ['<'] || consistsOf isDigit s

theorem isSpaceText_singleton (c : Char) : isSpaceText [c] = isSpace c := by
  simp [isSpaceText, isSpace, consistsOf, bne]

theorem isTagText_singleton (c : Char) : isTagText [c] = isTagChar c := by
  simp [isTagText, isTagChar, consistsOf, bne]

theorem isSymbolText_singleton (c : Char) : isSymbolText [c] = isSymbol c := by
  simp [isSymbolText, isSymbol, consistsOf]

/-- The members of each class among the characters of an interval. -/
structure Survey where
  space : List Char
  notTag : List Char
  symbol : List Char
deriving DecidableEq, Repr

/-- Sorts the characters with code points from `start` up to, and not
including, `stop` into the classes. -/
def survey (start stop : Nat) : Survey :=
  let chars := charsBetween start stop
  { space := chars.filter isSpace
    notTag := chars.filter fun c => !isTagChar c
    symbol := chars.filter isSymbol }

end Text
end FeatureLexer
