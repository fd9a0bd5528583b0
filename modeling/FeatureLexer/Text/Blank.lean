import FeatureLexer.Text.Range
import FeatureLexer.Text.Trim

/-!
# Blank characters

A character is *blank* when it separates words: the tab, the line breaks, the
information separators and the space separators of Unicode. Blank includes
the newline; the narrower class of characters that separate words within a
line is `Text.isSpace`.
-/

namespace FeatureLexer
namespace Text

/-- The blank code points. -/
def blankTable : RangeTable :=
  [(0x09, 0x0d), (0x1c, 0x20), (0x85, 0x85), (0xa0, 0xa0), (0x1680, 0x1680), (0x2000, 0x200a),
   (0x2028, 0x2029), (0x202f, 0x202f), (0x205f, 0x205f), (0x3000, 0x3000)]

example : blankTable.ordered = true ∧ blankTable.size = 29 := by decide

/-- Whether a character is blank. -/
def isBlank (c : Char) : Bool :=
  blankTable.covers c.toNat

/-- A text without the blank characters around it. -/
def trimBlank (s : List Char) : List Char :=
  trim isBlank s

example : isBlank '\n' = true ∧ isBlank '\u3000' = true ∧ isBlank '\u200b' = false := by decide

end Text
end FeatureLexer
