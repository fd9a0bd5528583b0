import FeatureLexer.Text.Printable

/-!
# Quoted texts

Messages show a text between quotes, on one line and with nothing invisible
in it. The quote is `'`, or `"` for a text that holds `'` and no `"`. The
quote in use and the backslash are written behind a backslash; the tab, the
newline and the carriage return have letters of their own, and every other
character that is not printable is written by its code point in hexadecimal
digits:

| code point | form |
| --- | --- |
| below `0x100` | `\xhh` |
| below `0x10000` | `\uhhhh` |
| others | `\Uhhhhhhhh` |
-/

namespace FeatureLexer
namespace Text

/-- The hexadecimal digits of `n`, with zeros in front up to `width` digits. -/
def hexDigits (width n : Nat) : List Char :=
  let digits := Nat.toDigits 16 n
  List.replicate (width - digits.length) '0' ++ digits

/-- The escape of a code point, in the shortest of the three forms that holds it. -/
def escapeCode (code : Nat) : List Char :=
  if code < 0x100 then '\\' :: 'x' :: hexDigits 2 code
  else if code < 0x10000 then '\\' :: 'u' :: hexDigits 4 code
  else '\\' :: 'U' :: hexDigits 8 code

/-- How a character stands between quotes of the given kind. -/
def escapeChar (quote c : Char) : List Char :=
  if c = quote ∨ c = '\\' then ['\\', c]
  else if c = '\t' then ['\\', 't']
  else if c = '\n' then ['\\', 'n']
  else if c = '\r' then ['\\', 'r']
  else if isPrintable c then [c]
  else escapeCode c.toNat

/-- The quote for a text: double exactly when the text holds single quotes only. -/
def quoteFor (s : List Char) : Char :=
  if s.contains '\x27' && !s.contains '"' then '"' else '\x27'

/-- A text between quotes. -/
def quoted (s : List Char) : List Char :=
  let quote := quoteFor s
  quote :: s.flatMap (escapeChar quote) ++ [quote]

example : quoted "it's".toList = "\"it's\"".toList := by decide +kernel

example : quoted "a\n\u00a0\u200b".toList = "'a\\n\\xa0\\u200b'".toList := by decide +kernel

end Text
end FeatureLexer
