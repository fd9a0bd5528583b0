import FeatureLexer.Dialect.Table.AToC
import FeatureLexer.Dialect.Table.DToE
import FeatureLexer.Dialect.Table.FToI
import FeatureLexer.Dialect.Table.JToM
import FeatureLexer.Dialect.Table.NToS
import FeatureLexer.Dialect.Table.TToZ

/-!
# The table of dialects

All dialects in the order of the table. The order matters where two dialects
go by one name: the name means the first of them.
-/

namespace FeatureLexer
namespace Dialect

/-- The dialects in table order. -/
def all : List Dialect :=
  [afrikaans, armenian, aragonese, arabic, asturian, azerbaijani, belarusian, bulgarian, malay,
   bosnian, catalan, czech, welsh, danish, german, greek, emoji, english, scouse, australian,
   lolcat, oldEnglish, pirate, texas, esperanto, spanish, estonian, persian, finnish, french,
   irish, gujarati, galician, hebrew, hindi, croatian, creole, hungarian, indonesian, icelandic,
   italian, japanese, javanese, georgian, kannada, korean, lithuanian, luxemburgish, latvian,
   macedonian, macedonianLatin, mongolian, nepali, dutch, norwegian, panjabi, polish, portuguese,
   romanian, russian, slovak, slovenian, serbian, serbianLatin, swedish, tamil, thai, telugu,
   klingon, turkish, tatar, ukrainian, urdu, uzbek, vietnamese, chineseSimplified, malayalam,
   chineseTraditional, marathi, amharic]

/-- The dialect with a code. -/
def withCode? (code : List Char) : Option Dialect :=
  all.find? fun dialect => dialect.code.toList == code

example : all.length = 80 := by decide

end Dialect
end FeatureLexer
