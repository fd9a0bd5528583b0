import FeatureLexer.Keyword

/-!
# Dialects

A dialect lists how the keywords are spelled in one natural language. It goes
by a code (`fr`), an English name (`French`) and a native name (`français`).

The spellings of blocks are whole words or phrases, which a colon follows in
the file. The spellings of step keywords are followed by the text of the
step: most of them end in a space, which is part of the spelling; in
languages written without spaces they do not. One spelling may be listed for
several keywords, as nearly every dialect lists the bullet `* `.
-/

namespace FeatureLexer

/-- The keywords of one natural language. -/
structure Dialect where
  code : String
  name : String
  native : String
  blockSpellings : Block → List String
  stepSpellings : StepKeyword → List String

/-- The names that a dialect goes by. -/
def Dialect.names (dialect : Dialect) : List String :=
  [dialect.code, dialect.name, dialect.native]

end FeatureLexer
