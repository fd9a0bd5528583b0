import FeatureLexer.Dialect.Basic
import FeatureLexer.Language.Listing
import FeatureLexer.Text.Blank
import FeatureLexer.Text.Quoted

/-!
# Languages

A language is a dialect made ready for lexing: one listing that says which
block a spelling opens, and one that holds the step spellings with the
longest first. `Language.openingOf` reads the start of a line with them. A
line opens a block when it is, blanks around it aside, a spelling of the
block. Otherwise it opens a step when a step spelling is a prefix of it, or
is the whole of it but for blanks; of several such spellings the longest
counts.

The bullet `*` continues the step before it, so it stands for `And` under
whichever keyword a dialect lists it.
-/

namespace FeatureLexer

/-- The bullet that continues a step. -/
def bullet : List Char := ['*']

/-- The block spellings of a dialect, without the blanks around them. -/
def Dialect.blockListing (dialect : Dialect) : Listing Block :=
  Block.all.flatMap fun block =>
    (dialect.blockSpellings block).map fun spelling => (Text.trimBlank spelling.toList, block)

/-- The step spellings of a dialect; the bullet stands for `And`. -/
def Dialect.stepListing (dialect : Dialect) : Listing StepKeyword :=
  StepKeyword.all.flatMap fun keyword =>
    (dialect.stepSpellings keyword).map fun spelling =>
      (spelling.toList, if Text.trimBlank spelling.toList == bullet then .andStep else keyword)

/-- A dialect made ready for lexing. -/
structure Language where
  code : String
  blocks : Listing Block
  steps : Listing StepKeyword
deriving DecidableEq, Repr

namespace Language

/-- Makes a dialect ready for lexing. -/
def ofDialect (dialect : Dialect) : Language where
  code := dialect.code
  blocks := dialect.blockListing.firstOfEach
  steps := dialect.stepListing.firstOfEach.longestFirst

/-- How a step spelling fits a text, given with and without the blanks around
it: as a prefix of it, or as the whole of it but for blanks. -/
def stepMatch? (text trimmed : List Char) (entry : List Char × StepKeyword) : Option Opening :=
  if entry.1.isPrefixOf text then some (.step entry.2 entry.1)
  else if trimmed == Text.trimBlank entry.1 then some (.step entry.2 trimmed)
  else none

/-- What a line opens, by the text from its start. -/
def openingOf (language : Language) (text : List Char) : Opening :=
  let trimmed := Text.trimBlank text
  match language.blocks.lookup trimmed with
  | some block => .block block trimmed
  | none => (language.steps.findSome? (stepMatch? text trimmed)).getD .unknown

/-- How a language is shown. -/
def describe (language : Language) : String :=
  "Language(" ++ String.ofList (Text.quoted language.code.toList) ++ ")"

end Language
end FeatureLexer
