import FeatureLexer.Feature

/-!
# Line breaks of texts, streams and files

A text, a stream and a file that hold the same characters are not always lexed
alike. The three entry points lead to one lexer, and where the caller names the
source, nothing is left between them but the line breaks:

| source | carriage return and newline | any other carriage return |
| --- | --- | --- |
| text, stream | newline | stays, and counts as space |
| file | newline | newline |

So a stream is lexed as its text (`lexStream_eq`), and a file as its text with
all line breaks unified (`lexFile_toUTF8`). Texts in which every carriage return
stands before a newline are lexed alike from all sources; a carriage return that
stands alone divides them.
-/

namespace FeatureLexer

open Text

/-- A source that is named stays as it is. -/
theorem Source.orElse_of_ne {source : Source} (h : source ≠ .unnamed) (other : Source) :
    source.orElse other = source := by
  cases source with
  | unnamed => exact absurd rfl h
  | named text => rfl
  | numbered number => rfl

section

variable {options : Options} (hsource : options.source ≠ .unnamed)
include hsource

/-- **A stream is lexed as its text.** -/
theorem lexStream_eq (text : List Char) (streamName : Source) :
    lexStream text streamName options = lexText text options := by
  rw [lexStream, Lexer.ofStream, Source.orElse_of_ne hsource, lexText]

/-- **A file is lexed as its text,** with all line breaks unified. -/
theorem lexFile_toUTF8 (text : List Char) (file : FileReference) :
    lexFile file (some (String.ofList text).toUTF8) options =
      lexText (unifyLineBreaks text) options := by
  rw [lexFile, Lexer.ofFile, decode?_toUTF8, String.toList_ofList]
  simp only [Source.orElse_of_ne hsource]
  rw [lexText]

end

/-- A text whose line breaks are unified first is lexed as it was, if it holds no
carriage return that stands alone. -/
theorem lexText_unifyLineBreaks {text : List Char} (h : PairsReturns text) (options : Options) :
    lexText (unifyLineBreaks text) options = lexText text options := by
  have hjoin : joinCarriageReturns (unifyLineBreaks text) = joinCarriageReturns text := by
    rw [joinCarriageReturns_eq_self (carriageReturn_notMem_unifyLineBreaks text),
      unifyLineBreaks_eq_joinCarriageReturns h]
  rw [lexText, lexText, Lexer.ofText, Lexer.ofText, hjoin]

/-- **Which sources are lexed alike.** Where the caller names the source, in every
language and under every policy, a stream is lexed as its text, with the same
failures, and a file that holds a text is lexed as that text with each of its
carriage returns taken for a line break, together with the newline behind it.
The three agree on every text in which no carriage return stands alone. -/
theorem sources_agree_up_to_lone_returns (text : List Char) (streamName : Source)
    (file : FileReference) {options : Options} (hsource : options.source ≠ .unnamed) :
    lexStream text streamName options = lexText text options ∧
    lexFile file (some (String.ofList text).toUTF8) options =
      lexText (unifyLineBreaks text) options ∧
    (PairsReturns text →
      lexFile file (some (String.ofList text).toUTF8) options = lexText text options) := by
  have hfile := lexFile_toUTF8 hsource text file
  refine ⟨lexStream_eq hsource text streamName, hfile, fun hpairs => ?_⟩
  rw [hfile, lexText_unifyLineBreaks hpairs]

/-- The theorem at work on lines that end in a carriage return and a newline. -/
theorem sources_agree_up_to_lone_returns_paired :
    let text := "Feature: a\r\n| b |\r\n".toList
    let options : Options := { source := .named "c.feature".toList }
    lexStream text .unnamed options = lexText text options ∧
      lexFile (.name "d".toList) (some (String.ofList text).toUTF8) options =
        lexText text options := by
  intro text options
  have hpairs : PairsReturns text := by decide
  have h := sources_agree_up_to_lone_returns text .unnamed (.name "d".toList)
    (by decide : options.source ≠ .unnamed)
  exact ⟨h.1, h.2.2 hpairs⟩

/-- **A carriage return that stands alone divides the sources.** In a text and in
a stream it belongs to the title of a feature, in a file it ends the line. -/
theorem lone_return_divides_sources :
    let text := "Feature: a\rb".toList
    let options : Options := { source := .named "c.feature".toList }
    (lexText text options).toOption.map (·.tokens) =
      some [.block (.block .feature), .title "a\rb".toList] ∧
    (lexStream text .unnamed options).toOption.map (·.tokens) =
      some [.block (.block .feature), .title "a\rb".toList] ∧
    (lexFile (.name "d".toList) (some (String.ofList text).toUTF8) options).toOption.map
        (·.tokens) =
      some [.block (.block .feature), .title "a".toList, .newline, .description "b".toList] := by
  intro text options
  have hsource : options.source ≠ .unnamed := by decide
  have htext : (lexText text options).toOption.map (·.tokens) =
      some [.block (.block .feature), .title "a\rb".toList] := by decide +kernel
  refine ⟨htext, ?_, ?_⟩
  · rw [lexStream_eq hsource]
    exact htext
  · rw [lexFile_toUTF8 hsource]
    decide +kernel

end FeatureLexer
