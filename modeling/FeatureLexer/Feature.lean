import FeatureLexer.Session.Basic
import FeatureLexer.Text.LineBreak

/-!
# Reading feature files

The entry points of the library. A feature file comes as a text in memory, as
the contents of a stream, or as a file of bytes; it is read in the language
that the caller names until it declares another one. Each entry point lexes
the whole of it.

A file is decoded as strict UTF-8, with no special treatment of a byte order
mark, and each of its carriage returns counts as a line break. Texts and
streams keep carriage returns that do not stand before a newline. Of several
faults the first in the order of reading is reported: that there is no such
file, that it cannot be decoded, that the named language has no dialect.
-/

namespace FeatureLexer

/-- Why a feature file cannot be read. -/
inductive ReadError where
  /-- There is no file at a path. -/
  | missingFile (path : List Char)
  /-- The bytes of the file are not UTF-8. -/
  | undecodable
  /-- The named language has no dialect. -/
  | unsupportedLanguage (name : Option (List Char))
  /-- Lexing was stopped. -/
  | stopped (failure : Failure)
deriving Repr

/-- The message for a file that cannot be read. -/
def ReadError.message : ReadError → String
  | .missingFile path =>
    "[Errno 2] No such file or directory: " ++ String.ofList (Text.quoted path)
  | .undecodable => "The file is not encoded in UTF-8"
  | .unsupportedLanguage name => Language.unsupportedMessage name
  | .stopped failure => failure.message

/-- The tokens of a feature file with the problems found in it. -/
structure Lexed where
  tokens : List Token
  diagnostics : List Diagnostic
  /-- The warnings recorded on the way. -/
  warnings : List Diagnostic
deriving DecidableEq, Repr

/-- How a file is read beside its text. -/
structure Options where
  source : Source := .unnamed
  language : Option (List Char) := some Language.defaultName
  policy : Policy := .record
deriving DecidableEq, Repr

namespace Lexer

/-- A lexer over a text as it is. -/
def overText (text : List Char) (source : Source) (language : Option (List Char)) :
    Except ReadError Lexer :=
  match Language.requested? language with
  | some found => .ok (fresh text source found)
  | none => .error (.unsupportedLanguage language)

/-- A lexer over a text whose lines may end in a carriage return and a newline. -/
def ofText (text : List Char) (source : Source) (language : Option (List Char)) :
    Except ReadError Lexer :=
  overText (Text.joinCarriageReturns text) source language

/-- A lexer over the contents of a stream, which names the source if the caller
does not. -/
def ofStream (text : List Char) (streamName source : Source) (language : Option (List Char)) :
    Except ReadError Lexer :=
  ofText text (source.orElse streamName) language

end Lexer

/-- How a caller refers to a file. -/
inductive FileReference where
  /-- By a name, taken as it is written. -/
  | name (text : List Char)
  /-- By a path, which is shown in its normal form. -/
  | path (text : List Char)
deriving DecidableEq, Repr

namespace FileReference

/-- How the file is referred to when its source is not named otherwise. -/
def shown : FileReference → List Char
  | .name text => text
  | .path text => Path.normalize text

/-- Where the file is looked for. -/
def location : FileReference → List Char
  | .name text => Path.normalize text
  | .path text => Path.normalize text

end FileReference

/-- The text of a file, with its line breaks unified. -/
def decode? (bytes : ByteArray) : Option (List Char) :=
  (String.fromUTF8? bytes).map fun text => Text.unifyLineBreaks text.toList

/-- **A file that holds a text is read as that text,** its line breaks aside. -/
theorem decode?_toUTF8 (text : String) :
    decode? text.toUTF8 = some (Text.unifyLineBreaks text.toList) := by
  have h : text.toUTF8.IsValidUTF8 := text.isValidUTF8
  rw [decode?, String.fromUTF8?, dif_pos h]
  rfl

/-- A lexer over a file; `bytes` are its contents, if there is such a file. -/
def Lexer.ofFile (file : FileReference) (bytes : Option ByteArray) (source : Source)
    (language : Option (List Char)) : Except ReadError Lexer :=
  match bytes with
  | none => .error (.missingFile file.location)
  | some bytes =>
    match decode? bytes with
    | none => .error .undecodable
    | some text => ofText text (source.orElse (.named file.shown)) language

/-- Lexes the whole text of a lexer. -/
def Lexer.lex (lexer : Lexer) (policy : Policy) : Except ReadError Lexed :=
  match (Session.start lexer policy).drain with
  | (.error failure, _) => .error (.stopped failure)
  | (.ok tokens, after) =>
    .ok { tokens, diagnostics := after.lexer.diagnostics, warnings := after.recorded }

/-- Lexes a text. -/
def lexText (text : List Char) (options : Options) : Except ReadError Lexed := do
  (← Lexer.ofText text options.source options.language).lex options.policy

/-- Lexes the contents of a stream. -/
def lexStream (text : List Char) (streamName : Source) (options : Options) :
    Except ReadError Lexed := do
  (← Lexer.ofStream text streamName options.source options.language).lex options.policy

/-- Lexes a file. -/
def lexFile (file : FileReference) (bytes : Option ByteArray) (options : Options) :
    Except ReadError Lexed := do
  (← Lexer.ofFile file bytes options.source options.language).lex options.policy

end FeatureLexer
