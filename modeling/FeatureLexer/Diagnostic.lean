/-!
# Diagnostics

Problems with a file never stop its lexing. Each is kept as a diagnostic and
later given out as a warning; what is then done with it is up to a policy.
-/

namespace FeatureLexer

/-- The kinds of problems. -/
inductive Category where
  /-- Any problem with a file. -/
  | general
  /-- The file declares a language that has no dialect; the language before it
  stays in force. -/
  | unsupportedLanguage
  /-- The file holds nothing but descriptions and blank lines. -/
  | noStructure
deriving DecidableEq, Repr

/-- A problem found in a file. -/
structure Diagnostic where
  category : Category
  fileName : List Char
  problem : String
deriving DecidableEq, Repr

/-- The message of a diagnostic, which names the file first. -/
def Diagnostic.message (diagnostic : Diagnostic) : String :=
  "File: " ++ String.ofList diagnostic.fileName ++ " " ++ diagnostic.problem

/-- What is done with a warning that is given out. -/
inductive Policy where
  | record
  | discard
  /-- The first warning stops the lexing. -/
  | raise
deriving DecidableEq, Repr

end FeatureLexer
