import FeatureLexer.Text.Quoted

/-!
# Refusals

A rule that does not apply where the lexer stands refuses, with the position
and with what it had expected there. A choice between rules refuses when all
of them do, with the refusals of all.
-/

namespace FeatureLexer

/-- Why a rule does not apply. -/
inductive Refusal where
  /-- Another character, or the end of the text, stands where `char` was expected. -/
  | char (char : Char) (pos : Nat) (found : Option Char)
  /-- Something has been read on the line. -/
  | lineStart (pos : Nat)
  /-- No space comes next. -/
  | space (pos : Nat)
  /-- The line does not open a block. -/
  | blockKeyword (pos : Nat)
  /-- The line does not open a step. -/
  | stepKeyword (pos : Nat)
  /-- A title needs the keyword of a block before it. -/
  | titleBlock (pos : Nat)
  /-- No digit comes next. -/
  | integer (pos : Nat)
  /-- The text of a step needs a step keyword before it. -/
  | stepTextKeyword (pos : Nat)
  /-- No text of a step comes next. -/
  | stepText (pos : Nat)
  /-- The text has not ended. -/
  | endOfText (pos : Nat) (found : Char)
  /-- The text has ended. -/
  | ended (pos : Nat)
  /-- All rules of a choice refuse. -/
  | noneOf (refusals : List Refusal)
deriving Repr

namespace Refusal

/-- A character between quotes; the end of the text is an empty text. -/
def shown (c : Option Char) : String :=
  String.ofList (Text.quoted c.toList)

mutual

/-- The message of a refusal. -/
def message : Refusal → String
  | .char c pos found => "Expected " ++ shown c ++ " at " ++ toString pos ++ ", got " ++ shown found
  | .lineStart pos => "Expected start of line at " ++ toString pos
  | .space pos => "Expected space at " ++ toString pos
  | .blockKeyword pos => "Expected scope keyword at " ++ toString pos
  | .stepKeyword pos => "Expected step keyword at " ++ toString pos
  | .titleBlock pos => "Expected scope before title at " ++ toString pos
  | .integer pos => "Expected integer at " ++ toString pos
  | .stepTextKeyword pos => "Expected step keyword before match at " ++ toString pos
  | .stepText pos => "Expected match at " ++ toString pos
  | .endOfText pos found =>
    "Expected end of file at " ++ toString pos ++ " got " ++ String.singleton found
  | .ended pos => "End of stream at " ++ toString pos
  | .noneOf refusals =>
    "Tokenization failed, due to one of\n*" ++ String.intercalate "\n*" (messages refusals)

/-- The messages of several refusals. -/
def messages : List Refusal → List String
  | [] => []
  | refusal :: refusals => refusal.message :: messages refusals

end

end Refusal
end FeatureLexer
