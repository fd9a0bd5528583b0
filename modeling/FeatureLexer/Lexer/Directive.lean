import FeatureLexer.Text.Blank

/-!
# Language directives

A comment declares the language of what follows it when it reads
`language: name`, with any blanks around the word `language`, the colon and
the name.
-/

namespace FeatureLexer
namespace Directive

/-- The word that makes a comment a directive. -/
def word : List Char := "language".toList

/-- What is left of a text that begins with `lead`. -/
def dropLead? (lead s : List Char) : Option (List Char) :=
  if lead.isPrefixOf s then some (s.drop lead.length) else none

/-- The name that a comment declares, if it is a directive. The comment is
given without its mark and without the newline that ends it. -/
def declaredName? (comment : List Char) : Option (List Char) :=
  match dropLead? word (comment.dropWhile Text.isBlank) with
  | none => none
  | some afterWord =>
    match afterWord.dropWhile Text.isBlank with
    | ':' :: name => some (Text.trimBlank name)
    | _ => none

example : declaredName? " language : fr ".toList = some "fr".toList := by decide +kernel

example : declaredName? "languages: fr".toList = none := by decide +kernel

end Directive
end FeatureLexer
