import FeatureLexer.Dialect.Table
import FeatureLexer.Language.Basic
import FeatureLexer.Text.Folding

/-!
# Names of languages

A language is asked for by the code, the English name or the native name of
its dialect. Blanks around the name do not count. A name that is a code means
the dialect with that code; any other name means the first dialect of the
table that goes by it when case is ignored.
-/

namespace FeatureLexer

/-- Whether a dialect goes by a name whose folded form is given. -/
def Dialect.goesBy (dialect : Dialect) (folded : List Char) : Bool :=
  dialect.names.any fun name => Text.fold name.toList == folded

namespace Language

/-- The dialect that a name means. -/
def dialectNamed? (name : List Char) : Option Dialect :=
  let trimmed := Text.trimBlank name
  match Dialect.withCode? trimmed with
  | some dialect => some dialect
  | none =>
    let folded := Text.fold trimmed
    Dialect.all.find? fun dialect => dialect.goesBy folded

/-- The language that a name means, if there is one. -/
def named? (name : List Char) : Option Language :=
  (dialectNamed? name).map ofDialect

/-- The language that is asked for, if a name is given and means one. -/
def requested? (name : Option (List Char)) : Option Language :=
  name.bind named?

/-- The name of the language in which a file is read unless it is told
otherwise. -/
def defaultName : List Char := "en".toList

/-- **Unless it is told otherwise,** a file is read in English. -/
theorem requested?_defaultName : requested? (some defaultName) = some (ofDialect .english) := by
  rfl

/-- The message for a name that means no language. -/
def unsupportedMessage (name : Option (List Char)) : String :=
  "No gherkin dialect for " ++
    match name with
    | some text => String.ofList (Text.quoted text)
    | none => "None"

/-- **Blanks around a name do not count.** -/
theorem named?_congr {name other : List Char}
    (h : Text.trimBlank name = Text.trimBlank other) : named? name = named? other := by
  simp only [named?, dialectNamed?, h]

theorem exists_dialect_of_named? {name : List Char} {language : Language}
    (h : named? name = some language) :
    ∃ dialect ∈ Dialect.all, language = ofDialect dialect := by
  obtain ⟨dialect, hd, rfl⟩ := Option.map_eq_some_iff.1 h
  refine ⟨dialect, ?_, rfl⟩
  simp only [dialectNamed?] at hd
  split at hd
  next found hfound =>
    obtain rfl := Option.some.inj hd
    exact List.mem_of_find?_eq_some hfound
  next => exact List.mem_of_find?_eq_some hd

end Language
end FeatureLexer
