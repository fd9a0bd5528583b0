import FeatureLexer.Proofs.Lexer.Directive
import FeatureLexer.Proofs.Session.Lines

/-!
# Two ways to choose a language

A caller can name the language of a text, or the first line of the text can be
a directive with the same name. Both come to the same. The name is found either
way: blanks around it do not count, neither those of the directive nor those of
the name itself, and a carriage return at the end of the name, which is lost in
front of the newline, is a blank too (`exists_directive`). The comment takes its
newline with it and gives no token, so that the lexer behind it is at the start
of a line, in the language of the directive, with nothing found
(`scan_directive`).
-/

namespace FeatureLexer

open Text

/-- The trimmed form of a name, behind the blanks of a directive. -/
theorem Directive.declares_language (name : List Char) :
    Declares (" language: ".toList ++ name) (trimBlank name) := by
  have hblank : ∀ c ∈ [' '], isBlank c = true := List.forall_mem_singleton.2 (by decide)
  refine ⟨[' '], [], ' ' :: name, rfl, hblank, List.forall_mem_nil _, ?_⟩
  exact (trim_append_left isBlank hblank name).symm

/-- **A directive on the first line** of a text puts its language in force, and
that is all. -/
theorem scan_directive {language adopted : Language} (hl : language.Supported)
    {comment name : List Char} (hline : '\n' ∉ comment)
    (hdeclares : Directive.Declares comment name)
    (hadopted : Language.named? name = some adopted) (text : List Char) :
    ∃ reading : Reading, reading.token? = none ∧ (∀ fileName, reading.problems fileName = []) ∧
      scan language .start ('#' :: comment ++ '\n' :: text) =
        reading :: scan adopted .start text := by
  have hname : (Reading.comment (comment ++ ['\n'])).declared? = some name := by
    rw [Reading.comment_append_newline hline]
    exact Directive.declaredName?_of_declares hdeclares
  have hafter : languageAfter language [Reading.comment (comment ++ ['\n'])] = adopted := by
    show (Reading.comment (comment ++ ['\n'])).languageAfter language = adopted
    rw [Reading.languageAfter, hname, Option.bind_some, hadopted, Option.getD_some]
  refine ⟨Reading.comment (comment ++ ['\n']), rfl, fun fileName => ?_, ?_⟩
  · simp only [Reading.problems, hname, hadopted, Option.isSome_some, if_true]
  · rw [scan_lines hl, (scan_comment hl .start hline).2, hafter, List.singleton_append]

/-- The first line of a text, if it is a directive with the given name: a comment
that declares what means the same language. -/
theorem exists_directive {name : List Char} (hline : '\n' ∉ name) (text : List Char) :
    ∃ comment declared, '\n' ∉ comment ∧ Directive.Declares comment declared ∧
      Language.named? declared = Language.named? name ∧
      joinCarriageReturns ("# language: ".toList ++ name ++ '\n' :: text) =
        '#' :: comment ++ '\n' :: joinCarriageReturns text := by
  obtain ⟨kept, hkept, hjoin⟩ := joinCarriageReturns_append_newline hline text
  have htrim : trimBlank name = trimBlank kept := by
    rcases hkept with rfl | rfl
    · rfl
    · exact trim_append_right isBlank kept (List.forall_mem_singleton.2 (by decide))
  have hline' : '\n' ∉ " language: ".toList ++ kept := by
    rw [List.mem_append, not_or]
    refine ⟨by decide, fun hmem => hline ?_⟩
    rcases hkept with rfl | rfl
    · exact hmem
    · exact List.mem_append_left _ hmem
  refine ⟨_, _, hline', Directive.declares_language kept, ?_, ?_⟩
  · exact Language.named?_congr ((trim_trim isBlank kept).trans htrim.symm)
  · rw [List.append_assoc, joinCarriageReturns_append (by decide), hjoin]
    rfl

/-- **A directive chooses a language like the caller does.** In a file that can be
named, with any language to begin with and under any policy, a text behind the
line `# language: name` is lexed as the text alone, where the caller asks for
that name. Blanks around the name and the case of its letters count for neither.
Where no warning is raised, both succeed. -/
theorem directive_chooses_language_like_caller {source : Source} {fileName : List Char}
    (hname : source.fileName = .ok fileName) {initial : Option (List Char)} {first : Language}
    (hinitial : Language.requested? initial = some first) {name : List Char} {language : Language}
    (hline : '\n' ∉ name) (hlanguage : Language.named? name = some language) (text : List Char)
    (policy : Policy) :
    lexText ("# language: ".toList ++ name ++ '\n' :: text) ⟨source, initial, policy⟩ =
        lexText text ⟨source, some name, policy⟩ ∧
      (policy ≠ .raise → ∃ lexed, lexText text ⟨source, some name, policy⟩ = .ok lexed) := by
  have hrequested : Language.requested? (some name) = some language := hlanguage
  obtain ⟨comment, declared, hcomment, hdeclares, hsame, hjoin⟩ := exists_directive hline text
  obtain ⟨reading, htoken, hproblems, hscan⟩ :=
    scan_directive (Language.supported_of_requested? hinitial) hcomment hdeclares
      (hsame.trans hlanguage) (joinCarriageReturns text)
  rw [lexText_eq hname hinitial, lexText_eq hname hrequested, hjoin, hscan]
  constructor
  · rw [foundIn, foundIn, tokensOf_cons_of_none htoken, List.flatMap_cons, hproblems,
      List.nil_append]
  · intro hpolicy
    cases policy with
    | record => exact ⟨_, rfl⟩
    | discard => exact ⟨_, rfl⟩
    | raise => exact absurd rfl hpolicy

/-- The theorem at work: a name in capitals with blanks around it, the last of
which is taken for a part of the line break in one of the texts. -/
theorem directive_chooses_language_like_caller_afrikaans :
    lexText "# language: \tAFRIKAANS\r\nGegewe 1".toList
        ⟨.unnamed, some Language.defaultName, .record⟩ =
      lexText "Gegewe 1".toList ⟨.unnamed, some "\tAFRIKAANS\r".toList, .record⟩ ∧
    ∃ lexed,
      lexText "Gegewe 1".toList ⟨.unnamed, some "\tAFRIKAANS\r".toList, .record⟩ = .ok lexed := by
  have hnamed : (Language.named? "\tAFRIKAANS\r".toList).isSome = true := by decide +kernel
  obtain ⟨language, hlanguage⟩ := Option.isSome_iff_exists.1 hnamed
  have h := directive_chooses_language_like_caller Source.fileName_unnamed
    Language.requested?_defaultName (by decide) hlanguage "Gegewe 1".toList .record
  exact ⟨h.1, h.2 (by decide)⟩

end FeatureLexer
