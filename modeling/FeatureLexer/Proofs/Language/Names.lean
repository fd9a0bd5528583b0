import FeatureLexer.Language.Name

/-!
# The names of the table

A name is looked up in two stages: as a code, letter by letter, and if it is
none, as any of the names that the dialects go by, whatever its case. Blanks
around it are dropped before, so they do not count; but case does count in the
first stage. That two spellings of a name still mean the same language takes a
property of the table: no code is caught, in the second stage, by a name of an
earlier dialect (`Dialect.pairwise_not_goesBy_code`). A code then means the same
dialect in either stage (`Dialect.find?_goesBy_code`), and the second stage alone
decides what a name means (`Language.dialectNamed?_eq_find?`).

Folding may lengthen a name, so that one language has names of several lengths.
-/

namespace FeatureLexer

open Text

namespace Dialect

theorem pairwise_not_goesBy_code :
    all.Pairwise fun earlier later => earlier.goesBy (fold later.code.toList) = false := by
  decide +kernel

theorem trimBlank_code : ∀ dialect ∈ all, trimBlank dialect.code.toList = dialect.code.toList := by
  decide +kernel

theorem goesBy_code (dialect : Dialect) : dialect.goesBy (fold dialect.code.toList) = true := by
  simp [goesBy, names]

/-- **A code in any case means its dialect,** and not one that stands earlier in
the table. -/
theorem find?_goesBy_code {dialect : Dialect} (hd : dialect ∈ all) :
    all.find? (·.goesBy (fold dialect.code.toList)) = some dialect := by
  obtain ⟨earlier, later, hall⟩ := List.append_of_mem hd
  have hpairwise := pairwise_not_goesBy_code
  rw [hall, List.pairwise_append] at hpairwise
  rw [List.find?_eq_some_iff_append]
  refine ⟨dialect.goesBy_code, earlier, later, hall, ?_⟩
  intro other hother
  rw [hpairwise.2.2 other hother dialect List.mem_cons_self]
  rfl

end Dialect

namespace Language

/-- **A name means the first dialect that goes by it,** whatever its case and the
blanks around it. -/
theorem dialectNamed?_eq_find? (name : List Char) :
    dialectNamed? name = Dialect.all.find? (·.goesBy (fold (trimBlank name))) := by
  simp only [dialectNamed?]
  cases hcode : Dialect.withCode? (trimBlank name) with
  | none => rfl
  | some dialect =>
    have hd : dialect ∈ Dialect.all := List.mem_of_find?_eq_some hcode
    have hname : dialect.code.toList = trimBlank name := by
      simpa using List.find?_some hcode
    rw [← hname]
    exact (Dialect.find?_goesBy_code hd).symm

/-- **The code of a dialect means that dialect.** -/
theorem dialectNamed?_code {dialect : Dialect} (hd : dialect ∈ Dialect.all) :
    dialectNamed? dialect.code.toList = some dialect := by
  rw [dialectNamed?_eq_find?, Dialect.trimBlank_code dialect hd, Dialect.find?_goesBy_code hd]

/-- As a code it is found right away. -/
theorem withCode?_code {dialect : Dialect} (hd : dialect ∈ Dialect.all) :
    Dialect.withCode? dialect.code.toList = some dialect := by
  have hnamed := dialectNamed?_code hd
  simp only [dialectNamed?, Dialect.trimBlank_code dialect hd] at hnamed
  cases hcode : Dialect.withCode? dialect.code.toList with
  | some found =>
    rw [hcode] at hnamed
    exact hnamed
  | none => exact absurd BEq.rfl (List.find?_eq_none.1 hcode dialect hd)

end Language

/-- **Neither case nor blanks around it change what a name means.** Names that
agree when they are folded and trimmed mean the same language, or none. The code
of a language that a name means is a code of the table, that of the dialect it is
made of, and means the same language. -/
theorem names_mean_alike_in_any_case :
    (∀ name other : List Char, fold (trimBlank name) = fold (trimBlank other) →
      Language.named? name = Language.named? other) ∧
    ∀ (name : List Char) (language : Language), Language.named? name = some language →
      (∃ dialect, Dialect.withCode? language.code.toList = some dialect ∧
        language = .ofDialect dialect) ∧
      Language.named? language.code.toList = some language := by
  constructor
  · intro name other h
    rw [Language.named?, Language.named?, Language.dialectNamed?_eq_find?,
      Language.dialectNamed?_eq_find?, h]
  · intro name language h
    obtain ⟨dialect, hd, rfl⟩ := Language.exists_dialect_of_named? h
    refine ⟨⟨dialect, Language.withCode?_code hd, rfl⟩, ?_⟩
    show (Language.dialectNamed? dialect.code.toList).map Language.ofDialect = _
    rw [Language.dialectNamed?_code hd]
    rfl

/-- The theorem at work on a name that is no code, with blanks around it and with a
ligature that stands for two letters. -/
theorem names_mean_alike_in_any_case_asturian :
    let name := "\tA\ufb06urian\u3000".toList
    ∃ language, Language.named? name = some language ∧ language.code = "ast" ∧
      Language.named? "ASTURIAN\n".toList = some language ∧
      Language.named? "ast".toList = some language := by
  intro name
  have hcode : (Language.named? name).map (·.code) = some "ast" := by decide +kernel
  have hfold : fold (trimBlank name) = fold (trimBlank "ASTURIAN\n".toList) := by decide +kernel
  obtain ⟨language, hlanguage, hast⟩ := Option.map_eq_some_iff.1 hcode
  obtain ⟨_, hsame⟩ := names_mean_alike_in_any_case.2 name language hlanguage
  rw [hast] at hsame
  refine ⟨language, hlanguage, hast, ?_, hsame⟩
  rw [← names_mean_alike_in_any_case.1 name _ hfold, hlanguage]

end FeatureLexer
