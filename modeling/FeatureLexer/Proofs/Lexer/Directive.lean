import FeatureLexer.Language.Name
import FeatureLexer.Lexer.Directive

/-!
# What directives say

`Directive.declaredName?` reads a comment from the left. `Directive.Declares`
says without any reading what it finds: the word `language` and a colon, with
blanks around the word, and then the name, without the blanks around it. Since
neither the word nor the colon is blank, a comment can be written like that in
one way at most, and the reading finds it (`declaredName?_eq_some_iff`).

Of the directives in a text, each that names no language is a problem
(`DeclaresUnsupported`), and the last that names one decides which language is
in force behind them (`Leaves`).
-/

namespace FeatureLexer
namespace Directive

open Text

/-- Whether a comment declares a name for the language. -/
def Declares (comment name : List Char) : Prop :=
  ∃ before between rest, comment = before ++ (word ++ (between ++ ':' :: rest)) ∧
    (∀ c ∈ before, isBlank c = true) ∧ (∀ c ∈ between, isBlank c = true) ∧ name = trimBlank rest

/-- A run of blanks ends before what is not blank. -/
theorem dropWhile_blanks {blanks : List Char} (h : ∀ c ∈ blanks, isBlank c = true) {s : List Char}
    (hs : ∀ c ∈ s.head?, isBlank c = false) : (blanks ++ s).dropWhile isBlank = s := by
  rw [List.dropWhile_append_of_pos h]
  cases s with
  | nil => rfl
  | cons c s => exact List.dropWhile_cons_of_neg (by simp [hs c rfl])

/-- The blanks at the start of a text, and what follows them. -/
theorem exists_blanks (s : List Char) :
    ∃ blanks, s = blanks ++ s.dropWhile isBlank ∧ ∀ c ∈ blanks, isBlank c = true :=
  ⟨s.takeWhile isBlank, List.takeWhile_append_dropWhile.symm,
    fun c hc => List.all_eq_true.1 List.all_takeWhile c hc⟩

theorem dropLead?_eq_some_iff {lead s rest : List Char} :
    dropLead? lead s = some rest ↔ s = lead ++ rest := by
  rw [dropLead?]
  constructor
  · intro h
    split at h
    next hlead =>
      obtain rfl := Option.some.inj h
      exact (List.prefix_iff_eq_append.1 (List.isPrefixOf_iff_prefix.1 hlead)).symm
    next => exact absurd h (by simp)
  · rintro rfl
    rw [if_pos (List.isPrefixOf_iff_prefix.2 (List.prefix_append lead rest)), List.drop_left]

theorem declaredName?_of_declares {comment name : List Char} (h : Declares comment name) :
    declaredName? comment = some name := by
  obtain ⟨before, between, rest, rfl, hbefore, hbetween, rfl⟩ := h
  have hword : (before ++ (word ++ (between ++ ':' :: rest))).dropWhile isBlank =
      word ++ (between ++ ':' :: rest) := by
    refine dropWhile_blanks hbefore fun c hc => ?_
    obtain rfl : 'l' = c := Option.some.inj hc
    decide
  have hcolon : (between ++ ':' :: rest).dropWhile isBlank = ':' :: rest := by
    refine dropWhile_blanks hbetween fun c hc => ?_
    obtain rfl : ':' = c := Option.some.inj hc
    decide
  simp only [declaredName?, hword, dropLead?_eq_some_iff.2 rfl, hcolon]

theorem declares_of_declaredName? {comment name : List Char}
    (h : declaredName? comment = some name) : Declares comment name := by
  rw [declaredName?] at h
  split at h
  next => exact absurd h (by simp)
  next afterWord hword =>
    split at h
    next rest hcolon =>
      obtain ⟨before, hcomment, hbefore⟩ := exists_blanks comment
      obtain ⟨between, hafter, hbetween⟩ := exists_blanks afterWord
      rw [dropLead?_eq_some_iff.1 hword] at hcomment
      rw [hcolon] at hafter
      rw [hafter] at hcomment
      exact ⟨before, between, rest, hcomment, hbefore, hbetween, (Option.some.inj h).symm⟩
    next => exact absurd h (by simp)

/-- **A directive is read as it is written.** -/
theorem declaredName?_eq_some_iff {comment name : List Char} :
    declaredName? comment = some name ↔ Declares comment name :=
  ⟨declares_of_declaredName?, declaredName?_of_declares⟩

/-- Whether a comment declares a name that means no language. -/
def DeclaresUnsupported (comment : List Char) : Prop :=
  ∃ name, Declares comment name ∧ Language.named? name = none

theorem declaresUnsupported_iff (comment : List Char) :
    (declaredName? comment).any (fun name => (Language.named? name).isNone) = true ↔
      DeclaresUnsupported comment := by
  simp only [DeclaresUnsupported, ← declaredName?_eq_some_iff, Option.any_eq_true,
    Option.isNone_iff_eq_none]

instance (comment : List Char) : Decidable (DeclaresUnsupported comment) :=
  decidable_of_iff _ (declaresUnsupported_iff comment)

/-- The language that comments leave in force: that of the last directive among
them whose name means one, or the language before them if there is none. -/
inductive Leaves (language : Language) (comments : List (List Char)) : Language → Prop where
  | unchanged
      (h : ∀ comment ∈ comments, ∀ name, Declares comment name → Language.named? name = none) :
      Leaves language comments language
  | changed {before later : List (List Char)} {comment name : List Char} {adopted : Language}
      (hcomments : comments = before ++ comment :: later) (hname : Declares comment name)
      (hadopted : Language.named? name = some adopted)
      (hlater : ∀ other ∈ later, ∀ name, Declares other name → Language.named? name = none) :
      Leaves language comments adopted

/-- One comment more, in front of the others: they start from the language that
it declares, if it declares one. -/
theorem Leaves.cons {language final : Language} {comment : List Char}
    {comments : List (List Char)}
    (h : Leaves (((declaredName? comment).bind Language.named?).getD language) comments final) :
    Leaves language (comment :: comments) final := by
  cases h with
  | changed hcomments hname hadopted hlater =>
    exact .changed (by rw [hcomments, List.cons_append]) hname hadopted hlater
  | unchanged hnone =>
    cases hadopted : (declaredName? comment).bind Language.named? with
    | some adopted =>
      obtain ⟨name, hname, hnamed⟩ := Option.bind_eq_some_iff.1 hadopted
      exact .changed (List.nil_append _).symm (declaredName?_eq_some_iff.1 hname) hnamed hnone
    | none =>
      refine .unchanged fun other hother name hname => ?_
      rcases List.mem_cons.1 hother with rfl | hother
      · rw [declaredName?_of_declares hname] at hadopted
        exact hadopted
      · exact hnone other hother name hname

end Directive
end FeatureLexer
