import FeatureLexer.Proofs.Session.Drain

/-!
# Lexing makes progress and comes to an end

Nothing in the lexer counts its steps: a repetition runs until a step refuses,
and some steps give no token. It ends because every step before the end of
the text takes a character at least, in whatever state the lexer is. For the
keywords this rests on the dialects: a keyword that was spelled with blanks
alone would be found again and again at one place
(`FeatureLexer.Proofs.Language.Spelling`).
-/

namespace FeatureLexer
namespace Lexer

open Pattern

variable {lexer : Lexer} {fileName : List Char}

theorem length_text (lexer : Lexer) (h : lexer.pos ≤ lexer.cursor.text.length) :
    lexer.pos + lexer.rest.length = lexer.cursor.text.length := by
  have hrest : lexer.rest = lexer.cursor.text.drop lexer.pos := lexer.cursor.rest_eq
  rw [hrest, List.length_drop]
  omega

/-- **A step advances** within the text, from every state of the lexer. -/
theorem exists_nextLexeme_run (hname : lexer.source.fileName = .ok fileName)
    (hl : lexer.language.Supported) (hpos : lexer.pos < lexer.cursor.text.length) :
    ∃ token? next, nextLexeme.run lexer = ⟨Option.toList token?, next, .done⟩ ∧
      next.cursor.text = lexer.cursor.text ∧ lexer.pos < next.pos ∧
      next.pos ≤ lexer.cursor.text.length := by
  have hlength := lexer.length_text (Nat.le_of_lt hpos)
  have hrest : lexer.rest ≠ [] := by
    rw [← List.length_pos_iff]
    omega
  obtain ⟨hsplit, hnext, hne⟩ := lexer.past_next fileName hl hrest
  have hspan := List.length_pos_iff.2 hne
  rw [hsplit, List.length_append] at hlength
  refine ⟨_, _, nextLexeme_run_eq hname hrest, rfl, ?_, ?_⟩
  · omega
  · omega

/-- The end of the text is accepted where the steps come to it. -/
theorem endOfText_of_ended (h : lexer.rest = []) : lexer.endOfText = .silent lexer := by
  rw [endOfText, h]

end Lexer

open Lexer Pattern

/-- **Lexing makes progress and comes to an end.** In a supported language and
in a file that can be named, a step before the end of the text succeeds from
every state, gives a token at most and moves on within the text. So lexing a
text takes as many steps as it has characters at most, and gives as many
tokens at most; the repetition of steps is left at the end of the text, where
one step more is refused and the end is accepted; and nothing stops the lexing
but a warning that is raised. -/
theorem lexing_makes_progress_and_ends {source : Source} {fileName : List Char}
    (hname : source.fileName = .ok fileName) {language : Language} (hl : language.Supported) :
    (∀ lexer : Lexer, lexer.source = source → lexer.language = language →
      lexer.pos < lexer.cursor.text.length →
        ∃ token? next, nextLexeme.run lexer = ⟨Option.toList token?, next, .done⟩ ∧
          next.cursor.text = lexer.cursor.text ∧ lexer.pos < next.pos ∧
          next.pos ≤ lexer.cursor.text.length) ∧
    ∀ text : List Char, ∃ pieces last,
      (fresh text source language).Steps pieces last ∧ pieces.length ≤ text.length ∧
      last.pos = text.length ∧ nextLexeme.run last = .refuse (.ended text.length) last ∧
      (many nextLexeme).run (fresh text source language) =
        ⟨pieces.filterMap (·.token?), last, .done⟩ ∧
      (pieces.filterMap (·.token?)).length ≤ text.length ∧
      last.endOfText = .silent last ∧
      ∀ policy,
        (∃ lexed, (fresh text source language).lex policy = .ok lexed ∧
          lexed.tokens = pieces.filterMap (·.token?)) ∨
        policy = .raise ∧
          ∃ diagnostic, (fresh text source language).lex policy =
            .error (.stopped (.raised diagnostic)) := by
  constructor
  · rintro lexer rfl rfl hpos
    exact exists_nextLexeme_run hname hl hpos
  · intro text
    obtain ⟨last, hsteps, hend⟩ := (fresh text source language).exists_steps_scan hname hl
    have hlength : ((scan language .start text).map (·.toPiece)).length ≤ text.length := by
      have hcount := hsteps.length_add_le
      rw [hend] at hcount
      exact hcount
    have hlast : last.pos = text.length := by
      have hpos := hsteps.pos_eq
      have hrest := hsteps.rest_eq
      rw [hend, List.append_nil] at hrest
      rw [hpos, ← hrest]
      exact Nat.zero_add _
    have hrefuse := nextLexeme_run_of_ended hend
    rw [hlast] at hrefuse
    refine ⟨_, last, hsteps, hlength, hlast, hrefuse, hsteps.many_run hend, ?_,
      endOfText_of_ended hend, fun policy => ?_⟩
    · exact Nat.le_trans (List.length_filterMap_le _ _) hlength
    · rw [tokensOf_eq_filterMap]
      exact (fresh text source language).lex_tokens hname hl policy

/-- The theorem at work in English: on a text of three lines, and in a state
that no text leads to, with a block and a step opened on one line. -/
theorem lexing_makes_progress_and_ends_english :
    (∃ pieces last,
      (fresh "Feature: a\n# language: xx\n  Given 1 <b\n".toList .unnamed
        (.ofDialect .english)).Steps pieces last ∧ pieces.length ≤ 39 ∧ last.pos = 39) ∧
    ∃ token? next, nextLexeme.run
        { fresh "<>\"x".toList .unnamed (.ofDialect .english) with
          cursor := (Cursor.ofText "<>\"x".toList).seek 2
          line := ⟨false, some .unknown, some .givenStep⟩ } = ⟨Option.toList token?, next, .done⟩ ∧
      2 < next.pos ∧ next.pos ≤ 4 := by
  have h := lexing_makes_progress_and_ends Source.fileName_unnamed Language.supported_english
  constructor
  · obtain ⟨pieces, last, hsteps, hlength, hlast, _⟩ :=
      h.2 "Feature: a\n# language: xx\n  Given 1 <b\n".toList
    exact ⟨pieces, last, hsteps, hlength, hlast⟩
  · obtain ⟨token?, next, hrun, _, hlt, hle⟩ := h.1
      { fresh "<>\"x".toList .unnamed (.ofDialect .english) with
        cursor := (Cursor.ofText "<>\"x".toList).seek 2
        line := ⟨false, some .unknown, some .givenStep⟩ } rfl rfl (by decide)
    exact ⟨token?, next, hrun, hlt, hle⟩

end FeatureLexer
