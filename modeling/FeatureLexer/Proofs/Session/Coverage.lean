import FeatureLexer.Proofs.Session.Drain

/-!
# Every character is accounted for

The pieces that a lexer takes from its text, put together, are the text, and
each is a lexeme of the list `Lexeme` with the token that it gave: in a run
from the start of a text, no character is skipped.

A character is skipped only on an idle line: its start is over, but neither a
block nor a step has been opened. What makes a line idle is a description, and
a description takes the whole line. So an idle line has nothing left to skip
(`LineState.Settled`), and this is what every reading preserves: keywords make
a line busy, newlines and comments begin a new one, and all other lexemes
leave the line as it is.
-/

namespace FeatureLexer

open Text

/-- Whether a line, if it is idle, is over before a text. -/
def LineState.Settled (line : LineState) (s : List Char) : Prop :=
  line.Idle → EndsLine s

theorem LineState.settled_of_atStart {line : LineState} (h : line.atStart = true)
    (s : List Char) : line.Settled s :=
  fun hidle => absurd (h.symm.trans hidle.atStart) (by decide)

namespace Reading

theorem cell_line (line : LineState) (s : List Char) : (cell line s).line = line := by
  rw [cell]
  split
  · rfl
  · rfl

theorem lineStart_settled (language : Language) {line : LineState} (hstart : line.atStart = true)
    (c : Char) (s : List Char) :
    (lineStart language line c s).line.Settled
      ((c :: s).drop (lineStart language line c s).span.length) := by
  rw [lineStart]
  by_cases hspace : isSpace c = true
  · rw [if_pos hspace]
    exact LineState.settled_of_atStart hstart _
  rw [if_neg hspace]
  cases language.openingOf (lineUntil (· == ':') (c :: s)) with
  | block block _ => exact fun hidle => absurd hidle.block (Option.some_ne_none _)
  | step keyword _ => exact fun hidle => absurd hidle.keyword (Option.some_ne_none _)
  | unknown => exact fun _ => endsLine_drop_lineUntil_never (c :: s)

/-- **An idle line has nothing left to skip,** and so it stays. -/
theorem next_settled {language : Language} {line : LineState} {c : Char} {s : List Char}
    (h : line.Settled (c :: s)) :
    (next language line (c :: s)).line.Settled
      ((c :: s).drop (next language line (c :: s)).span.length) := by
  -- Where the line stays as it is, it is not idle: something comes that is no newline.
  have hbusy (hc : c ≠ '\n') (rest : List Char) : line.Settled rest :=
    fun hidle => absurd (h hidle) hc
  generalize hnext : next language line (c :: s) = reading
  cases next_cases hnext with
  | newline | comment => exact LineState.settled_of_atStart rfl _
  | tag hc => exact hbusy (by simp [hc]) _
  | cell hc =>
    rw [cell_line]
    exact hbusy (by simp [hc]) _
  | lineStart _ hstart => exact lineStart_settled language hstart c s
  | placeholder hc => exact hbusy (by simp [hc]) _
  | quoted hc => exact hbusy (by simp [hc]) _
  | title hc => exact hbusy hc.newline _
  | integer hc => exact hbusy hc.newline _
  | stepText hc => exact hbusy hc.newline _
  | skip hc => exact hbusy hc.newline _

/-- On a settled line, the next lexeme is on the list. -/
theorem next_takes {language : Language} (hl : language.Supported) {line : LineState} {c : Char}
    {s : List Char} (h : line.Settled (c :: s)) :
    (next language line (c :: s)).Takes language (c :: s) := by
  rcases next_takes_or_skips hl line c s with htakes | ⟨hidle, hc, _⟩
  · exact htakes
  · exact absurd (h hidle) hc

end Reading

theorem settled_of_scan_eq_append {language : Language} (hl : language.Supported)
    {line : LineState} {s : List Char} (hsettled : line.Settled s) {before later : List Reading}
    (h : scan language line s = before ++ later) :
    (lineAfter line before).Settled (later.flatMap (·.span)) := by
  induction before generalizing language line s with
  | nil =>
    rw [List.nil_append] at h
    rw [← h, flatMap_span_scan hl]
    exact hsettled
  | cons first before ih =>
    obtain ⟨hs, rfl, hbefore⟩ := next_of_scan_eq_cons hl h
    obtain ⟨c, s, rfl⟩ := List.exists_cons_of_ne_nil hs
    exact ih (Reading.supported_languageAfter _ hl) (Reading.next_settled hsettled) hbefore

/-- **Every reading of a scan is a lexeme,** in the language in force and before
the readings that follow. -/
theorem lexeme_of_scan_eq_append {language : Language} (hl : language.Supported)
    {line : LineState} {s : List Char} (hsettled : line.Settled s) {before later : List Reading}
    {reading : Reading} (h : scan language line s = before ++ reading :: later) :
    Lexeme (languageAfter language before) reading.span (later.flatMap (·.span))
      reading.token? := by
  have hl' := supported_languageAfter hl before
  have hsettled' := settled_of_scan_eq_append hl hsettled h
  have hscan := scan_of_append hl h
  obtain ⟨hs, hnext, _⟩ := next_of_scan_eq_cons hl' hscan
  obtain ⟨c, rest, hrest⟩ := List.exists_cons_of_ne_nil hs
  rw [hrest] at hsettled' hnext
  obtain ⟨after, hafter, hlexeme⟩ := Reading.next_takes hl' hsettled'
  rw [hnext] at hafter hlexeme
  rw [← hrest, List.flatMap_cons] at hafter
  rw [List.append_cancel_left hafter]
  exact hlexeme

open Lexer Pattern

/-- **Every character is accounted for.** In a supported language and in a file
that can be named, a lexer at the start of a text reads it to the end by steps
whose pieces are not empty and, put together, are the text. Each piece is a
lexeme before the pieces that follow, with the token that its step gave, in the
language that the lexer had come to there. The tokens of the text are those of
the pieces. -/
theorem lexing_accounts_for_every_character {source : Source} {fileName : List Char}
    (hname : source.fileName = .ok fileName) {language : Language} (hl : language.Supported)
    (text : List Char) :
    ∃ pieces last,
      (fresh text source language).Steps pieces last ∧ last.rest = [] ∧
      pieces.flatMap (·.span) = text ∧
      (∀ before piece later, pieces = before ++ piece :: later →
        piece.span ≠ [] ∧
        ∃ here, (fresh text source language).Steps before here ∧
          Lexeme here.language piece.span (later.flatMap (·.span)) piece.token?) ∧
      (many nextLexeme).run (fresh text source language) =
        ⟨pieces.filterMap (·.token?), last, .done⟩ ∧
      ∀ policy,
        (∃ lexed, (fresh text source language).lex policy = .ok lexed ∧
          lexed.tokens = pieces.filterMap (·.token?)) ∨
        policy = .raise ∧
          ∃ diagnostic, (fresh text source language).lex policy =
            .error (.stopped (.raised diagnostic)) := by
  obtain ⟨last, hsteps, hend⟩ := (fresh text source language).exists_steps_scan hname hl
  refine ⟨_, last, hsteps, hend, ?_, ?_, hsteps.many_run hend, fun policy => ?_⟩
  · rw [List.flatMap_map]
    exact flatMap_span_scan hl .start text
  · intro before piece later hpieces
    obtain ⟨before, others, hscan, rfl, hothers⟩ := List.map_eq_append_iff.1 hpieces
    obtain ⟨reading, later, rfl, rfl, rfl⟩ := List.map_eq_cons_iff.1 hothers
    have hlexeme := lexeme_of_scan_eq_append hl (LineState.settled_of_atStart rfl text) hscan
    have hbefore := (fresh text source language).steps_of_scan_eq_append hname hl hscan
    refine ⟨hlexeme.span_ne_nil, _, hbefore, ?_⟩
    rw [List.flatMap_map]
    exact hlexeme
  · rw [tokensOf_eq_filterMap]
    exact (fresh text source language).lex_tokens hname hl policy

/-- The theorem at work in English, on a text with a directive, a step whose
text in quotes is not closed, and a row whose last cell is not closed. -/
theorem lexing_accounts_for_every_character_english :
    ∃ pieces last,
      (fresh "# language: en\n\tGiven 1 \"a\n|b\\||c".toList .unnamed
        (.ofDialect .english)).Steps pieces last ∧ last.rest = [] ∧
      pieces.flatMap (·.span) = "# language: en\n\tGiven 1 \"a\n|b\\||c".toList := by
  obtain ⟨pieces, last, hsteps, hend, hspans, _⟩ := lexing_accounts_for_every_character
    Source.fileName_unnamed Language.supported_english
    "# language: en\n\tGiven 1 \"a\n|b\\||c".toList
  exact ⟨pieces, last, hsteps, hend, hspans⟩

end FeatureLexer
