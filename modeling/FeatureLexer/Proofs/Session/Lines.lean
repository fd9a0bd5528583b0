import FeatureLexer.Proofs.Session.Drain

/-!
# Lexing goes line by line

The only thing that one line of a text leaves to the next is the language in
force. A text whose first part ends in a newline is lexed part by part: the
second part is lexed as if it stood alone, in the language that the first part
leaves behind (`scan_append`, `lineAfter_scan`), and tokens, problems and the
verdict on the text are put together from those of the parts.

The newline at the end of a line gives a token, and changes nothing before it,
unless the line ends in a comment: the newline of a comment belongs to the
comment (`tokensOf_scan_append_newline`).
-/

namespace FeatureLexer

open Text

/-- Whether the last of the pieces of a text is a comment. -/
def endsInComment (pieces : List Piece) : Bool :=
  pieces.getLast?.any fun piece => piece.token?.isNone && piece.span.head? == some '#'

/-- The diagnostics of a category that a session has noted. -/
def Session.noted (session : Session) (category : Category) : List Diagnostic :=
  session.lexer.diagnostics.filter (·.category = category)

/-! ### The newline at the end of a line -/

theorem endsInComment_cons {piece : Piece} (h : piece.span.head? ≠ some '#')
    (pieces : List Piece) : endsInComment (piece :: pieces) = endsInComment pieces := by
  cases pieces with
  | nil => simp [endsInComment, h]
  | cons second pieces => rfl

namespace Reading

/-- The comment on a line that ends the text. -/
theorem comment_of_newline_notMem {s : List Char} (h : '\n' ∉ s) :
    comment s = ⟨⟨'#' :: s, none⟩, .start, Directive.declaredName? s⟩ := by
  have hline : lineUntil never s = s := lineUntil_never_eq_self h
  simp [comment, hline, leading]

/-- The same comment with its newline. -/
theorem comment_append_newline {s : List Char} (h : '\n' ∉ s) :
    comment (s ++ ['\n']) =
      ⟨⟨'#' :: s ++ ['\n'], none⟩, .start, Directive.declaredName? s⟩ := by
  have hhides : Hides s ['\n'] := Or.inr rfl
  have hline : lineUntil never (s ++ ['\n']) = s := by
    rw [lineUntil_append_of_hides hhides, lineUntil_never_eq_self h]
  simp [comment, hline, leading]

end Reading

theorem scan_newline (language : Language) (line : LineState) :
    scan language line ['\n'] = [⟨⟨['\n'], some .newline⟩, .start, none⟩] := by
  rw [scan, List.drop_nil, scan_nil]
  rfl

/-- A line that begins with a comment is that comment, with or without its
newline. -/
theorem scan_comment {language : Language} (hl : language.Supported) (line : LineState)
    {s : List Char} (h : '\n' ∉ s) :
    scan language line ('#' :: s) = [Reading.comment s] ∧
      scan language line ('#' :: s ++ ['\n']) = [Reading.comment (s ++ ['\n'])] := by
  constructor
  · have hnext : Reading.next language line ('#' :: s) = Reading.comment s := rfl
    rw [scan_cons hl, hnext, Reading.comment_of_newline_notMem h]
    simp
  · have hnext : Reading.next language line ('#' :: (s ++ ['\n'])) =
        Reading.comment (s ++ ['\n']) := rfl
    rw [List.cons_append, scan_cons hl, hnext, Reading.comment_append_newline h]
    simp

/-- **The newline at the end of a line** gives a token, unless it belongs to a
comment. -/
theorem tokensOf_scan_append_newline {language : Language} (hl : language.Supported)
    (line : LineState) {s : List Char} (h : '\n' ∉ s) :
    tokensOf (scan language line (s ++ ['\n'])) = tokensOf (scan language line s) ++
      if endsInComment ((scan language line s).map (·.toPiece)) then [] else [.newline] := by
  induction hl, line, s using scan_induction with
  | nil language hl line =>
    rw [List.nil_append, scan_newline, scan_nil]
    rfl
  | cons language hl line reading after hne hnext ih =>
    obtain ⟨c, span, hspan⟩ := List.exists_cons_of_ne_nil hne
    by_cases hc : c = '#'
    · rw [hspan, hc, List.cons_append] at h ⊢
      have hs : '\n' ∉ span ++ after := fun hmem => h (List.mem_cons_of_mem _ hmem)
      obtain ⟨hscan, hscan'⟩ := scan_comment hl line hs
      rw [hscan, hscan', Reading.comment_of_newline_notMem hs, Reading.comment_append_newline hs]
      rfl
    · have hafter : '\n' ∉ after := fun hmem => h (List.mem_append_right _ hmem)
      have hnext' : Reading.next language line (reading.span ++ (after ++ ['\n'])) = reading := by
        rw [← List.append_assoc]
        refine Eq.trans ?_ hnext
        rw [hspan, List.cons_append]
        exact Reading.next_append_of_hides language line (Or.inr rfl) (absurd · hc)
      have hhead : reading.toPiece.span.head? ≠ some '#' := by
        rw [hspan]
        simpa using hc
      rw [List.append_assoc, scan_span_append hl hne hnext', scan_span_append hl hne hnext,
        List.map_cons, endsInComment_cons hhead]
      cases htoken : reading.token? with
      | none => rw [tokensOf_cons_of_none htoken, tokensOf_cons_of_none htoken, ih hafter]
      | some token =>
        rw [tokensOf_cons_of_some htoken, tokensOf_cons_of_some htoken, ih hafter, List.cons_append]

/-! ### The parts of a text -/

theorem tokensOf_append (first second : List Reading) :
    tokensOf (first ++ second) = tokensOf first ++ tokensOf second :=
  List.filterMap_append

namespace Session

variable {source : Source} {fileName : List Char} {language : Language} {policy : Policy}
  {text : List Char} {readings : List Reading}

theorem concluded_diagnostics :
    ((start (.fresh text source language) policy).concluded fileName readings).lexer.diagnostics =
      readings.flatMap (·.problems fileName) ++
        verdict fileName ((tokensOf readings).any Token.showsStructure) :=
  rfl

/-- The problems with directives, among all diagnostics of a text. -/
theorem noted_unsupportedLanguage_concluded :
    ((start (.fresh text source language) policy).concluded fileName readings).noted
      .unsupportedLanguage = readings.flatMap (·.problems fileName) := by
  rw [noted, concluded_diagnostics, List.filter_append]
  have hproblems : (readings.flatMap (·.problems fileName)).filter
      (·.category = .unsupportedLanguage) = readings.flatMap (·.problems fileName) := by
    rw [List.filter_eq_self]
    intro diagnostic hmem
    obtain ⟨reading, _, hreading⟩ := List.mem_flatMap.1 hmem
    exact decide_eq_true (Reading.category_of_mem_problems hreading)
  have hverdict (saw : Bool) : (verdict fileName saw).filter
      (·.category = .unsupportedLanguage) = [] := by
    cases saw with
    | true => rfl
    | false => rfl
  rw [hproblems, hverdict, List.append_nil]

/-- The verdict, among all diagnostics of a text. -/
theorem noted_noStructure_concluded :
    ((start (.fresh text source language) policy).concluded fileName readings).noted
      .noStructure = verdict fileName ((tokensOf readings).any Token.showsStructure) := by
  rw [noted, concluded_diagnostics, List.filter_append]
  have hproblems : (readings.flatMap (·.problems fileName)).filter
      (·.category = .noStructure) = [] := by
    rw [List.filter_eq_nil_iff]
    intro diagnostic hmem
    obtain ⟨reading, _, hreading⟩ := List.mem_flatMap.1 hmem
    rw [Reading.category_of_mem_problems hreading]
    decide
  have hverdict (saw : Bool) : (verdict fileName saw).filter (·.category = .noStructure) =
      verdict fileName saw := by
    cases saw with
    | true => rfl
    | false => rfl
  rw [hproblems, hverdict, List.nil_append]

theorem verdict_ne_nil_iff {saw : Bool} : verdict fileName saw ≠ [] ↔ saw = false := by
  cases saw with
  | true => exact ⟨fun h => absurd rfl h, fun h => absurd h (by decide)⟩
  | false => exact ⟨fun _ => rfl, fun _ => List.cons_ne_nil _ _⟩

end Session

/-- The scan of a text in two parts, the first of which ends a line. -/
theorem scan_lines {language : Language} (hl : language.Supported) (first second : List Char) :
    scan language .start (first ++ '\n' :: second) =
      scan language .start (first ++ ['\n']) ++
        scan (languageAfter language (scan language .start (first ++ ['\n']))) .start second := by
  have hne : first ++ ['\n'] ≠ [] := List.append_ne_nil_of_right_ne_nil _ (List.cons_ne_nil _ _)
  have hwhole := wholeLines_append_newline first
  have hsplit : first ++ '\n' :: second = (first ++ ['\n']) ++ second := by
    rw [List.append_assoc, List.singleton_append]
  rw [hsplit, scan_append hl .start hwhole, lineAfter_scan hl .start hne hwhole]

open Lexer

/-- **Lexing goes line by line,** with nothing but the language carried over, in
a supported language and in a file that can be named, where no warning is
raised. A text whose first part ends in a newline gives the tokens of the first
part and then those of the second, lexed alone in the language that the first
one ends in; so do the problems with directives; the language at the end is
that of the second part; and the text shows no structure if neither part does.
A newline behind a line gives one token more, or none if the line ends in a
comment. -/
theorem lexing_goes_line_by_line {source : Source} {fileName : List Char}
    (hname : source.fileName = .ok fileName) {language : Language} (hl : language.Supported)
    {policy : Policy} (hpolicy : policy ≠ .raise) :
    (∀ first second : List Char, ∃ tokens₁ after₁ tokens₂ after₂ after,
      (Session.start (fresh (first ++ ['\n']) source language) policy).drain =
        (.ok tokens₁, after₁) ∧
      (Session.start (fresh second source after₁.lexer.language) policy).drain =
        (.ok tokens₂, after₂) ∧
      (Session.start (fresh (first ++ '\n' :: second) source language) policy).drain =
        (.ok (tokens₁ ++ tokens₂), after) ∧
      after.noted .unsupportedLanguage =
        after₁.noted .unsupportedLanguage ++ after₂.noted .unsupportedLanguage ∧
      after.lexer.language = after₂.lexer.language ∧
      (after.noted .noStructure ≠ [] ↔
        after₁.noted .noStructure ≠ [] ∧ after₂.noted .noStructure ≠ [])) ∧
    ∀ line : List Char, '\n' ∉ line → ∃ pieces last after after',
      (fresh line source language).Steps pieces last ∧ last.rest = [] ∧
      (Session.start (fresh line source language) policy).drain =
        (.ok (pieces.filterMap (·.token?)), after) ∧
      (Session.start (fresh (line ++ ['\n']) source language) policy).drain =
        (.ok (pieces.filterMap (·.token?) ++ if endsInComment pieces then [] else [.newline]),
          after') := by
  constructor
  · intro first second
    have hl' := supported_languageAfter hl (scan language .start (first ++ ['\n']))
    have hfirst := Session.drain_fresh hname hl hpolicy (first ++ ['\n'])
    have hsecond := Session.drain_fresh hname hl' hpolicy second
    have hboth := Session.drain_fresh hname hl hpolicy (first ++ '\n' :: second)
    rw [scan_lines hl, tokensOf_append] at hboth
    refine ⟨_, _, _, _, _, hfirst, hsecond, hboth, ?_, ?_, ?_⟩
    · simp only [Session.noted_unsupportedLanguage_concluded, List.flatMap_append]
    · exact List.foldl_append
    · simp only [Session.noted_noStructure_concluded, Session.verdict_ne_nil_iff, tokensOf_append,
        List.any_append, Bool.or_eq_false_iff]
  · intro line hline
    obtain ⟨last, hsteps, hend⟩ := (fresh line source language).exists_steps_scan hname hl
    have hbare := Session.drain_fresh hname hl hpolicy line
    have hended := Session.drain_fresh hname hl hpolicy (line ++ ['\n'])
    rw [tokensOf_scan_append_newline hl .start hline] at hended
    rw [← tokensOf_eq_filterMap] at hbare hended
    exact ⟨_, last, _, _, hsteps, hend, hbare, hended⟩

/-- The theorem at work: a directive on the first line of a text that begins in
English, and a line with a tag and a comment. -/
theorem lexing_goes_line_by_line_english :
    (∃ tokens₁ after₁ tokens₂ after₂ after,
      (Session.start (fresh "# language: fr\n".toList .unnamed (.ofDialect .english))
        .record).drain = (.ok tokens₁, after₁) ∧
      (Session.start (fresh "Soit 1".toList .unnamed after₁.lexer.language) .record).drain =
        (.ok tokens₂, after₂) ∧
      (Session.start (fresh "# language: fr\nSoit 1".toList .unnamed (.ofDialect .english))
        .record).drain = (.ok (tokens₁ ++ tokens₂), after)) ∧
    ∃ pieces after,
      (Session.start (fresh "@a # b\n".toList .unnamed (.ofDialect .english)) .record).drain =
        (.ok (pieces.filterMap (·.token?) ++ if endsInComment pieces then [] else [.newline]),
          after) := by
  have h := lexing_goes_line_by_line Source.fileName_unnamed Language.supported_english
    (by decide : Policy.record ≠ .raise)
  constructor
  · obtain ⟨tokens₁, after₁, tokens₂, after₂, after, hfirst, hsecond, hboth, _⟩ :=
      h.1 "# language: fr".toList "Soit 1".toList
    exact ⟨tokens₁, after₁, tokens₂, after₂, after, hfirst, hsecond, hboth⟩
  · obtain ⟨pieces, _, _, after, _, _, _, hended⟩ := h.2 "@a # b".toList (by decide)
    exact ⟨pieces, after, hended⟩

end FeatureLexer
