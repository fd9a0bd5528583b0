import FeatureLexer.Proofs.Lexer.Directive
import FeatureLexer.Proofs.Session.LineGrammar

/-!
# Which problems are found in a text

The diagnostics of a text can be told from the pieces that it is read in. A
comment is a piece that begins with its mark and gives no token, wherever on a
line it stands (`Piece.comment?`); a mark within a title, a cell or any other
piece makes none. Each comment whose directive names no language is a problem,
in the order of the text, and a text with nothing but descriptions and newlines
is one more, at the end (`reports`). The language at the end is that of the last
directive that names one (`Directive.Leaves`).

What connects the pieces with the lexer is that a reading declares what its
comment declares, and nothing if it is no comment (`Reading.Declaring`). This
holds of every reading of a scan, and the rest follows from it by going through
the readings one after the other.
-/

namespace FeatureLexer

open Text

/-- The text of a comment, without its mark and without the newline that ends
it, if a piece of a text is a comment. -/
def Piece.comment? (piece : Piece) : Option (List Char) :=
  match piece.token?, piece.span with
  | none, '#' :: s => some (lineUntil never s)
  | _, _ => none

/-- The comments among the pieces of a text. -/
def commentsOf (pieces : List Piece) : List (List Char) :=
  pieces.filterMap Piece.comment?

/-- The warnings that a text with the given comments and tokens deserves, in a
file of the given name: their categories and messages. -/
def reports (fileName : List Char) (comments : List (List Char)) (tokens : List Token) :
    List (Category × String) :=
  (comments.filter fun comment => Directive.DeclaresUnsupported comment).map (fun _ =>
    (.unsupportedLanguage,
      "File: " ++ String.ofList fileName ++ " declares an unsupported language")) ++
  if ∀ token ∈ tokens, token = .newline ∨ token.isDescription = true then
    [(.noStructure, "File: " ++ String.ofList fileName ++ " does not contain any valid gherkin")]
  else []

theorem Piece.comment?_of_head?_ne {piece : Piece} (h : piece.span.head? ≠ some '#') :
    piece.comment? = none := by
  rw [comment?]
  split
  next s _ hspan => exact absurd (congrArg List.head? hspan) h
  next => rfl

theorem commentsOf_cons (piece : Piece) (pieces : List Piece) :
    commentsOf (piece :: pieces) = piece.comment?.toList ++ commentsOf pieces := by
  rw [commentsOf, List.filterMap_cons]
  cases piece.comment? with
  | none => rfl
  | some comment => rfl

namespace Reading

/-- Whether a reading declares what its comment declares. -/
def Declaring (reading : Reading) : Prop :=
  reading.declared? = reading.comment?.bind Directive.declaredName?

theorem comment?_comment (s : List Char) : (comment s).comment? = some (lineUntil never s) := by
  have hline : '\n' ∉ lineUntil never s := (passes_lineUntil never s).newline_notMem
  have hhides : Hides (lineUntil never s) ['\n'] := Or.inr rfl
  show some (lineUntil never (lineUntil never s ++ leading '\n' _)) = _
  rcases leading_eq_or '\n' (s.drop (lineUntil never s).length) with hnone | hnewline
  · rw [hnone, List.append_nil, lineUntil_never_eq_self hline]
  · rw [hnewline, lineUntil_append_of_hides hhides, lineUntil_never_eq_self hline]

/-- **Comments declare what they say,** and nothing else declares anything. -/
theorem declaring_next {language : Language} (hl : language.Supported) (line : LineState)
    (c : Char) (s : List Char) : (next language line (c :: s)).Declaring := by
  by_cases hc : c = '#'
  · subst hc
    have hnext : next language line ('#' :: s) = comment s := rfl
    rw [hnext, Declaring, comment?_comment]
    rfl
  · obtain ⟨after, hs, hne⟩ := next_span hl line c s
    have hhead : (next language line (c :: s)).span.head? ≠ some '#' := by
      have hfirst := congrArg List.head? hs
      rw [List.head?_append_of_ne_nil _ hne] at hfirst
      rw [← hfirst]
      simpa using hc
    rw [Declaring, declared?_next language line hc, Piece.comment?_of_head?_ne hhead]
    rfl

/-- The problems with a reading are those of its comment. -/
theorem problems_eq {reading : Reading} (h : reading.Declaring) (fileName : List Char) :
    reading.problems fileName =
      (reading.comment?.toList.filter fun comment => Directive.DeclaresUnsupported comment).map
        fun _ => ⟨.unsupportedLanguage, fileName, Lexer.unsupportedProblem⟩ := by
  rw [problems, h]
  cases reading.comment? with
  | none => rfl
  | some comment =>
    have hiff := Directive.declaresUnsupported_iff comment
    cases hname : Directive.declaredName? comment with
    | none => simp [← hiff, hname]
    | some name => cases hlanguage : Language.named? name <;> simp [← hiff, hname, hlanguage]

end Reading

section

variable {readings : List Reading} (h : ∀ reading ∈ readings, reading.Declaring)
include h

/-- **The problems with directives** are those of the comments, in their order. -/
theorem flatMap_problems_eq (fileName : List Char) :
    readings.flatMap (·.problems fileName) =
      ((commentsOf (readings.map (·.toPiece))).filter fun comment =>
        Directive.DeclaresUnsupported comment).map
        fun _ => ⟨.unsupportedLanguage, fileName, Lexer.unsupportedProblem⟩ := by
  induction readings with
  | nil => rfl
  | cons reading readings ih =>
    have hreading := Reading.problems_eq (h reading List.mem_cons_self) fileName
    have hothers := ih fun other hother => h other (List.mem_cons_of_mem _ hother)
    rw [List.flatMap_cons, hreading, hothers, ← List.map_append, ← List.filter_append,
      ← commentsOf_cons, List.map_cons]

/-- **The language at the end** is the one that the comments leave in force. -/
theorem leaves_languageAfter (language : Language) :
    Directive.Leaves language (commentsOf (readings.map (·.toPiece)))
      (languageAfter language readings) := by
  induction readings generalizing language with
  | nil => exact .unchanged fun _ hmem => absurd hmem List.not_mem_nil
  | cons reading readings ih =>
    have hafter : reading.languageAfter language =
        ((reading.comment?.bind Directive.declaredName?).bind Language.named?).getD language := by
      rw [Reading.languageAfter, h reading List.mem_cons_self]
    have hothers : Directive.Leaves (reading.languageAfter language)
        (commentsOf (readings.map (·.toPiece))) (languageAfter language (reading :: readings)) :=
      ih (fun other hother => h other (List.mem_cons_of_mem _ hother)) _
    rw [hafter] at hothers
    rw [List.map_cons, commentsOf_cons]
    cases hcomment : reading.comment? with
    | none =>
      rw [hcomment] at hothers
      exact hothers
    | some comment =>
      rw [hcomment] at hothers
      exact hothers.cons

end

/-- **Every reading of a scan** declares what its comment declares. -/
theorem declaring_of_mem_scan {language : Language} (hl : language.Supported) (line : LineState)
    (s : List Char) : ∀ reading ∈ scan language line s, reading.Declaring := by
  induction hl, line, s using scan_induction with
  | nil language hl line =>
    intro reading hmem
    rw [scan_nil] at hmem
    exact absurd hmem List.not_mem_nil
  | cons language hl line reading after hne hnext ih =>
    obtain ⟨c, span, hspan⟩ := List.exists_cons_of_ne_nil hne
    have hreading := Reading.declaring_next hl line c (span ++ after)
    rw [← List.cons_append, ← hspan, hnext] at hreading
    rw [scan_span_append hl hne hnext]
    exact List.forall_mem_cons.2 ⟨hreading, ih⟩

/-- **A text shows no structure** if it gives nothing but descriptions and
newlines. -/
theorem any_showsStructure_eq_false_iff (tokens : List Token) :
    tokens.any Token.showsStructure = false ↔
      ∀ token ∈ tokens, token = .newline ∨ token.isDescription = true := by
  rw [List.any_eq_false]
  refine forall₂_congr fun token _ => ?_
  cases token <;> simp [Token.showsStructure, Token.isDescription]

/-- The verdict on a text, by its tokens. -/
theorem map_verdict_eq (fileName : List Char) (tokens : List Token) :
    (Session.verdict fileName (tokens.any Token.showsStructure)).map
      (fun found => (found.category, found.message)) =
    if ∀ token ∈ tokens, token = .newline ∨ token.isDescription = true then
      [(.noStructure, "File: " ++ String.ofList fileName ++ " does not contain any valid gherkin")]
    else [] := by
  have hiff := any_showsStructure_eq_false_iff tokens
  cases hshows : tokens.any Token.showsStructure with
  | false =>
    rw [if_pos (hiff.1 hshows)]
    exact congrArg (fun message => [(Category.noStructure, message)]) String.append_assoc
  | true =>
    rw [if_neg fun hprose => Bool.false_ne_true ((hiff.2 hprose).symm.trans hshows)]
    rfl

/-- **The problems found in a text** are those that are to be reported. -/
theorem map_foundIn_eq_reports {readings : List Reading}
    (h : ∀ reading ∈ readings, reading.Declaring) (fileName : List Char) :
    (foundIn fileName readings).map (fun found => (found.category, found.message)) =
      reports fileName (commentsOf (readings.map (·.toPiece))) (tokensOf readings) := by
  rw [foundIn, List.map_append, flatMap_problems_eq h, List.map_map, map_verdict_eq, reports]
  congr 1
  refine List.map_congr_left fun comment _ => ?_
  exact congrArg (Prod.mk Category.unsupportedLanguage) String.append_assoc

open Lexer

/-- **Lexing reports exactly the problems of a text,** in a supported language and
in a file that can be named, where warnings are recorded. The text is read by
steps to its end, and its tokens are those of the pieces. The warnings are one
for each comment with a directive that names no language, in the order of the
text, and then one more if all tokens are descriptions and newlines. The
diagnostics are the same, none is left pending, and the language at the end is
that of the last directive that names one. -/
theorem lexing_reports_exactly_the_problems {source : Source} {fileName : List Char}
    (hname : source.fileName = .ok fileName) {name : Option (List Char)} {language : Language}
    (hlanguage : Language.requested? name = some language) (text : List Char) :
    ∃ lexer pieces last lexed after,
      Lexer.ofText text source name = .ok lexer ∧
      lexer.Steps pieces last ∧ last.rest = [] ∧
      (Session.start lexer .record).drain = (.ok lexed.tokens, after) ∧
      lexText text ⟨source, name, .record⟩ = .ok lexed ∧
      lexed.tokens = pieces.filterMap (·.token?) ∧
      lexed.warnings.map (fun found => (found.category, found.message)) =
        reports fileName (commentsOf pieces) lexed.tokens ∧
      lexed.diagnostics.map (·.message) =
        (reports fileName (commentsOf pieces) lexed.tokens).map (·.2) ∧
      after.lexer.pending = [] ∧
      Directive.Leaves language (commentsOf pieces) after.lexer.language := by
  have hl := Language.supported_of_requested? hlanguage
  let readings := scan language .start (joinCarriageReturns text)
  have hdeclaring : ∀ reading ∈ readings, reading.Declaring :=
    declaring_of_mem_scan hl .start (joinCarriageReturns text)
  have hreports := map_foundIn_eq_reports hdeclaring fileName
  obtain ⟨last, hsteps, hend⟩ :=
    (fresh (joinCarriageReturns text) source language).exists_steps_scan hname hl
  have hdrain := Session.drain_fresh hname hl (by decide : Policy.record ≠ .raise)
    (joinCarriageReturns text)
  refine ⟨_, readings.map (·.toPiece), last,
    ⟨tokensOf readings, foundIn fileName readings, foundIn fileName readings⟩, _,
    ofText_eq hlanguage text source, hsteps, hend, hdrain, lexText_eq hname hlanguage text .record,
    ?_, hreports, ?_, rfl, ?_⟩
  · exact (tokensOf_eq_filterMap readings).symm
  · rw [← hreports, List.map_map]
    rfl
  · exact leaves_languageAfter hdeclaring language

/-- The theorem at work on prose that begins in English, with a directive before
it, one behind a tab and, within a description, what would be one elsewhere. -/
theorem lexing_reports_exactly_the_problems_prose :
    ∃ lexer pieces last lexed,
      Lexer.ofText "# language: xx\nfor #language:zz\n\t# language : qq".toList
        (.named "a/b.feature".toList) (some Language.defaultName) = .ok lexer ∧
      lexer.Steps pieces last ∧ last.rest = [] ∧
      lexText "# language: xx\nfor #language:zz\n\t# language : qq".toList
        ⟨.named "a/b.feature".toList, some Language.defaultName, .record⟩ = .ok lexed ∧
      lexed.warnings.map (fun found => (found.category, found.message)) =
        reports "b.feature".toList (commentsOf pieces) lexed.tokens := by
  have hname : (Source.named "a/b.feature".toList).fileName = .ok "b.feature".toList := rfl
  obtain ⟨lexer, pieces, last, lexed, _, hlexer, hsteps, hend, _, hlexed, _, hwarnings, _⟩ :=
    lexing_reports_exactly_the_problems hname Language.requested?_defaultName
      "# language: xx\nfor #language:zz\n\t# language : qq".toList
  exact ⟨lexer, pieces, last, lexed, hlexer, hsteps, hend, hlexed, hwarnings⟩

end FeatureLexer
