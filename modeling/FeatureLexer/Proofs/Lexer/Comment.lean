import FeatureLexer.Proofs.Lexer.Directive
import FeatureLexer.Proofs.Lexer.Steps
import FeatureLexer.Proofs.Text.Backtracking

/-!
# What a comment does

A comment gives no token. It takes the lexer to the start of the next line, and if
its text is a directive, it does one thing more: it puts a language in force, or it
notes that there is none of that name. Nothing else of the lexer plays a part, nor
does what follows the line.

What makes a text a directive, and which name it declares, is said three times over
and always the same:

| form | definition |
| --- | --- |
| a way to write the text | `Directive.Declares` |
| a reading from the left | `Directive.declaredName?` |
| a shape with repetitions that may give way to each other | `Directive.captured?` |

In the last form it is open at first what the name will be, since blanks around it
could as well be taken by the name itself. The order of trying settles that
(`Directive.captured?_eq_declaredName?`).
-/

namespace FeatureLexer

open Text

namespace Directive

/-- The shape of a directive: the word, a colon and a name, with any blanks around
them. -/
def shape : List Part :=
  [.greedy isBlank, .literal word, .greedy isBlank, .literal [':'], .greedy isBlank,
    .lazy (· != '\n'), .greedy isBlank, .atEnd]

/-- What the lazy part takes from a comment in the shape of a directive. -/
def captured? (comment : List Char) : Option (List Char) :=
  (find? shape comment).bind (·[5]?)

/-- **The name that is captured** is the name that is read. -/
theorem captured?_eq_declaredName? {comment : List Char} (h : '\n' ∉ comment) :
    captured? comment = declaredName? comment := by
  have hword (parts : List Part) (s : List Char) :
      find? (.greedy isBlank :: .literal word :: parts) s =
        (find? (.literal word :: parts) (s.dropWhile isBlank)).map (s.takeWhile isBlank :: ·) :=
    find?_blanks_literal (by decide : isBlank 'l' = false) _ parts s
  have hcolon (parts : List Part) (s : List Char) :
      find? (.greedy isBlank :: .literal [':'] :: parts) s =
        (find? (.literal [':'] :: parts) (s.dropWhile isBlank)).map (s.takeWhile isBlank :: ·) :=
    find?_blanks_literal (by decide : isBlank ':' = false) _ parts s
  rw [captured?, shape, hword, find?, declaredName?, dropLead?]
  by_cases hlead : word.isPrefixOf (comment.dropWhile isBlank) = true
  · rw [if_pos hlead, if_pos hlead, hcolon]
    dsimp only
    split
    next name hname =>
      have hline : '\n' ∉ name := by
        intro hmem
        have hafter : '\n' ∈ (comment.dropWhile isBlank).drop word.length := by
          refine (List.dropWhile_suffix isBlank).subset ?_
          rw [hname]
          exact List.mem_cons_of_mem _ hmem
        exact h ((List.dropWhile_suffix isBlank).subset (List.mem_of_mem_drop hafter))
      obtain ⟨before, after, hfound⟩ := find?_trimmed hline
      rw [hname, find?, if_pos (by rfl), List.length_singleton, List.drop_one, List.tail_cons,
        hfound]
      rfl
    next hnone =>
      have hother : ¬[':'].isPrefixOf
          (((comment.dropWhile isBlank).drop word.length).dropWhile isBlank) = true := by
        intro hstart
        obtain ⟨name, hname⟩ := List.isPrefixOf_iff_prefix.1 hstart
        exact hnone name hname.symm
      rw [find?, if_neg hother]
      rfl
  · rw [if_neg hlead, if_neg hlead]
    rfl

/-- Whether a comment, read in a file of the given name, has had its effect on what
the lexer knows beside its place. -/
structure TakesEffect (fileName comment : List Char) (lexer next : Lexer) : Prop where
  /-- A name that means a language puts it in force. -/
  adopts : ∀ name language, Declares comment name → Language.named? name = some language →
    next.language = language ∧ next.diagnostics = lexer.diagnostics ∧
      next.pending = lexer.pending
  /-- A name that means none is a problem, which is noted once and is still to be
  given out. -/
  notes : ∀ name, Declares comment name → Language.named? name = none →
    next.language = lexer.language ∧ ∃ diagnostic : Diagnostic,
      diagnostic.category = .unsupportedLanguage ∧
      diagnostic.message =
        "File: " ++ String.ofList fileName ++ " declares an unsupported language" ∧
      next.diagnostics = lexer.diagnostics ++ [diagnostic] ∧
      next.pending = lexer.pending ++ [diagnostic]
  /-- Any other comment changes nothing. -/
  ignores : (∀ name, ¬Declares comment name) →
    next.language = lexer.language ∧ next.diagnostics = lexer.diagnostics ∧
      next.pending = lexer.pending

/-- **What a reading declares takes effect** when the lexer takes it over. -/
theorem takesEffect_past (fileName comment : List Char) (lexer : Lexer) {reading : Reading}
    (h : reading.declared? = declaredName? comment) :
    TakesEffect fileName comment lexer (lexer.past fileName reading) where
  adopts name language hname hlanguage := by
    rw [declaredName?_of_declares hname] at h
    simp [Lexer.past, Lexer.moved, Reading.languageAfter, Reading.problems, h, hlanguage]
  notes name hname hnone := by
    rw [declaredName?_of_declares hname] at h
    refine ⟨?_, ⟨.unsupportedLanguage, fileName, Lexer.unsupportedProblem⟩, rfl, ?_, ?_⟩
    · simp [Lexer.past, Lexer.moved, Reading.languageAfter, h, hnone]
    · rw [Diagnostic.message, String.append_assoc]
      rfl
    · simp [Lexer.past, Lexer.moved, Reading.problems, h, hnone]
  ignores hnone := by
    have hundeclared : reading.declared? = none := by
      rw [h, Option.eq_none_iff_forall_not_mem]
      exact fun name hname => hnone name (declares_of_declaredName? hname)
    simp [Lexer.past, Lexer.moved, Reading.languageAfter, Reading.problems, hundeclared]

end Directive

namespace Reading

/-- A comment takes its mark, its text, and the newline behind it if there is one. -/
theorem span_comment (s : List Char) :
    (comment s).span =
      '#' :: lineUntil never s ++ (s.drop (lineUntil never s).length).take 1 := by
  have hend := endsLine_drop_lineUntil_never s
  rw [comment]
  cases hafter : s.drop (lineUntil never s).length with
  | nil => rfl
  | cons c after =>
    rw [hafter] at hend
    obtain rfl : c = '\n' := hend
    rw [leading_cons_self]
    rfl

end Reading

open Directive

/-- **What a comment does is decided by its text,** from every state of a lexer that
stands before its mark, in a file that can be named. The comment gives no token and
takes the lexer just past the next newline, or to the end of the text, at the start
of a line; the text and the source stay what they are. If it can be written as a
directive, then its name is what follows the colon without the blanks around it, and
it puts the language of that name in force, or else notes one problem; if it cannot,
nothing else is changed. The shape of a directive captures that name and no other. -/
theorem comment_acts_by_its_text {lexer : Lexer} {fileName : List Char}
    (hmark : lexer.peek? = some '#') (hname : lexer.source.fileName = .ok fileName) :
    ∃ comment after next, lexer.rest = '#' :: comment ++ after ∧ '\n' ∉ comment ∧
      EndsLine after ∧ Rule.comment.run lexer = .silent next ∧
      next.rest = after.drop 1 ∧
      next.pos = lexer.pos + (1 + comment.length + (after.take 1).length) ∧
      next.cursor.text = lexer.cursor.text ∧ next.line = .start ∧
      next.source = lexer.source ∧ next.sawStructure = lexer.sawStructure ∧
      TakesEffect fileName comment lexer next ∧
      ∀ name, captured? comment = some name ↔ Declares comment name := by
  obtain ⟨s, hrest⟩ : ∃ s, lexer.rest = '#' :: s := List.head?_eq_some_iff.1 hmark
  have hrun : Rule.comment.run lexer = .silent (lexer.past fileName (.comment s)) := by
    rw [Rule.run, Lexer.comment_run hrest, Lexer.accept_eq hname]
    rfl
  have hline := (passes_lineUntil never s).newline_notMem
  -- The lexer has moved by the span of the comment, which is where the rest begins.
  have hspan := Reading.span_comment s
  have hsplit : lexer.rest = (Reading.comment s).span ++
      (s.drop (lineUntil never s).length).drop 1 := by
    rw [hspan, List.append_assoc, List.take_append_drop, List.cons_append, lineUntil_append_drop,
      hrest]
  have hlength : (Reading.comment s).span.length =
      1 + (lineUntil never s).length + ((s.drop (lineUntil never s).length).take 1).length := by
    rw [hspan, List.length_append, List.length_cons, Nat.add_comm 1]
  refine ⟨lineUntil never s, s.drop (lineUntil never s).length, _, ?_, hline,
    endsLine_drop_lineUntil_never s, hrun, ?_, ?_, rfl, rfl, rfl, rfl,
    takesEffect_past fileName _ lexer rfl, ?_⟩
  · rw [hrest, List.cons_append, lineUntil_append_drop]
  · rw [Lexer.past_rest, hsplit, List.drop_left]
  · have hpos : (lexer.past fileName (.comment s)).pos =
        lexer.pos + min (Reading.comment s).span.length lexer.rest.length :=
      Cursor.pos_advance lexer.cursor _
    have hle : (Reading.comment s).span.length ≤ lexer.rest.length :=
      List.IsPrefix.length_le ⟨_, hsplit.symm⟩
    rw [hpos, Nat.min_eq_left hle, hlength]
  · intro name
    rw [captured?_eq_declaredName? hline, declaredName?_eq_some_iff]

/-- The theorem at work behind the keyword of a step: a directive whose name holds a
colon, a blank and a mark, and means no language. -/
theorem comment_acts_by_its_text_unsupported :
    let text := "Given # language\u3000: x: y #\t\n1".toList
    let lexer := { (Lexer.fresh text (.named "d/a.feature".toList) (.ofDialect .english)).advance 6
      with line := ⟨false, none, some .givenStep⟩ }
    lexer.peek? = some '#' ∧ lexer.source.fileName.toOption = some "a.feature".toList ∧
    ∃ next, Rule.comment.run lexer = .silent next ∧ next.rest = ['1'] ∧ next.line = .start ∧
      captured? " language\u3000: x: y #\t".toList = some "x: y #".toList ∧
      next.language = .ofDialect .english ∧ next.diagnostics.map (·.message) =
        ["File: a.feature declares an unsupported language"] := by
  intro text lexer
  have hmark : lexer.peek? = some '#' := by decide +kernel
  have hname : lexer.source.fileName = .ok "a.feature".toList := by rfl
  refine ⟨hmark, by rw [hname]; rfl, ?_⟩
  obtain ⟨comment, after, next, hrest, hline, hend, hrun, hnext, -, -, hstart, -, -, heffect,
    hcaptured⟩ := comment_acts_by_its_text hmark hname
  -- The comment is what the line holds behind the mark.
  have hcomment : comment = " language\u3000: x: y #\t".toList := by
    have hcut := lineUntil_append_of_hides (Or.inr hend : Hides comment after) never
    rw [lineUntil_never_eq_self hline] at hcut
    have htail : lexer.rest.tail = comment ++ after := by rw [hrest]; rfl
    rw [← hcut, ← htail]
    decide +kernel
  subst hcomment
  have hafter : after = "\n1".toList := by
    have hsplit : lexer.rest = '#' :: " language\u3000: x: y #\t".toList ++ "\n1".toList := by
      decide +kernel
    exact List.append_cancel_left (hrest.symm.trans hsplit)
  have hdeclares : Declares " language\u3000: x: y #\t".toList "x: y #".toList :=
    declares_of_declaredName? (by decide +kernel)
  have hnone : Language.named? "x: y #".toList = none := by decide +kernel
  obtain ⟨hlanguage, diagnostic, -, hmessage, hdiagnostics, -⟩ :=
    heffect.notes _ hdeclares hnone
  refine ⟨next, hrun, by rw [hnext, hafter]; rfl, hstart, (hcaptured _).2 hdeclares, hlanguage, ?_⟩
  have hearlier : lexer.diagnostics = [] := rfl
  rw [hdiagnostics, hearlier, List.nil_append, List.map_singleton, hmessage]
  rfl

end FeatureLexer
