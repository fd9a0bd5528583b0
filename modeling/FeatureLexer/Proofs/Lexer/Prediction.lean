import FeatureLexer.Lexer.Pattern
import FeatureLexer.Proofs.Lexer.Reading

/-!
# Trying the rules finds the predicted lexeme

`Pattern.nextLexeme` tries fourteen rules in order, four of them in a choice
of their own. Every rule that does not apply refuses and leaves the lexer as
it was, so the first rule that applies runs where the lexer stood at first;
and the rule that applies is the one that `Reading.next` names. Hence
`nextLexeme_run`: before the end of the text, reading the next lexeme is
accepting the predicted reading, from every state of the lexer.

The argument follows the order of the rules. For each rule there is one lemma
for what it does where it applies; where it does not, `expecting_of_ne` or
`expectingLineStart_of_false` says that it refuses.
-/

namespace FeatureLexer

open Text

namespace Cursor

theorem advance_advance (cursor : Cursor) (m n : Nat) :
    (cursor.advance m).advance n = cursor.advance (m + n) := by
  ext1
  · rfl
  · simp only [pos_advance, rest_advance, List.length_drop]
    omega

theorem advance_eq_advance (cursor : Cursor) {m n : Nat} (hm : cursor.rest.length ≤ m)
    (hn : cursor.rest.length ≤ n) : cursor.advance m = cursor.advance n := by
  ext1
  · rfl
  · rw [pos_advance, pos_advance, Nat.min_eq_right hm, Nat.min_eq_right hn]

theorem dropChar_eq (cursor : Cursor) (c : Char) :
    cursor.dropChar c = cursor.advance (leading c cursor.rest).length := by
  rw [dropChar, peek?, leading]
  by_cases h : cursor.rest.head? = some c
  · rw [if_pos h, if_pos h]
    rfl
  · rw [if_neg h, if_neg h]
    exact (advance_zero cursor).symm

theorem dropSpace_eq (cursor : Cursor) :
    cursor.dropSpace = cursor.advance (leadingSpace cursor.rest).length :=
  rfl

end Cursor

@[simp] theorem Run.after_nil (run : Run) : run.after [] = run :=
  rfl

namespace Lexer

/-- The lexer behind a reading, before a directive takes effect. -/
def moved (lexer : Lexer) (reading : Reading) : Lexer :=
  { lexer with cursor := lexer.cursor.advance reading.span.length, line := reading.line }

/-- Takes a reading over: the lexer moves behind it, gives its token, and a
directive takes effect. -/
def accept (lexer : Lexer) (reading : Reading) : Run :=
  Run.after reading.token?.toList
    (match reading.declared? with
    | none => .silent (lexer.moved reading)
    | some name =>
      .ofChange (lexer.moved reading) ((lexer.moved reading).adoptLanguage (some name)))

/-- What is accepted is not refused. -/
theorem accept_ending_ne_refused (lexer : Lexer) (reading : Reading) (why : Refusal) :
    (lexer.accept reading).ending ≠ .refused why := by
  simp only [accept, Run.after]
  split
  · exact Ending.noConfusion
  · rw [Run.ofChange.eq_def]
    split <;> exact Ending.noConfusion

variable {lexer : Lexer} {c : Char} {s : List Char}

theorem expecting_of_ne {d : Char} (h : lexer.rest = c :: s) (hd : c ≠ d)
    (read : List Char → Run) :
    lexer.expecting d read = .refuse (.char d lexer.pos (some c)) lexer := by
  simp only [expecting, h, if_neg hd]

theorem expecting_of_eq (h : lexer.rest = c :: s) (read : List Char → Run) :
    lexer.expecting c read = read s := by
  simp only [expecting, h, if_true]

theorem expectingLineStart_of_false (h : lexer.line.atStart = false) (read : Unit → Run) :
    lexer.expectingLineStart read = .refuse (.lineStart lexer.pos) lexer := by
  simp [expectingLineStart, h]

theorem expectingLineStart_of_true (h : lexer.line.atStart = true) (read : Unit → Run) :
    lexer.expectingLineStart read = read () := by
  simp [expectingLineStart, h]

/-! ### What each rule does where it applies -/

theorem newline_run (h : lexer.rest = '\n' :: s) :
    lexer.newline = lexer.accept ⟨⟨['\n'], some .newline⟩, .start, none⟩ := by
  rw [newline, expecting_of_eq h]
  rfl

theorem tag_run (h : lexer.rest = '@' :: s) :
    lexer.tag = lexer.accept (.plain lexer.line ('@' :: lineUntil (!isTagChar ·) s)
      (.tag (lineUntil (!isTagChar ·) s))) := by
  rw [tag, expecting_of_eq h]
  rfl

theorem comment_run (h : lexer.rest = '#' :: s) : lexer.comment = lexer.accept (.comment s) := by
  have hcursor : lexer.cursor.advance ((lineUntil never s).length + 2) =
      lexer.cursor.advance (Reading.comment s).span.length := by
    cases hafter : s.drop (lineUntil never s).length with
    | nil =>
      have hs : lineUntil never s = s := by
        have happend := lineUntil_append_drop never s
        rwa [hafter, List.append_nil] at happend
      have hlength : lexer.cursor.rest.length = s.length + 1 := congrArg List.length h
      apply Cursor.advance_eq_advance <;>
        simp [Reading.comment, hs, hlength, leading]
    | cons d after =>
      have hend := endsLine_drop_lineUntil_never s
      rw [hafter] at hend
      obtain rfl : d = '\n' := hend
      simp [Reading.comment, hafter, leading]
  have hmoved : (lexer.advance ((lineUntil never s).length + 2)).beginLine =
      lexer.moved (.comment s) := by
    rw [advance, hcursor]
    rfl
  rw [comment, expecting_of_eq h, accept]
  simp only [hmoved]
  show _ = Run.after [] _
  simp only [Run.after_nil, Reading.comment]
  cases Directive.declaredName? (lineUntil never s) with
  | none => rfl
  | some name => rfl

theorem cell_run (h : lexer.rest = '|' :: s) : lexer.cell = lexer.accept (.cell lexer.line s) := by
  have hle := Cell.read_length_le Cell.isBar s
  have hpeek : (lexer.advance ((Cell.read Cell.isBar s).2 + 1)).peek? =
      (s.drop (Cell.read Cell.isBar s).2).head? := by
    have hrest : lexer.cursor.rest = '|' :: s := h
    simp only [advance, peek?, Cursor.peek?, Cursor.rest_advance, hrest, List.drop_succ_cons]
  rw [cell, expecting_of_eq h]
  simp only [hpeek, Reading.cell]
  split <;>
    simp [accept, moved, advance, Run.after, Run.give, Run.silent, Reading.plain, Reading.silent,
      hle]

theorem indentation_run (hstart : lexer.line.atStart = true) (h : lexer.rest = c :: s)
    (hc : isSpace c = true) :
    lexer.indentation = lexer.accept (.silent lexer.line (leadingSpace (c :: s))) := by
  have hpeek : lexer.peek?.any isSpace = true := by
    have hrest : lexer.cursor.rest = c :: s := h
    simp [peek?, Cursor.peek?, hrest, hc]
  rw [indentation, expectingLineStart_of_true hstart, if_pos hpeek, ← h]
  rfl

theorem blockKeyword_run (hstart : lexer.line.atStart = true) {block : Block}
    {spelling : List Char} (hopening : lexer.lineOpening = .block block spelling) :
    lexer.blockKeyword = lexer.accept (.blockKeyword lexer.line block lexer.rest) := by
  have hcursor (n : Nat) : ((lexer.cursor.advance n).dropChar ':').dropSpace =
      lexer.cursor.advance (n + (leading ':' (lexer.rest.drop n)).length +
        (leadingSpace
          (lexer.rest.drop (n + (leading ':' (lexer.rest.drop n)).length))).length) := by
    rw [Cursor.dropChar_eq, Cursor.advance_advance, Cursor.dropSpace_eq, Cursor.advance_advance,
      Cursor.rest_advance, Cursor.rest_advance]
    rfl
  rw [blockKeyword, expectingLineStart_of_true hstart]
  simp only [hopening, advance, dropChar, dropSpace, hcursor]
  simp [accept, moved, Reading.blockKeyword, keywordText, Run.give, Run.after, Run.silent,
    Nat.add_assoc]

theorem stepKeyword_run (hstart : lexer.line.atStart = true) {keyword : StepKeyword}
    {spelling : List Char} (hopening : lexer.lineOpening = .step keyword spelling) :
    lexer.stepKeyword = lexer.accept (.stepKeyword lexer.line keyword spelling lexer.rest) := by
  rw [stepKeyword, expectingLineStart_of_true hstart]
  simp only [hopening, advance, dropSpace, Cursor.dropSpace_eq, Cursor.advance_advance]
  simp [accept, moved, Reading.stepKeyword, Run.give, Run.after, Run.silent, rest]

theorem description_run (hstart : lexer.line.atStart = true) :
    lexer.description = lexer.accept (.description lexer.line lexer.rest) := by
  rw [description, expectingLineStart_of_true hstart]
  rfl

theorem between_run {opened closed : Char} (h : lexer.rest = opened :: s)
    (token : List Char → Token) :
    Run.give (token (lineUntil (· == closed) s))
        ((lexer.advance ((lineUntil (· == closed) s).length + 1)).dropChar closed) =
      lexer.accept (.between lexer.line opened closed token s) := by
  have hrest : lexer.cursor.rest = opened :: s := h
  simp only [advance, dropChar, Cursor.dropChar_eq, Cursor.advance_advance, Cursor.rest_advance,
    hrest, List.drop_succ_cons]
  simp [accept, moved, Reading.between, Reading.plain, Run.give, Run.after, Run.silent,
    Nat.add_right_comm]

theorem placeholder_run (h : lexer.rest = '<' :: s) :
    lexer.placeholder = lexer.accept (.between lexer.line '<' '>' .placeholder s) := by
  rw [placeholder, expecting_of_eq h]
  exact between_run h .placeholder

theorem quoted_run (h : lexer.rest = '"' :: s) :
    lexer.quoted = lexer.accept (.between lexer.line '"' '"' .quoted s) := by
  rw [quoted, expecting_of_eq h]
  exact between_run h .quoted

theorem title_run (hblock : lexer.line.block.isSome = true)
    (htext : lineUntil (· == '<') lexer.rest ≠ []) :
    lexer.title = lexer.accept (.plain lexer.line (lineUntil (· == '<') lexer.rest)
      (.title (lineUntil (· == '<') lexer.rest))) := by
  have hnone : ¬lexer.line.block.isNone = true := by simpa [Option.isSome_iff_ne_none] using hblock
  rw [title, if_neg hnone]
  split
  · exact absurd ‹_› htext
  · rfl

/-- Where neither a newline nor a placeholder comes next, a title is not empty. -/
theorem title_run_of_ne (h : lexer.rest = c :: s) (hnewline : c ≠ '\n') (hopen : c ≠ '<')
    (hblock : lexer.line.block.isSome = true) :
    lexer.title = lexer.accept (.plain lexer.line (lineUntil (· == '<') (c :: s))
      (.title (lineUntil (· == '<') (c :: s)))) := by
  rw [← h]
  refine title_run hblock ?_
  rw [h, lineUntil_cons_of_passes hnewline (by simpa using hopen)]
  exact List.cons_ne_nil _ _

theorem integer_run (htext : lineUntil (!isDigit ·) lexer.rest ≠ []) :
    lexer.integer = lexer.accept (.plain lexer.line (lineUntil (!isDigit ·) lexer.rest)
      (.integer (lineUntil (!isDigit ·) lexer.rest))) := by
  rw [integer]
  split
  · exact absurd ‹_› htext
  · rfl

theorem integer_run_of_isDigit (h : lexer.rest = c :: s) (hnewline : c ≠ '\n')
    (hdigit : isDigit c = true) :
    lexer.integer = lexer.accept (.plain lexer.line (lineUntil (!isDigit ·) (c :: s))
      (.integer (lineUntil (!isDigit ·) (c :: s)))) := by
  rw [← h]
  refine integer_run ?_
  rw [h, lineUntil_cons_of_passes hnewline (by simpa using hdigit)]
  exact List.cons_ne_nil _ _

theorem stepText_run (hkeyword : lexer.line.keyword.isSome = true)
    (htext : lineUntil isSymbol lexer.rest ≠ []) :
    lexer.stepText = lexer.accept (.plain lexer.line (lineUntil isSymbol lexer.rest)
      (.stepText (lineUntil isSymbol lexer.rest))) := by
  have hnone : ¬lexer.line.keyword.isNone = true := by
    simpa [Option.isSome_iff_ne_none] using hkeyword
  rw [stepText, if_neg hnone]
  split
  · exact absurd ‹_› htext
  · rfl

/-- Where neither a newline nor a symbol comes next, the text of a step is not empty. -/
theorem stepText_run_of_not_isSymbol (h : lexer.rest = c :: s) (hnewline : c ≠ '\n')
    (hsymbol : isSymbol c = false) (hkeyword : lexer.line.keyword.isSome = true) :
    lexer.stepText = lexer.accept (.plain lexer.line (lineUntil isSymbol (c :: s))
      (.stepText (lineUntil isSymbol (c :: s)))) := by
  rw [← h]
  refine stepText_run hkeyword ?_
  rw [h, lineUntil_cons_of_passes hnewline hsymbol]
  exact List.cons_ne_nil _ _

theorem skip_run (c : Char) : lexer.skip = lexer.accept (.silent lexer.line [c]) :=
  rfl

end Lexer

namespace Pattern

variable {lexer : Lexer} {patterns : List Pattern} {refusals : List Refusal}

theorem runFirst_of_refuse (pattern : Pattern) {why : Refusal}
    (h : pattern.run lexer = .refuse why lexer) :
    runFirst (pattern :: patterns) refusals lexer =
      runFirst patterns (refusals ++ [why]) lexer := by
  rw [runFirst, h]
  rfl

theorem runFirst_of_accept (pattern : Pattern) {reading : Reading}
    (h : pattern.run lexer = lexer.accept reading) :
    runFirst (pattern :: patterns) refusals lexer = lexer.accept reading := by
  rw [runFirst, h]
  split
  · exact absurd ‹_› (lexer.accept_ending_ne_refused reading _)
  · rfl

/-- One alternative of a choice: if its pattern accepts or refuses as `applies`
says, the choice decides by `applies` too. -/
theorem runFirst_eq_ite (pattern : Pattern) {applies : Prop} [Decidable applies]
    {first others : Reading} (haccept : applies → pattern.run lexer = lexer.accept first)
    (hrefuse : ¬applies → ∃ why, pattern.run lexer = .refuse why lexer)
    (hothers : ¬applies → ∀ refusals, runFirst patterns refusals lexer = lexer.accept others)
    (refusals : List Refusal) :
    runFirst (pattern :: patterns) refusals lexer =
      lexer.accept (if applies then first else others) := by
  by_cases h : applies
  · rw [if_pos h, runFirst_of_accept pattern (haccept h)]
  · obtain ⟨why, hwhy⟩ := hrefuse h
    rw [if_neg h, runFirst_of_refuse pattern hwhy, hothers h]

end Pattern

namespace Lexer

open Pattern

variable {lexer : Lexer} {c : Char} {s : List Char}

/-! ### The choice between the rules -/

theorem indentation_of_not_isSpace (hstart : lexer.line.atStart = true) (h : lexer.rest = c :: s)
    (hspace : isSpace c ≠ true) : lexer.indentation = .refuse (.space lexer.pos) lexer := by
  have hpeek : lexer.peek?.any isSpace ≠ true := by
    have hrest : lexer.cursor.rest = c :: s := h
    simpa [peek?, Cursor.peek?, hrest] using hspace
  rw [indentation, expectingLineStart_of_true hstart, if_neg hpeek]

theorem blockKeyword_of_ne (hstart : lexer.line.atStart = true)
    (h : ∀ block spelling, lexer.lineOpening ≠ .block block spelling) :
    lexer.blockKeyword = .refuse (.blockKeyword lexer.pos) lexer := by
  rw [blockKeyword, expectingLineStart_of_true hstart]
  split
  · exact absurd ‹_› (h _ _)
  · rfl

theorem stepKeyword_of_ne (hstart : lexer.line.atStart = true)
    (h : ∀ keyword spelling, lexer.lineOpening ≠ .step keyword spelling) :
    lexer.stepKeyword = .refuse (.stepKeyword lexer.pos) lexer := by
  rw [stepKeyword, expectingLineStart_of_true hstart]
  split
  · exact absurd ‹_› (h _ _)
  · rfl

/-- **The start of a line is predicted.** -/
theorem lineStart_run (hstart : lexer.line.atStart = true) (h : lexer.rest = c :: s) :
    lineStart.run lexer = lexer.accept (.lineStart lexer.language lexer.line c s) := by
  rw [lineStart, Pattern.run, Reading.lineStart]
  by_cases hspace : isSpace c = true
  · rw [if_pos hspace]
    exact runFirst_of_accept (.rule .indentation) (indentation_run hstart h hspace)
  rw [if_neg hspace, ← h,
    runFirst_of_refuse (.rule .indentation) (indentation_of_not_isSpace hstart h hspace)]
  have hlookup : lexer.language.openingOf (lineUntil (· == ':') lexer.rest) = lexer.lineOpening :=
    rfl
  cases hopening : lexer.lineOpening with
  | block block spelling =>
    rw [hlookup, hopening,
      runFirst_of_accept (.rule .blockKeyword) (blockKeyword_run hstart hopening)]
  | step keyword spelling =>
    have hblock := blockKeyword_of_ne hstart (by simp [hopening])
    rw [hlookup, hopening, runFirst_of_refuse (.rule .blockKeyword) hblock,
      runFirst_of_accept (.rule .stepKeyword) (stepKeyword_run hstart hopening)]
  | unknown =>
    have hblock := blockKeyword_of_ne hstart (by simp [hopening])
    have hstep := stepKeyword_of_ne hstart (by simp [hopening])
    rw [hlookup, hopening, runFirst_of_refuse (.rule .blockKeyword) hblock,
      runFirst_of_refuse (.rule .stepKeyword) hstep,
      runFirst_of_accept (.rule .description) (description_run hstart)]

/-- Behind the start of a line, none of the rules for it applies. -/
theorem exists_lineStart_run_eq_refuse (hstart : lexer.line.atStart = false) :
    ∃ why, lineStart.run lexer = .refuse why lexer := by
  have hindentation : lexer.indentation = .refuse (.lineStart lexer.pos) lexer :=
    expectingLineStart_of_false hstart _
  have hblock : lexer.blockKeyword = .refuse (.lineStart lexer.pos) lexer :=
    expectingLineStart_of_false hstart _
  have hstep : lexer.stepKeyword = .refuse (.lineStart lexer.pos) lexer :=
    expectingLineStart_of_false hstart _
  have hdescription : lexer.description = .refuse (.lineStart lexer.pos) lexer :=
    expectingLineStart_of_false hstart _
  rw [lineStart, Pattern.run, runFirst_of_refuse (.rule .indentation) hindentation,
    runFirst_of_refuse (.rule .blockKeyword) hblock, runFirst_of_refuse (.rule .stepKeyword) hstep,
    runFirst_of_refuse (.rule .description) hdescription, runFirst]
  exact ⟨_, rfl⟩

theorem title_of_none (h : lexer.line.block.isSome ≠ true) :
    lexer.title = .refuse (.titleBlock lexer.pos) lexer := by
  rw [title, if_pos (by simpa [Option.isSome_iff_ne_none] using h)]

theorem integer_of_not_isDigit (h : lexer.rest = c :: s) (hdigit : isDigit c ≠ true) :
    lexer.integer = .refuse (.integer lexer.pos) lexer := by
  have hstop : (!isDigit c) = true := by simpa using hdigit
  rw [integer, h, lineUntil_cons_of_stops (Or.inr hstop)]

theorem stepText_of_none (h : lexer.line.keyword.isSome ≠ true) :
    lexer.stepText = .refuse (.stepTextKeyword lexer.pos) lexer := by
  rw [stepText, if_pos (by simpa [Option.isSome_iff_ne_none] using h)]

/-- **Trying the rules finds the predicted lexeme,** from every state of the
lexer before the end of the text. -/
theorem nextLexeme_run (h : lexer.rest ≠ []) :
    nextLexeme.run lexer = lexer.accept (.next lexer.language lexer.line lexer.rest) := by
  obtain ⟨c, s, hrest⟩ := List.exists_cons_of_ne_nil h
  have hnotEmpty : ¬lexer.rest.isEmpty = true := by simpa using h
  rw [nextLexeme, Pattern.run, if_neg hnotEmpty, lexeme, Pattern.run, hrest, Reading.next]
  refine runFirst_eq_ite (.rule .newline) ?_ (fun hc => ⟨_, expecting_of_ne hrest hc _⟩)
    (fun hnewline => ?_) []
  · rintro rfl
    exact newline_run hrest
  refine runFirst_eq_ite (.rule .comment) ?_ (fun hc => ⟨_, expecting_of_ne hrest hc _⟩)
    (fun _ => ?_)
  · rintro rfl
    exact comment_run hrest
  refine runFirst_eq_ite (.rule .tag) ?_ (fun hc => ⟨_, expecting_of_ne hrest hc _⟩) (fun _ => ?_)
  · rintro rfl
    exact tag_run hrest
  refine runFirst_eq_ite (.rule .cell) ?_ (fun hc => ⟨_, expecting_of_ne hrest hc _⟩) (fun _ => ?_)
  · rintro rfl
    exact cell_run hrest
  refine runFirst_eq_ite lineStart (fun hstart => lineStart_run hstart hrest)
    (fun hstart => exists_lineStart_run_eq_refuse (by simpa using hstart)) (fun _ => ?_)
  refine runFirst_eq_ite (.rule .placeholder) ?_ (fun hc => ⟨_, expecting_of_ne hrest hc _⟩)
    (fun hplaceholder => ?_)
  · rintro rfl
    exact placeholder_run hrest
  -- A title is not empty here: newlines and placeholders have been taken by now.
  refine runFirst_eq_ite (.rule .title)
    (fun hblock => title_run_of_ne hrest hnewline hplaceholder hblock)
    (fun hblock => ⟨_, title_of_none hblock⟩) (fun _ => ?_)
  refine runFirst_eq_ite (.rule .quoted) ?_ (fun hc => ⟨_, expecting_of_ne hrest hc _⟩)
    (fun hquoted => ?_)
  · rintro rfl
    exact quoted_run hrest
  refine runFirst_eq_ite (.rule .integer)
    (fun hdigit => integer_run_of_isDigit hrest hnewline hdigit)
    (fun hdigit => ⟨_, integer_of_not_isDigit hrest hdigit⟩) (fun hdigit => ?_)
  -- Nor is the text of a step: no symbol is left to begin with.
  refine runFirst_eq_ite (.rule .stepText) (fun hkeyword => ?_)
    (fun hkeyword => ⟨_, stepText_of_none hkeyword⟩) (fun _ refusals => ?_)
  · have hsymbol : isSymbol c = false := by
      simp [isSymbol, hquoted, hplaceholder, hdigit]
    exact stepText_run_of_not_isSymbol hrest hnewline hsymbol hkeyword
  exact runFirst_of_accept (.rule .skip) (skip_run c)

end Lexer
end FeatureLexer
