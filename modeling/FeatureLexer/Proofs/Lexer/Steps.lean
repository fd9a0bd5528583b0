import FeatureLexer.Proofs.Lexer.Prediction
import FeatureLexer.Proofs.Lexer.Scan

/-!
# A lexer, step after step

`Lexer.Steps` says that a lexer reads pieces of its text one after the other,
each by one run of `Pattern.nextLexeme` that succeeds. What such steps add up
to follows from the definition alone: the pieces are where the text goes on,
there are not more of them than characters, and steps that reach the end of
the text are the whole of a repetition (`Steps.many_run`).

That there are such steps is where the scan of the text comes in. A lexer
whose file can be named takes the readings of `scan` one after the other
(`steps_of_scan_eq_append`), whatever it has found out before. A lexer whose
file has no name to give is stopped by the first problem that it would have to
note.
-/

namespace FeatureLexer
namespace Lexer

open Pattern

/-- The lexer behind a reading, in a file of the given name. -/
def past (fileName : List Char) (lexer : Lexer) (reading : Reading) : Lexer :=
  { lexer.moved reading with
    language := reading.languageAfter lexer.language
    diagnostics := lexer.diagnostics ++ reading.problems fileName
    pending := lexer.pending ++ reading.problems fileName }

/-- The lexer behind readings, in a file of the given name. -/
def pastAll (fileName : List Char) (lexer : Lexer) (readings : List Reading) : Lexer :=
  { lexer with
    cursor := lexer.cursor.advance (readings.flatMap (·.span)).length
    language := languageAfter lexer.language readings
    line := lineAfter lexer.line readings
    diagnostics := lexer.diagnostics ++ readings.flatMap (·.problems fileName)
    pending := lexer.pending ++ readings.flatMap (·.problems fileName) }

variable {lexer : Lexer} {fileName : List Char}

@[simp] theorem past_rest (reading : Reading) :
    (lexer.past fileName reading).rest = lexer.rest.drop reading.span.length :=
  rfl

@[simp] theorem pastAll_nil : lexer.pastAll fileName [] = lexer := by
  simp [pastAll, languageAfter, lineAfter]

/-- One reading after the other. -/
theorem pastAll_cons (reading : Reading) (readings : List Reading) :
    lexer.pastAll fileName (reading :: readings) =
      (lexer.past fileName reading).pastAll fileName readings := by
  simp [pastAll, past, moved, languageAfter, lineAfter, Cursor.advance_advance]

/-- **Accepting succeeds** in a file that has a name. -/
theorem accept_eq (hname : lexer.source.fileName = .ok fileName) (reading : Reading) :
    lexer.accept reading = ⟨reading.token?.toList, lexer.past fileName reading, .done⟩ := by
  simp only [accept, past, Reading.languageAfter, Reading.problems]
  cases reading.declared? with
  | none => simp [Run.after, Run.silent, moved]
  | some name =>
    have hrequested : Language.requested? (some name) = Language.named? name := rfl
    cases hlanguage : Language.named? name with
    | some language =>
      simp [adoptLanguage, hrequested, hlanguage, Run.ofChange, Run.silent, Run.after, moved]
    | none =>
      simp [adoptLanguage, hrequested, hlanguage, note, moved, hname, Except.map, Run.ofChange,
        Run.silent, Run.after]

/-- **A step before the end of the text succeeds,** from every state of the
lexer, with the predicted lexeme. -/
theorem nextLexeme_run_eq (hname : lexer.source.fileName = .ok fileName) (h : lexer.rest ≠ []) :
    nextLexeme.run lexer =
      ⟨(Reading.next lexer.language lexer.line lexer.rest).token?.toList,
        lexer.past fileName (.next lexer.language lexer.line lexer.rest), .done⟩ := by
  rw [nextLexeme_run h, accept_eq hname]

theorem nextLexeme_run_of_ended (h : lexer.rest = []) :
    nextLexeme.run lexer = .refuse (.ended lexer.pos) lexer := by
  rw [nextLexeme, Pattern.run, if_pos (by simp [h])]

/-- A character is worth more than the start of a line that a step may come to. -/
theorem remaining_lt {next : Lexer} {span : List Char} (hne : span ≠ [])
    (h : lexer.rest = span ++ next.rest) : next.remaining < lexer.remaining := by
  have hspan := List.length_pos_iff.2 hne
  have hstart := Bool.toNat_le next.line.atStart
  rw [remaining, remaining, h, List.length_append]
  omega

/-- The steps by which a lexer reads pieces of its text. -/
inductive Steps : Lexer → List Piece → Lexer → Prop where
  | nil {lexer : Lexer} : Steps lexer [] lexer
  | cons {lexer next last : Lexer} {piece : Piece} {pieces : List Piece}
      (hrun : nextLexeme.run lexer = ⟨piece.token?.toList, next, .done⟩)
      (hrest : lexer.rest = piece.span ++ next.rest)
      (hpos : next.pos = lexer.pos + piece.span.length)
      (hne : piece.span ≠ []) (hsteps : Steps next pieces last) :
      Steps lexer (piece :: pieces) last

namespace Steps

variable {last : Lexer} {pieces : List Piece}

/-- **The pieces are where the text goes on.** -/
theorem rest_eq (h : lexer.Steps pieces last) :
    lexer.rest = pieces.flatMap (·.span) ++ last.rest := by
  induction h with
  | nil => rfl
  | cons _ hrest _ _ _ ih => rw [hrest, ih, List.flatMap_cons, List.append_assoc]

theorem pos_eq (h : lexer.Steps pieces last) :
    last.pos = lexer.pos + (pieces.flatMap (·.span)).length := by
  induction h with
  | nil => rfl
  | cons _ _ hpos _ _ ih =>
    rw [ih, hpos, List.flatMap_cons, List.length_append]
    omega

/-- **Every step takes a character.** -/
theorem length_add_le (h : lexer.Steps pieces last) :
    pieces.length + last.rest.length ≤ lexer.rest.length := by
  induction h with
  | nil => simp
  | cons _ hrest _ hne _ ih =>
    have hspan := List.length_pos_iff.2 hne
    rw [hrest, List.length_append, List.length_cons]
    omega

/-- **Steps to the end of the text are the whole of a repetition.** -/
theorem many_run (h : lexer.Steps pieces last) (hend : last.rest = []) :
    (many nextLexeme).run lexer = ⟨pieces.filterMap (·.token?), last, .done⟩ := by
  rw [Pattern.run]
  induction h with
  | nil =>
    rw [Run.iterate, nextLexeme_run_of_ended hend]
    rfl
  | @cons lexer next last piece pieces hrun hrest _ hne _ ih =>
    rw [Run.iterate, hrun]
    simp only [if_pos (remaining_lt hne hrest), ih hend, Run.after]
    cases htoken : piece.token? with
    | none => rw [List.filterMap_cons_none htoken]; rfl
    | some token => rw [List.filterMap_cons_some htoken]; rfl

end Steps

/-- **A step moves the lexer behind its piece.** -/
theorem past_next (lexer : Lexer) (fileName : List Char) (hl : lexer.language.Supported)
    (h : lexer.rest ≠ []) :
    let reading := Reading.next lexer.language lexer.line lexer.rest
    lexer.rest = reading.span ++ (lexer.past fileName reading).rest ∧
      (lexer.past fileName reading).pos = lexer.pos + reading.span.length ∧ reading.span ≠ [] := by
  intro reading
  obtain ⟨c, s, hrest⟩ := List.exists_cons_of_ne_nil h
  obtain ⟨after, hs, hne⟩ := Reading.next_span hl lexer.line c s
  rw [← hrest] at hs hne
  have hle : reading.span.length ≤ lexer.rest.length := List.IsPrefix.length_le ⟨after, hs.symm⟩
  refine ⟨?_, ?_, hne⟩
  · have hdrop := congrArg (List.drop reading.span.length) hs
    rw [List.drop_left] at hdrop
    rw [past_rest, hdrop]
    exact hs
  · have hpos : (lexer.past fileName reading).pos =
        lexer.pos + min reading.span.length lexer.rest.length :=
      Cursor.pos_advance lexer.cursor reading.span.length
    rw [hpos, Nat.min_eq_left hle]

/-- **A lexer takes the readings of its text** one after the other. -/
theorem steps_of_scan_eq_append (lexer : Lexer) (hname : lexer.source.fileName = .ok fileName)
    (hl : lexer.language.Supported) {before later : List Reading}
    (h : scan lexer.language lexer.line lexer.rest = before ++ later) :
    lexer.Steps (before.map (·.toPiece)) (lexer.pastAll fileName before) := by
  induction before generalizing lexer with
  | nil =>
    rw [pastAll_nil]
    exact .nil
  | cons first before ih =>
    obtain ⟨hrest, rfl, hbefore⟩ := next_of_scan_eq_cons hl h
    obtain ⟨hsplit, hpos, hne⟩ := lexer.past_next fileName hl hrest
    rw [pastAll_cons]
    exact .cons (nextLexeme_run_eq hname hrest) hsplit hpos hne
      (ih _ hname (Reading.supported_languageAfter _ hl) hbefore)

/-- **There are steps to the end of the text.** -/
theorem exists_steps_scan (lexer : Lexer) (hname : lexer.source.fileName = .ok fileName)
    (hl : lexer.language.Supported) :
    ∃ last, lexer.Steps ((scan lexer.language lexer.line lexer.rest).map (·.toPiece)) last ∧
      last.rest = [] := by
  have hsteps := lexer.steps_of_scan_eq_append hname hl (List.append_nil _).symm
  have hrest := hsteps.rest_eq
  rw [List.flatMap_map, flatMap_span_scan hl] at hrest
  exact ⟨_, hsteps, List.append_right_eq_self.1 hrest.symm⟩

end Lexer
end FeatureLexer
