import FeatureLexer.Proofs.Session.LineGrammar
import FeatureLexer.Session.Step

/-!
# A session, lexeme by lexeme

A draw runs `Pattern.nextLexeme` until a lexeme gives a token, and a session is
drawn from again and again. `Session.Draws` looks at the states between two
such runs, within a draw and between draws: it says which pieces of the text a
session has read on its way, each with the token that it gave. Any source and
any policy will do, so a session may also be stopped on the way, by a problem
that cannot be noted or by a warning that is raised.

Whatever is asked of a session, as long as tokens are drawn and nothing else,
leads it along these states (`exists_draws_of_mem_performAll`). What is to be
shown of all of them is shown by `Draws.invariant`: show it of the start, and
of the line and the text behind a reading if it holds before. What a session
notes down beside this, it notes without moving its lexer
(`Lexer.StandsAt`), and no diagnostic is ever taken back
(`Draws.diagnostics_isPrefix`).
-/

namespace FeatureLexer

open Pattern

namespace Lexer

/-- Whether a lexer stands where another one stood, with the same language in
force and the same line so far, and has noted no less. -/
structure StandsAt (next lexer : Lexer) : Prop where
  cursor : next.cursor = lexer.cursor
  language : next.language = lexer.language
  line : next.line = lexer.line
  diagnostics : lexer.diagnostics <+: next.diagnostics

/-- Whether a lexer stands behind a reading that another one has taken over. -/
structure StandsBehind (next lexer : Lexer) (reading : Reading) : Prop where
  cursor : next.cursor = lexer.cursor.advance reading.span.length
  line : next.line = reading.line
  language : lexer.language.Supported → next.language.Supported
  diagnostics : lexer.diagnostics <+: next.diagnostics

variable {lexer next : Lexer}

namespace StandsAt

theorem refl (lexer : Lexer) : lexer.StandsAt lexer :=
  ⟨rfl, rfl, rfl, List.prefix_refl _⟩

theorem trans {last : Lexer} (h : last.StandsAt next) (h' : next.StandsAt lexer) :
    last.StandsAt lexer :=
  ⟨h.cursor.trans h'.cursor, h.language.trans h'.language, h.line.trans h'.line,
    h'.diagnostics.trans h.diagnostics⟩

theorem rest_eq (h : next.StandsAt lexer) : next.rest = lexer.rest :=
  congrArg Cursor.rest h.cursor

end StandsAt

/-- Noting a problem moves nothing. -/
theorem note_standsAt {category : Category} {problem : String}
    (h : lexer.note category problem = .ok next) : next.StandsAt lexer := by
  rw [note] at h
  cases hname : lexer.source.fileName with
  | error error =>
    rw [hname] at h
    exact absurd h (by simp [Except.map])
  | ok fileName =>
    rw [hname] at h
    obtain rfl := Except.ok.inj h
    exact ⟨rfl, rfl, rfl, List.prefix_append _ _⟩

theorem moved_standsBehind (lexer : Lexer) (reading : Reading) :
    (lexer.moved reading).StandsBehind lexer reading :=
  ⟨rfl, rfl, id, List.prefix_refl _⟩

/-- A change of language moves nothing, and leads to a supported language. -/
theorem StandsBehind.of_adoptLanguage {reading : Reading} {changed : Lexer}
    {name : Option (List Char)} (h : next.StandsBehind lexer reading)
    (hchange : next.adoptLanguage name = .ok changed) : changed.StandsBehind lexer reading := by
  rw [adoptLanguage] at hchange
  split at hchange
  next language hlanguage =>
    obtain rfl := Except.ok.inj hchange
    exact ⟨h.cursor, h.line, fun _ => Language.supported_of_requested? hlanguage, h.diagnostics⟩
  next =>
    have hnoted := note_standsAt hchange
    refine ⟨hnoted.cursor.trans h.cursor, hnoted.line.trans h.line, fun hl => ?_,
      h.diagnostics.trans hnoted.diagnostics⟩
    rw [hnoted.language]
    exact h.language hl

/-- **What comes of taking a reading over,** whether or not a problem with it
can be noted: the lexer stands behind it in any case. -/
theorem accept_cases (lexer : Lexer) (reading : Reading) :
    ∃ next, next.StandsBehind lexer reading ∧
      (lexer.accept reading = ⟨reading.token?.toList, next, .done⟩ ∨
        reading.declared? ≠ none ∧
          ∃ error, lexer.accept reading = ⟨reading.token?.toList, next, .failed error⟩) := by
  have hmoved := lexer.moved_standsBehind reading
  cases hdeclared : reading.declared? with
  | none =>
    refine ⟨lexer.moved reading, hmoved, Or.inl ?_⟩
    simp [accept, hdeclared, Run.after, Run.silent]
  | some name =>
    cases hchange : (lexer.moved reading).adoptLanguage (some name) with
    | error error =>
      refine ⟨lexer.moved reading, hmoved, Or.inr ⟨Option.some_ne_none name, error, ?_⟩⟩
      simp [accept, hdeclared, hchange, Run.after, Run.ofChange]
    | ok changed =>
      refine ⟨changed, hmoved.of_adoptLanguage hchange, Or.inl ?_⟩
      simp [accept, hdeclared, hchange, Run.after, Run.ofChange, Run.silent]

/-- Behind the next lexeme, the lexer has its span less to read. -/
theorem StandsBehind.rest_eq (hl : lexer.language.Supported) (hne : lexer.rest ≠ [])
    (h : next.StandsBehind lexer (.next lexer.language lexer.line lexer.rest)) :
    lexer.rest = (Reading.next lexer.language lexer.line lexer.rest).span ++ next.rest ∧
      (Reading.next lexer.language lexer.line lexer.rest).span ≠ [] := by
  obtain ⟨hsplit, _, hspan⟩ := lexer.past_next [] hl hne
  refine ⟨?_, hspan⟩
  have hrest : next.rest = lexer.rest.drop
      (Reading.next lexer.language lexer.line lexer.rest).span.length := by
    rw [rest, h.cursor]
    rfl
  rw [hrest]
  exact hsplit

/-- **What a run for the next lexeme comes to** before the end of the text. -/
theorem nextLexeme_run_cases (hl : lexer.language.Supported) (hne : lexer.rest ≠ []) :
    ∃ span next, lexer.rest = span ++ next.rest ∧ span ≠ [] ∧
      (nextLexeme.run lexer = .silent next ∨
        (∃ token, nextLexeme.run lexer = .give token next) ∨
        ∃ error, nextLexeme.run lexer = ⟨[], next, .failed error⟩) := by
  obtain ⟨next, hbehind, houtcome⟩ :=
    lexer.accept_cases (.next lexer.language lexer.line lexer.rest)
  obtain ⟨hrest, hspan⟩ := hbehind.rest_eq hl hne
  refine ⟨_, next, hrest, hspan, ?_⟩
  rw [nextLexeme_run hne]
  rcases houtcome with hdone | ⟨hdeclared, error, hfailed⟩
  · rw [hdone]
    cases (Reading.next lexer.language lexer.line lexer.rest).token? with
    | none => exact Or.inl rfl
    | some token => exact Or.inr (Or.inl ⟨token, rfl⟩)
  · rw [hfailed, Reading.token?_next_of_declared? hdeclared]
    exact Or.inr (Or.inr ⟨error, rfl⟩)

/-- The text that a lexer has read on its way to another place. -/
def readUpTo (lexer next : Lexer) : List Char :=
  lexer.rest.take (lexer.rest.length - next.rest.length)

theorem readUpTo_eq {span : List Char} (h : lexer.rest = span ++ next.rest) :
    lexer.readUpTo next = span := by
  rw [readUpTo, h, List.length_append, Nat.add_sub_cancel, List.take_left]

/-- **A run is a reading.** What has been read by a run that was not refused is
the next lexeme, and the lexer stands behind it. -/
theorem reading_of_run (hl : lexer.language.Supported) {token? : Option Token} {ending : Ending}
    (hrun : nextLexeme.run lexer = ⟨token?.toList, next, ending⟩)
    (hending : ∀ why, ending ≠ .refused why) :
    ∃ reading, Reading.next lexer.language lexer.line lexer.rest = reading ∧
      reading.toPiece = ⟨lexer.readUpTo next, token?⟩ ∧ reading.span ≠ [] ∧
      lexer.rest = reading.span ++ next.rest ∧ next.StandsBehind lexer reading := by
  have hne : lexer.rest ≠ [] := by
    intro hend
    rw [nextLexeme_run_of_ended hend] at hrun
    exact hending _ (congrArg Run.ending hrun).symm
  generalize hreading : Reading.next lexer.language lexer.line lexer.rest = reading
  obtain ⟨behind, hbehind, houtcome⟩ := lexer.accept_cases reading
  rw [nextLexeme_run hne, hreading] at hrun
  have hsame : reading.token?.toList = token?.toList ∧ behind = next := by
    rcases houtcome with hdone | ⟨_, error, hfailed⟩
    · rw [hdone] at hrun
      exact ⟨congrArg Run.tokens hrun, congrArg Run.lexer hrun⟩
    · rw [hfailed] at hrun
      exact ⟨congrArg Run.tokens hrun, congrArg Run.lexer hrun⟩
  obtain ⟨htokens, rfl⟩ := hsame
  have htoken : reading.token? = token? := by simpa using congrArg List.head? htokens
  rw [← hreading] at hbehind
  obtain ⟨hrest, hspan⟩ := hbehind.rest_eq hl hne
  rw [hreading] at hrest hspan hbehind
  refine ⟨reading, rfl, ?_, hspan, hrest, hbehind⟩
  rw [readUpTo_eq hrest, ← htoken]

end Lexer

/-- Whether a step draws tokens. -/
def Step.draws : Step → Bool
  | .draw | .drain | .take _ => true
  | _ => false

namespace Session

/-! ### What a session notes down -/

/-- Giving warnings out does not move the lexer. -/
theorem flush_standsAt (session : Session) :
    session.flush.2.lexer.StandsAt session.lexer := by
  have hemptied : Lexer.StandsAt { session.lexer with pending := [] } session.lexer :=
    ⟨rfl, rfl, rfl, List.prefix_refl _⟩
  rw [flush]
  split
  · exact hemptied
  · exact hemptied
  · split
    · exact hemptied
    · exact .refl _

/-- Nor does giving a token out, and no other token is given. -/
theorem giveOut_standsAt (session : Session) (token : Token) :
    (session.giveOut token).2.lexer.StandsAt session.lexer ∧
      ∀ token?, (session.giveOut token).1 = .ok token? → token? = some token := by
  have hseen : (session.saw token).lexer.StandsAt session.lexer :=
    ⟨rfl, rfl, rfl, List.prefix_refl _⟩
  have hflush := (session.saw token).flush_standsAt.trans hseen
  rw [saw] at hflush
  rw [giveOut]
  split
  next hresult =>
    rw [hresult] at hflush
    exact ⟨hflush, fun _ h => (Except.ok.inj h).symm⟩
  next hresult =>
    rw [hresult] at hflush
    exact ⟨hflush, fun _ h => by simp at h⟩

theorem noteProse_standsAt {lexer noted : Lexer} (h : noteProse lexer = .ok noted) :
    noted.StandsAt lexer := by
  rw [noteProse] at h
  split at h
  · obtain rfl := Except.ok.inj h
    exact .refl _
  · exact Lexer.note_standsAt h

/-- Nor does the end of the text, which gives no token. -/
theorem conclude_standsAt (session : Session) :
    session.conclude.2.lexer.StandsAt session.lexer ∧
      ∀ token?, session.conclude.1 = .ok token? → token? = none := by
  rw [conclude]
  split
  · exact ⟨.refl _, fun _ h => by simp at h⟩
  · cases hnote : noteProse session.lexer with
    | error error => exact ⟨.refl _, fun _ h => by simp at h⟩
    | ok lexer =>
      have hflush := { session with lexer }.flush_standsAt.trans (noteProse_standsAt hnote)
      dsimp only
      split
      next hresult =>
        rw [hresult] at hflush
        exact ⟨hflush, fun _ h => (Except.ok.inj h).symm⟩
      next hresult =>
        rw [hresult] at hflush
        exact ⟨hflush, fun _ h => by simp at h⟩

/-! ### The states of a session -/

/-- The pieces that a session, which is drawn from, has read on its way to a
later state. The states are those between two runs for the next lexeme, and
those where a session is finished. -/
inductive Draws (first : Session) : List Piece → Session → Prop where
  | refl : Draws first [] first
  /-- A lexeme that gives no token: the next one is read at once. -/
  | silent {pieces : List Piece} {session : Session} {next : Lexer}
      (h : Draws first pieces session) (hopen : session.finished = false)
      (hrun : nextLexeme.run session.lexer = .silent next) :
      Draws first (pieces ++ [⟨session.lexer.readUpTo next, none⟩]) { session with lexer := next }
  /-- A lexeme that gives a token, which is given out. -/
  | token {pieces : List Piece} {session : Session} {next : Lexer} {token : Token}
      (h : Draws first pieces session) (hopen : session.finished = false)
      (hrun : nextLexeme.run session.lexer = .give token next) :
      Draws first (pieces ++ [⟨session.lexer.readUpTo next, some token⟩])
        ({ session with lexer := next }.giveOut token).2
  /-- A lexeme with a problem that cannot be noted, which stops the session. -/
  | failed {pieces : List Piece} {session : Session} {next : Lexer} {error : LocatorError}
      (h : Draws first pieces session) (hopen : session.finished = false)
      (hrun : nextLexeme.run session.lexer = ⟨[], next, .failed error⟩) :
      Draws first (pieces ++ [⟨session.lexer.readUpTo next, none⟩])
        { session with lexer := next }.finish
  /-- The end of the text, at which the session concludes. -/
  | ended {pieces : List Piece} {session : Session} (h : Draws first pieces session)
      (hopen : session.finished = false) (hend : session.lexer.rest = []) :
      Draws first pieces session.conclude.2

namespace Draws

variable {first mid last session : Session} {pieces more : List Piece}

theorem trans (h : first.Draws pieces mid) (h' : mid.Draws more last) :
    first.Draws (pieces ++ more) last := by
  induction h' with
  | refl =>
    rw [List.append_nil]
    exact h
  | silent _ hopen hrun ih =>
    rw [← List.append_assoc]
    exact .silent ih hopen hrun
  | token _ hopen hrun ih =>
    rw [← List.append_assoc]
    exact .token ih hopen hrun
  | failed _ hopen hrun ih =>
    rw [← List.append_assoc]
    exact .failed ih hopen hrun
  | ended _ hopen hend ih => exact .ended ih hopen hend

/-- **What holds lexer by lexer.** The lexer of a session moves behind one
reading after the other, and stands still in between. To show something of the
pieces and the lexer in every state, show it of the first state, behind a
reading and where the lexer stands still. -/
theorem lexer_induction (hl : first.lexer.language.Supported)
    (motive : List Piece → Lexer → Prop) (start : motive [] first.lexer)
    (read : ∀ (pieces : List Piece) (lexer next : Lexer) (reading : Reading),
      reading.span ≠ [] → lexer.rest = reading.span ++ next.rest →
      Reading.next lexer.language lexer.line lexer.rest = reading →
      next.StandsBehind lexer reading → motive pieces lexer →
      motive (pieces ++ [reading.toPiece]) next)
    (stand : ∀ (pieces : List Piece) (lexer next : Lexer), next.StandsAt lexer →
      motive pieces lexer → motive pieces next)
    (h : first.Draws pieces session) :
    session.lexer.language.Supported ∧ motive pieces session.lexer := by
  -- A run that was not refused is a reading, whichever way it ended.
  have hread {pieces : List Piece} {lexer next : Lexer} {token? : Option Token} {ending : Ending}
      (hlexer : lexer.language.Supported ∧ motive pieces lexer)
      (hrun : nextLexeme.run lexer = ⟨token?.toList, next, ending⟩)
      (hending : ∀ why, ending ≠ .refused why) :
      next.language.Supported ∧ motive (pieces ++ [⟨lexer.readUpTo next, token?⟩]) next := by
    obtain ⟨reading, hreading, hpiece, hne, hrest, hbehind⟩ :=
      Lexer.reading_of_run hlexer.1 hrun hending
    rw [← hpiece]
    exact ⟨hbehind.language hlexer.1,
      read pieces lexer next reading hne hrest hreading hbehind hlexer.2⟩
  have hstand {pieces : List Piece} {lexer next : Lexer}
      (hlexer : lexer.language.Supported ∧ motive pieces lexer) (hnext : next.StandsAt lexer) :
      next.language.Supported ∧ motive pieces next := by
    refine ⟨?_, stand pieces lexer next hnext hlexer.2⟩
    rw [hnext.language]
    exact hlexer.1
  induction h with
  | refl => exact ⟨hl, start⟩
  | silent _ _ hsilent ih =>
    have hquiet : nextLexeme.run _ = ⟨Option.toList none, _, .done⟩ := hsilent
    exact hread ih hquiet fun _ => Ending.noConfusion
  | @token _ session next token _ _ hgives ih =>
    have hgive : nextLexeme.run _ = ⟨Option.toList (some token), _, .done⟩ := hgives
    have hgiven := (giveOut_standsAt { session with lexer := next } token).1
    exact hstand (hread ih hgive fun _ => Ending.noConfusion) hgiven
  | failed _ _ hfailed ih =>
    have hquiet : nextLexeme.run _ = ⟨Option.toList none, _, .failed _⟩ := hfailed
    exact hread ih hquiet fun _ => Ending.noConfusion
  | @ended _ session _ _ _ ih => exact hstand ih session.conclude_standsAt.1

/-- **What every reading keeps, a session keeps.** To show something of the
pieces read, the line so far and the rest of the text in every state of a
session, show it of the first state, and behind a reading if it holds before
it. -/
theorem invariant (Inv : List Piece → LineState → List Char → Prop)
    (hnext : ∀ (language : Language) (pieces : List Piece) (line : LineState) (reading : Reading)
      (after : List Char), reading.span ≠ [] →
      Reading.next language line (reading.span ++ after) = reading →
      Inv pieces line (reading.span ++ after) →
      Inv (pieces ++ [reading.toPiece]) reading.line after)
    (hl : first.lexer.language.Supported) (hfirst : Inv [] first.lexer.line first.lexer.rest)
    (h : first.Draws pieces session) : Inv pieces session.lexer.line session.lexer.rest := by
  refine (lexer_induction hl (fun pieces lexer => Inv pieces lexer.line lexer.rest) hfirst
    ?_ ?_ h).2
  · intro pieces lexer next reading hne hrest hreading hbehind hinv
    rw [hrest] at hreading hinv
    rw [hbehind.line]
    exact hnext _ _ _ reading _ hne hreading hinv
  · intro pieces lexer next hstands hinv
    rw [hstands.line, hstands.rest_eq]
    exact hinv

/-- The language in force stays supported. -/
theorem supported (hl : first.lexer.language.Supported) (h : first.Draws pieces session) :
    session.lexer.language.Supported :=
  (lexer_induction hl (fun _ _ => True) trivial (fun _ _ _ _ _ _ _ _ _ => trivial)
    (fun _ _ _ _ _ => trivial) h).1

/-- **The pieces are the text up to where the session stands.** -/
theorem text_eq (hl : first.lexer.language.Supported) (h : first.Draws pieces session) :
    first.lexer.rest = pieces.flatMap (·.span) ++ session.lexer.rest := by
  refine invariant (fun pieces _ rest => first.lexer.rest = pieces.flatMap (·.span) ++ rest)
    ?_ hl rfl h
  intro _ pieces _ reading after _ _ htext
  rw [htext, List.flatMap_append, List.flatMap_singleton, List.append_assoc]

/-- **Each piece is the next reading there,** of what was left of the text when it
was read. -/
theorem exists_reading (hl : first.lexer.language.Supported) (h : first.Draws pieces session)
    {before later : List Piece} {piece : Piece} (hpieces : pieces = before ++ piece :: later) :
    ∃ (language : Language) (line : LineState) (reading : Reading), language.Supported ∧
      reading.toPiece = piece ∧ reading.span ≠ [] ∧
      Reading.next language line
        (reading.span ++ (later.flatMap (·.span) ++ session.lexer.rest)) = reading := by
  refine (lexer_induction hl (fun pieces lexer => lexer.language.Supported ∧
    ∀ before piece later, pieces = before ++ piece :: later →
      ∃ (language : Language) (line : LineState) (reading : Reading), language.Supported ∧
        reading.toPiece = piece ∧ reading.span ≠ [] ∧
        Reading.next language line
          (reading.span ++ (later.flatMap (·.span) ++ lexer.rest)) = reading)
    ⟨hl, by simp⟩ ?_ ?_ h).2.2 before piece later hpieces
  · rintro pieces lexer next reading hne hrest hreading hbehind ⟨hsupported, hpieces⟩
    refine ⟨hbehind.language hsupported, ?_⟩
    intro before piece later hsplit
    rcases List.eq_nil_or_concat later with rfl | ⟨later, last, rfl⟩
    · -- The piece is the one that has just been read.
      obtain ⟨_, hpiece⟩ := List.append_inj' hsplit rfl
      rw [hrest] at hreading
      exact ⟨lexer.language, lexer.line, reading, hsupported, (List.cons.inj hpiece).1, hne,
        hreading⟩
    · -- It was read before, and what has just been read was left then.
      rw [List.concat_eq_append, ← List.cons_append, ← List.append_assoc] at hsplit
      obtain ⟨hbefore, hlast⟩ := List.append_inj' hsplit rfl
      obtain rfl : reading.toPiece = last := (List.cons.inj hlast).1
      obtain ⟨language, line, earlier, hlanguage, hpiece, hne', hnext⟩ :=
        hpieces before piece later hbefore
      refine ⟨language, line, earlier, hlanguage, hpiece, hne', ?_⟩
      rw [List.concat_eq_append, List.flatMap_append, List.flatMap_singleton, List.append_assoc,
        ← hrest]
      exact hnext
  · rintro pieces lexer next hstands ⟨hsupported, hpieces⟩
    rw [hstands.language, hstands.rest_eq]
    exact ⟨hsupported, hpieces⟩

/-- **Every piece takes a character.** -/
theorem length_add_le (hl : first.lexer.language.Supported) (h : first.Draws pieces session) :
    pieces.length + session.lexer.rest.length ≤ first.lexer.rest.length := by
  refine invariant (fun pieces _ rest => pieces.length + rest.length ≤ first.lexer.rest.length)
    ?_ hl (by simp) h
  intro _ pieces _ reading after hne _ hlength
  have hspan := List.length_pos_iff.2 hne
  rw [List.length_append] at hlength ⊢
  rw [List.length_singleton]
  omega

/-- **No diagnostic is taken back.** -/
theorem diagnostics_isPrefix (hl : first.lexer.language.Supported)
    (h : first.Draws pieces session) :
    first.lexer.diagnostics <+: session.lexer.diagnostics := by
  refine (lexer_induction hl (fun _ lexer => first.lexer.diagnostics <+: lexer.diagnostics)
    (List.prefix_refl _) ?_ ?_ h).2
  · intro _ _ _ _ _ _ _ hbehind hkept
    exact hkept.trans hbehind.diagnostics
  · intro _ _ _ hstands hkept
    exact hkept.trans hstands.diagnostics

end Draws

/-! ### What is drawn -/

section

variable {session : Session} {next : Lexer} (hopen : session.finished = false)
include hopen

theorem draw_of_run_silent (hrun : nextLexeme.run session.lexer = .silent next)
    (hless : next.remaining < session.lexer.remaining) :
    session.draw = { session with lexer := next }.draw := by
  have huntil : Run.untilToken nextLexeme.run session.lexer =
      Run.untilToken nextLexeme.run next := by
    rw [Run.untilToken, hrun]
    exact if_pos hless
  simp [draw, hopen, huntil]

theorem draw_of_run_give {token : Token} (hrun : nextLexeme.run session.lexer = .give token next) :
    session.draw = { session with lexer := next }.giveOut token := by
  rw [draw, if_neg (by simp [hopen]), Run.untilToken, hrun]
  rfl

theorem draw_of_run_failed {error : LocatorError}
    (hrun : nextLexeme.run session.lexer = ⟨[], next, .failed error⟩) :
    session.draw = (.error (.unnamable error), { session with lexer := next }.finish) := by
  rw [draw, if_neg (by simp [hopen]), Run.untilToken, hrun]

end

/-- **A draw leads along the states of a session,** and gives the token of the
pieces that it reads. -/
theorem exists_draws_draw (session : Session) (hl : session.lexer.language.Supported) :
    ∃ pieces, session.Draws pieces session.draw.2 ∧
      ∀ token?, session.draw.1 = .ok token? → pieces.filterMap (·.token?) = token?.toList := by
  induction hn : session.lexer.rest.length using Nat.strongRecOn generalizing session with
  | ind n ih =>
    cases hopen : session.finished with
    | true =>
      rw [draw_of_finished hopen]
      refine ⟨[], .refl, fun token? htoken => ?_⟩
      obtain rfl := Except.ok.inj htoken
      rfl
    | false =>
      by_cases hend : session.lexer.rest = []
      · rw [draw_of_ended (by simp [hopen]) hend]
        refine ⟨[], .ended .refl hopen hend, fun token? htoken => ?_⟩
        rw [session.conclude_standsAt.2 token? htoken]
        rfl
      obtain ⟨span, next, hspan, hne, hsilent | ⟨token, hgive⟩ | ⟨error, hfailed⟩⟩ :=
        Lexer.nextLexeme_run_cases hl hend
      · have hstep := Draws.silent .refl hopen hsilent
        have hless : next.rest.length < n := by
          have hpos := List.length_pos_iff.2 hne
          rw [← hn, hspan, List.length_append]
          omega
        obtain ⟨pieces, hdraws, htokens⟩ :=
          ih _ hless { session with lexer := next } (hstep.supported hl) rfl
        rw [draw_of_run_silent hopen hsilent (Lexer.remaining_lt hne hspan)]
        exact ⟨_, hstep.trans hdraws, htokens⟩
      · rw [draw_of_run_give hopen hgive]
        refine ⟨_, .token .refl hopen hgive, fun token? htoken => ?_⟩
        have hgiven := (giveOut_standsAt { session with lexer := next } token).2 token? htoken
        rw [hgiven]
        rfl
      · rw [draw_of_run_failed hopen hfailed]
        exact ⟨_, .failed .refl hopen hfailed, fun token? htoken => by simp at htoken⟩

/-- So does taking tokens. -/
theorem exists_draws_take (n : Nat) (session : Session) (hl : session.lexer.language.Supported) :
    ∃ pieces, session.Draws pieces (session.take n).2 ∧
      ∀ tokens, (session.take n).1 = .ok tokens → pieces.filterMap (·.token?) = tokens := by
  induction n generalizing session with
  | zero =>
    refine ⟨[], .refl, fun tokens htokens => ?_⟩
    exact Except.ok.inj htokens
  | succ n ih =>
    obtain ⟨pieces, hdraws, hdrawn⟩ := session.exists_draws_draw hl
    rw [take]
    split
    next hdraw =>
      rw [hdraw] at hdraws
      exact ⟨pieces, hdraws, fun tokens htokens => by simp at htokens⟩
    next hdraw =>
      rw [hdraw] at hdraws hdrawn
      refine ⟨pieces, hdraws, fun tokens htokens => ?_⟩
      rw [hdrawn none rfl]
      exact Except.ok.inj htokens
    next token after hdraw =>
      rw [hdraw] at hdraws hdrawn
      obtain ⟨more, hmore, hothers⟩ := ih after (hdraws.supported hl)
      refine ⟨pieces ++ more, hdraws.trans hmore, fun tokens htokens => ?_⟩
      dsimp only at htokens
      cases htake : (after.take n).1 with
      | error failure =>
        rw [htake] at htokens
        exact absurd htokens (by simp [Except.map])
      | ok others =>
        rw [htake] at htokens
        rw [List.filterMap_append, hdrawn (some token) rfl, hothers others htake]
        exact Except.ok.inj htokens

theorem exists_draws_perform (session : Session) (hl : session.lexer.language.Supported)
    {step : Step} (hstep : step.draws = true) :
    ∃ pieces, session.Draws pieces (session.perform step).2 := by
  cases step with
  | draw =>
    obtain ⟨pieces, hdraws, _⟩ := session.exists_draws_draw hl
    exact ⟨pieces, hdraws⟩
  | drain =>
    obtain ⟨pieces, hdraws, _⟩ := session.exists_draws_take _ hl
    exact ⟨pieces, hdraws⟩
  | take n =>
    obtain ⟨pieces, hdraws, _⟩ := session.exists_draws_take n hl
    exact ⟨pieces, hdraws⟩
  | _ => exact absurd hstep Bool.false_ne_true

/-- **Drawing leads along the states of a session,** however tokens are drawn. -/
theorem exists_draws_of_mem_performAll {steps : List Step}
    (hsteps : ∀ step ∈ steps, step.draws = true) (session : Session)
    (hl : session.lexer.language.Supported) {report : Report}
    (h : report ∈ session.performAll steps) : ∃ pieces, session.Draws pieces report.after := by
  induction steps generalizing session with
  | nil => exact absurd h List.not_mem_nil
  | cons step steps ih =>
    obtain ⟨pieces, hdraws⟩ := session.exists_draws_perform hl (hsteps step List.mem_cons_self)
    rcases List.mem_cons.1 h with rfl | h
    · exact ⟨pieces, hdraws⟩
    · obtain ⟨more, hmore⟩ := ih (fun other hmem => hsteps other (List.mem_cons_of_mem _ hmem))
        _ (hdraws.supported hl) h
      exact ⟨pieces ++ more, hdraws.trans hmore⟩

end Session
end FeatureLexer
