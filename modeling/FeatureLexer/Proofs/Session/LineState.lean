import FeatureLexer.Proofs.Lexer.Dispatch
import FeatureLexer.Proofs.Session.Coverage
import FeatureLexer.Proofs.Session.Draws
import Mathlib.Data.List.DropRight

/-!
# What a line remembers

The line state of a lexer is all that it remembers of a line, and it is exact:
it can be told from the tokens that have been given since the line began
(`LineState.Records`). A line begins behind a newline and behind a comment;
keywords and descriptions are recorded, and tags, cells and the rest leave the
state alone. This holds between any two runs for the next lexeme of a session
that is drawn from, together with what `FeatureLexer.Proofs.Session.Coverage`
says of idle lines: behind a description nothing is left of the line.

So some branches of the rules, there so that something is always read, are
never taken in such a session. No character is skipped, and neither the rule
for titles nor the rule for the text of a step is come to where it would find
an empty one.
-/

namespace FeatureLexer

open Text

/-- The block of a token, if it is the keyword of a block. -/
def Token.blockKind? : Token → Option LineKind
  | .block kind => some kind
  | _ => none

/-- The step keyword of a token, if it is one. -/
def Token.stepKeyword? : Token → Option StepKeyword
  | .keyword step => some step
  | _ => none

theorem Token.of_opensLine_eq_false {token : Token} (h : token.opensLine = false) :
    token.blockKind? = none ∧ token.stepKeyword? = none := by
  cases token with
  | block | keyword | description => exact Bool.noConfusion h
  | _ => exact ⟨rfl, rfl⟩

/-- Whether a line begins behind a piece: it is a newline or a comment. -/
def Piece.endsLine (piece : Piece) : Bool :=
  piece.token? == some .newline || piece.token?.isNone && piece.span.head? == some '#'

/-- The tokens of the line that is being read, behind the pieces of a text. -/
def lineTokens (pieces : List Piece) : List Token :=
  (pieces.rtakeWhile (!·.endsLine)).filterMap (·.token?)

/-- Whether a line state is what the tokens of a line say: the line is at its
start as long as there is neither keyword nor description among them, and the
keywords that it keeps are those among them. -/
structure LineState.Records (line : LineState) (tokens : List Token) : Prop where
  atStart : line.atStart = true ↔ ∀ token ∈ tokens, token.opensLine = false
  block : line.block.toList = tokens.filterMap Token.blockKind?
  keyword : line.keyword.toList = tokens.filterMap Token.stepKeyword?

/-! ### The tokens of a line -/

theorem lineTokens_append_of_endsLine (pieces : List Piece) {piece : Piece}
    (h : piece.endsLine = true) : lineTokens (pieces ++ [piece]) = [] := by
  rw [lineTokens, List.rtakeWhile_concat_neg _ _ _ (by simp [h])]
  rfl

theorem lineTokens_append (pieces : List Piece) {piece : Piece} (h : piece.endsLine = false) :
    lineTokens (pieces ++ [piece]) = lineTokens pieces ++ piece.token?.toList := by
  rw [lineTokens, List.rtakeWhile_concat_pos _ _ _ (by simp [h]), List.filterMap_append]
  cases htoken : piece.token? with
  | none => rw [List.filterMap_cons_none htoken]; rfl
  | some token => rw [List.filterMap_cons_some htoken]; rfl

/-- What does not begin like a comment does not end its line. -/
theorem Piece.endsLine_of_head?_ne {span : List Char} (h : span.head? ≠ some '#') :
    (Piece.mk span none).endsLine = false := by
  simpa [endsLine] using h

namespace LineState

variable {line : LineState} {tokens : List Token}

theorem records_start : LineState.start.Records [] :=
  ⟨by simp [start], rfl, rfl⟩

namespace Records

/-- At its start, a line has no keyword. -/
theorem of_atStart (h : line.Records tokens) (hstart : line.atStart = true) :
    line.block = none ∧ line.keyword = none := by
  have hkinds (token : Token) (hmem : token ∈ tokens) :=
    Token.of_opensLine_eq_false (h.atStart.1 hstart token hmem)
  have hblock : tokens.filterMap Token.blockKind? = [] :=
    List.filterMap_eq_nil_iff.2 fun token hmem => (hkinds token hmem).1
  have hkeyword : tokens.filterMap Token.stepKeyword? = [] :=
    List.filterMap_eq_nil_iff.2 fun token hmem => (hkinds token hmem).2
  constructor
  · simpa [hblock] using h.block
  · simpa [hkeyword] using h.keyword

/-- A token that opens no line leaves the line as it is. -/
theorem append (h : line.Records tokens) {token? : Option Token}
    (hopens : ∀ token ∈ token?, token.opensLine = false) :
    line.Records (tokens ++ token?.toList) := by
  cases token? with
  | none =>
    rw [Option.toList_none, List.append_nil]
    exact h
  | some token =>
    have htoken := hopens token rfl
    obtain ⟨hblock, hkeyword⟩ := Token.of_opensLine_eq_false htoken
    refine ⟨?_, ?_, ?_⟩
    · rw [h.atStart]
      simp [or_imp, forall_and, htoken]
    · rw [h.block]
      simp [hblock]
    · rw [h.keyword]
      simp [hkeyword]

/-- A token that opens the line is recorded. -/
theorem append_opening (h : line.Records tokens) (hstart : line.atStart = true) (token : Token)
    (hopens : token.opensLine = true) :
    LineState.Records ⟨false, token.blockKind?, token.stepKeyword?⟩ (tokens ++ [token]) := by
  obtain ⟨hblock, hkeyword⟩ := h.of_atStart hstart
  refine ⟨?_, ?_, ?_⟩
  · simp [hopens]
  · rw [List.filterMap_append, ← h.block, hblock]
    cases hkind : token.blockKind? <;> simp [hkind]
  · rw [List.filterMap_append, ← h.keyword, hkeyword]
    cases hstep : token.stepKeyword? <;> simp [hstep]

end Records
end LineState

namespace Reading

variable {language : Language} {line : LineState} {pieces : List Piece} {c : Char} {s : List Char}

/-- A piece that neither ends nor opens a line leaves it as it is. -/
theorem records_append (h : line.Records (lineTokens pieces)) {piece : Piece}
    (hends : piece.endsLine = false) (hopens : ∀ token ∈ piece.token?, token.opensLine = false) :
    line.Records (lineTokens (pieces ++ [piece])) := by
  rw [lineTokens_append pieces hends]
  exact h.append hopens

theorem lineStart_records (h : line.Records (lineTokens pieces)) (hstart : line.atStart = true)
    (hcomment : c ≠ '#') :
    (lineStart language line c s).line.Records
      (lineTokens (pieces ++ [(lineStart language line c s).toPiece])) := by
  obtain ⟨hblock, hkeyword⟩ := h.of_atStart hstart
  rw [lineStart]
  by_cases hspace : isSpace c = true
  · rw [if_pos hspace]
    refine records_append h (Piece.endsLine_of_head?_ne fun hhead => ?_) (by simp [silent])
    exact hcomment (eq_of_mem_head?_lineUntil hhead).symm
  rw [if_neg hspace]
  cases language.openingOf (lineUntil (· == ':') (c :: s)) with
  | block block _ =>
    have hopening := h.append_opening hstart (.block (.block block)) rfl
    dsimp only
    rw [blockKeyword, lineTokens_append pieces rfl, hkeyword]
    exact hopening
  | step keyword spelling =>
    have hopening := h.append_opening hstart (.keyword keyword) rfl
    dsimp only
    rw [stepKeyword, lineTokens_append pieces rfl, hblock]
    exact hopening
  | unknown =>
    have hopening := h.append_opening hstart
      (.description (trimSpace (lineUntil never (c :: s)))) rfl
    rw [description, lineTokens_append pieces rfl, hblock, hkeyword]
    exact hopening

/-- **Every lexeme keeps the line state exact.** -/
theorem next_records (h : line.Records (lineTokens pieces)) (language : Language) (c : Char)
    (s : List Char) :
    (next language line (c :: s)).line.Records
      (lineTokens (pieces ++ [(next language line (c :: s)).toPiece])) := by
  generalize hnext : next language line (c :: s) = reading
  cases next_cases hnext with
  | newline | comment =>
    rw [lineTokens_append_of_endsLine pieces rfl]
    exact LineState.records_start
  | tag | placeholder | title | quoted | integer | stepText =>
    exact records_append h rfl (by simp [plain, between, Token.opensLine])
  | cell =>
    rcases cell_cases line s with ⟨_, _, _, _, hcell⟩ | ⟨_, _, _, _, hcell⟩
    · rw [hcell]
      exact records_append h rfl (by simp [plain, Token.opensLine])
    · rw [hcell]
      exact records_append h (Piece.endsLine_of_head?_ne (by simp)) (by simp [silent])
  | lineStart hc hstart => exact lineStart_records h hstart hc.comment
  | skip hc =>
    exact records_append h (Piece.endsLine_of_head?_ne (by simpa using hc.comment))
      (by simp [silent])

end Reading

/-- The line state is exact and, if the line is idle, nothing is left of it. -/
def LineState.Exact (pieces : List Piece) (line : LineState) (rest : List Char) : Prop :=
  line.Records (lineTokens pieces) ∧ line.Settled rest

theorem Reading.exact_of_next (language : Language) (pieces : List Piece) (line : LineState)
    (reading : Reading) (after : List Char) (hne : reading.span ≠ [])
    (hnext : next language line (reading.span ++ after) = reading)
    (h : line.Exact pieces (reading.span ++ after)) :
    reading.line.Exact (pieces ++ [reading.toPiece]) after := by
  obtain ⟨c, span, hspan⟩ := List.exists_cons_of_ne_nil hne
  have hs : reading.span ++ after = c :: (span ++ after) := by rw [hspan, List.cons_append]
  obtain ⟨hrecords, hsettled⟩ := h
  rw [hs] at hnext hsettled
  have hrecords' := next_records hrecords language c (span ++ after)
  have hsettled' := @next_settled language line c (span ++ after) hsettled
  rw [hnext] at hrecords' hsettled'
  rw [← hs, List.drop_left] at hsettled'
  exact ⟨hrecords', hsettled'⟩

open Lexer

/-- **A line state is what the tokens of the line say.** However tokens are
drawn from a session, in a supported language, with any source and any policy,
it goes through the states of `Session.Draws` only. In each of them the pieces
read so far are the text up to there; the line state says of the line being
read whether a keyword or a description has been given, and which keywords; and
if the start of the line is over without a keyword, the line is over. Hence no
character is ever skipped, and neither a title nor the text of a step is looked
for where it would be empty. -/
theorem line_state_records_tokens {language : Language} (hl : language.Supported)
    (text : List Char) (source : Source) (policy : Policy) :
    (∀ steps : List Step, (∀ step ∈ steps, step.draws = true) →
      ∀ report ∈ (Session.start (fresh text source language) policy).performAll steps,
        ∃ pieces, (Session.start (fresh text source language) policy).Draws pieces
          report.after) ∧
    ∀ pieces session, (Session.start (fresh text source language) policy).Draws pieces session →
      text = pieces.flatMap (·.span) ++ session.lexer.rest ∧
      session.lexer.line.Records (lineTokens pieces) ∧
      (session.lexer.line.Idle → EndsLine session.lexer.rest) ∧
      (session.lexer.rest ≠ [] →
        ¬session.lexer.ComesTo .skip ∧
        (session.lexer.ComesTo .title →
          session.lexer.title = .refuse (.titleBlock session.lexer.pos) session.lexer ∨
            ∃ title next, title ≠ [] ∧ session.lexer.title = .give (.title title) next) ∧
        (session.lexer.ComesTo .stepText →
          session.lexer.stepText = .refuse (.stepTextKeyword session.lexer.pos) session.lexer ∨
            ∃ part next, part ≠ [] ∧ session.lexer.stepText = .give (.stepText part) next)) := by
  constructor
  · intro steps hsteps report hreport
    exact Session.exists_draws_of_mem_performAll hsteps _ hl hreport
  · intro pieces session hdraws
    have hfirst : LineState.start.Exact [] text :=
      ⟨LineState.records_start, LineState.settled_of_atStart rfl text⟩
    obtain ⟨hrecords, hsettled⟩ :=
      Session.Draws.invariant LineState.Exact Reading.exact_of_next hl hfirst hdraws
    refine ⟨hdraws.text_eq hl, hrecords, hsettled, fun hne => ?_⟩
    obtain ⟨c, s, hrest⟩ := List.exists_cons_of_ne_nil hne
    refine ⟨fun hskip => ?_, fun htitle => htitle.title_eq hrest,
      fun hstep => hstep.stepText_eq hrest⟩
    -- A character would be skipped on an idle line, but such a line is over.
    obtain ⟨hidle, hnewline⟩ := hskip.idle_of_skip hrest
    have hend := hsettled hidle
    rw [hrest] at hend
    exact hnewline hend

/-- The theorem at work in English, on a text with a comment behind a
description, at the states that three draws and then a drain lead to, with
warnings that are raised and a file that cannot be named. -/
theorem line_state_records_tokens_english :
    ∃ reports, (Session.start (fresh "Given 1 | 2\nprose\n@a # language: x\nb".toList
        (.named "http://[x/".toList) (.ofDialect .english)) .raise).performAll [.take 3, .drain] =
          reports ∧
      ∀ report ∈ reports, ∃ pieces, report.after.lexer.line.Records (lineTokens pieces) ∧
        (report.after.lexer.line.Idle → EndsLine report.after.lexer.rest) := by
  refine ⟨_, rfl, fun report hreport => ?_⟩
  obtain ⟨hsteps, hstates⟩ := line_state_records_tokens Language.supported_english
    "Given 1 | 2\nprose\n@a # language: x\nb".toList (.named "http://[x/".toList) .raise
  obtain ⟨pieces, hdraws⟩ := hsteps [.take 3, .drain] (by decide) report hreport
  obtain ⟨_, hrecords, hidle, _⟩ := hstates pieces report.after hdraws
  exact ⟨pieces, hrecords, hidle⟩

end FeatureLexer
