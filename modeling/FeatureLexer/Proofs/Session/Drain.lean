import FeatureLexer.Feature
import FeatureLexer.Proofs.Lexer.Steps

/-!
# What a session gives out

A session that is drained gives out the tokens of the scan of its text, and
ends in a state that can be written down (`Session.concluded`): the lexer is
at the end of the text, every problem that a directive brought up is among
the diagnostics in the order of the text, and the last of them says that the
text shows no structure, if it shows none.

The only other thing that can happen is that a warning is raised, and that
takes the policy that raises warnings. Draining neither comes to no end nor
is it refused. A session owes the warnings that are pending and those that are
still to be found (`Session.due`); the first of them is raised, whichever draw
comes to it, and if there is none, nothing is raised (`take_settles`).

The proof follows the scan. A reading without a token is not noticed by a
draw (`draw_of_silent`), a reading with a token is what a draw gives out
(`draw_of_token`), and at the end of the text the session concludes.

For a text as a whole this means that the scan says what lexing comes to
(`Lexer.lex_fresh`). No position enters into it: two texts with the same tokens
and the same problems are lexed with the same outcome under every policy, the
failures included.
-/

namespace FeatureLexer

open Pattern

namespace Lexer

variable {lexer : Lexer} {fileName : List Char}

theorem untilToken_of_ended (h : lexer.rest = []) :
    Run.untilToken nextLexeme.run lexer = .refuse (.ended lexer.pos) lexer := by
  rw [Run.untilToken, nextLexeme_run_of_ended h]
  rfl

variable {reading : Reading} (hnext : Reading.next lexer.language lexer.line lexer.rest = reading)
include hnext

theorem untilToken_of_silent (hname : lexer.source.fileName = .ok fileName)
    (hl : lexer.language.Supported) (h : lexer.rest ≠ []) (htoken : reading.token? = none) :
    Run.untilToken nextLexeme.run lexer =
      Run.untilToken nextLexeme.run (lexer.past fileName reading) := by
  obtain ⟨hrest, _, hne⟩ := lexer.past_next fileName hl h
  rw [hnext] at hrest hne
  rw [Run.untilToken, nextLexeme_run_eq hname h, hnext, htoken]
  simp only [Option.toList_none, if_pos (remaining_lt hne hrest)]

theorem untilToken_of_token (hname : lexer.source.fileName = .ok fileName) (h : lexer.rest ≠ [])
    {token : Token} (htoken : reading.token? = some token) :
    Run.untilToken nextLexeme.run lexer = ⟨[token], lexer.past fileName reading, .done⟩ := by
  rw [Run.untilToken, nextLexeme_run_eq hname h, hnext, htoken]
  rfl

end Lexer

namespace Session

/-- A session with its pending diagnostics given out. -/
def flushed (session : Session) : Session :=
  { session with
    lexer := { session.lexer with pending := [] }
    recorded := session.recorded ++
      if session.policy = .record then session.lexer.pending else [] }

/-- The verdict on a text at its end. -/
def verdict (fileName : List Char) (sawStructure : Bool) : List Diagnostic :=
  if sawStructure then []
  else [{ category := .noStructure, fileName, problem := Lexer.proseProblem }]

/-- A session at the end of its text, behind readings. -/
def concluded (fileName : List Char) (session : Session) (readings : List Reading) : Session :=
  let saw := session.lexer.sawStructure || (tokensOf readings).any Token.showsStructure
  let found := readings.flatMap (·.problems fileName) ++ verdict fileName saw
  { lexer := { session.lexer.pastAll fileName readings with
      sawStructure := saw
      diagnostics := session.lexer.diagnostics ++ found
      pending := [] }
    policy := session.policy
    finished := true
    recorded := session.recorded ++
      if session.policy = .record then session.lexer.pending ++ found else [] }

/-- A session whose lexer has moved behind a reading. -/
def past (fileName : List Char) (session : Session) (reading : Reading) : Session :=
  { session with lexer := session.lexer.past fileName reading }

/-- A session that takes note of a token. -/
def saw (session : Session) (token : Token) : Session :=
  { session with
    lexer := { session.lexer with
      sawStructure := session.lexer.sawStructure || token.showsStructure } }

/-- The warnings that a session has still to give out before readings are over. -/
def due (fileName : List Char) (session : Session) (readings : List Reading) : List Diagnostic :=
  session.lexer.pending ++ (readings.flatMap (·.problems fileName) ++
    verdict fileName (session.lexer.sawStructure || (tokensOf readings).any Token.showsStructure))

/-- Whether a request succeeds with a value, and leaves a session behind, unless
a warning is raised. -/
def Gives {α : Type} (outcome : Except Failure α × Session) (policy : Policy) (value : α)
    (after : Session) : Prop :=
  outcome = (.ok value, after) ∨
    policy = .raise ∧ ∃ diagnostic stopped, outcome = (.error (.raised diagnostic), stopped)

/-- Whether, moreover, the warning that is raised is the first that is due, and
none is raised where none is due. -/
def Settles {α : Type} (outcome : Except Failure α × Session) (policy : Policy)
    (due : List Diagnostic) (value : α) (after : Session) : Prop :=
  (policy = .raise → due = []) ∧ outcome = (.ok value, after) ∨
    policy = .raise ∧ ∃ first others stopped,
      due = first :: others ∧ outcome = (.error (.raised first), stopped)

theorem Settles.gives {α : Type} {outcome : Except Failure α × Session} {policy : Policy}
    {due : List Diagnostic} {value : α} {after : Session}
    (h : Settles outcome policy due value after) : Gives outcome policy value after := by
  rcases h with ⟨_, h⟩ | ⟨hraise, first, _, stopped, _, h⟩
  · exact Or.inl h
  · exact Or.inr ⟨hraise, first, stopped, h⟩

theorem flush_settles (session : Session) :
    Settles session.flush session.policy session.lexer.pending () session.flushed := by
  rw [flush, flushed]
  cases session.policy with
  | record => exact Or.inl ⟨fun h => absurd h (by decide), rfl⟩
  | discard => exact Or.inl ⟨fun h => absurd h (by decide), by simp⟩
  | raise =>
    cases session.lexer.pending with
    | nil => exact Or.inl ⟨fun _ => rfl, by simp⟩
    | cons first others => exact Or.inr ⟨rfl, first, others, session, rfl, rfl⟩

theorem giveOut_settles (session : Session) (token : Token) :
    Settles (session.giveOut token) session.policy session.lexer.pending (some token)
      (session.saw token).flushed := by
  rcases flush_settles (session.saw token) with
    ⟨hnone, h⟩ | ⟨hraise, first, others, stopped, hdue, h⟩
  · left
    rw [saw] at h
    refine ⟨hnone, ?_⟩
    simp only [giveOut, h]
    rfl
  · right
    rw [saw] at h
    refine ⟨hraise, first, others, stopped.finish, hdue, ?_⟩
    simp only [giveOut, h]

theorem noteProse_eq {lexer : Lexer} {fileName : List Char}
    (hname : lexer.source.fileName = .ok fileName) :
    noteProse lexer = .ok { lexer with
      diagnostics := lexer.diagnostics ++ verdict fileName lexer.sawStructure
      pending := lexer.pending ++ verdict fileName lexer.sawStructure } := by
  rw [noteProse, verdict]
  split
  · simp only [List.append_nil]
  · simp only [Lexer.note, hname, Except.map]

variable {session : Session} {fileName : List Char}

/-- **At the end of the text the verdict is given.** -/
theorem conclude_settles (hname : session.lexer.source.fileName = .ok fileName)
    (hend : session.lexer.rest = []) :
    Settles session.conclude session.policy (session.due fileName []) none
      (session.concluded fileName []) := by
  have hended : session.lexer.endOfText.ending = .done := by
    rw [Lexer.endOfText, hend]
    rfl
  have hdue : session.due fileName [] =
      session.lexer.pending ++ verdict fileName session.lexer.sawStructure := by
    simp [due, tokensOf]
  simp only [conclude, hended, noteProse_eq hname]
  rcases flush_settles { session with lexer := { session.lexer with
      diagnostics := session.lexer.diagnostics ++ verdict fileName session.lexer.sawStructure
      pending := session.lexer.pending ++ verdict fileName session.lexer.sawStructure } } with
    ⟨hnone, h⟩ | ⟨hraise, first, others, stopped, hfirst, h⟩
  · left
    rw [h, hdue]
    exact ⟨hnone, by simp [concluded, flushed, finish, tokensOf]⟩
  · right
    rw [h, hdue]
    exact ⟨hraise, first, others, _, hfirst, rfl⟩

/-- A reading without a token changes nothing about how a session ends. -/
theorem concluded_past {reading : Reading} (htoken : reading.token? = none)
    (readings : List Reading) :
    (session.past fileName reading).concluded fileName readings =
      session.concluded fileName (reading :: readings) := by
  have htokens := tokensOf_cons_of_none htoken readings
  simp [concluded, past, Lexer.pastAll_cons, Lexer.past, Lexer.moved, htokens]

/-- Nor does it matter for that when a token is given out. -/
theorem concluded_saw {reading : Reading} {token : Token} (htoken : reading.token? = some token)
    (readings : List Reading) :
    ((session.past fileName reading).saw token).flushed.concluded fileName readings =
      session.concluded fileName (reading :: readings) := by
  have htokens := tokensOf_cons_of_some htoken readings
  by_cases hrecord : session.policy = .record <;>
    simp [concluded, past, saw, flushed, Lexer.pastAll, Lexer.past, Lexer.moved, languageAfter,
      lineAfter, Cursor.advance_advance, htokens, hrecord, Bool.or_assoc]

/-- A reading without a token leaves what is due as it is: its problems become
pending. -/
theorem due_past {reading : Reading} (htoken : reading.token? = none) (readings : List Reading) :
    (session.past fileName reading).due fileName readings =
      session.due fileName (reading :: readings) := by
  have htokens := tokensOf_cons_of_none htoken readings
  simp [due, past, Lexer.past, Lexer.moved, htokens]

/-- A reading with a token divides it: what is pending is due at once, and the
rest is left for later. -/
theorem due_saw {reading : Reading} {token : Token} (htoken : reading.token? = some token)
    (readings : List Reading) :
    session.due fileName (reading :: readings) =
      (session.past fileName reading).lexer.pending ++
        ((session.past fileName reading).saw token).flushed.due fileName readings := by
  have htokens := tokensOf_cons_of_some htoken readings
  simp [due, past, saw, flushed, Lexer.past, Lexer.moved, htokens, Bool.or_assoc]

theorem draw_of_ended (hopen : session.finished ≠ true) (hend : session.lexer.rest = []) :
    session.draw = session.conclude := by
  rw [draw, if_neg hopen, Lexer.untilToken_of_ended hend]
  rfl

section

variable (hopen : session.finished ≠ true) (hname : session.lexer.source.fileName = .ok fileName)
  (h : session.lexer.rest ≠ []) {reading : Reading}
  (hnext : Reading.next session.lexer.language session.lexer.line session.lexer.rest = reading)
include hopen hname h hnext

/-- **A draw passes over what gives no token.** -/
theorem draw_of_silent (hl : session.lexer.language.Supported) (htoken : reading.token? = none) :
    session.draw = (session.past fileName reading).draw := by
  have hopen' : (session.past fileName reading).finished ≠ true := hopen
  rw [draw, if_neg hopen, Lexer.untilToken_of_silent hnext hname hl h htoken, draw, if_neg hopen']
  rfl

/-- **A draw gives the next token out.** -/
theorem draw_of_token {token : Token} (htoken : reading.token? = some token) :
    session.draw = (session.past fileName reading).giveOut token := by
  rw [draw, if_neg hopen, Lexer.untilToken_of_token hnext hname h htoken]
  rfl

end

/-- **Taking as many tokens as there can be** gives all of them, or raises the
first warning that is due. -/
theorem take_settles (hopen : session.finished ≠ true)
    (hname : session.lexer.source.fileName = .ok fileName)
    (hl : session.lexer.language.Supported) {readings : List Reading}
    (hscan : scan session.lexer.language session.lexer.line session.lexer.rest = readings)
    {n : Nat} (hn : session.lexer.rest.length < n) :
    Settles (session.take n) session.policy (session.due fileName readings) (tokensOf readings)
      (session.concluded fileName readings) := by
  obtain ⟨n, rfl⟩ : ∃ m, n = m + 1 := ⟨n - 1, by omega⟩
  induction readings generalizing session n with
  | nil =>
    have hend := eq_nil_of_scan_eq_nil hscan
    rw [take, draw_of_ended hopen hend]
    rcases conclude_settles hname hend with
      ⟨hnone, h⟩ | ⟨hraise, first, others, stopped, hdue, h⟩
    · rw [h]
      exact Or.inl ⟨hnone, rfl⟩
    · rw [h]
      exact Or.inr ⟨hraise, first, others, stopped, hdue, rfl⟩
  | cons reading readings ih =>
    obtain ⟨hrest, hnext, hlater⟩ := next_of_scan_eq_cons hl hscan
    have hl' := reading.supported_languageAfter hl
    -- The reading takes a character, and one draw less is enough for what is left.
    obtain ⟨hsplit, _, hne⟩ := session.lexer.past_next fileName hl hrest
    rw [hnext] at hsplit hne
    have hlength := congrArg List.length hsplit
    have hspan := List.length_pos_iff.2 hne
    rw [List.length_append] at hlength
    cases htoken : reading.token? with
    | none =>
      have hless : (session.past fileName reading).lexer.rest.length < n + 1 := by
        show (session.lexer.past fileName reading).rest.length < n + 1
        omega
      rw [take, draw_of_silent hopen hname hrest hnext hl htoken, ← take, ← concluded_past htoken,
        ← due_past htoken, tokensOf_cons_of_none htoken]
      exact @ih (session.past fileName reading) hopen hname hl' hlater n hless
    | some token =>
      obtain ⟨m, rfl⟩ : ∃ m, n = m + 1 := ⟨n - 1, by omega⟩
      have hless : ((session.past fileName reading).saw token).flushed.lexer.rest.length <
          m + 1 := by
        show (session.lexer.past fileName reading).rest.length < m + 1
        omega
      rw [take, draw_of_token hopen hname hrest hnext htoken, due_saw htoken]
      rcases giveOut_settles (session.past fileName reading) token with
        ⟨hnone, h⟩ | ⟨hraise, first, others, stopped, hdue, h⟩
      · rw [h, ← concluded_saw htoken, tokensOf_cons_of_some htoken]
        rcases @ih ((session.past fileName reading).saw token).flushed hopen hname hl' hlater m
          hless with ⟨hnone', h'⟩ | ⟨hraise, first, others, stopped, hdue', h'⟩
        · left
          refine ⟨fun hraise => ?_, ?_⟩
          · rw [hnone hraise, hnone' hraise, List.append_nil]
          · simp only [h', Except.map]
        · right
          refine ⟨hraise, first, others, stopped, ?_, ?_⟩
          · rw [hnone hraise, List.nil_append, hdue']
          · simp only [h', Except.map]
      · rw [h, hdue]
        exact Or.inr ⟨hraise, first, _, stopped, rfl, rfl⟩

theorem drain_settles (session : Session) (hopen : session.finished ≠ true)
    (hname : session.lexer.source.fileName = .ok fileName)
    (hl : session.lexer.language.Supported) {readings : List Reading}
    (hscan : scan session.lexer.language session.lexer.line session.lexer.rest = readings) :
    Settles session.drain session.policy (session.due fileName readings) (tokensOf readings)
      (session.concluded fileName readings) :=
  take_settles hopen hname hl hscan (Nat.lt_succ_self _)

/-- **A session gives out the tokens of its text,** unless a warning is raised. -/
theorem drain_gives (session : Session) (hopen : session.finished ≠ true)
    (hname : session.lexer.source.fileName = .ok fileName)
    (hl : session.lexer.language.Supported) {readings : List Reading}
    (hscan : scan session.lexer.language session.lexer.line session.lexer.rest = readings) :
    Gives session.drain session.policy (tokensOf readings) (session.concluded fileName readings) :=
  (session.drain_settles hopen hname hl hscan).gives

/-- **With warnings recorded or discarded,** draining succeeds. -/
theorem drain_fresh {source : Source} (hname : source.fileName = .ok fileName)
    {language : Language} (hl : language.Supported) {policy : Policy} (hpolicy : policy ≠ .raise)
    (text : List Char) :
    (start (.fresh text source language) policy).drain =
      (.ok (tokensOf (scan language .start text)),
        (start (.fresh text source language) policy).concluded fileName
          (scan language .start text)) := by
  rcases (start (.fresh text source language) policy).drain_gives Bool.false_ne_true hname hl rfl
    with h | ⟨hraise, _⟩
  · exact h
  · exact absurd hraise hpolicy

end Session

/-- **Lexing gives the tokens of the text,** unless a warning is raised. -/
theorem Lexer.lex_tokens (lexer : Lexer) {fileName : List Char}
    (hname : lexer.source.fileName = .ok fileName) (hl : lexer.language.Supported)
    (policy : Policy) :
    (∃ lexed, lexer.lex policy = .ok lexed ∧
      lexed.tokens = tokensOf (scan lexer.language lexer.line lexer.rest)) ∨
      policy = .raise ∧
        ∃ diagnostic, lexer.lex policy = .error (.stopped (.raised diagnostic)) := by
  have hdrain := (Session.start lexer policy).drain_gives Bool.false_ne_true hname hl rfl
  rw [lex]
  rcases hdrain with h | ⟨hraise, diagnostic, stopped, h⟩
  · rw [h]
    exact Or.inl ⟨_, rfl, rfl⟩
  · rw [h]
    exact Or.inr ⟨hraise, diagnostic, rfl⟩

/-- The problems found in a text with the given readings: those with its
directives, and then the verdict on the text. -/
def foundIn (fileName : List Char) (readings : List Reading) : List Diagnostic :=
  readings.flatMap (·.problems fileName) ++
    Session.verdict fileName ((tokensOf readings).any Token.showsStructure)

/-- What lexing comes to under a policy, for the tokens of a text and the problems
found in it. -/
def Policy.outcome (policy : Policy) (tokens : List Token) (found : List Diagnostic) :
    Except ReadError Lexed :=
  match policy, found with
  | .record, found => .ok ⟨tokens, found, found⟩
  | .discard, found => .ok ⟨tokens, found, []⟩
  | .raise, [] => .ok ⟨tokens, [], []⟩
  | .raise, first :: _ => .error (.stopped (.raised first))

/-- **Lexing comes to what the scan of the text says,** under every policy. -/
theorem Lexer.lex_fresh {source : Source} {fileName : List Char}
    (hname : source.fileName = .ok fileName) {language : Language} (hl : language.Supported)
    (text : List Char) (policy : Policy) :
    (fresh text source language).lex policy =
      policy.outcome (tokensOf (scan language .start text))
        (foundIn fileName (scan language .start text)) := by
  rw [lex]
  rcases (Session.start (fresh text source language) policy).drain_settles Bool.false_ne_true hname
    hl rfl with ⟨hnone, h⟩ | ⟨hraise, first, others, stopped, hdue, h⟩
  · rw [h]
    cases policy with
    | record => rfl
    | discard => rfl
    | raise =>
      have hfound : foundIn fileName (scan language .start text) = [] := hnone rfl
      rw [hfound]
      exact congrArg Except.ok (congrArg (Lexed.mk _ · []) hfound)
  · obtain rfl : policy = .raise := hraise
    have hfound : foundIn fileName (scan language .start text) = first :: others := hdue
    rw [h, hfound]
    rfl

theorem Lexer.ofText_eq {name : Option (List Char)} {language : Language}
    (hlanguage : Language.requested? name = some language) (text : List Char) (source : Source) :
    ofText text source name = .ok (fresh (Text.joinCarriageReturns text) source language) := by
  rw [ofText, overText, hlanguage]

/-- **A text in a supported language** is lexed with what its scan says. -/
theorem lexText_eq {source : Source} {fileName : List Char}
    (hname : source.fileName = .ok fileName) {name : Option (List Char)} {language : Language}
    (hlanguage : Language.requested? name = some language) (text : List Char) (policy : Policy) :
    lexText text ⟨source, name, policy⟩ =
      policy.outcome (tokensOf (scan language .start (Text.joinCarriageReturns text)))
        (foundIn fileName (scan language .start (Text.joinCarriageReturns text))) := by
  have hl := Language.supported_of_requested? hlanguage
  rw [lexText, Lexer.ofText_eq hlanguage]
  exact Lexer.lex_fresh hname hl _ policy

end FeatureLexer
