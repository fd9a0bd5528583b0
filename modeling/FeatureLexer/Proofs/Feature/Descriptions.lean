import FeatureLexer.Proofs.Feature.SourceName
import FeatureLexer.Proofs.Session.Laziness

/-!
# Descriptions are read as themselves

A description is a line that opened nothing, without the space around it. Read
alone, in the language that was in force, it is the same description again.

Something could happen to it on the way, since what is read alone is not the line
but what trimming has left of it:

| what could go wrong | why it does not |
| --- | --- |
| it opens a block or a step now | `Language.openingOf_eq_unknown_of_append` |
| it is cut at another colon than the line | `Text.exists_lineUntil_append` |
| its first character belongs to another rule | `Reading.exists_line_of_description` |

The last row needs that the line does not begin with space, and it never does: the
space at the start of a line is read before. In which language a token was read is
found by following the draws of a session (`Session.exists_next_of_take`): a
lexeme that gives a token leaves the language as it is.
-/

namespace FeatureLexer

open Text Pattern

namespace Reading

/-- What is read as a description at the start of a line: the line, if it begins with
no space and opens nothing. -/
theorem description_of_lineStart {language : Language} {line : LineState} {c : Char}
    {s v : List Char} (h : (lineStart language line c s).token? = some (.description v)) :
    isSpace c = false ∧ language.openingOf (lineUntil (· == ':') (c :: s)) = .unknown ∧
      v = trimSpace (lineUntil never (c :: s)) := by
  rw [lineStart] at h
  split at h
  next => exact absurd h (by simp [silent])
  next hspace =>
    split at h
    next => exact absurd h (by simp [blockKeyword])
    next => exact absurd h (by simp [stepKeyword])
    next hopening =>
      have hv : trimSpace (lineUntil never (c :: s)) = v := by simpa [description] using h
      exact ⟨by simpa using hspace, hopening, hv.symm⟩

/-- **Where a description comes from:** from a line that opens nothing and that
begins with an ordinary character, not with space. -/
theorem exists_line_of_description {language : Language} {line : LineState} {s v : List Char}
    (h : (next language line s).token? = some (.description v)) :
    ∃ c rest, '\n' ∉ c :: rest ∧ Ordinary c ∧ isSpace c = false ∧
      language.openingOf (lineUntil (· == ':') (c :: rest)) = .unknown ∧
      v = trimSpace (c :: rest) := by
  cases s with
  | nil => exact absurd h (by simp [next, silent])
  | cons c s =>
    generalize hnext : next language line (c :: s) = reading at h
    cases next_cases hnext with
    | lineStart hc _ =>
      obtain ⟨hspace, hopening, hv⟩ := description_of_lineStart h
      have hline : lineUntil never (c :: s) = c :: lineUntil never s :=
        lineUntil_cons_of_passes hc.newline rfl s
      have hnewline := (passes_lineUntil never (c :: s)).newline_notMem
      rw [← lineUntil_lineUntil_never, hline] at hopening
      rw [hline] at hnewline hv
      exact ⟨c, lineUntil never s, hnewline, hc, hspace, hopening, hv⟩
    | cell =>
      rcases cell_cases line s with ⟨_, _, _, _, hcell⟩ | ⟨_, _, _, _, hcell⟩
      · rw [hcell] at h
        exact absurd h (by simp [plain])
      · rw [hcell] at h
        exact absurd h (by simp [silent])
    | newline | comment | tag | placeholder | title | quoted | integer | stepText | skip =>
      exact absurd h (by simp [comment, plain, between, silent])

/-- **A line that is a description stays one** when the space behind it is trimmed
away: it begins as before, and it still opens nothing. -/
theorem next_trimSpace {language : Language} {c : Char} {rest : List Char} (hc : Ordinary c)
    (hspace : isSpace c = false)
    (hopening : language.openingOf (lineUntil (· == ':') (c :: rest)) = .unknown) :
    next language .start (trimSpace (c :: rest)) =
      description .start (trimSpace (c :: rest)) := by
  obtain ⟨after, hsplit, hafter⟩ : ∃ after, c :: rest = trimSpace (c :: rest) ++ after ∧
      ∀ d ∈ after, isSpace d = true := exists_trim_append hspace
  obtain ⟨more, hmore, hcut⟩ := exists_lineUntil_append (· == ':') (trimSpace (c :: rest)) after
  have hblanks : ∀ d ∈ more, isBlank d = true := fun d hd =>
    isBlank_of_isSpace (hafter d (hmore.subset hd))
  rw [← hsplit] at hcut
  rw [hcut] at hopening
  have hunknown := Language.openingOf_eq_unknown_of_append hblanks hopening
  have hne : trimSpace (c :: rest) ≠ [] := trim_ne_nil List.mem_cons_self hspace
  obtain ⟨d, left, hleft⟩ := List.exists_cons_of_ne_nil hne
  rw [hleft] at hsplit hunknown ⊢
  obtain rfl : c = d := (List.cons.inj hsplit).1
  have hstart : LineState.start.atStart = true := rfl
  simp [next, lineStart, hc.newline, hc.comment, hc.tag, hc.cell, hstart, hspace, hunknown]

/-- **A description is a lexeme again,** the whole of its own text. -/
theorem next_of_description {language : Language} {line : LineState} {s v : List Char}
    (h : (next language line s).token? = some (.description v)) :
    v ≠ [] ∧ next language .start v =
      ⟨⟨v, some (.description v)⟩, { LineState.start with atStart := false }, none⟩ := by
  obtain ⟨c, rest, hline, hc, hspace, hopening, rfl⟩ := exists_line_of_description h
  have hwhole : lineUntil never (trimSpace (c :: rest)) = trimSpace (c :: rest) :=
    lineUntil_never_eq_self fun hmem => hline (mem_of_mem_trim hmem)
  have htrim : trimSpace (trimSpace (c :: rest)) = trimSpace (c :: rest) := trim_trim _ _
  refine ⟨trim_ne_nil List.mem_cons_self hspace, ?_⟩
  rw [next_trimSpace hc hspace hopening, description, hwhole, htrim]

end Reading

/-- Whether a text, lexed alone in a language, is one token and no more: a session
that is started on the text gives the token out and has come to the end then, from
every source and under every policy; and in a file that can be named, lexing
returns the token alone, unless a warning is raised. -/
def ReadsAs (language : Language) (text : List Char) (token : Token) : Prop :=
  ∀ (source : Source) (policy : Policy),
    (∃ after, (Session.start (.fresh text source language) policy).draw =
      (.ok (some token), after) ∧ after.lexer.rest = []) ∧
    ∀ fileName, source.fileName = .ok fileName → policy ≠ .raise →
      ∃ lexed, (Lexer.fresh text source language).lex policy = .ok lexed ∧
        lexed.tokens = [token]

/-- **A text that is one lexeme** is read as the token of it. -/
theorem readsAs_of_next {language : Language} (hl : language.Supported) {text : List Char}
    (hne : text ≠ []) {token : Token} {line : LineState}
    (h : Reading.next language .start text = ⟨⟨text, some token⟩, line, none⟩) :
    ReadsAs language text token := by
  intro source policy
  constructor
  · have hrest : (Lexer.fresh text source language).rest ≠ [] := hne
    have hrun : nextLexeme.run (.fresh text source language) =
        (Lexer.fresh text source language).accept (.next language .start text) :=
      Lexer.nextLexeme_run hrest
    rw [h, Lexer.accept_of_declared?_eq_none rfl] at hrun
    rw [Session.draw_of_run_give rfl hrun]
    refine ⟨_, (Session.giveOut_settles _ token).eq_ok, ?_⟩
    exact List.drop_length
  · intro fileName hname hpolicy
    rcases (Lexer.fresh text source language).lex_tokens hname hl policy with
      ⟨lexed, hlexed, htokens⟩ | ⟨hraise, _⟩
    · have hscan : lexed.tokens = tokensOf (scan language .start text) := htokens
      obtain ⟨c, s, rfl⟩ := List.exists_cons_of_ne_nil hne
      rw [scan_cons hl, h, List.drop_length, scan_nil] at hscan
      exact ⟨lexed, hlexed, hscan⟩
    · exact absurd hraise hpolicy

/-! ### The language in which a token was read -/

/-- **A lexeme that gives a token** is read in the language that is in force behind
it: it declares none. -/
theorem Lexer.next_of_run_give {lexer next : Lexer} {token : Token}
    (hrun : nextLexeme.run lexer = .give token next) :
    next.language = lexer.language ∧
      (Reading.next lexer.language lexer.line lexer.rest).token? = some token := by
  have hne : lexer.rest ≠ [] := by
    intro hend
    rw [nextLexeme_run_of_ended hend] at hrun
    exact Ending.noConfusion (congrArg Run.ending hrun)
  rw [nextLexeme_run hne] at hrun
  have hgiven : (Reading.next lexer.language lexer.line lexer.rest).token? = some token := by
    have htokens : (Reading.next lexer.language lexer.line lexer.rest).token?.toList = [token] := by
      obtain ⟨_, _, hdone | ⟨_, _, hfailed⟩⟩ :=
        lexer.accept_cases (.next lexer.language lexer.line lexer.rest)
      · rw [hdone] at hrun
        exact congrArg Run.tokens hrun
      · rw [hfailed] at hrun
        exact congrArg Run.tokens hrun
    simpa using congrArg List.head? htokens
  have hdeclared : (Reading.next lexer.language lexer.line lexer.rest).declared? = none := by
    by_contra hsome
    rw [Reading.token?_next_of_declared? hsome] at hgiven
    exact absurd hgiven (Option.some_ne_none token).symm
  rw [accept_of_declared?_eq_none hdeclared] at hrun
  have hnext : lexer.moved (.next lexer.language lexer.line lexer.rest) = next :=
    congrArg Run.lexer hrun
  exact ⟨by rw [← hnext]; rfl, hgiven⟩

namespace Session

/-- **Where a drawn token comes from:** it is that of a next lexeme, read in the
language in force behind the draw. -/
theorem exists_next_of_draw {session after : Session} {token : Token}
    (hl : session.lexer.language.Supported) (h : session.draw = (.ok (some token), after)) :
    after.lexer.language.Supported ∧
      ∃ line s, (Reading.next after.lexer.language line s).token? = some token := by
  induction hn : session.lexer.rest.length using Nat.strongRecOn generalizing session with
  | ind n ih =>
    cases hopen : session.finished with
    | true =>
      rw [draw_of_finished hopen] at h
      exact absurd (congrArg Prod.fst h) (by simp)
    | false =>
      by_cases hend : session.lexer.rest = []
      · rw [draw_of_ended (by simp [hopen]) hend] at h
        have hnone := session.conclude_standsAt.2 (some token) (congrArg Prod.fst h)
        exact absurd hnone (Option.some_ne_none token)
      obtain ⟨span, next, hspan, hne, hsilent | ⟨given, hgive⟩ | ⟨error, hfailed⟩⟩ :=
        Lexer.nextLexeme_run_cases hl hend
      · have hstep := Draws.silent .refl hopen hsilent
        have hless : next.rest.length < n := by
          have hpos := List.length_pos_iff.2 hne
          rw [← hn, hspan, List.length_append]
          omega
        rw [draw_of_run_silent hopen hsilent (Lexer.remaining_lt hne hspan)] at h
        exact ih _ hless (hstep.supported hl) h rfl
      · rw [draw_of_run_give hopen hgive] at h
        obtain ⟨hstands, hgiven⟩ := giveOut_standsAt { session with lexer := next } given
        rw [h] at hstands hgiven
        obtain rfl : token = given := Option.some.inj (hgiven _ rfl)
        obtain ⟨hlanguage, htoken⟩ := Lexer.next_of_run_give hgive
        rw [hstands.language, hlanguage]
        exact ⟨hl, _, _, htoken⟩
      · rw [draw_of_run_failed hopen hfailed] at h
        exact absurd (congrArg Prod.fst h) (by simp)

/-- **So does each of several tokens:** the language is that in force when as many
tokens have been taken. -/
theorem exists_next_of_take {session : Session} (hl : session.lexer.language.Supported)
    {n : Nat} {tokens : List Token} (h : (session.take n).1 = .ok tokens) {i : Nat}
    {token : Token} (htoken : tokens[i]? = some token) :
    (session.take (i + 1)).2.lexer.language.Supported ∧
      ∃ line s, (Reading.next (session.take (i + 1)).2.lexer.language line s).token? =
        some token := by
  induction n generalizing session tokens i with
  | zero =>
    obtain rfl : [] = tokens := Except.ok.inj h
    exact absurd htoken (by simp)
  | succ n ih =>
    obtain ⟨rfl, _⟩ | ⟨first, others, after, rfl, hdraw, htake⟩ := take_succ_cases (Prod.ext h rfl)
    · exact absurd htoken (by simp)
    have hafter := exists_next_of_draw hl hdraw
    have hlater (k : Nat) : (session.take (k + 1)).2 = (after.take k).2 := by
      rw [take, hdraw]
    rw [hlater]
    cases i with
    | zero =>
      obtain rfl : first = token := Option.some.inj htoken
      exact hafter
    | succ i => exact ih hafter.1 (congrArg Prod.fst htake) htoken

end Session

/-- **Descriptions are stable under lexing.** Of the tokens that are taken from a
text, in every supported language, in every file and under every policy, and so of
those that lexing gives, each description is read as itself: alone, in the language
in force where it was drawn, it gives the one token that it is. -/
theorem descriptions_are_stable_under_lexing {language : Language} (hl : language.Supported)
    (text : List Char) (source : Source) (policy : Policy) :
    let first := Session.start (.fresh text source language) policy
    (∀ n tokens i v, (first.take n).1 = .ok tokens → tokens[i]? = some (.description v) →
      ReadsAs (first.take (i + 1)).2.lexer.language v (.description v)) ∧
    ∀ lexed i v, (Lexer.fresh text source language).lex policy = .ok lexed →
      lexed.tokens[i]? = some (.description v) →
      ReadsAs (first.take (i + 1)).2.lexer.language v (.description v) := by
  intro first
  have htaken : ∀ n tokens i v, (first.take n).1 = .ok tokens →
      tokens[i]? = some (.description v) →
      ReadsAs (first.take (i + 1)).2.lexer.language v (.description v) := by
    intro n tokens i v htokens hv
    obtain ⟨hlanguage, line, s, hnext⟩ := Session.exists_next_of_take hl htokens hv
    obtain ⟨hne, hread⟩ := Reading.next_of_description hnext
    exact readsAs_of_next hlanguage hne hread
  refine ⟨htaken, ?_⟩
  intro lexed i v hlexed hv
  rw [Lexer.lex] at hlexed
  split at hlexed
  next => exact absurd hlexed (by simp)
  next tokens after hdrain =>
    obtain rfl := Except.ok.inj hlexed
    exact htaken _ tokens i v (congrArg Prod.fst hdrain) hv

/-- The theorem at work on a text that begins in English: a description with a colon
in it and a carriage return behind it, and, once French is in force, one that would
be a step in English. -/
theorem descriptions_are_stable_under_lexing_french :
    let text := "prose: a \r\n# language: fr\nGiven x \t\n".toList
    let first := Session.start (.fresh text .unnamed (.ofDialect .english)) .record
    (first.take 4).1.toOption = some [.description "prose: a".toList, .newline,
      .description "Given x".toList, .newline] ∧
    (first.take 1).2.lexer.language = .ofDialect .english ∧
    (first.take 3).2.lexer.language = .ofDialect .french ∧
    ReadsAs (.ofDialect .english) "prose: a".toList (.description "prose: a".toList) ∧
    ReadsAs (.ofDialect .french) "Given x".toList (.description "Given x".toList) := by
  intro text first
  have htokens : (first.take 4).1.toOption = some [.description "prose: a".toList, .newline,
      .description "Given x".toList, .newline] := by decide +kernel
  have henglish : (first.take 1).2.lexer.language = .ofDialect .english := by decide +kernel
  have hfrench : (first.take 3).2.lexer.language = .ofDialect .french := by decide +kernel
  obtain ⟨htaken, _⟩ := descriptions_are_stable_under_lexing Language.supported_english text
    .unnamed .record
  refine ⟨htokens, henglish, hfrench, ?_⟩
  cases hgiven : (first.take 4).1 with
  | error failure =>
    rw [hgiven] at htokens
    exact absurd htokens (by simp [Except.toOption])
  | ok tokens =>
    rw [hgiven] at htokens
    obtain rfl := Option.some.inj htokens
    rw [← henglish, ← hfrench]
    exact ⟨htaken 4 _ 0 _ hgiven rfl, htaken 4 _ 2 _ hgiven rfl⟩

end FeatureLexer
