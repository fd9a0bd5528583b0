import FeatureLexer.Proofs.Session.Draws

/-!
# What the text of a token can be

A token does not check its text. That a tag holds no blank, that a title is not
empty or that a description does not begin with space follows from where its rule
is tried, and from where the reading stops:

| what is said of a text | why it holds |
| --- | --- |
| it holds no character of a class | the reading stops at the class |
| the class, a newline or nothing follows | the reading goes on as far as it can |
| it is not empty | its first character was left by the rules tried before |
| it begins and ends without space | it is trimmed |

All of it can be read off the list of lexemes (`Lexeme.wellFormed`). That it holds
of a whole run takes one fact about runs, whatever they are good for: each piece
that a session reads is the next reading of the text that was left there, in a
supported language (`Session.Draws.exists_reading`). A session may be stopped on
the way, and what it has read so far is no different for that.
-/

namespace FeatureLexer

open Text

namespace Token

/-- Whether the text of a token is what the texts of its kind can be. -/
def WellFormed : Token → Prop
  | .newline => True
  | .tag text => ∀ c ∈ text, isBlank c = false ∧ c ≠ '@' ∧ c ≠ '#'
  | .cell text => text.head?.any isSpace = false ∧ text.getLast?.any isSpace = false
  | .placeholder text => ∀ c ∈ text, c ≠ '>' ∧ c ≠ '\n'
  | .title text => text ≠ [] ∧ ∀ c ∈ text, c ≠ '<' ∧ c ≠ '\n'
  | .quoted text => ∀ c ∈ text, c ≠ '"' ∧ c ≠ '\n'
  | .integer text => text ≠ [] ∧ ∀ c ∈ text, isDigit c = true
  | .stepText text => text ≠ [] ∧ ∀ c ∈ text, c ≠ '"' ∧ c ≠ '<' ∧ isDigit c = false ∧ c ≠ '\n'
  | .block kind => kind ∈ LineKind.blockKinds
  | .keyword _ => True
  | .description text => text ≠ [] ∧ '\n' ∉ text ∧
      text.head?.any isSpace = false ∧ text.getLast?.any isSpace = false

/-- Whether a token could not have gone on, where its span is followed by a text:
the text is empty, or it begins with a newline or with a character that the texts
of this kind exclude. A description excludes the newline alone. Kinds that are
closed by a mark, or that have no text, are not asked. -/
def EndsBefore : Token → List Char → Prop
  | .tag _, after => StopsBefore (fun c => isBlank c || c == '@' || c == '#') after
  | .integer _, after => StopsBefore (fun c => !isDigit c) after
  | .stepText _, after => StopsBefore (fun c => c == '"' || c == '<' || isDigit c) after
  | .title _, after => StopsBefore (fun c => c == '<') after
  | .description _, after => EndsLine after
  | _, _ => True

end Token

/-- **The tokens of lexemes are well-formed and maximal.** -/
theorem Lexeme.wellFormed {language : Language} {span after : List Char} {token : Token}
    (h : Lexeme language span after (some token)) : token.WellFormed ∧ token.EndsBefore after := by
  cases h with
  | newline => exact ⟨trivial, trivial⟩
  | @tag text after htext hafter =>
    simp only [not_isTagChar] at htext hafter
    refine ⟨?_, hafter⟩
    intro c hc
    have hstop := (htext c hc).2
    simpa [and_assoc] using hstop
  | cell hraw => exact ⟨⟨head?_trim _ _, getLast?_trim _ _⟩, trivial⟩
  | @blockKeyword _ _ _ _ _ block =>
    exact ⟨(LineKind.opensBlock_iff (.block block)).1 rfl, trivial⟩
  | stepKeyword => exact ⟨trivial, trivial⟩
  | @description text after hopening hne hstart htext hafter =>
    refine ⟨⟨?_, ?_, head?_trim _ _, getLast?_trim _ _⟩, hafter⟩
    · -- The line does not begin with space, so there is something left to trim.
      obtain ⟨c, rest, rfl⟩ := List.exists_cons_of_ne_nil hne
      exact trim_ne_nil List.mem_cons_self (hstart c rfl)
    · exact fun hmem => htext.newline_notMem (mem_of_mem_trim hmem)
  | placeholder htext | openPlaceholder htext => exact ⟨htext.ne_mark, trivial⟩
  | title hne htext hafter => exact ⟨⟨hne, htext.ne_mark⟩, hafter⟩
  | quoted htext | openQuoted htext => exact ⟨htext.ne_mark, trivial⟩
  | integer hne htext hafter =>
    refine ⟨⟨hne, fun c hc => ?_⟩, hafter⟩
    simpa using (htext c hc).2
  | stepText hne htext hafter =>
    refine ⟨⟨hne, fun c hc => ?_⟩, hafter⟩
    have hc := htext c hc
    simp only [isSymbol, Bool.or_eq_false_iff, beq_eq_false_iff_ne] at hc
    exact ⟨hc.2.1.1, hc.2.1.2, hc.2.2, hc.1⟩

/-- The token of a reading is well-formed, and maximal before what is left. -/
theorem Reading.wellFormed_of_next {language : Language} (hl : language.Supported)
    {line : LineState} {reading : Reading} {after : List Char} (hne : reading.span ≠ [])
    (h : next language line (reading.span ++ after) = reading) {token : Token}
    (htoken : reading.token? = some token) : token.WellFormed ∧ token.EndsBefore after := by
  obtain ⟨c, span, hspan⟩ := List.exists_cons_of_ne_nil hne
  rw [hspan, List.cons_append] at h
  rcases next_takes_or_skips hl line c (span ++ after) with ⟨rest, hrest, hlexeme⟩ | ⟨_, _, hskip⟩
  · rw [h] at hrest hlexeme
    rw [hspan, ← List.cons_append] at hrest
    obtain rfl : after = rest := List.append_cancel_left hrest
    rw [htoken] at hlexeme
    exact hlexeme.wellFormed
  · rw [← h, hskip] at htoken
    exact absurd htoken (Option.some_ne_none _).symm

/-- **The texts of tokens are well-formed and maximal,** in every supported
language and in every run of a lexer from the start of a text, also in one that is
stopped on the way. What a session has read up to any of its states are the pieces
of the text up to there; a piece that gave a token gave one with a text that its
kind can have; and where the kind has an end to look for, the text behind the
piece begins with it or is empty. The tokens that are taken are those of the
pieces; and where the file can be named and no warning is raised, lexing gives
those of the whole text. -/
theorem payloads_are_well_formed_and_maximal {language : Language} (hl : language.Supported)
    (text : List Char) (source : Source) (policy : Policy) :
    let first := Session.start (.fresh text source language) policy
    (∀ pieces session, first.Draws pieces session →
      text = pieces.flatMap (·.span) ++ session.lexer.rest ∧
      ∀ before piece later token, pieces = before ++ piece :: later →
        piece.token? = some token →
        token.WellFormed ∧ token.EndsBefore (later.flatMap (·.span) ++ session.lexer.rest)) ∧
    (∀ n tokens, (first.take n).1 = .ok tokens →
      ∃ pieces, first.Draws pieces (first.take n).2 ∧ pieces.filterMap (·.token?) = tokens) ∧
    ∀ fileName, source.fileName = .ok fileName → policy ≠ .raise →
      ∃ pieces session lexed, first.Draws pieces session ∧ session.lexer.rest = [] ∧
        (Lexer.fresh text source language).lex policy = .ok lexed ∧
        lexed.tokens = pieces.filterMap (·.token?) := by
  intro first
  refine ⟨?_, ?_, ?_⟩
  · intro pieces session hdraws
    refine ⟨hdraws.text_eq hl, ?_⟩
    intro before piece later token hpieces htoken
    obtain ⟨here, line, reading, hhere, rfl, hne, hnext⟩ := hdraws.exists_reading hl hpieces
    exact Reading.wellFormed_of_next hhere hne hnext htoken
  · intro n tokens htokens
    obtain ⟨pieces, hdraws, hgiven⟩ := first.exists_draws_take n hl
    exact ⟨pieces, hdraws, hgiven tokens htokens⟩
  · intro fileName hname hpolicy
    have hdrain : first.take (text.length + 1) =
        (.ok (tokensOf (scan language .start text)),
          first.concluded fileName (scan language .start text)) :=
      Session.drain_fresh hname hl hpolicy text
    obtain ⟨pieces, hdraws, hgiven⟩ := first.exists_draws_take (text.length + 1) hl
    rw [hdrain] at hdraws hgiven
    rcases (Lexer.fresh text source language).lex_tokens hname hl policy with
      ⟨lexed, hlexed, htokens⟩ | ⟨hraise, _⟩
    · refine ⟨pieces, _, lexed, hdraws, ?_, hlexed, htokens.trans (hgiven _ rfl).symm⟩
      show text.drop ((scan language .start text).flatMap (·.span)).length = []
      rw [flatMap_span_scan hl, List.drop_length]
    · exact absurd hraise hpolicy

/-- The theorem at work in English: on a tag that another one cuts short, on the
parts of a step, the last of them in quotes that are not closed, on cells with
space or a newline in them, and on a description with space at both ends. -/
theorem payloads_are_well_formed_and_maximal_english :
    let text := "@a@b\nGiven x12 <y>\"z\n|\t\\n | \u3000|\n\rprose\r\n".toList
    let tokens : List Token :=
      [.tag ['a'], .tag ['b'], .newline, .keyword .givenStep, .stepText ['x'],
        .integer ['1', '2'], .stepText [' '], .placeholder ['y'], .quoted ['z'], .newline,
        .cell ['\n'], .cell [], .newline, .description "prose".toList, .newline]
    ∃ lexed, (Lexer.fresh text .unnamed (.ofDialect .english)).lex .record = .ok lexed ∧
      lexed.tokens = tokens ∧ ∀ token ∈ tokens, token.WellFormed := by
  intro text tokens
  obtain ⟨hpieces, _, hresult⟩ := payloads_are_well_formed_and_maximal
    Language.supported_english text .unnamed .record
  obtain ⟨pieces, session, lexed, hdraws, _, hlexed, htokens⟩ :=
    hresult _ Source.fileName_unnamed (by decide)
  have hgiven : ((Lexer.fresh text .unnamed (.ofDialect .english)).lex .record).toOption.map
      (·.tokens) = some tokens := by decide +kernel
  rw [hlexed] at hgiven
  have hsame : lexed.tokens = tokens := Option.some.inj hgiven
  refine ⟨lexed, hlexed, hsame, ?_⟩
  intro token hmem
  rw [← hsame, htokens] at hmem
  obtain ⟨piece, hpiece, htoken⟩ := List.mem_filterMap.1 hmem
  obtain ⟨before, later, hsplit⟩ := List.append_of_mem hpiece
  exact ((hpieces pieces session hdraws).2 before piece later token hsplit htoken).1

end FeatureLexer
