import FeatureLexer.Proofs.Session.Draws
import FeatureLexer.Proofs.Source.Locator

/-!
# What the source of a text is good for

A source names the file in messages and does nothing else, as long as there is a
name to give. Two sources that can be named give the same tokens and the same
problems, under other names (`foundIn_eq_map`).

A source may also have no name: a locator may be refused, and a number may be too
long to be written (`Source.fileName_eq_error_iff`). Such a source is no obstacle to
a text without problems: nobody asks for its name. But the first problem that
is to be noted stops the lexing, and all tokens are lost, since the name is
looked up where the problem is found (`Session.Stalls`). So a source matters in
one more way than a name should.

The proof follows the scan of the text, as in `FeatureLexer.Proofs.Session.Drain`,
with one difference: nothing is ever pending, because nothing can be noted.
-/

namespace FeatureLexer

open Pattern

/-! ### The problems of a text, whatever its name -/

/-- The problems found in a text with the given readings, whatever the file is
called. -/
def problemsIn (readings : List Reading) : List (Category × String) :=
  (foundIn [] readings).map fun found => (found.category, found.problem)

/-- **The name of the file is all that changes** about the problems of a text. -/
theorem foundIn_eq_map (fileName : List Char) (readings : List Reading) :
    foundIn fileName readings =
      (problemsIn readings).map fun problem => ⟨problem.1, fileName, problem.2⟩ := by
  have hproblems (reading : Reading) : reading.problems fileName =
      (reading.problems []).map fun found => ⟨found.category, fileName, found.problem⟩ := by
    unfold Reading.problems
    split
    · rfl
    · split
      · rfl
      · rfl
  have hverdict (saw : Bool) : Session.verdict fileName saw =
      (Session.verdict [] saw).map fun found => ⟨found.category, fileName, found.problem⟩ := by
    cases saw with
    | true => rfl
    | false => rfl
  simp only [problemsIn, foundIn, List.map_map, List.map_append, List.map_flatMap, hproblems,
    hverdict]
  rfl

theorem problemsIn_eq_nil_iff {readings : List Reading} :
    problemsIn readings = [] ↔ foundIn [] readings = [] :=
  List.map_eq_nil_iff

/-! ### A file that cannot be named -/

/-- **A reading is taken over** where the file cannot be named, unless it has a
problem. -/
theorem Lexer.accept_of_unnamable {lexer : Lexer} {error : LocatorError}
    (hname : lexer.source.fileName = .error error) (reading : Reading) :
    reading.problems [] = [] ∧
      lexer.accept reading = ⟨reading.token?.toList, lexer.past [] reading, .done⟩ ∨
    reading.problems [] ≠ [] ∧
      lexer.accept reading = ⟨reading.token?.toList, lexer.moved reading, .failed error⟩ := by
  simp only [accept, past, Reading.languageAfter, Reading.problems]
  cases reading.declared? with
  | none =>
    left
    simp [Run.after, Run.silent, moved]
  | some name =>
    have hrequested : Language.requested? (some name) = Language.named? name := rfl
    cases hlanguage : Language.named? name with
    | some language =>
      left
      simp [adoptLanguage, hrequested, hlanguage, Run.ofChange, Run.silent, Run.after, moved]
    | none =>
      right
      simp [adoptLanguage, hrequested, hlanguage, note, moved, hname, Except.map, Run.ofChange,
        Run.after]

namespace Session

/-- A session that is under way in a file that cannot be named, with nothing
pending. -/
structure Unnamable (session : Session) (error : LocatorError) : Prop where
  underWay : session.finished = false
  source : session.lexer.source.fileName = .error error
  language : session.lexer.language.Supported
  pending : session.lexer.pending = []

/-- Whether a request succeeds with a value, and leaves a session behind, if
nothing is due, and is stopped for want of a name otherwise. -/
def Stalls {α : Type} (outcome : Except Failure α × Session) (error : LocatorError)
    (due : List Diagnostic) (value : α) (after : Session) : Prop :=
  due = [] ∧ outcome = (.ok value, after) ∨
    due ≠ [] ∧ ∃ stopped, outcome = (.error (.unnamable error), stopped)

/-- Where nothing is due, nothing is raised. -/
theorem Settles.eq_ok {α : Type} {outcome : Except Failure α × Session} {policy : Policy}
    {value : α} {after : Session} (h : Settles outcome policy [] value after) :
    outcome = (.ok value, after) := by
  rcases h with ⟨_, h⟩ | ⟨_, first, others, _, hdue, _⟩
  · exact h
  · exact absurd hdue.symm (List.cons_ne_nil _ _)

variable {session : Session} {error : LocatorError}

/-- At the end of the text, a name is needed for the verdict. -/
theorem conclude_stalls (h : session.Unnamable error) (hend : session.lexer.rest = []) :
    Stalls session.conclude error (session.due [] []) none (session.concluded [] []) := by
  have hended : session.lexer.endOfText.ending = .done := by
    rw [Lexer.endOfText, hend]
    rfl
  have hflush := session.flush_settles
  rw [h.pending] at hflush
  cases hsaw : session.lexer.sawStructure with
  | true =>
    left
    refine ⟨by simp [due, verdict, h.pending, hsaw], ?_⟩
    simp only [conclude, hended, noteProse, hsaw, if_true, hflush.eq_ok]
    simp [concluded, flushed, finish, verdict, h.pending, hsaw]
  | false =>
    right
    refine ⟨by simp [due, verdict, hsaw, tokensOf], session.finish, ?_⟩
    simp [conclude, hended, noteProse, hsaw, Lexer.note, h.source, Except.map]

/-- A reading without problems leaves nothing pending. -/
theorem Unnamable.past (h : session.Unnamable error) {reading : Reading}
    (hproblems : reading.problems [] = []) : (session.past [] reading).Unnamable error := by
  refine ⟨h.underWay, h.source, reading.supported_languageAfter h.language, ?_⟩
  show session.lexer.pending ++ reading.problems [] = []
  rw [h.pending, hproblems, List.append_nil]

section

variable (h : session.Unnamable error) (hrest : session.lexer.rest ≠ []) {reading : Reading}
  (hnext : Reading.next session.lexer.language session.lexer.line session.lexer.rest = reading)
include h hrest hnext

/-- What gives no token and has no problem is passed over. -/
theorem Unnamable.draw_of_silent (hproblems : reading.problems [] = [])
    (htoken : reading.token? = none) : session.draw = (session.past [] reading).draw := by
  obtain ⟨hsplit, _, hne⟩ := session.lexer.past_next [] h.language hrest
  have hrun := Lexer.nextLexeme_run hrest
  rw [hnext] at hsplit hne hrun
  rcases Lexer.accept_of_unnamable h.source reading with ⟨_, haccept⟩ | ⟨hne', _⟩
  · rw [haccept, htoken] at hrun
    exact draw_of_run_silent h.underWay hrun (Lexer.remaining_lt hne hsplit)
  · exact absurd hproblems hne'

/-- A token without a problem is given out, and without a warning. -/
theorem Unnamable.draw_of_token {token : Token} (hproblems : reading.problems [] = [])
    (htoken : reading.token? = some token) :
    session.draw = (.ok (some token), ((session.past [] reading).saw token).flushed) := by
  have hgive := (session.past [] reading).giveOut_settles token
  rw [(h.past hproblems).pending] at hgive
  have hrun := Lexer.nextLexeme_run hrest
  rw [hnext] at hrun
  rcases Lexer.accept_of_unnamable h.source reading with ⟨_, haccept⟩ | ⟨hne, _⟩
  · rw [haccept, htoken] at hrun
    exact (draw_of_run_give h.underWay hrun).trans hgive.eq_ok
  · exact absurd hproblems hne

/-- **A problem stops the draw,** for want of a name. -/
theorem Unnamable.draw_of_problem (hproblems : reading.problems [] ≠ []) :
    ∃ stopped, session.draw = (.error (.unnamable error), stopped) := by
  -- What has a problem is a comment, so no token is lost on the way.
  have htoken : reading.token? = none := by
    rw [← hnext] at hproblems ⊢
    refine Reading.token?_next_of_declared? fun hnone => hproblems ?_
    simp [Reading.problems, hnone]
  have hrun := Lexer.nextLexeme_run hrest
  rw [hnext] at hrun
  rcases Lexer.accept_of_unnamable h.source reading with ⟨hnone, _⟩ | ⟨_, haccept⟩
  · exact absurd hnone hproblems
  · rw [haccept, htoken] at hrun
    exact ⟨_, draw_of_run_failed h.underWay hrun⟩

end

/-- Behind a token, taking goes on as it would from there. -/
theorem Stalls.take_succ {after last : Session} {token : Token} {n : Nat} {due : List Diagnostic}
    {tokens : List Token} (hdraw : session.draw = (.ok (some token), after))
    (h : Stalls (after.take n) error due tokens last) :
    Stalls (session.take (n + 1)) error due (token :: tokens) last := by
  rw [take, hdraw]
  rcases h with ⟨hnone, htake⟩ | ⟨hdue, stopped, htake⟩
  · refine Or.inl ⟨hnone, ?_⟩
    simp only [htake, Except.map]
  · refine Or.inr ⟨hdue, stopped, ?_⟩
    simp only [htake, Except.map]

/-- **Taking as many tokens as there can be** gives all of them if no problem is
to be noted on the way, and is stopped otherwise. -/
theorem take_stalls (h : session.Unnamable error) {readings : List Reading}
    (hscan : scan session.lexer.language session.lexer.line session.lexer.rest = readings)
    {n : Nat} (hn : session.lexer.rest.length < n) :
    Stalls (session.take n) error (session.due [] readings) (tokensOf readings)
      (session.concluded [] readings) := by
  obtain ⟨n, rfl⟩ : ∃ m, n = m + 1 := ⟨n - 1, by omega⟩
  induction readings generalizing session n with
  | nil =>
    have hend := eq_nil_of_scan_eq_nil hscan
    rw [take, draw_of_ended (by simp [h.underWay]) hend]
    rcases conclude_stalls h hend with ⟨hnone, hconclude⟩ | ⟨hdue, stopped, hconclude⟩
    · rw [hconclude]
      exact Or.inl ⟨hnone, rfl⟩
    · rw [hconclude]
      exact Or.inr ⟨hdue, stopped, rfl⟩
  | cons reading readings ih =>
    obtain ⟨hrest, hnext, hlater⟩ := next_of_scan_eq_cons h.language hscan
    obtain ⟨hsplit, _, hne⟩ := session.lexer.past_next [] h.language hrest
    rw [hnext] at hsplit hne
    have hlength := congrArg List.length hsplit
    have hspan := List.length_pos_iff.2 hne
    rw [List.length_append] at hlength
    by_cases hproblems : reading.problems [] = []
    · have hpast := h.past hproblems
      cases htoken : reading.token? with
      | none =>
        have hless : (session.past [] reading).lexer.rest.length < n + 1 := by
          show (session.lexer.past [] reading).rest.length < n + 1
          omega
        rw [take, h.draw_of_silent hrest hnext hproblems htoken, ← take, ← due_past htoken,
          ← concluded_past htoken, tokensOf_cons_of_none htoken]
        exact ih hpast hlater n hless
      | some token =>
        obtain ⟨m, rfl⟩ : ∃ m, n = m + 1 := ⟨n - 1, by omega⟩
        have hless : ((session.past [] reading).saw token).flushed.lexer.rest.length < m + 1 := by
          show (session.lexer.past [] reading).rest.length < m + 1
          omega
        have hflushed : ((session.past [] reading).saw token).flushed.Unnamable error :=
          ⟨hpast.underWay, hpast.source, hpast.language, rfl⟩
        rw [due_saw htoken, hpast.pending, List.nil_append, ← concluded_saw htoken,
          tokensOf_cons_of_some htoken]
        exact .take_succ (h.draw_of_token hrest hnext hproblems htoken)
          (ih hflushed hlater m hless)
    · obtain ⟨stopped, hdraw⟩ := h.draw_of_problem hrest hnext hproblems
      rw [take, hdraw]
      exact Or.inr ⟨by simp [due, hproblems], stopped, rfl⟩

end Session

/-- **Lexing in a file that cannot be named** comes to what the scan of the text
says if no problem is found, and is stopped otherwise. -/
theorem Lexer.lex_fresh_of_unnamable {source : Source} {error : LocatorError}
    (hname : source.fileName = .error error) {language : Language} (hl : language.Supported)
    (text : List Char) (policy : Policy) :
    (fresh text source language).lex policy =
      if problemsIn (scan language .start text) = [] then
        .ok ⟨tokensOf (scan language .start text), [], []⟩
      else .error (.stopped (.unnamable error)) := by
  have hunnamable : (Session.start (fresh text source language) policy).Unnamable error :=
    ⟨rfl, hname, hl, rfl⟩
  rw [lex, Session.drain]
  rcases Session.take_stalls hunnamable rfl (Nat.lt_succ_self _) with
    ⟨hnone, htake⟩ | ⟨hdue, stopped, htake⟩
  · have hfound : foundIn [] (scan language .start text) = [] := hnone
    have hdiagnostics : ((Session.start (fresh text source language) policy).concluded []
        (scan language .start text)).lexer.diagnostics = [] := hfound
    have hrecorded : ((Session.start (fresh text source language) policy).concluded []
        (scan language .start text)).recorded = [] := by
      show [] ++ (if policy = .record then [] ++ foundIn [] (scan language .start text)
        else []) = []
      rw [hfound, List.append_nil, ite_self, List.append_nil]
    rw [htake, if_pos (problemsIn_eq_nil_iff.2 hfound)]
    exact congrArg Except.ok (congrArg₂ (Lexed.mk _) hdiagnostics hrecorded)
  · have hfound : foundIn [] (scan language .start text) ≠ [] := hdue
    rw [htake, if_neg fun hnone => hfound (problemsIn_eq_nil_iff.1 hnone)]

theorem lexText_of_unnamable {source : Source} {error : LocatorError}
    (hname : source.fileName = .error error) {name : Option (List Char)} {language : Language}
    (hlanguage : Language.requested? name = some language) (text : List Char) (policy : Policy) :
    lexText text ⟨source, name, policy⟩ =
      if problemsIn (scan language .start (Text.joinCarriageReturns text)) = [] then
        .ok ⟨tokensOf (scan language .start (Text.joinCarriageReturns text)), [], []⟩
      else .error (.stopped (.unnamable error)) := by
  have hl := Language.supported_of_requested? hlanguage
  rw [lexText, Lexer.ofText_eq hlanguage]
  exact Lexer.lex_fresh_of_unnamable hname hl _ policy

/-- **A text without problems** is lexed alike from every source and under every
policy. -/
theorem lexText_of_problemsIn_eq_nil {name : Option (List Char)} {language : Language}
    (hlanguage : Language.requested? name = some language) {text : List Char}
    (h : problemsIn (scan language .start (Text.joinCarriageReturns text)) = [])
    (source : Source) (policy : Policy) :
    lexText text ⟨source, name, policy⟩ =
      .ok ⟨tokensOf (scan language .start (Text.joinCarriageReturns text)), [], []⟩ := by
  cases hname : source.fileName with
  | error error => rw [lexText_of_unnamable hname hlanguage, if_pos h]
  | ok fileName =>
    rw [lexText_eq hname hlanguage, foundIn_eq_map, h]
    cases policy with
    | record => rfl
    | discard => rfl
    | raise => rfl

/-- **A source matters only to name problems,** in a supported language and where
no warning is raised. A text has its tokens and its problems, whatever its
source. From every source that can be named it is lexed with these tokens and
with one diagnostic for each of the problems, in their order, that names the
file and says nothing else of the source; the warnings are the same, or none
where they are discarded. From a source that cannot be named it is lexed in the
same way if it has no problems, and not at all otherwise. -/
theorem source_matters_only_to_name_problems {name : Option (List Char)} {language : Language}
    (hlanguage : Language.requested? name = some language) (text : List Char) {policy : Policy}
    (hpolicy : policy ≠ .raise) :
    ∃ (tokens : List Token) (problems : List (Category × String)), ∀ source : Source,
      (∀ fileName, source.fileName = .ok fileName → ∃ lexed,
        lexText text ⟨source, name, policy⟩ = .ok lexed ∧ lexed.tokens = tokens ∧
        lexed.diagnostics.map (fun found => (found.category, found.message)) =
          problems.map (fun problem =>
            (problem.1, "File: " ++ String.ofList fileName ++ " " ++ problem.2)) ∧
        lexed.warnings = if policy = .record then lexed.diagnostics else []) ∧
      ∀ error, source.fileName = .error error →
        lexText text ⟨source, name, policy⟩ =
          if problems = [] then .ok ⟨tokens, [], []⟩ else .error (.stopped (.unnamable error)) := by
  let readings := scan language .start (Text.joinCarriageReturns text)
  refine ⟨tokensOf readings, problemsIn readings, fun source => ⟨?_, ?_⟩⟩
  · intro fileName hname
    have hmessages : (foundIn fileName readings).map (fun found =>
          (found.category, found.message)) =
        (problemsIn readings).map (fun problem =>
          (problem.1, "File: " ++ String.ofList fileName ++ " " ++ problem.2)) := by
      rw [foundIn_eq_map, List.map_map]
      rfl
    rw [lexText_eq hname hlanguage]
    cases policy with
    | record => exact ⟨_, rfl, rfl, hmessages, rfl⟩
    | discard => exact ⟨_, rfl, rfl, hmessages, rfl⟩
    | raise => exact absurd rfl hpolicy
  · intro error hname
    exact lexText_of_unnamable hname hlanguage text policy

/-- The theorem at work on prose, from a path and from a numbered stream. -/
theorem source_matters_only_to_name_problems_prose :
    let text := "\tprose\n".toList
    ∃ byPath byNumber,
      lexText text ⟨.named "a/b.feature".toList, some Language.defaultName, .record⟩ =
        .ok byPath ∧
      lexText text ⟨.numbered 7, some Language.defaultName, .record⟩ = .ok byNumber ∧
      byPath.diagnostics.map (·.message) =
        ["File: b.feature does not contain any valid gherkin"] ∧
      byPath.tokens = byNumber.tokens ∧
      byPath.diagnostics.map (·.category) = byNumber.diagnostics.map (·.category) := by
  intro text
  obtain ⟨tokens, problems, h⟩ := source_matters_only_to_name_problems
    Language.requested?_defaultName text (by decide : Policy.record ≠ .raise)
  have hpath : (Source.named "a/b.feature".toList).fileName = .ok "b.feature".toList := rfl
  have hnumber : (Source.numbered 7).fileName = .ok "7".toList := rfl
  obtain ⟨byPath, hbyPath, htokens, hproblems, _⟩ := (h _).1 _ hpath
  obtain ⟨byNumber, hbyNumber, htokens', hproblems', _⟩ := (h _).1 _ hnumber
  have hcategories := congrArg (List.map Prod.fst) hproblems
  have hcategories' := congrArg (List.map Prod.fst) hproblems'
  simp only [List.map_map] at hcategories hcategories'
  have hmessages : (lexText text ⟨.named "a/b.feature".toList, some Language.defaultName,
      .record⟩).toOption.map (·.diagnostics.map (·.message)) =
        some ["File: b.feature does not contain any valid gherkin"] := by decide +kernel
  rw [hbyPath] at hmessages
  exact ⟨byPath, byNumber, hbyPath, hbyNumber, Option.some.inj hmessages,
    htokens.trans htokens'.symm, hcategories.trans hcategories'.symm⟩

/-- **A source that cannot be named stops the lexing.** Prose is lexed with a
diagnostic from an unnamed source. It is not lexed at all from a locator with a square
bracket that has no partner, with something else than an address between square
brackets, or with a confusable authority, nor from a stream whose number has a digit
too many. -/
theorem unnamable_source_stops_lexing :
    let lexed (source : Source) :=
      lexText "prose".toList ⟨source, some Language.defaultName, .record⟩
    (lexed .unnamed).toOption.map (·.tokens) = some [.description "prose".toList] ∧
    lexed (.named "http://[x/a.feature".toList) =
      .error (.stopped (.unnamable .unbalancedBrackets)) ∧
    lexed (.named "http://[x]/a.feature".toList) =
      .error (.stopped (.unnamable (.noAddress "x".toList))) ∧
    lexed (.named "http://a℀b/a.feature".toList) =
      .error (.stopped (.unnamable (.confusable "a℀b".toList))) ∧
    lexed (.numbered (10 ^ Source.digitLimit : Nat)) =
      .error (.stopped (.unnamable (.longNumber 4300))) := by
  intro lexed
  have hproblems : problemsIn (scan (.ofDialect .english) .start
      (Text.joinCarriageReturns "prose".toList)) ≠ [] := by decide +kernel
  have hstops {source : Source} {error : LocatorError} (hname : source.fileName = .error error) :
      lexed source = .error (.stopped (.unnamable error)) :=
    (lexText_of_unnamable hname Language.requested?_defaultName _ _).trans (if_neg hproblems)
  refine ⟨by decide +kernel, hstops rfl, hstops rfl, hstops rfl, hstops ?_⟩
  exact Source.fileName_eq_error_iff.2 (.inr ⟨_, rfl, (Int.natAbs_natCast _).ge, rfl⟩)

end FeatureLexer
