import FeatureLexer.Proofs.Session.Draws
import FeatureLexer.Proofs.Session.Lines

/-!
# Lazy and eager lexing agree

The tokens of a text can be drawn one by one, a few at a time or all at once,
and in any mixture of these. What comes out does not depend on it.

The measure of what a session has still to give is what it would give if it
were drained now (`Session.Owes`). A draw takes the first of these tokens and
leaves the others, and the state that draining ends in stays the same
(`Owes.draw`); so does every step that draws tokens (`Owes.perform`), and so do
any number of them (`Owes.performAll`). For this it matters that each token
takes a character, so that a drained session is indeed finished
(`drain_finished`) and that the number of draws which draining makes is never
felt (`take_eq_of_lt`).

A session is finished once a reply says that nothing is left, or once it has
failed (`finished_of_ends`). No step takes that back (`perform_finished`), and
there is then nothing more to draw (`perform_of_finished`).
-/

namespace FeatureLexer

/-- Whether the reply to a step tells that there are no more tokens to draw: the
step has failed, or has got less than it asked for. -/
def Step.ends : Step → Except Failure Reply → Bool
  | .draw, .ok (.token (some _)) => false
  | .take n, .ok (.tokens tokens) => tokens.length < n
  | .draw, _ | .take _, _ | .drain, _ => true
  | _, _ => false

/-- The reply to a step that draws tokens where none is left. -/
def Step.nothingLeft : Step → Reply
  | .draw => .token none
  | _ => .tokens []

/-- The tokens in a reply. -/
def Reply.given : Reply → List Token
  | .token drawn => drawn.toList
  | .tokens drawn => drawn
  | _ => []

namespace Session

/-- The tokens given out by a step. -/
def Report.given (report : Report) : List Token :=
  match report.reply with
  | .ok reply => reply.given
  | .error _ => []

/-- The session after all of the steps. -/
def performed (session : Session) (steps : List Step) : Session :=
  steps.foldl (fun session step => (session.perform step).2) session

/-! ### Finished is final -/

theorem conclude_finished (session : Session) : session.conclude.2.finished = true := by
  rw [conclude]
  split
  · rfl
  · split
    · rfl
    · split
      · rfl
      · rfl

/-- A draw finishes a session or gives a token. -/
theorem draw_finished_or (session : Session) :
    session.draw.2.finished = true ∨ ∃ token, session.draw.1 = .ok (some token) := by
  rw [draw]
  split
  next hfinished => exact Or.inl hfinished
  next =>
    dsimp only
    split
    next token _ _ =>
      rw [giveOut]
      split
      · exact Or.inr ⟨token, rfl⟩
      · exact Or.inl rfl
    · exact Or.inl (conclude_finished _)
    · exact Or.inl rfl
    · exact Or.inl rfl

/-- Taking tokens finishes a session or gives as many as were asked for. -/
theorem take_finished_or (n : Nat) (session : Session) :
    (session.take n).2.finished = true ∨
      ∃ tokens, (session.take n).1 = .ok tokens ∧ tokens.length = n := by
  induction n generalizing session with
  | zero => exact Or.inr ⟨[], rfl, rfl⟩
  | succ n ih =>
    have hdrawn := session.draw_finished_or
    rw [take]
    split
    next hdraw =>
      rw [hdraw] at hdrawn
      exact Or.inl (hdrawn.resolve_right (by simp))
    next hdraw =>
      rw [hdraw] at hdrawn
      exact Or.inl (hdrawn.resolve_right (by simp))
    next token after hdraw =>
      rcases ih after with hfinished | ⟨others, hothers, hlength⟩
      · exact Or.inl hfinished
      · refine Or.inr ⟨token :: others, ?_, by rw [List.length_cons, hlength]⟩
        dsimp only
        rw [hothers]
        rfl

/-- There are no more tokens to take than characters. -/
theorem length_le_of_take {session : Session} (hl : session.lexer.language.Supported) {n : Nat}
    {tokens : List Token} (h : (session.take n).1 = .ok tokens) :
    tokens.length ≤ session.lexer.rest.length := by
  obtain ⟨pieces, hdraws, htokens⟩ := session.exists_draws_take n hl
  have hpieces := hdraws.length_add_le hl
  have hfilter := List.length_filterMap_le (·.token?) pieces
  rw [htokens tokens h] at hfilter
  omega

/-- **A drained session is finished.** -/
theorem drain_finished {session : Session} (hl : session.lexer.language.Supported) :
    session.drain.2.finished = true := by
  rw [drain]
  rcases session.take_finished_or (session.lexer.rest.length + 1) with
    hfinished | ⟨tokens, htokens, hlength⟩
  · exact hfinished
  · have hle := length_le_of_take hl htokens
    omega

/-- **A reply that tells of the end** comes from a finished session. -/
theorem finished_of_ends {session : Session} (hl : session.lexer.language.Supported) {step : Step}
    (h : step.ends (session.perform step).1 = true) :
    (session.perform step).2.finished = true := by
  cases step with
  | draw =>
    refine session.draw_finished_or.resolve_right ?_
    rintro ⟨token, htoken⟩
    simp [perform, htoken, Except.map, Step.ends] at h
  | take n =>
    refine (session.take_finished_or n).resolve_right ?_
    rintro ⟨tokens, htokens, hlength⟩
    simp [perform, htokens, hlength, Except.map, Step.ends] at h
  | drain => exact drain_finished hl
  | _ => exact absurd h Bool.false_ne_true

section

variable {session : Session} (h : session.finished = true)
include h

theorem take_of_finished (n : Nat) : session.take n = (.ok [], session) := by
  cases n with
  | zero => rfl
  | succ n => rw [take, draw_of_finished h]

/-- **Nothing is drawn from a finished session,** and it stays as it is. -/
theorem perform_of_finished {step : Step} (hstep : step.draws = true) :
    session.perform step = (.ok step.nothingLeft, session) := by
  cases step with
  | draw =>
    rw [perform, draw_of_finished h]
    rfl
  | drain =>
    rw [perform, drain, take_of_finished h]
    rfl
  | take n =>
    rw [perform, take_of_finished h]
    rfl
  | _ => exact absurd hstep Bool.false_ne_true

theorem change_finished (outcome : Except LocatorError Lexer) :
    (session.change outcome).2.finished = true := by
  cases outcome with
  | ok lexer => exact h
  | error error => exact h

theorem runPattern_finished (pattern : Pattern) :
    (session.runPattern pattern).2.finished = true := by
  rw [runPattern]
  split
  · exact h
  · exact h
  · exact h
  · exact h

theorem flush_finished : session.flush.2.finished = true := by
  rw [flush]
  split
  · exact h
  · exact h
  · split
    · exact h
    · exact h

/-- **No step brings a finished session back.** -/
theorem perform_finished (step : Step) : (session.perform step).2.finished = true := by
  cases step with
  | draw | drain | take =>
    rw [perform_of_finished h rfl]
    exact h
  | run pattern => exact runPattern_finished h pattern
  | adoptLanguage | note => exact change_finished h _
  | flush => exact flush_finished h
  | fileName =>
    rw [perform]
    split
    · exact h
    · exact h
  | seek | read | readAll | beginLine | setPolicy => exact h

theorem performed_finished (steps : List Step) : (session.performed steps).finished = true := by
  induction steps generalizing session with
  | nil => exact h
  | cons step steps ih => exact ih (perform_finished h step)

end

/-- Once a step has told of the end, a session is finished. -/
theorem performed_finished_of_ends {session : Session} (hl : session.lexer.language.Supported)
    {steps : List Step} (hsteps : ∀ step ∈ steps, step.draws = true) {step : Step}
    {report : Report} (hmem : (step, report) ∈ steps.zip (session.performAll steps))
    (hends : step.ends report.reply = true) : (session.performed steps).finished = true := by
  induction steps generalizing session with
  | nil => exact absurd hmem List.not_mem_nil
  | cons first steps ih =>
    rw [performAll, List.zip_cons_cons, List.mem_cons] at hmem
    rcases hmem with heq | hmem
    · obtain ⟨rfl, rfl⟩ := Prod.mk.inj heq
      exact performed_finished (finished_of_ends hl hends) steps
    · obtain ⟨_, hdraws⟩ := session.exists_draws_perform hl (hsteps first List.mem_cons_self)
      exact ih (hdraws.supported hl)
        (fun other hother => hsteps other (List.mem_cons_of_mem _ hother)) hmem

/-! ### What is left to give -/

/-- Whether a session has tokens left to give, and comes to a state with them:
those that it would give, and that it would be in, if it were drained. -/
structure Owes (session : Session) (tokens : List Token) (final : Session) : Prop where
  supported : session.lexer.language.Supported
  drain_eq : session.drain = (.ok tokens, final)

variable {session final : Session} {tokens : List Token}

/-- **What taking tokens means for the first of them.** -/
theorem take_succ_cases {n : Nat} (h : session.take (n + 1) = (.ok tokens, final)) :
    (tokens = [] ∧ session.draw = (.ok none, final)) ∨
      ∃ token others after, tokens = token :: others ∧
        session.draw = (.ok (some token), after) ∧ after.take n = (.ok others, final) := by
  rw [take] at h
  split at h
  next => exact absurd (congrArg Prod.fst h) (by simp)
  next after hdraw =>
    obtain ⟨htokens, rfl⟩ := Prod.mk.inj h
    exact Or.inl ⟨(Except.ok.inj htokens).symm, hdraw⟩
  next token after hdraw =>
    obtain ⟨htokens, rfl⟩ := Prod.mk.inj h
    cases htake : (after.take n).1 with
    | error failure =>
      rw [htake] at htokens
      exact absurd htokens (by simp [Except.map])
    | ok others =>
      rw [htake] at htokens
      exact Or.inr ⟨token, others, after, (Except.ok.inj htokens).symm, hdraw,
        Prod.ext htake rfl⟩

/-- **It does not matter how many tokens are asked for,** as long as there are
fewer. -/
theorem take_eq_of_lt {n m : Nat} (h : session.take n = (.ok tokens, final))
    (hn : tokens.length < n) (hm : tokens.length < m) : session.take m = (.ok tokens, final) := by
  obtain ⟨m, rfl⟩ : ∃ k, m = k + 1 := ⟨m - 1, by omega⟩
  obtain ⟨n, rfl⟩ : ∃ k, n = k + 1 := ⟨n - 1, by omega⟩
  induction n generalizing session tokens m with
  | zero =>
    obtain rfl := List.length_eq_zero_iff.1 (Nat.lt_one_iff.1 hn)
    obtain ⟨_, hdraw⟩ | ⟨_, _, _, htokens, _⟩ := take_succ_cases h
    · rw [take, hdraw]
    · exact absurd htokens (by simp)
  | succ n ih =>
    obtain ⟨rfl, hdraw⟩ | ⟨token, others, after, rfl, hdraw, htake⟩ := take_succ_cases h
    · rw [take, hdraw]
    · rw [List.length_cons] at hn hm
      obtain ⟨m, rfl⟩ : ∃ k, m = k + 1 := ⟨m - 1, by omega⟩
      have hothers := ih m (by omega) htake (by omega)
      rw [take, hdraw]
      dsimp only
      rw [hothers]
      rfl

namespace Owes

/-- What a finished session owes is nothing. -/
theorem of_finished (hl : session.lexer.language.Supported) (h : session.finished = true) :
    session.Owes [] session :=
  ⟨hl, take_of_finished h _⟩

theorem eq_of_finished (h : session.Owes tokens final) (hfinished : session.finished = true) :
    tokens = [] ∧ session = final := by
  have hdrain := h.drain_eq
  rw [drain, take_of_finished hfinished] at hdrain
  obtain ⟨htokens, rfl⟩ := Prod.mk.inj hdrain
  exact ⟨(Except.ok.inj htokens).symm, rfl⟩

theorem exists_draws (h : session.Owes tokens final) : ∃ pieces, session.Draws pieces final := by
  obtain ⟨pieces, hdraws, _⟩ :=
    session.exists_draws_take (session.lexer.rest.length + 1) h.supported
  rw [← drain, h.drain_eq] at hdraws
  exact ⟨pieces, hdraws⟩

/-- In the end, nothing is owed. -/
theorem final_owes (h : session.Owes tokens final) : final.Owes [] final := by
  obtain ⟨_, hdraws⟩ := h.exists_draws
  have hfinished := drain_finished h.supported
  rw [h.drain_eq] at hfinished
  exact of_finished (hdraws.supported h.supported) hfinished

/-- **A draw gives the first token that is owed,** and the others stay owed. -/
theorem draw (h : session.Owes tokens final) :
    (tokens = [] ∧ session.draw = (.ok none, final)) ∨
      ∃ token others after, tokens = token :: others ∧
        session.draw = (.ok (some token), after) ∧ after.Owes others final := by
  have hall : session.take (session.lexer.rest.length + 1) = (.ok tokens, final) := h.drain_eq
  obtain hnone | ⟨token, others, after, rfl, hdraw, htake⟩ := take_succ_cases hall
  · exact Or.inl hnone
  · refine Or.inr ⟨token, others, after, rfl, hdraw, ?_⟩
    obtain ⟨_, hdraws, _⟩ := session.exists_draws_draw h.supported
    rw [hdraw] at hdraws
    have hl : after.lexer.language.Supported := hdraws.supported h.supported
    have hbefore := length_le_of_take h.supported (congrArg Prod.fst hall)
    have hafter := length_le_of_take hl (congrArg Prod.fst htake)
    rw [List.length_cons] at hbefore
    exact ⟨hl, take_eq_of_lt htake (by omega) (by omega)⟩

/-- Taking tokens gives the first of those that are owed. -/
theorem take (h : session.Owes tokens final) (n : Nat) :
    ∃ given left after, tokens = given ++ left ∧ session.take n = (.ok given, after) ∧
      after.Owes left final := by
  induction n generalizing session tokens with
  | zero => exact ⟨[], tokens, session, rfl, rfl, h⟩
  | succ n ih =>
    obtain ⟨rfl, hdraw⟩ | ⟨token, others, after, rfl, hdraw, hothers⟩ := h.draw
    · refine ⟨[], [], final, rfl, ?_, h.final_owes⟩
      rw [Session.take, hdraw]
    · obtain ⟨given, left, last, rfl, htake, hleft⟩ := ih hothers
      refine ⟨token :: given, left, last, rfl, ?_, hleft⟩
      rw [Session.take, hdraw]
      dsimp only
      rw [htake]
      rfl

/-- **A step that draws tokens gives the first of those that are owed.** -/
theorem perform (h : session.Owes tokens final) {step : Step} (hstep : step.draws = true) :
    ∃ reply left after, session.perform step = (.ok reply, after) ∧
      tokens = reply.given ++ left ∧ after.Owes left final := by
  cases step with
  | draw =>
    obtain ⟨rfl, hdraw⟩ | ⟨token, others, after, rfl, hdraw, hothers⟩ := h.draw
    · refine ⟨.token none, [], final, ?_, rfl, h.final_owes⟩
      rw [Session.perform, hdraw]
      rfl
    · refine ⟨.token (some token), others, after, ?_, rfl, hothers⟩
      rw [Session.perform, hdraw]
      rfl
  | drain =>
    refine ⟨.tokens tokens, [], final, ?_, (List.append_nil _).symm, h.final_owes⟩
    rw [Session.perform, h.drain_eq]
    rfl
  | take n =>
    obtain ⟨given, left, after, htokens, htake, hleft⟩ := h.take n
    refine ⟨.tokens given, left, after, ?_, htokens, hleft⟩
    rw [Session.perform, htake]
    rfl
  | _ => exact absurd hstep Bool.false_ne_true

/-- **So do any number of such steps,** and each of them succeeds. -/
theorem performAll (h : session.Owes tokens final) {steps : List Step}
    (hsteps : ∀ step ∈ steps, step.draws = true) :
    (∃ left, tokens = (session.performAll steps).flatMap Report.given ++ left ∧
      (session.performed steps).Owes left final) ∧
    ∀ report ∈ session.performAll steps,
      (∃ reply, report.reply = .ok reply) ∧ ∃ left, report.after.Owes left final := by
  induction steps generalizing session tokens with
  | nil => exact ⟨⟨tokens, rfl, h⟩, fun _ hmem => absurd hmem List.not_mem_nil⟩
  | cons step steps ih =>
    obtain ⟨reply, left, after, hperform, rfl, hleft⟩ := h.perform (hsteps step List.mem_cons_self)
    obtain ⟨⟨last, hlast, howes⟩, hreports⟩ :=
      ih hleft fun other hother => hsteps other (List.mem_cons_of_mem _ hother)
    rw [Session.performAll, performed, List.foldl_cons, hperform]
    refine ⟨⟨last, ?_, howes⟩, fun report hreport => ?_⟩
    · rw [List.flatMap_cons, List.append_assoc, ← hlast]
      rfl
    · rcases List.mem_cons.1 hreport with rfl | hreport
      · exact ⟨⟨reply, rfl⟩, left, hleft⟩
      · exact hreports report hreport

/-- No more is noted before the end than at the end. -/
theorem length_noted_le (h : session.Owes tokens final) (category : Category) :
    (session.noted category).length ≤ (final.noted category).length := by
  obtain ⟨_, hdraws⟩ := h.exists_draws
  have hkept := hdraws.diagnostics_isPrefix h.supported
  exact (hkept.sublist.filter _).length_le

end Owes

theorem length_verdict_le (fileName : List Char) (saw : Bool) :
    (verdict fileName saw).length ≤ 1 := by
  cases saw with
  | true => exact Nat.zero_le 1
  | false => exact Nat.le_refl 1

end Session

open Lexer

/-- **Lazy and eager lexing agree,** in a supported language and in a file that
can be named, where no warning is raised. Lexing a text at once gives tokens and
ends in a state. Any steps that draw tokens succeed and give the first of these
tokens; if a reply tells of the end, they give all of them and end in the same
state; and the verdict that the text shows no structure is given once at most.

Of any session, once a reply has told of the end or a step has failed, nothing
more is drawn and nothing is changed by drawing, whatever has been asked for in
between. -/
theorem lazy_and_eager_lexing_agree {source : Source} {fileName : List Char}
    (hname : source.fileName = .ok fileName) {language : Language} (hl : language.Supported)
    {policy : Policy} (hpolicy : policy ≠ .raise) (text : List Char) :
    (∃ tokens final,
      (Session.start (fresh text source language) policy).drain = (.ok tokens, final) ∧
      (fresh text source language).lex policy =
        .ok ⟨tokens, final.lexer.diagnostics, final.recorded⟩ ∧
      ∀ steps : List Step, (∀ step ∈ steps, step.draws = true) →
        ∀ reports, (Session.start (fresh text source language) policy).performAll steps =
            reports →
          (∀ report ∈ reports, (∃ reply, report.reply = .ok reply) ∧
            (report.after.noted .noStructure).length ≤ 1) ∧
          reports.flatMap (·.given) <+: tokens ∧
          ∀ step report, (step, report) ∈ steps.zip reports → step.ends report.reply = true →
            reports.flatMap (·.given) = tokens ∧
            (Session.start (fresh text source language) policy).performed steps = final) ∧
    ∀ session : Session, session.lexer.language.Supported →
      ∀ step reply after, session.perform step = (reply, after) → step.ends reply = true →
        ∀ between later, later.draws = true →
          (after.performed between).perform later =
            (.ok later.nothingLeft, after.performed between) := by
  constructor
  · have hdrain := Session.drain_fresh hname hl hpolicy text
    have howes : (Session.start (fresh text source language) policy).Owes _ _ := ⟨hl, hdrain⟩
    refine ⟨_, _, hdrain, ?_, ?_⟩
    · rw [lex, hdrain]
    rintro steps hsteps reports rfl
    obtain ⟨⟨left, htokens, hleft⟩, hreports⟩ := howes.performAll hsteps
    refine ⟨fun report hreport => ?_, ⟨left, htokens.symm⟩, fun step report hmem hends => ?_⟩
    · obtain ⟨hreply, left, hafter⟩ := hreports report hreport
      refine ⟨hreply, Nat.le_trans (hafter.length_noted_le .noStructure) ?_⟩
      rw [Session.noted_noStructure_concluded]
      exact Session.length_verdict_le _ _
    · have hfinished := Session.performed_finished_of_ends hl hsteps hmem hends
      obtain ⟨rfl, hfinal⟩ := hleft.eq_of_finished hfinished
      rw [List.append_nil] at htokens
      exact ⟨htokens.symm, hfinal⟩
  · intro session hl step reply after hperform hends between later hlater
    have hreply : step.ends (session.perform step).1 = true := by
      rw [hperform]
      exact hends
    have hfinished := Session.finished_of_ends hl hreply
    rw [hperform] at hfinished
    exact Session.perform_of_finished (Session.performed_finished hfinished between) hlater

/-- The theorem at work in English: a text drawn in two portions, and draws
behind its end from a session that has been moved to its start again. -/
theorem lazy_and_eager_lexing_agree_english :
    (∃ tokens final,
      (Session.start (fresh "Given 1\n# language: fr\nprose".toList .unnamed
        (.ofDialect .english)) .record).drain = (.ok tokens, final) ∧
      ((Session.start (fresh "Given 1\n# language: fr\nprose".toList .unnamed
        (.ofDialect .english)) .record).performAll [.take 1, .drain]).flatMap (·.given) = tokens) ∧
    ∀ reply after, (Session.start (fresh "Given 1\n# language: fr\nprose".toList .unnamed
        (.ofDialect .english)) .raise).perform .drain = (reply, after) →
      (after.performed [.seek 0, .beginLine, .adoptLanguage (some "de".toList)]).perform .draw =
        (.ok (.token none),
          after.performed [.seek 0, .beginLine, .adoptLanguage (some "de".toList)]) := by
  have h := lazy_and_eager_lexing_agree Source.fileName_unnamed Language.supported_english
    (by decide : Policy.record ≠ .raise) "Given 1\n# language: fr\nprose".toList
  constructor
  · obtain ⟨tokens, final, hdrain, _, hsteps⟩ := h.1
    obtain ⟨_, _, hends⟩ := hsteps [.take 1, .drain] (by decide) _ rfl
    have hall := hends .drain _ (List.mem_cons_of_mem _ List.mem_cons_self) rfl
    exact ⟨tokens, final, hdrain, hall.1⟩
  · intro reply after hdrain
    exact h.2 _ Language.supported_english .drain reply after hdrain rfl _ .draw rfl

end FeatureLexer
