import FeatureLexer.Proofs.Lexer.Closure
import FeatureLexer.Session.Step

/-!
# What becomes of a diagnostic

A diagnostic is noted in one place, waits, and is given out as a warning in
another. In between anything may be asked of the session: patterns may be run
past its own draws, the policy may change, a warning may be raised and stop a
draw in the middle, and noting a problem may itself fail. None of this loses a
diagnostic, gives one out twice or changes the order.

Two ledgers carry the argument. What a lexer notes it adds to its diagnostics
and to the pending ones alike (`Lexer.Notes`); this holds across every rule,
hence across every pattern. What a session gives out it takes from the front of
the pending ones, and it records that unless warnings are discarded
(`Session.Ledger`); this holds across every step but a change of policy, which
touches no diagnostic (`perform_accounts`). Two invariants follow: as long as no
warning is discarded, the recorded ones followed by the pending ones are all
there are (`Balanced`), and in any case the pending ones are the last that were
noted (`Ordered`).
-/

namespace FeatureLexer

namespace Lexer

/-- The diagnostics that a lexer has noted on its way to a later state. -/
structure Noted (lexer next : Lexer) (noted : List Diagnostic) : Prop where
  diagnostics : next.diagnostics = lexer.diagnostics ++ noted
  pending : next.pending = lexer.pending ++ noted

/-- Whether the diagnostics of a later state are those of a lexer and those that
it has noted since. -/
def Notes (lexer next : Lexer) : Prop :=
  ∃ noted, lexer.Noted next noted

variable {lexer next : Lexer}

theorem Notes.of_eq (hdiagnostics : next.diagnostics = lexer.diagnostics)
    (hpending : next.pending = lexer.pending) : lexer.Notes next :=
  ⟨[], by rw [hdiagnostics, List.append_nil], by rw [hpending, List.append_nil]⟩

theorem Notes.trans {last : Lexer} (h : lexer.Notes next) (h' : next.Notes last) :
    lexer.Notes last := by
  obtain ⟨noted, h⟩ := h
  obtain ⟨more, h'⟩ := h'
  refine ⟨noted ++ more, ?_, ?_⟩
  · rw [h'.diagnostics, h.diagnostics, List.append_assoc]
  · rw [h'.pending, h.pending, List.append_assoc]

theorem note_notes {category : Category} {problem : String}
    (h : lexer.note category problem = .ok next) : lexer.Notes next := by
  rw [note] at h
  cases hname : lexer.source.fileName with
  | error error =>
    rw [hname] at h
    exact absurd h (by simp [Except.map])
  | ok fileName =>
    rw [hname] at h
    obtain rfl := Except.ok.inj h
    exact ⟨[⟨category, fileName, problem⟩], rfl, rfl⟩

theorem adoptLanguage_notes {name : Option (List Char)} (h : lexer.adoptLanguage name = .ok next) :
    lexer.Notes next := by
  rw [adoptLanguage] at h
  split at h
  · obtain rfl := Except.ok.inj h
    exact .of_eq rfl rfl
  · exact note_notes h

/-! ### Across every rule -/

theorem expecting_notes (lexer : Lexer) (c : Char) {read : List Char → Run}
    (h : ∀ s, lexer.Notes (read s).lexer) : lexer.Notes (lexer.expecting c read).lexer := by
  rw [expecting]
  split
  · exact .of_eq rfl rfl
  · split
    · exact h _
    · exact .of_eq rfl rfl

theorem expectingLineStart_notes (lexer : Lexer) {read : Unit → Run}
    (h : lexer.Notes (read ()).lexer) : lexer.Notes (lexer.expectingLineStart read).lexer := by
  rw [expectingLineStart]
  split
  · exact h
  · exact .of_eq rfl rfl

/-- The one rule that has something to note: a directive in a comment. -/
theorem comment_notes (lexer : Lexer) : lexer.Notes lexer.comment.lexer := by
  refine lexer.expecting_notes '#' fun s => ?_
  dsimp only
  split
  next name _ =>
    generalize hnext : (lexer.advance ((Text.lineUntil Text.never s).length + 2)).beginLine = next
    have hmoved : lexer.Notes next := by
      rw [← hnext]
      exact .of_eq rfl rfl
    cases hchange : next.adoptLanguage (some name) with
    | ok changed => exact hmoved.trans (adoptLanguage_notes hchange)
    | error error => exact hmoved
  next => exact .of_eq rfl rfl

/-- Every other rule leaves the diagnostics alone, whichever way it ends. -/
theorem rule_notes (rule : Rule) (lexer : Lexer) : lexer.Notes (rule.run lexer).lexer := by
  cases rule with
  | newline => exact lexer.expecting_notes '\n' fun _ => .of_eq rfl rfl
  | comment => exact lexer.comment_notes
  | tag => exact lexer.expecting_notes '@' fun _ => .of_eq rfl rfl
  | cell =>
    refine lexer.expecting_notes '|' fun s => ?_
    dsimp only
    split <;> exact .of_eq rfl rfl
  | indentation | blockKeyword | stepKeyword =>
    refine lexer.expectingLineStart_notes ?_
    split <;> exact .of_eq rfl rfl
  | description => exact lexer.expectingLineStart_notes (.of_eq rfl rfl)
  | placeholder => exact lexer.expecting_notes '<' fun _ => .of_eq rfl rfl
  | title =>
    rw [Rule.run, title]
    split
    · exact .of_eq rfl rfl
    · split <;> exact .of_eq rfl rfl
  | quoted => exact lexer.expecting_notes '"' fun _ => .of_eq rfl rfl
  | integer =>
    rw [Rule.run, integer]
    split <;> exact .of_eq rfl rfl
  | stepText =>
    rw [Rule.run, stepText]
    split
    · exact .of_eq rfl rfl
    · split <;> exact .of_eq rfl rfl
  | skip => exact .of_eq rfl rfl
  | endOfText =>
    rw [Rule.run, endOfText]
    split <;> exact .of_eq rfl rfl

/-- **Whatever is run, what it notes is pending.** -/
theorem notes_acrossRules : AcrossRules Notes where
  refl _ := .of_eq rfl rfl
  trans := .trans
  rule := rule_notes

end Lexer

namespace Session

/-! ### Across every step -/

/-- The ledger between two states of a session under one policy: `noted` has been
noted, and `given` has been given out, from the front of what was pending. -/
structure Ledger (before after : Session) (noted given : List Diagnostic) : Prop where
  policy : after.policy = before.policy
  diagnostics : after.lexer.diagnostics = before.lexer.diagnostics ++ noted
  pending : before.lexer.pending ++ noted = given ++ after.lexer.pending
  recorded : after.recorded = before.recorded ++ if before.policy = .discard then [] else given

/-- Whether there is a ledger between two states of a session. -/
def Accounts (before after : Session) : Prop :=
  ∃ noted given, before.Ledger after noted given

namespace Accounts

variable {session mid last : Session}

/-- A session whose lexer has moved on, and noted something perhaps. -/
theorem of_notes (session : Session) {next : Lexer} (h : session.lexer.Notes next) :
    session.Accounts { session with lexer := next } := by
  obtain ⟨noted, h⟩ := h
  refine ⟨noted, [], rfl, h.diagnostics, h.pending.symm, ?_⟩
  rw [ite_self, List.append_nil]

theorem refl (session : Session) : session.Accounts session :=
  of_notes session (.of_eq rfl rfl)

theorem trans (h : session.Accounts mid) (h' : mid.Accounts last) : session.Accounts last := by
  obtain ⟨noted, given, h⟩ := h
  obtain ⟨noted', given', h'⟩ := h'
  refine ⟨noted ++ noted', given ++ given', h'.policy.trans h.policy, ?_, ?_, ?_⟩
  · rw [h'.diagnostics, h.diagnostics, List.append_assoc]
  · rw [← List.append_assoc, h.pending, List.append_assoc, h'.pending, List.append_assoc]
  · rw [h'.recorded, h.recorded, h.policy, List.append_assoc]
    split
    · rfl
    · rfl

theorem finish (h : session.Accounts mid) : session.Accounts mid.finish := by
  obtain ⟨noted, given, h⟩ := h
  exact ⟨noted, given, h.policy, h.diagnostics, h.pending, h.recorded⟩

end Accounts

/-- **Warnings are given out from the front,** all of them or, where one is
raised, none. -/
theorem flush_accounts (session : Session) : session.Accounts session.flush.2 := by
  rw [flush]
  split
  next hpolicy =>
    refine ⟨[], session.lexer.pending, rfl, (List.append_nil _).symm, rfl, ?_⟩
    rw [hpolicy, if_neg (by decide)]
  next hpolicy =>
    refine ⟨[], session.lexer.pending, rfl, (List.append_nil _).symm, rfl, ?_⟩
    rw [hpolicy, if_pos rfl, List.append_nil]
  next =>
    cases hpending : session.lexer.pending with
    | nil => exact .of_notes session (.of_eq rfl hpending.symm)
    | cons first others => exact .refl session

theorem giveOut_accounts (session : Session) (token : Token) :
    session.Accounts (session.giveOut token).2 := by
  generalize hseen : ({ session with lexer := { session.lexer with
    sawStructure := session.lexer.sawStructure || token.showsStructure } } : Session) = seen
  have haccounts : session.Accounts seen.flush.2 := by
    refine Accounts.trans ?_ seen.flush_accounts
    rw [← hseen]
    exact .of_notes session (.of_eq rfl rfl)
  rw [giveOut, hseen]
  split
  next hflush =>
    rw [hflush] at haccounts
    exact haccounts
  next hflush =>
    rw [hflush] at haccounts
    exact haccounts.finish

theorem noteProse_notes {lexer next : Lexer} (h : noteProse lexer = .ok next) :
    lexer.Notes next := by
  rw [noteProse] at h
  split at h
  · obtain rfl := Except.ok.inj h
    exact .of_eq rfl rfl
  · exact Lexer.note_notes h

theorem conclude_accounts (session : Session) : session.Accounts session.conclude.2 := by
  rw [conclude]
  split
  · exact (Accounts.refl session).finish
  · cases hnote : noteProse session.lexer with
    | error error => exact (Accounts.refl session).finish
    | ok lexer =>
      have haccounts := (Accounts.of_notes session (noteProse_notes hnote)).trans
        { session with lexer }.flush_accounts
      dsimp only
      split
      next hflush =>
        rw [hflush] at haccounts
        exact haccounts.finish
      next hflush =>
        rw [hflush] at haccounts
        exact haccounts.finish

theorem draw_accounts (session : Session) : session.Accounts session.draw.2 := by
  rw [draw]
  split
  · exact .refl session
  · have hmoved := Accounts.of_notes session (Lexer.notes_acrossRules.untilToken
      (Lexer.notes_acrossRules.run Pattern.nextLexeme) session.lexer)
    dsimp only
    split
    · exact hmoved.trans (giveOut_accounts _ _)
    · exact hmoved.trans (conclude_accounts _)
    · exact hmoved.finish
    · exact hmoved.finish

theorem take_accounts (n : Nat) (session : Session) : session.Accounts (session.take n).2 := by
  induction n generalizing session with
  | zero => exact .refl session
  | succ n ih =>
    have hdraw := session.draw_accounts
    rw [take]
    split
    next hdrawn =>
      rw [hdrawn] at hdraw
      exact hdraw
    next hdrawn =>
      rw [hdrawn] at hdraw
      exact hdraw
    next after hdrawn =>
      rw [hdrawn] at hdraw
      exact hdraw.trans (ih after)

theorem runPattern_accounts (session : Session) (pattern : Pattern) :
    session.Accounts (session.runPattern pattern).2 := by
  have hmoved := Accounts.of_notes session (Lexer.notes_acrossRules.run pattern session.lexer)
  rw [runPattern]
  split
  · exact hmoved
  · exact hmoved
  · exact hmoved
  · exact hmoved

theorem change_accounts (session : Session) {outcome : Except LocatorError Lexer}
    (h : ∀ next, outcome = .ok next → session.lexer.Notes next) :
    session.Accounts (session.change outcome).2 := by
  cases outcome with
  | ok next => exact .of_notes session (h next rfl)
  | error error => exact .refl session

/-- **Every step accounts for its diagnostics,** whether or not it fails. A change
of policy is not one of the steps that touch them. -/
theorem perform_accounts (session : Session) (step : Step) :
    session.Accounts (session.perform step).2 ∨
      ∃ policy, step = .setPolicy policy ∧ (session.perform step).2 = { session with policy } := by
  cases step with
  | draw => exact Or.inl session.draw_accounts
  | drain => exact Or.inl (session.take_accounts _)
  | take n => exact Or.inl (session.take_accounts n)
  | run pattern => exact Or.inl (session.runPattern_accounts pattern)
  | adoptLanguage name =>
    exact Or.inl (session.change_accounts fun _ => Lexer.adoptLanguage_notes)
  | note category problem => exact Or.inl (session.change_accounts fun _ => Lexer.note_notes)
  | flush => exact Or.inl session.flush_accounts
  | fileName =>
    left
    rw [perform]
    split
    · exact .refl session
    · exact .refl session
  | seek | read | readAll | beginLine => exact Or.inl (.of_notes session (.of_eq rfl rfl))
  | setPolicy policy => exact Or.inr ⟨policy, rfl, rfl⟩

/-! ### What holds after every step -/

/-- Whether the recorded warnings, followed by the pending ones, are all
diagnostics of a session. -/
def Balanced (session : Session) : Prop :=
  session.recorded ++ session.lexer.pending = session.lexer.diagnostics

/-- Whether the pending diagnostics are the last of a session, and the recorded
ones are among the others, in order. -/
def Ordered (session : Session) : Prop :=
  ∃ given, session.lexer.diagnostics = given ++ session.lexer.pending ∧
    session.recorded.Sublist given

theorem balanced_fresh (text : List Char) (source : Source) (language : Language)
    (policy : Policy) : (start (.fresh text source language) policy).Balanced :=
  rfl

theorem ordered_fresh (text : List Char) (source : Source) (language : Language)
    (policy : Policy) : (start (.fresh text source language) policy).Ordered :=
  ⟨[], rfl, List.Sublist.refl []⟩

theorem Accounts.balanced {before after : Session} (h : before.Accounts after)
    (hpolicy : before.policy ≠ .discard) (hbefore : before.Balanced) : after.Balanced := by
  obtain ⟨noted, given, h⟩ := h
  calc after.recorded ++ after.lexer.pending
      = before.recorded ++ (given ++ after.lexer.pending) := by
        rw [h.recorded, if_neg hpolicy, List.append_assoc]
    _ = (before.recorded ++ before.lexer.pending) ++ noted := by
        rw [← h.pending, List.append_assoc]
    _ = after.lexer.diagnostics := by rw [hbefore, h.diagnostics]

theorem Accounts.ordered {before after : Session} (h : before.Accounts after)
    (hbefore : before.Ordered) : after.Ordered := by
  obtain ⟨noted, given, h⟩ := h
  obtain ⟨earlier, hdiagnostics, hrecorded⟩ := hbefore
  refine ⟨earlier ++ given, ?_, ?_⟩
  · rw [h.diagnostics, hdiagnostics, List.append_assoc, h.pending, List.append_assoc]
  · rw [h.recorded]
    refine hrecorded.append ?_
    split
    · exact List.nil_sublist given
    · exact List.Sublist.refl given

/-- **What every step keeps holds after each of them.** -/
theorem of_mem_performAll {P : Session → Prop} {steps : List Step}
    (hstep : ∀ session, ∀ step ∈ steps, P session → P (session.perform step).2)
    {session : Session} (h : P session) {report : Report}
    (hmem : report ∈ session.performAll steps) : P report.after := by
  induction steps generalizing session with
  | nil => exact absurd hmem List.not_mem_nil
  | cons step steps ih =>
    have hfirst := hstep session step List.mem_cons_self h
    rcases List.mem_cons.1 hmem with rfl | hmem
    · exact hfirst
    · exact ih (fun other next hnext => hstep other next (List.mem_cons_of_mem _ hnext))
        hfirst hmem

theorem ordered_of_mem_performAll {session : Session} (h : session.Ordered) {steps : List Step}
    {report : Report} (hmem : report ∈ session.performAll steps) : report.after.Ordered := by
  refine of_mem_performAll (fun session step _ hsession => ?_) h hmem
  obtain haccounts | ⟨policy, _, hperform⟩ := session.perform_accounts step
  · exact haccounts.ordered hsession
  · rw [hperform]
    exact hsession

/-- As long as no warning is discarded, the balance is kept. The policy belongs to
what is kept: it decides whether the next step records what it gives out. -/
theorem balanced_of_mem_performAll {session : Session} (h : session.Balanced)
    (hpolicy : session.policy ≠ .discard) {steps : List Step}
    (hsteps : ∀ step ∈ steps, step ≠ .setPolicy .discard) {report : Report}
    (hmem : report ∈ session.performAll steps) : report.after.Balanced := by
  refine (of_mem_performAll (P := fun session => session.Balanced ∧ session.policy ≠ .discard)
    (fun session step hstep hsession => ?_) ⟨h, hpolicy⟩ hmem).1
  obtain haccounts | ⟨policy, rfl, hperform⟩ := session.perform_accounts step
  · refine ⟨haccounts.balanced hsession.2 hsession.1, ?_⟩
    obtain ⟨_, _, hledger⟩ := haccounts
    rw [hledger.policy]
    exact hsession.2
  · rw [hperform]
    refine ⟨hsession.1, ?_⟩
    rintro rfl
    exact hsteps _ hstep rfl

/-- The warnings of a report are those recorded during its step. -/
theorem recorded_append_drop (session : Session) (step : Step) :
    session.recorded ++ (session.perform step).2.recorded.drop session.recorded.length =
      (session.perform step).2.recorded := by
  refine List.prefix_iff_eq_append.1 ?_
  obtain ⟨_, _, hledger⟩ | ⟨_, _, hperform⟩ := session.perform_accounts step
  · rw [hledger.recorded]
    exact List.prefix_append _ _
  · exact ⟨[], by rw [hperform, List.append_nil]⟩

/-- **The reports tell of every recorded warning:** what has been recorded after a
step is what the reports up to it say. -/
theorem recorded_of_performAll {session : Session} {steps : List Step} {before later : List Report}
    {report : Report} (h : session.performAll steps = before ++ report :: later) :
    report.after.recorded = session.recorded ++ (before ++ [report]).flatMap (·.warnings) := by
  induction steps generalizing session before with
  | nil => exact absurd h.symm (by simp [performAll])
  | cons step steps ih =>
    have hstep := session.recorded_append_drop step
    rw [performAll] at h
    cases before with
    | nil =>
      obtain ⟨rfl, _⟩ := List.cons.inj h
      rw [List.nil_append, List.flatMap_singleton]
      exact hstep.symm
    | cons first before =>
      obtain ⟨rfl, hlater⟩ := List.cons.inj h
      rw [ih hlater, List.cons_append, List.flatMap_cons, ← List.append_assoc, hstep]

end Session

open Lexer

/-- **Every diagnostic is given out once, and in order,** whatever is asked of a
session and whichever of the steps fail. After each step, the warnings that the
reports tell of, followed by the pending diagnostics, are all diagnostics in the
order in which they were noted, each with its category and its message, as long
as no policy discards warnings. Under any policies, the pending diagnostics are
the last of all, and the recorded ones are among those before them, in order. -/
theorem every_diagnostic_is_given_out_once_in_order (text : List Char) (source : Source)
    (language : Language) (policy : Policy) (steps : List Step)
    (before later : List Session.Report) (report : Session.Report)
    (h : (Session.start (fresh text source language) policy).performAll steps =
      before ++ report :: later) :
    let recorded := (before ++ [report]).flatMap (·.warnings)
    (policy ≠ .discard → (∀ step ∈ steps, step ≠ .setPolicy .discard) →
      recorded ++ report.after.lexer.pending = report.after.lexer.diagnostics) ∧
    ∃ given, report.after.lexer.diagnostics = given ++ report.after.lexer.pending ∧
      recorded.Sublist given := by
  intro recorded
  have hrecorded : report.after.recorded = recorded := Session.recorded_of_performAll h
  have hmem : report ∈ (Session.start (fresh text source language) policy).performAll steps := by
    rw [h]
    exact List.mem_append_right _ List.mem_cons_self
  constructor
  · intro hpolicy hsteps
    have hfresh := Session.balanced_fresh text source language policy
    rw [← hrecorded]
    exact Session.balanced_of_mem_performAll hfresh hpolicy hsteps hmem
  · obtain ⟨given, hdiagnostics, hgiven⟩ :=
      Session.ordered_of_mem_performAll (Session.ordered_fresh text source language policy) hmem
    rw [hrecorded] at hgiven
    exact ⟨given, hdiagnostics, hgiven⟩

/-- The theorem at work: two problems are noted, the first of them stops a draw
and both stay pending, and after a change of policy both are recorded. -/
theorem every_diagnostic_is_given_out_once_in_order_raised :
    let steps : List Step := [.note .general "is odd", .note .noStructure "is empty", .draw,
      .setPolicy .record, .flush]
    ∃ before report,
      (Session.start (fresh "a".toList .unnamed (.ofDialect .english)) .raise).performAll steps =
        before ++ [report] ∧
      report.after.lexer.diagnostics.map (·.message) = ["File:  is odd", "File:  is empty"] ∧
      (before ++ [report]).flatMap (·.warnings) ++ report.after.lexer.pending =
        report.after.lexer.diagnostics := by
  intro steps
  refine ⟨[_, _, _, _], _, rfl, ?_, ?_⟩
  · decide +kernel
  · exact (every_diagnostic_is_given_out_once_in_order "a".toList .unnamed (.ofDialect .english)
      .raise steps [_, _, _, _] [] _ rfl).1 (by decide) (by simp [steps])

end FeatureLexer
