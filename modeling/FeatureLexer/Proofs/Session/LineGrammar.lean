import FeatureLexer.Proofs.Session.Lines
import FeatureLexer.Proofs.Token.Grammar

/-!
# The tokens of a line follow the grammar

The grammar of a line is nowhere in the lexer. It comes from the order of the
rules, from what is known of the line so far, and from where each reading
stops. A line goes through two stages. At its start, tags and space leave it
there; a row of cells, a comment and a description end it; a keyword brings it
to the second stage. There the rules that apply are those of a block or those
of a step, and the line so far does not change any more.

The second stage is the same argument for blocks and for steps. What it needs
is said once, as `Reading.Continuation`: every character but those of comments
and cells gives a token that continues the line, and where the reading stops
decides which token may come next.
-/

namespace FeatureLexer

open Text

namespace Reading

/-- The cell before a text is closed by a bar, or takes the rest of the line. -/
theorem cell_cases (line : LineState) (s : List Char) :
    (∃ raw after text, s = raw ++ '|' :: after ∧
      cell line s = plain line ('|' :: raw) (.cell text)) ∨
    ∃ raw after, s = raw ++ after ∧ EndsLine after ∧ cell line s = silent line ('|' :: raw) := by
  have hstop := Cell.stopsBefore_drop_read Cell.isBar s
  have hsplit : s = s.take (Cell.read Cell.isBar s).2 ++ s.drop (Cell.read Cell.isBar s).2 :=
    (List.take_append_drop _ s).symm
  rw [cell]
  by_cases hhead : (s.drop (Cell.read Cell.isBar s).2).head? = some '|'
  · left
    obtain ⟨after, hafter⟩ := List.head?_eq_some_iff.1 hhead
    rw [hafter] at hsplit
    exact ⟨_, after, _, hsplit, by rw [if_pos hhead]⟩
  · right
    exact ⟨_, _, hsplit, hstop.endsLine hhead, by rw [if_neg hhead]⟩

/-- **Only comments declare a language.** -/
theorem declared?_next (language : Language) (line : LineState) {c : Char} (hc : c ≠ '#')
    (s : List Char) : (next language line (c :: s)).declared? = none := by
  generalize hnext : next language line (c :: s) = reading
  cases next_cases hnext with
  | comment hcomment => exact absurd hcomment hc
  | cell =>
    rw [cell]
    split
    · rfl
    · rfl
  | lineStart =>
    rw [lineStart]
    split
    · rfl
    split
    · rfl
    · rfl
    · rfl
  | newline | tag | placeholder | title | quoted | integer | stepText | skip => rfl

/-- What declares a language is a comment, and a comment gives no token. -/
theorem token?_next_of_declared? {language : Language} {line : LineState} {s : List Char}
    (h : (next language line s).declared? ≠ none) : (next language line s).token? = none := by
  cases s with
  | nil => rfl
  | cons c s =>
    by_cases hc : c = '#'
    · subst hc
      rfl
    · exact absurd (declared?_next language line hc s) h

/-- Whether all lexemes of a line but comments and cells give a token that
continues it, and leave the line as it is; and whether the token of the lexeme
behind may follow that token. -/
def Continuation (line : LineState) (continues : Token → Bool)
    (mayFollow : Token → Token → Bool) : Prop :=
  ∀ language c s, c ≠ '\n' → c ≠ '#' → c ≠ '|' → ∃ span token,
    next language line (c :: s) = plain line span token ∧ continues token = true ∧
      ∀ d rest, (c :: s).drop span.length = d :: rest → d ≠ '\n' →
        ∀ following ∈ (next language line (d :: rest)).token?, mayFollow token following = true

end Reading

/-! ### Cells -/

section

variable {language : Language} (hl : language.Supported) (line : LineState)
include hl

/-- The scan of a cell: scanning goes on at the bar that closes it, or else at
the end of the line. -/
theorem scan_cell (s : List Char) :
    (∃ raw after text, s = raw ++ '|' :: after ∧ scan language line ('|' :: s) =
      .plain line ('|' :: raw) (.cell text) :: scan language line ('|' :: after)) ∨
    ∃ raw after, s = raw ++ after ∧ EndsLine after ∧ scan language line ('|' :: s) =
      .silent line ('|' :: raw) :: scan language line after := by
  have hnext : Reading.next language line ('|' :: s) = Reading.cell line s := rfl
  rw [scan_cons hl, hnext]
  rcases Reading.cell_cases line s with
    ⟨raw, after, text, rfl, hcell⟩ | ⟨raw, after, rfl, hend, hcell⟩
  · left
    refine ⟨raw, after, text, rfl, ?_⟩
    rw [hcell, Reading.plain, ← List.cons_append, List.drop_left]
    rfl
  · right
    refine ⟨raw, after, rfl, hend, ?_⟩
    rw [hcell, Reading.silent, ← List.cons_append, List.drop_left]
    rfl

/-- **A row of cells** gives nothing but cells, to the end of its line. -/
theorem isCell_of_mem_scan {s : List Char} (hline : '\n' ∉ s) :
    ∀ token ∈ tokensOf (scan language line ('|' :: s)), token.isCell = true := by
  induction hn : s.length using Nat.strongRecOn generalizing s with
  | ind n ih =>
    intro token hmem
    rcases scan_cell hl line s with ⟨raw, after, text, rfl, hscan⟩ | ⟨raw, after, rfl, hend, hscan⟩
    · have hafter : '\n' ∉ after := fun h =>
        hline (List.mem_append_right _ (List.mem_cons_of_mem _ h))
      have hshorter : after.length < n := by
        rw [← hn, List.length_append, List.length_cons]
        omega
      rw [hscan, tokensOf_cons_of_some rfl] at hmem
      rcases List.mem_cons.1 hmem with rfl | hmem
      · rfl
      · exact ih after.length hshorter hafter rfl token hmem
    · have hafter := hend.eq_nil fun h => hline (List.mem_append_right _ h)
      rw [hscan, tokensOf_cons_of_none rfl, hafter, scan_nil] at hmem
      exact absurd hmem List.not_mem_nil

end

/-! ### Behind the keyword of a line -/

section

variable {line : LineState} {continues : Token → Bool} {mayFollow : Token → Token → Bool}
  (hcontinuation : Reading.Continuation line continues mayFollow)
include hcontinuation

/-- The first token behind a keyword is that of the next lexeme: a lexeme that
gives none ends the line. -/
theorem token?_next_of_mem_head? {language : Language} (hl : language.Supported) {c : Char}
    {s : List Char} (hline : '\n' ∉ c :: s) {token : Token}
    (h : token ∈ (tokensOf (scan language line (c :: s))).head?) :
    token ∈ (Reading.next language line (c :: s)).token? := by
  have hs : '\n' ∉ s := fun hmem => hline (List.mem_cons_of_mem _ hmem)
  by_cases hcomment : c = '#'
  · subst hcomment
    rw [(scan_comment hl line hs).1, Reading.comment_of_newline_notMem hs] at h
    exact absurd h (by simp [tokensOf])
  by_cases hbar : c = '|'
  · subst hbar
    rcases scan_cell hl line s with ⟨raw, after, text, rfl, hscan⟩ | ⟨raw, after, rfl, hend, hscan⟩
    · rw [hscan, tokensOf_cons_of_some rfl] at h
      rw [(next_of_scan_eq_cons hl hscan).2.1]
      exact h
    · have hafter := hend.eq_nil fun hmem => hs (List.mem_append_right _ hmem)
      rw [hscan, tokensOf_cons_of_none rfl, hafter, scan_nil] at h
      exact absurd h (by simp [tokensOf])
  · have hc : c ≠ '\n' := fun hc => hline (hc ▸ List.mem_cons_self)
    obtain ⟨span, found, hnext, _, _⟩ := hcontinuation language c s hc hcomment hbar
    rw [scan_cons hl, hnext, tokensOf_cons_of_some rfl] at h
    rw [hnext]
    exact h

/-- **Behind its keyword, a line goes on as it began.** -/
theorem lineTail_scan (hfree : ∀ text following, mayFollow (.cell text) following = true)
    {language : Language} (hl : language.Supported) {s : List Char} (hline : '\n' ∉ s) :
    LineTail continues mayFollow (tokensOf (scan language line s)) := by
  induction hl, line, s using scan_induction with
  | nil language hl line =>
    rw [scan_nil]
    exact .of_cells hfree fun _ hmem => absurd hmem List.not_mem_nil
  | cons language hl line reading after hne hnext ih =>
    obtain ⟨c, span, hspan⟩ := List.exists_cons_of_ne_nil hne
    have hafter : '\n' ∉ after := fun hmem => hline (List.mem_append_right _ hmem)
    have hs : '\n' ∉ span ++ after := fun hmem =>
      hline (by rw [hspan]; exact List.mem_cons_of_mem _ hmem)
    by_cases hcomment : c = '#'
    · rw [hspan, hcomment, List.cons_append, (scan_comment hl line hs).1,
        tokensOf_cons_of_none rfl]
      exact .of_cells hfree fun _ hmem => absurd hmem List.not_mem_nil
    by_cases hbar : c = '|'
    · rw [hspan, hbar, List.cons_append]
      exact .of_cells hfree (isCell_of_mem_scan hl line hs)
    have hc : c ≠ '\n' := fun hc => hline (by rw [hspan, hc]; exact List.mem_cons_self)
    obtain ⟨taken, token, hplain, hcontinues, hfollow⟩ :=
      hcontinuation language c (span ++ after) hc hcomment hbar
    rw [← List.cons_append, ← hspan, hnext] at hplain
    have htaken : taken = reading.span := by rw [hplain]; rfl
    rw [← List.cons_append, ← hspan, htaken, List.drop_left] at hfollow
    subst hplain
    rw [scan_span_append hl hne hnext, tokensOf_cons_of_some rfl]
    refine (ih hcontinuation hafter).cons hcontinues ?_
    intro following hmem
    cases after with
    | nil =>
      rw [scan_nil] at hmem
      exact absurd hmem (by simp [tokensOf])
    | cons d rest =>
      have hd : d ≠ '\n' := fun hd => hafter (hd ▸ List.mem_cons_self)
      exact hfollow d rest rfl hd following (token?_next_of_mem_head? hcontinuation hl hafter hmem)

end

namespace Reading

/-- The token at an opening bracket, behind the start of a line. -/
theorem token?_next_bracket {language : Language} {line : LineState}
    (hstart : line.atStart = false) {s : List Char} {token : Token}
    (h : token ∈ (next language line ('<' :: s)).token?) : ∃ text, token = .placeholder text := by
  have hnext : next language line ('<' :: s) = between line '<' '>' .placeholder s := by
    simp [next, hstart]
  rw [hnext] at h
  exact ⟨_, (Option.some.inj h).symm⟩

/-- **A block goes on** with titles, placeholders and tags, and where a title
stops before the end of the line, a placeholder is next. -/
theorem continuation_block {line : LineState} (hstart : line.atStart = false)
    (hblock : line.block.isSome = true) :
    Continuation line Token.continuesBlock Token.mayFollowInBlock := by
  intro language c s hnewline hcomment hbar
  have hnone : line.block ≠ none := Option.isSome_iff_ne_none.1 hblock
  generalize hnext : next language line (c :: s) = reading
  cases next_cases hnext with
  | newline hc => exact absurd hc hnewline
  | comment hc => exact absurd hc hcomment
  | cell hc => exact absurd hc hbar
  | lineStart _ hstart' => exact absurd (hstart.symm.trans hstart') Bool.false_ne_true
  | quoted _ _ hblock' => exact absurd hblock' hnone
  | integer _ _ _ hblock' => exact absurd hblock' hnone
  | stepText _ _ _ hblock' => exact absurd hblock' hnone
  | skip _ _ hidle => exact absurd hidle.block hnone
  | tag => exact ⟨_, _, rfl, rfl, fun _ _ _ _ _ _ => rfl⟩
  | placeholder => exact ⟨_, _, rfl, rfl, fun _ _ _ _ _ _ => rfl⟩
  | title =>
    refine ⟨_, _, rfl, rfl, fun d rest hrest hd following hfollowing => ?_⟩
    have hstop := stopsBefore_drop_lineUntil (· == '<') (c :: s)
    rw [hrest] at hstop
    obtain rfl : d = '<' := eq_of_beq (hstop.resolve_left hd)
    obtain ⟨_, rfl⟩ := token?_next_bracket hstart hfollowing
    rfl

/-- **Only a digit begins an integer.** -/
theorem isDigit_of_integer_mem {language : Language} {line : LineState}
    (hstart : line.atStart = false) {c : Char} {s text : List Char}
    (h : .integer text ∈ (next language line (c :: s)).token?) : isDigit c = true := by
  generalize hnext : next language line (c :: s) = reading at h
  cases next_cases hnext with
  | integer _ hdigit => exact hdigit
  | lineStart _ hstart' => exact absurd (hstart.symm.trans hstart') Bool.false_ne_true
  | cell =>
    rcases cell_cases line s with ⟨_, _, _, _, hcell⟩ | ⟨_, _, _, _, hcell⟩
    · rw [hcell] at h
      exact absurd h (by simp [plain])
    · rw [hcell] at h
      exact absurd h (by simp [silent])
  | newline | comment | tag | placeholder | title | quoted | stepText | skip =>
    exact absurd h (by simp [comment, plain, between, silent])

/-- A symbol begins a part of a step of another kind than text. -/
theorem mayFollow_stepText {language : Language} {line : LineState}
    (hstart : line.atStart = false) (hblock : line.block = none) {c : Char}
    (hc : isSymbol c = true) {s : List Char} {token : Token}
    (h : token ∈ (next language line (c :: s)).token?) (text : List Char) :
    Token.mayFollowInStep (.stepText text) token = true := by
  have hnot (hsymbol : isSymbol c = false) : False :=
    absurd (hsymbol.symm.trans hc) Bool.false_ne_true
  generalize hnext : next language line (c :: s) = reading at h
  cases next_cases hnext with
  | newline hc' => exact (hnot (by rw [hc']; rfl)).elim
  | comment hc' => exact (hnot (by rw [hc']; rfl)).elim
  | tag hc' => exact (hnot (by rw [hc']; rfl)).elim
  | cell hc' => exact (hnot (by rw [hc']; rfl)).elim
  | lineStart _ hstart' => exact absurd (hstart.symm.trans hstart') Bool.false_ne_true
  | title _ _ _ hblock' => exact absurd hblock (Option.isSome_iff_ne_none.1 hblock')
  | stepText _ hsymbol => exact (hnot hsymbol).elim
  | skip _ hsymbol => exact (hnot hsymbol).elim
  | placeholder | quoted | integer =>
    obtain rfl := Option.some.inj h
    rfl

/-- **A step goes on** with its parts and tags. Text stops at a symbol, so that
a part of another kind is next, and digits stop at what is no digit. -/
theorem continuation_step {line : LineState} (hstart : line.atStart = false)
    (hblock : line.block = none) (hkeyword : line.keyword.isSome = true) :
    Continuation line Token.continuesStep Token.mayFollowInStep := by
  intro language c s hnewline hcomment hbar
  generalize hnext : next language line (c :: s) = reading
  cases next_cases hnext with
  | newline hc => exact absurd hc hnewline
  | comment hc => exact absurd hc hcomment
  | cell hc => exact absurd hc hbar
  | lineStart _ hstart' => exact absurd (hstart.symm.trans hstart') Bool.false_ne_true
  | title _ _ _ hblock' => exact absurd hblock (Option.isSome_iff_ne_none.1 hblock')
  | skip _ _ hidle => exact absurd hidle.keyword (Option.isSome_iff_ne_none.1 hkeyword)
  | tag => exact ⟨_, _, rfl, rfl, fun _ _ _ _ _ _ => rfl⟩
  | placeholder => exact ⟨_, _, rfl, rfl, fun _ _ _ _ _ _ => rfl⟩
  | quoted => exact ⟨_, _, rfl, rfl, fun _ _ _ _ _ _ => rfl⟩
  | integer =>
    refine ⟨_, _, rfl, rfl, fun d rest hrest hd following hfollowing => ?_⟩
    have hstop := stopsBefore_drop_lineUntil (!isDigit ·) (c :: s)
    rw [hrest] at hstop
    cases following with
    | integer text =>
      have hdigit := isDigit_of_integer_mem hstart hfollowing
      exact absurd (hstop.resolve_left hd) (by simp [hdigit])
    | _ => rfl
  | stepText =>
    refine ⟨_, _, rfl, rfl, fun d rest hrest hd following hfollowing => ?_⟩
    have hstop := stopsBefore_drop_lineUntil isSymbol (c :: s)
    rw [hrest] at hstop
    exact mayFollow_stepText hstart hblock (hstop.resolve_left hd) hfollowing _

end Reading

/-! ### From the start of a line -/

/-- What the keyword or the description of a line gives, with the tokens behind
it. -/
theorem lineGrammar_of_lineStart {language : Language} (hl : language.Supported)
    {reading : Reading} {after : List Char} {c : Char} {s : List Char} (hspace : isSpace c ≠ true)
    (hs : reading.span ++ after = c :: s) (hline : '\n' ∉ reading.span ++ after)
    (hnext : Reading.lineStart language .start c s = reading) :
    LineGrammar
      (tokensOf (reading :: scan (reading.languageAfter language) reading.line after)) := by
  have hl' := reading.supported_languageAfter hl
  have hafter : '\n' ∉ after := fun hmem => hline (List.mem_append_right _ hmem)
  rw [Reading.lineStart, if_neg hspace] at hnext
  apply LineGrammar.of_rest
  cases hopening : language.openingOf (lineUntil (· == ':') (c :: s)) with
  | block block _ =>
    rw [hopening] at hnext
    have htoken : reading.token? = some (.block (.block block)) := by rw [← hnext]; rfl
    have hstart : reading.line.atStart = false := by rw [← hnext]; rfl
    have hblock : reading.line.block.isSome = true := by rw [← hnext]; rfl
    have hcontinuation := Reading.continuation_block hstart hblock
    rw [tokensOf_cons_of_some htoken]
    exact .block _ (lineTail_scan hcontinuation (fun _ _ => rfl) hl' hafter)
  | step keyword spelling =>
    rw [hopening] at hnext
    have htoken : reading.token? = some (.keyword keyword) := by rw [← hnext]; rfl
    have hstart : reading.line.atStart = false := by rw [← hnext]; rfl
    have hblock : reading.line.block = none := by rw [← hnext]; rfl
    have hkeyword : reading.line.keyword.isSome = true := by rw [← hnext]; rfl
    have hcontinuation := Reading.continuation_step hstart hblock hkeyword
    rw [tokensOf_cons_of_some htoken]
    exact .step _ (lineTail_scan hcontinuation (fun _ _ => rfl) hl' hafter)
  | unknown =>
    rw [hopening] at hnext
    have htoken : reading.token? = some (.description (trimSpace (lineUntil never (c :: s)))) := by
      rw [← hnext]
      rfl
    -- A description takes the whole line, and nothing is left of it.
    have hspan : reading.span = c :: s := by
      rw [← hnext]
      exact lineUntil_never_eq_self (hs ▸ hline)
    have hnil : after = [] := List.append_right_eq_self.1 (hs.trans hspan.symm)
    rw [tokensOf_cons_of_some htoken, hnil, scan_nil]
    exact .description _

/-- **The tokens of a line follow the grammar.** -/
theorem lineGrammar_scan {language : Language} (hl : language.Supported) {line : LineState}
    (hstart : line = .start) {s : List Char} (hline : '\n' ∉ s) :
    LineGrammar (tokensOf (scan language line s)) := by
  induction hl, line, s using scan_induction with
  | nil language hl line =>
    rw [scan_nil]
    exact .of_rest .empty
  | cons language hl line reading after hne hnext ih =>
    subst hstart
    obtain ⟨c, span, hspan⟩ := List.exists_cons_of_ne_nil hne
    have hs : reading.span ++ after = c :: (span ++ after) := by rw [hspan, List.cons_append]
    have hafter : '\n' ∉ after := fun hmem => hline (List.mem_append_right _ hmem)
    have hrest : '\n' ∉ span ++ after := fun hmem =>
      hline (by rw [hs]; exact List.mem_cons_of_mem _ hmem)
    have hc : c ≠ '\n' := fun hc => hline (by rw [hs, hc]; exact List.mem_cons_self)
    have hatStart : LineState.start.atStart = true := rfl
    by_cases hcomment : c = '#'
    · rw [hs, hcomment, (scan_comment hl .start hrest).1, tokensOf_cons_of_none rfl]
      exact .of_rest .empty
    by_cases hbar : c = '|'
    · rw [hs, hbar]
      exact .of_cells (isCell_of_mem_scan hl .start hrest)
    rw [scan_span_append hl hne hnext]
    rw [hs, Reading.next, if_neg hc, if_neg hcomment] at hnext
    by_cases htag : c = '@'
    · rw [if_pos htag] at hnext
      have htoken : reading.token? = some (.tag (lineUntil (!isTagChar ·) (span ++ after))) := by
        rw [← hnext]
        rfl
      rw [tokensOf_cons_of_some htoken]
      exact (ih (by rw [← hnext]; rfl) hafter).cons_tag _
    rw [if_neg htag, if_neg hbar, if_pos hatStart] at hnext
    by_cases hspace : isSpace c = true
    · rw [Reading.lineStart, if_pos hspace] at hnext
      have htoken : reading.token? = none := by
        rw [← hnext]
        rfl
      rw [tokensOf_cons_of_none htoken]
      exact ih (by rw [← hnext]; rfl) hafter
    · exact lineGrammar_of_lineStart hl hspace hs hline hnext

/-! ### The tokens that are given for a line -/

namespace Lexer

open Pattern

variable {lexer : Lexer}

/-- A change of language does not move the lexer. -/
theorem rest_of_adoptLanguage {name : Option (List Char)} {next : Lexer}
    (h : lexer.adoptLanguage name = .ok next) : next.rest = lexer.rest := by
  rw [adoptLanguage] at h
  split at h
  · obtain rfl := Except.ok.inj h
    rfl
  · rw [note] at h
    cases hname : lexer.source.fileName with
    | error error =>
      rw [hname] at h
      simp [Except.map] at h
    | ok fileName =>
      rw [hname] at h
      obtain rfl := Except.ok.inj h
      rfl

/-- What is accepted is read and gives its token, whatever else comes of it. -/
theorem accept_tokens_and_rest (lexer : Lexer) (reading : Reading) :
    (lexer.accept reading).tokens = reading.token?.toList ∧
      (lexer.accept reading).lexer.rest = lexer.rest.drop reading.span.length := by
  rw [accept]
  cases reading.declared? with
  | none => exact ⟨List.append_nil _, rfl⟩
  | some name =>
    simp only [Run.after]
    cases hchange : (lexer.moved reading).adoptLanguage (some name) with
    | error error => exact ⟨List.append_nil _, rfl⟩
    | ok next => exact ⟨List.append_nil _, rest_of_adoptLanguage hchange⟩

theorem accept_of_declared?_eq_none {reading : Reading} (h : reading.declared? = none) :
    lexer.accept reading = ⟨reading.token?.toList, lexer.moved reading, .done⟩ := by
  rw [accept, h]
  simp [Run.after, Run.silent]

theorem iterate_tokens_of_ended (h : lexer.rest = []) :
    (Run.iterate nextLexeme.run lexer).tokens = [] := by
  rw [Run.iterate, nextLexeme_run_of_ended h]
  rfl

/-- A comment that ends the text gives no token, whether or not a problem with
it can be noted. -/
theorem iterate_tokens_of_comment {s : List Char} (hrest : lexer.rest = '#' :: s)
    (hline : '\n' ∉ s) : (Run.iterate nextLexeme.run lexer).tokens = [] := by
  have hrun : nextLexeme.run lexer = lexer.accept (.comment s) := by
    rw [nextLexeme_run (by simp [hrest]), hrest]
    rfl
  obtain ⟨htokens, hended⟩ := lexer.accept_tokens_and_rest (.comment s)
  rw [hrest, Reading.comment_of_newline_notMem hline, List.drop_length] at hended
  rw [← Reading.comment_of_newline_notMem hline] at hended
  rw [Run.iterate, hrun]
  split
  · split
    · simp only [Run.after, iterate_tokens_of_ended hended, List.append_nil]
      exact htokens
    · exact htokens
  · exact htokens
  · exact htokens
  · exact htokens

/-- **A line gives the tokens of its scan,** also in a file that has no name to
give: the only problem that a line can bring up is with the comment that ends
it. -/
theorem many_run_tokens (lexer : Lexer) (hl : lexer.language.Supported)
    (hline : '\n' ∉ lexer.rest) {readings : List Reading}
    (hscan : scan lexer.language lexer.line lexer.rest = readings) :
    ((many nextLexeme).run lexer).tokens = tokensOf readings := by
  rw [Pattern.run]
  induction readings generalizing lexer with
  | nil => exact iterate_tokens_of_ended (eq_nil_of_scan_eq_nil hscan)
  | cons reading readings ih =>
    obtain ⟨hrest, hnext, hlater⟩ := next_of_scan_eq_cons hl hscan
    obtain ⟨c, s, hcons⟩ := List.exists_cons_of_ne_nil hrest
    by_cases hcomment : c = '#'
    · subst hcomment
      have hs : '\n' ∉ s := fun hmem => hline (by rw [hcons]; exact List.mem_cons_of_mem _ hmem)
      rw [iterate_tokens_of_comment hcons hs, ← hscan, hcons, (scan_comment hl _ hs).1]
      rfl
    · have hdeclared : reading.declared? = none := by
        rw [← hnext, hcons]
        exact Reading.declared?_next _ _ hcomment s
      obtain ⟨hsplit, _, hne⟩ := lexer.past_next [] hl hrest
      rw [hnext] at hsplit hne
      have hless : (lexer.moved reading).remaining < lexer.remaining := remaining_lt hne hsplit
      have hafter : '\n' ∉ (lexer.moved reading).rest := fun hmem =>
        hline (hsplit ▸ List.mem_append_right _ hmem)
      have hlater' : scan (lexer.moved reading).language (lexer.moved reading).line
          (lexer.moved reading).rest = readings := by
        rw [Reading.languageAfter, hdeclared] at hlater
        exact hlater
      rw [Run.iterate, nextLexeme_run hrest, hnext, accept_of_declared?_eq_none hdeclared]
      simp only [if_pos hless, Run.after, ih (lexer.moved reading) hl hafter hlater']
      cases htoken : reading.token? with
      | none => rw [tokensOf_cons_of_none htoken]; rfl
      | some token => rw [tokensOf_cons_of_some htoken]; rfl

end Lexer

open Lexer Pattern

/-- **The tokens of a line follow the grammar,** in every supported language: the
tokens that a lexer at the start of a text without newlines gives, whether or
not the file can be named, are those of a line and in the order of a line. In a
file that can be named they are what lexing the text returns, unless a warning
is raised. -/
theorem tokens_of_line_follow_grammar {language : Language} (hl : language.Supported)
    {text : List Char} (hline : '\n' ∉ text) (source : Source) :
    LineGrammar ((many nextLexeme).run (fresh text source language)).tokens ∧
      WellOrdered ((many nextLexeme).run (fresh text source language)).tokens ∧
      ∀ fileName policy, source.fileName = .ok fileName →
        (∃ lexed, (fresh text source language).lex policy = .ok lexed ∧
          lexed.tokens = ((many nextLexeme).run (fresh text source language)).tokens) ∨
        policy = .raise ∧
          ∃ diagnostic, (fresh text source language).lex policy =
            .error (.stopped (.raised diagnostic)) := by
  have htokens := (fresh text source language).many_run_tokens hl hline rfl
  have hgrammar : LineGrammar ((many nextLexeme).run (fresh text source language)).tokens := by
    rw [htokens]
    exact lineGrammar_scan hl rfl hline
  refine ⟨hgrammar, hgrammar.wellOrdered, fun fileName policy hname => ?_⟩
  rw [htokens]
  exact (fresh text source language).lex_tokens hname hl policy

/-- The theorem at work in English, on a step with tags, parts and cells. -/
theorem tokens_of_line_follow_grammar_english :
    LineGrammar ((many nextLexeme).run (fresh "@a Given 3 <b> @c |d|".toList .unnamed
      (.ofDialect .english))).tokens :=
  (tokens_of_line_follow_grammar Language.supported_english
    (by decide : '\n' ∉ "@a Given 3 <b> @c |d|".toList) .unnamed).1

end FeatureLexer
