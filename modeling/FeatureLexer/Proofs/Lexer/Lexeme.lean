import FeatureLexer.Proofs.Lexer.Reading

/-!
# What a lexeme looks like

`Lexeme language span after token?` lists, without reference to how they are
found, the spans that can be read from a text, with the token that each gives
and with what must follow it. Every predicted reading is on the list, with one
exception: a character that has no meaning where it stands is skipped. That
happens only behind the start of a line on which neither a block nor a step
has been opened (`LineState.Idle`, `Reading.next_takes_or_skips`).

Three facts about spans are read off the list, and hold for a skipped
character too: a span is not empty, it is where the text begins
(`Reading.next_span`), and if it holds a newline then it ends its line
(`Reading.next_line_of_newline_mem`).
-/

namespace FeatureLexer

open Text

/-- The spans of a text with the tokens that they give. The text `after` is
what follows the span. -/
inductive Lexeme (language : Language) : List Char → List Char → Option Token → Prop where
  | newline {after : List Char} : Lexeme language ['\n'] after (some .newline)
  /-- A comment reaches to the end of its line and takes the newline with it. -/
  | comment {text after : List Char} (htext : Passes never text) :
      Lexeme language ('#' :: text ++ ['\n']) after none
  /-- A comment at the end of the text has no newline to take. -/
  | lastComment {text : List Char} (htext : Passes never text) :
      Lexeme language ('#' :: text) [] none
  | tag {text after : List Char} (htext : Passes (!isTagChar ·) text)
      (hafter : StopsBefore (!isTagChar ·) after) :
      Lexeme language ('@' :: text) after (some (.tag text))
  /-- A cell is closed by the bar that follows it. -/
  | cell {raw after : List Char} (hraw : '\n' ∉ raw) :
      Lexeme language ('|' :: raw) ('|' :: after) (some (.cell (trimSpace (Cell.decode raw))))
  /-- A cell that is not closed is dropped with the rest of its line. -/
  | openCell {raw after : List Char} (hraw : '\n' ∉ raw) (hafter : EndsLine after) :
      Lexeme language ('|' :: raw) after none
  | indentation {space after : List Char} (hne : space ≠ [])
      (hspace : ∀ c ∈ space, isSpace c = true) (hafter : StopsBefore (!isSpace ·) after) :
      Lexeme language space after none
  /-- The keyword of a block, its colon if there is one, and space. -/
  | blockKeyword {text colon space after spelling : List Char} {block : Block}
      (hopening : language.openingOf text = .block block spelling) (hne : text ≠ [])
      (htext : Passes (· == ':') text) (hcolon : colon = [] ∨ colon = [':'])
      (hspace : ∀ c ∈ space, isSpace c = true) (hafter : StopsBefore (!isSpace ·) after) :
      Lexeme language (text ++ colon ++ space) after (some (.block (.block block)))
  /-- The keyword of a step and space. The keyword is looked for in the line up
  to its first colon. -/
  | stepKeyword {spelling space after : List Char} {keyword : StepKeyword}
      (hopening : language.openingOf (lineUntil (· == ':') (spelling ++ space ++ after)) =
        .step keyword spelling)
      (hne : spelling ≠ []) (htext : Passes (· == ':') spelling)
      (hspace : ∀ c ∈ space, isSpace c = true) (hafter : StopsBefore (!isSpace ·) after) :
      Lexeme language (spelling ++ space) after (some (.keyword keyword))
  /-- A line that opens neither a block nor a step. -/
  | description {text after : List Char}
      (hopening : language.openingOf (lineUntil (· == ':') (text ++ after)) = .unknown)
      (hne : text ≠ []) (hstart : ∀ c ∈ text.head?, isSpace c = false)
      (htext : Passes never text) (hafter : EndsLine after) :
      Lexeme language text after (some (.description (trimSpace text)))
  | placeholder {text after : List Char} (htext : Passes (· == '>') text) :
      Lexeme language ('<' :: text ++ ['>']) after (some (.placeholder text))
  | openPlaceholder {text after : List Char} (htext : Passes (· == '>') text)
      (hafter : EndsLine after) : Lexeme language ('<' :: text) after (some (.placeholder text))
  | title {text after : List Char} (hne : text ≠ []) (htext : Passes (· == '<') text)
      (hafter : StopsBefore (· == '<') after) : Lexeme language text after (some (.title text))
  | quoted {text after : List Char} (htext : Passes (· == '"') text) :
      Lexeme language ('"' :: text ++ ['"']) after (some (.quoted text))
  | openQuoted {text after : List Char} (htext : Passes (· == '"') text)
      (hafter : EndsLine after) : Lexeme language ('"' :: text) after (some (.quoted text))
  | integer {text after : List Char} (hne : text ≠ []) (htext : Passes (!isDigit ·) text)
      (hafter : StopsBefore (!isDigit ·) after) : Lexeme language text after (some (.integer text))
  | stepText {text after : List Char} (hne : text ≠ []) (htext : Passes isSymbol text)
      (hafter : StopsBefore isSymbol after) : Lexeme language text after (some (.stepText text))

theorem Lexeme.span_ne_nil {language : Language} {span after : List Char} {token? : Option Token}
    (h : Lexeme language span after token?) : span ≠ [] := by
  cases h with
  | blockKeyword _ hne => simp [hne]
  | stepKeyword _ hne => simp [hne]
  | indentation hne => exact hne
  | description _ hne => exact hne
  | title hne => exact hne
  | integer hne => exact hne
  | stepText hne => exact hne
  | newline | comment | lastComment | tag | cell | openCell | placeholder | openPlaceholder | quoted
    | openQuoted => exact List.cons_ne_nil _ _

theorem newline_notMem_of_isSpace {space : List Char} (h : ∀ c ∈ space, isSpace c = true) :
    '\n' ∉ space :=
  fun hmem => absurd (h _ hmem) (by decide)

/-- **Only newlines and comments hold a newline.** -/
theorem Lexeme.head?_of_newline_mem {language : Language} {span after : List Char}
    {token? : Option Token} (h : Lexeme language span after token?) (hmem : '\n' ∈ span) :
    span.head? = some '\n' ∨ span.head? = some '#' := by
  cases h with
  | newline => exact Or.inl rfl
  | comment | lastComment => exact Or.inr rfl
  | tag htext => exact absurd hmem (by simp [htext.newline_notMem])
  | cell hraw => exact absurd hmem (by simp [hraw])
  | openCell hraw => exact absurd hmem (by simp [hraw])
  | indentation _ hspace => exact absurd hmem (newline_notMem_of_isSpace hspace)
  | blockKeyword _ _ htext hcolon hspace =>
    rcases hcolon with rfl | rfl <;>
      exact absurd hmem (by simp [htext.newline_notMem, newline_notMem_of_isSpace hspace])
  | stepKeyword _ _ htext hspace =>
    exact absurd hmem (by simp [htext.newline_notMem, newline_notMem_of_isSpace hspace])
  | description _ _ _ htext => exact absurd hmem htext.newline_notMem
  | placeholder htext => exact absurd hmem (by simp [htext.newline_notMem])
  | openPlaceholder htext => exact absurd hmem (by simp [htext.newline_notMem])
  | title _ htext => exact absurd hmem htext.newline_notMem
  | quoted htext => exact absurd hmem (by simp [htext.newline_notMem])
  | openQuoted htext => exact absurd hmem (by simp [htext.newline_notMem])
  | integer _ htext => exact absurd hmem htext.newline_notMem
  | stepText _ htext => exact absurd hmem htext.newline_notMem

namespace Reading

/-- Whether a reading takes a lexeme from the start of a text. -/
def Takes (reading : Reading) (language : Language) (s : List Char) : Prop :=
  ∃ after, s = reading.span ++ after ∧ Lexeme language reading.span after reading.token?

theorem comment_takes (language : Language) (s : List Char) :
    (comment s).Takes language ('#' :: s) := by
  have htext := passes_lineUntil never s
  have hsplit := lineUntil_append_drop never s
  have hend := endsLine_drop_lineUntil_never s
  cases hafter : s.drop (lineUntil never s).length with
  | nil =>
    rw [hafter] at hsplit
    have hspan : (comment s).span = '#' :: lineUntil never s := by
      simp [comment, hafter, leading]
    refine ⟨[], ?_, ?_⟩
    · rw [hspan, List.cons_append, hsplit]
    · rw [hspan]
      exact .lastComment htext
  | cons c after =>
    rw [hafter] at hsplit hend
    obtain rfl : c = '\n' := hend
    have hspan : (comment s).span = '#' :: lineUntil never s ++ ['\n'] := by
      rw [comment, hafter, leading_cons_self]
    refine ⟨after, ?_, ?_⟩
    · rw [hspan, List.append_assoc, List.cons_append, List.singleton_append, hsplit]
    · rw [hspan]
      exact .comment htext

theorem tag_takes (language : Language) (line : LineState) (s : List Char) :
    (plain line ('@' :: lineUntil (!isTagChar ·) s) (.tag (lineUntil (!isTagChar ·) s))).Takes
      language ('@' :: s) := by
  refine ⟨s.drop (lineUntil (!isTagChar ·) s).length, ?_, ?_⟩
  · rw [plain, List.cons_append, lineUntil_append_drop]
  · exact .tag (passes_lineUntil _ s) (stopsBefore_drop_lineUntil _ s)

theorem cell_takes (language : Language) (line : LineState) (s : List Char) :
    (cell line s).Takes language ('|' :: s) := by
  have hraw := Cell.newline_notMem_take_read Cell.isBar s
  have hstop := Cell.stopsBefore_drop_read Cell.isBar s
  have hsplit : '|' :: s = '|' :: s.take (Cell.read Cell.isBar s).2 ++
      s.drop (Cell.read Cell.isBar s).2 := by
    rw [List.cons_append, List.take_append_drop]
  rw [cell, Cell.read_fst]
  split
  next hhead =>
    obtain ⟨after, hafter⟩ := List.head?_eq_some_iff.1 hhead
    rw [hafter] at hsplit
    exact ⟨'|' :: after, hsplit, .cell hraw⟩
  next hhead => exact ⟨_, hsplit, .openCell hraw (hstop.endsLine hhead)⟩

/-- A non-empty text that is read up to `stop` and gives a token made of it. -/
theorem plain_takes {language : Language} (line : LineState) {stop : Char → Bool} {c : Char}
    {s : List Char} {token : List Char → Token} (hc : c ≠ '\n') (hstop : stop c = false)
    (hlexeme : ∀ {text after}, text ≠ [] → Passes stop text → StopsBefore stop after →
      Lexeme language text after (some (token text))) :
    (plain line (lineUntil stop (c :: s)) (token (lineUntil stop (c :: s)))).Takes
      language (c :: s) := by
  refine ⟨(c :: s).drop (lineUntil stop (c :: s)).length, ?_, ?_⟩
  · exact (lineUntil_append_drop stop (c :: s)).symm
  · refine hlexeme ?_ (passes_lineUntil stop _) (stopsBefore_drop_lineUntil stop _)
    rw [lineUntil_cons_of_passes hc hstop]
    exact List.cons_ne_nil _ _

/-- A text between two marks, or from the first of them to the end of the line. -/
theorem between_takes {language : Language} (line : LineState) {opened closed : Char}
    {token : List Char → Token} (s : List Char)
    (hclosed : ∀ {text after}, Passes (· == closed) text →
      Lexeme language (opened :: text ++ [closed]) after (some (token text)))
    (hopen : ∀ {text after}, Passes (· == closed) text → EndsLine after →
      Lexeme language (opened :: text) after (some (token text))) :
    (between line opened closed token s).Takes language (opened :: s) := by
  have htext := passes_lineUntil (· == closed) s
  have hsplit := lineUntil_append_drop (· == closed) s
  have hstop := stopsBefore_drop_lineUntil (· == closed) s
  by_cases hhead : (s.drop (lineUntil (· == closed) s).length).head? = some closed
  · obtain ⟨after, hafter⟩ : ∃ after, s.drop (lineUntil (· == closed) s).length = closed :: after :=
      List.head?_eq_some_iff.1 hhead
    rw [hafter] at hsplit
    have hspan : (between line opened closed token s).span =
        opened :: lineUntil (· == closed) s ++ [closed] := by
      rw [between, hafter, leading_cons_self]
      rfl
    refine ⟨after, ?_, ?_⟩
    · rw [hspan, List.append_assoc, List.cons_append, List.singleton_append, hsplit]
    · rw [hspan]
      exact hclosed htext
  · have hspan : (between line opened closed token s).span =
        opened :: lineUntil (· == closed) s := by
      rw [between, leading_of_head?_ne hhead, List.append_nil]
      rfl
    refine ⟨s.drop (lineUntil (· == closed) s).length, ?_, ?_⟩
    · rw [hspan, List.cons_append, hsplit]
    · rw [hspan]
      exact hopen htext (hstop.endsLine hhead)

theorem indentation_takes (language : Language) (line : LineState) {c : Char} {s : List Char}
    (hc : isSpace c = true) :
    (silent line (leadingSpace (c :: s))).Takes language (c :: s) := by
  have hnewline : c ≠ '\n' := by
    rintro rfl
    exact absurd hc (by decide)
  have hne : leadingSpace (c :: s) ≠ [] := by
    rw [leadingSpace, lineUntil_cons_of_passes hnewline (by simp [hc])]
    exact List.cons_ne_nil _ _
  refine ⟨_, (leadingSpace_append_drop (c :: s)).symm, ?_⟩
  exact .indentation hne (fun _ => isSpace_of_mem_leadingSpace) (stopsBefore_drop_leadingSpace _)

theorem blockKeyword_takes {language : Language} (hl : language.Supported) (line : LineState)
    {block : Block} {spelling s : List Char}
    (hopening : language.openingOf (lineUntil (· == ':') s) = .block block spelling) :
    (blockKeyword line block s).Takes language s := by
  have hne : lineUntil (· == ':') s ≠ [] := by
    intro hnil
    have hspelling := hl.spelling_ne_nil (by rw [hopening]; exact Opening.noConfusion)
    rw [hopening, (Language.openingOf_eq_block hopening).1, hnil] at hspelling
    exact hspelling rfl
  -- The keyword with its colon is followed by the rest of the text, which begins with the space.
  obtain ⟨rest, hrest⟩ := append_leading_isPrefix (lineUntil_isPrefix (· == ':') s) ':'
  have hdrop := congrArg (List.drop (lineUntil (· == ':') s ++
    leading ':' (s.drop (lineUntil (· == ':') s).length)).length) hrest
  rw [List.drop_left] at hdrop
  refine ⟨rest.drop (leadingSpace rest).length, ?_, ?_⟩
  · rw [blockKeyword, ← hdrop, List.append_assoc, leadingSpace_append_drop, hrest]
  · rw [blockKeyword, ← hdrop]
    exact .blockKeyword hopening hne (passes_lineUntil _ s) (leading_eq_or _ _)
      (fun _ => isSpace_of_mem_leadingSpace) (stopsBefore_drop_leadingSpace rest)

theorem stepKeyword_takes {language : Language} (hl : language.Supported) (line : LineState)
    {keyword : StepKeyword} {spelling s : List Char}
    (hopening : language.openingOf (lineUntil (· == ':') s) = .step keyword spelling)
    (hpart : spelling <+: lineUntil (· == ':') s) :
    (stepKeyword line keyword spelling s).Takes language s := by
  have hne := hl.spelling_ne_nil (by rw [hopening]; exact Opening.noConfusion)
  rw [hopening] at hne
  have htext : Passes (· == ':') spelling := fun c hc =>
    passes_lineUntil _ s c (hpart.subset hc)
  obtain ⟨rest, rfl⟩ := hpart.trans (lineUntil_isPrefix _ s)
  have hsplit : spelling ++ leadingSpace rest ++ rest.drop (leadingSpace rest).length =
      spelling ++ rest := by
    rw [List.append_assoc, leadingSpace_append_drop]
  refine ⟨rest.drop (leadingSpace rest).length, ?_, ?_⟩
  · rw [stepKeyword, List.drop_left]
    exact hsplit.symm
  · rw [stepKeyword, List.drop_left]
    exact .stepKeyword (by rwa [hsplit]) hne htext (fun _ => isSpace_of_mem_leadingSpace)
      (stopsBefore_drop_leadingSpace rest)

theorem description_takes {language : Language} (line : LineState) {c : Char} {s : List Char}
    (hc : c ≠ '\n') (hspace : isSpace c ≠ true)
    (hopening : language.openingOf (lineUntil (· == ':') (c :: s)) = .unknown) :
    (description line (c :: s)).Takes language (c :: s) := by
  have hne : lineUntil never (c :: s) ≠ [] := by
    rw [lineUntil_cons_of_passes hc rfl]
    exact List.cons_ne_nil _ _
  have hsplit := lineUntil_append_drop never (c :: s)
  have hstart : ∀ d ∈ (lineUntil never (c :: s)).head?, isSpace d = false := by
    intro d hd
    rw [eq_of_mem_head?_lineUntil hd]
    simpa using hspace
  refine ⟨(c :: s).drop (lineUntil never (c :: s)).length, hsplit.symm, ?_⟩
  rw [← hsplit] at hopening
  exact .description hopening hne hstart (passes_lineUntil never _)
    (endsLine_drop_lineUntil_never _)

theorem lineStart_takes {language : Language} (hl : language.Supported) (line : LineState)
    {c : Char} {s : List Char} (hc : c ≠ '\n') :
    (lineStart language line c s).Takes language (c :: s) := by
  rw [lineStart]
  by_cases hspace : isSpace c = true
  · rw [if_pos hspace]
    exact indentation_takes language line hspace
  · rw [if_neg hspace]
    cases hopening : language.openingOf (lineUntil (· == ':') (c :: s)) with
    | block block spelling => exact blockKeyword_takes hl line hopening
    | step keyword spelling =>
      exact stepKeyword_takes hl line hopening (spelling_isPrefix hc hspace hopening)
    | unknown => exact description_takes line hc hspace hopening

/-- **The next lexeme is on the list,** unless the line is idle and the next
character means nothing there: that one is skipped. -/
theorem next_takes_or_skips {language : Language} (hl : language.Supported) (line : LineState)
    (c : Char) (s : List Char) :
    (next language line (c :: s)).Takes language (c :: s) ∨
      line.Idle ∧ c ≠ '\n' ∧ next language line (c :: s) = silent line [c] := by
  generalize hnext : next language line (c :: s) = reading
  cases next_cases hnext with
  | newline hc =>
    subst hc
    exact Or.inl ⟨s, rfl, .newline⟩
  | comment hc =>
    subst hc
    exact Or.inl (comment_takes language s)
  | tag hc =>
    subst hc
    exact Or.inl (tag_takes language line s)
  | cell hc =>
    subst hc
    exact Or.inl (cell_takes language line s)
  | lineStart hc _ => exact Or.inl (lineStart_takes hl line hc.newline)
  | placeholder hc _ =>
    subst hc
    exact Or.inl (between_takes line s .placeholder .openPlaceholder)
  | title hc hopen _ _ =>
    exact Or.inl (plain_takes line hc.newline (by simpa using hopen) .title)
  | quoted hc _ _ =>
    subst hc
    exact Or.inl (between_takes line s .quoted .openQuoted)
  | integer hc hdigit _ _ =>
    exact Or.inl (plain_takes line hc.newline (by simp [hdigit]) .integer)
  | stepText hc hsymbol _ _ _ => exact Or.inl (plain_takes line hc.newline hsymbol .stepText)
  | skip hc _ hidle => exact Or.inr ⟨hidle, hc.newline, rfl⟩

/-- **A reading takes a start of the text,** and not the empty one. -/
theorem next_span {language : Language} (hl : language.Supported) (line : LineState) (c : Char)
    (s : List Char) :
    ∃ after, c :: s = (next language line (c :: s)).span ++ after ∧
      (next language line (c :: s)).span ≠ [] := by
  rcases next_takes_or_skips hl line c s with ⟨after, hs, hlexeme⟩ | ⟨-, -, hskip⟩
  · exact ⟨after, hs, hlexeme.span_ne_nil⟩
  · rw [hskip]
    exact ⟨s, rfl, List.cons_ne_nil _ _⟩

/-- **A line begins behind a newline,** the newline of a comment included. -/
theorem next_line_of_newline_mem {language : Language} (hl : language.Supported) (line : LineState)
    (c : Char) (s : List Char) (hmem : '\n' ∈ (next language line (c :: s)).span) :
    (next language line (c :: s)).line = .start := by
  rcases next_takes_or_skips hl line c s with ⟨after, hs, hlexeme⟩ | ⟨-, hc, hskip⟩
  · have hhead := hlexeme.head?_of_newline_mem hmem
    obtain ⟨d, span, hspan⟩ := List.exists_cons_of_ne_nil hlexeme.span_ne_nil
    rw [hspan] at hhead hs
    obtain rfl : c = d := (List.cons.inj hs).1
    rcases hhead with hd | hd
    · obtain rfl : c = '\n' := Option.some.inj hd
      rfl
    · obtain rfl : c = '#' := Option.some.inj hd
      rfl
  · rw [hskip] at hmem
    exact absurd (List.mem_singleton.1 hmem).symm hc

end Reading
end FeatureLexer
