import FeatureLexer.Lexer.Directive
import FeatureLexer.Lexer.State
import FeatureLexer.Proofs.Language.Spelling
import FeatureLexer.Proofs.Text.Line

/-!
# The next lexeme, read off the next character

The lexer finds its next lexeme by trying one rule after the other. Here the
same lexeme is found without trying: the next character, the line so far and
the opening of the line say which rule it will be, and each rule has one
reading. `Reading.next` is that choice. It sees the language in force, the
line so far and the rest of the text, and nothing else of the lexer, so a
reading is the same wherever in a text it takes place.

`Reading.next_cases` lists what the choice can be, each reading with the
conditions under which it is made; whatever is shown of all readings is shown
by these cases.

`Reading.next_append_of_hides` says that it does not even see the whole rest:
what stands behind the line does not matter. The rules are compared with
these readings in `FeatureLexer.Proofs.Lexer.Prediction`.
-/

namespace FeatureLexer

/-- A piece of a text, and the token that it gave, if it gave one. -/
structure Piece where
  span : List Char
  token? : Option Token
deriving DecidableEq, Repr

/-- What the reading of a lexeme takes from the text and leaves behind. -/
structure Reading extends Piece where
  /-- The line so far, after the lexeme. -/
  line : LineState
  /-- The name that the lexeme declares for a language, if it is a directive. -/
  declared? : Option (List Char)
deriving DecidableEq, Repr

/-- Neither the start of a line, nor a block or a step to go on with. -/
structure LineState.Idle (line : LineState) : Prop where
  atStart : line.atStart = false
  block : line.block = none
  keyword : line.keyword = none

namespace Text

/-- The run of space that a text begins with. -/
def leadingSpace (s : List Char) : List Char :=
  lineUntil (fun c => !isSpace c) s

theorem isSpace_of_mem_leadingSpace {s : List Char} {c : Char} (h : c ∈ leadingSpace s) :
    isSpace c = true := by
  simpa using (mem_lineUntil h).2

theorem leadingSpace_append_drop (s : List Char) :
    leadingSpace s ++ s.drop (leadingSpace s).length = s :=
  lineUntil_append_drop _ s

theorem stopsBefore_drop_leadingSpace (s : List Char) :
    StopsBefore (!isSpace ·) (s.drop (leadingSpace s).length) :=
  stopsBefore_drop_lineUntil _ s

/-- The character `c`, if a text begins with it. -/
def leading (c : Char) (s : List Char) : List Char :=
  if s.head? = some c then [c] else []

theorem leading_cons_self (c : Char) (s : List Char) : leading c (c :: s) = [c] :=
  if_pos rfl

theorem leading_of_head?_ne {c : Char} {s : List Char} (h : s.head? ≠ some c) : leading c s = [] :=
  if_neg h

theorem leading_eq_or (c : Char) (s : List Char) : leading c s = [] ∨ leading c s = [c] := by
  rw [leading]
  split
  · exact Or.inr rfl
  · exact Or.inl rfl

theorem leading_isPrefix (c : Char) (s : List Char) : leading c s <+: s := by
  cases s with
  | nil => exact List.nil_prefix
  | cons d s =>
    by_cases h : d = c
    · rw [h, leading_cons_self]
      exact ⟨s, rfl⟩
    · rw [leading_of_head?_ne (by simpa using h)]
      exact List.nil_prefix

theorem leading_append_of_hides {s t : List Char} (h : Hides s t) {c : Char} (hc : c ≠ '\n') :
    leading c (s ++ t) = leading c s := by
  simp only [leading, h.head?_append hc]

/-- A text without newline, followed by a leading mark that is none. -/
theorem newline_notMem_append_leading {text : List Char} (h : '\n' ∉ text) {c : Char}
    (hc : c ≠ '\n') (s : List Char) : '\n' ∉ text ++ leading c s := by
  rw [List.mem_append, not_or]
  refine ⟨h, ?_⟩
  rcases leading_eq_or c s with hnil | hmark
  · rw [hnil]
    exact List.not_mem_nil
  · rw [hmark, List.mem_singleton]
    exact Ne.symm hc

/-- A part of a text, followed by the mark that comes next, is a part of it. -/
theorem append_leading_isPrefix {part s : List Char} (h : part <+: s) (c : Char) :
    part ++ leading c (s.drop part.length) <+: s := by
  obtain ⟨rest, rfl⟩ := h
  rw [List.drop_left]
  exact (List.prefix_append_right_inj part).2 (leading_isPrefix c rest)

theorem drop_append_of_isPrefix {part s : List Char} (hpart : part <+: s) (t : List Char) :
    (s ++ t).drop part.length = s.drop part.length ++ t :=
  List.drop_append_of_le_length hpart.length_le

end Text

namespace Reading

open Text

/-- Reads a part of the line that gives a token and leaves the line as it was. -/
def plain (line : LineState) (span : List Char) (token : Token) : Reading :=
  ⟨⟨span, some token⟩, line, none⟩

/-- Reads a part of the line that gives nothing and leaves the line as it was. -/
def silent (line : LineState) (span : List Char) : Reading :=
  ⟨⟨span, none⟩, line, none⟩

/-- The comment before the text `s`, with the newline that ends it. -/
def comment (s : List Char) : Reading :=
  let text := lineUntil never s
  ⟨⟨'#' :: text ++ leading '\n' (s.drop text.length), none⟩, .start, Directive.declaredName? text⟩

/-- The cell that a bar before the text `s` opens. -/
def cell (line : LineState) (s : List Char) : Reading :=
  let contents := Cell.read Cell.isBar s
  let span := '|' :: s.take contents.2
  if (s.drop contents.2).head? = some '|' then plain line span (.cell (trimSpace contents.1))
  else silent line span

/-- The keyword of a block, its colon and the space behind it. -/
def blockKeyword (line : LineState) (block : Block) (s : List Char) : Reading :=
  let text := lineUntil (· == ':') s
  let keyword := text ++ leading ':' (s.drop text.length)
  ⟨⟨keyword ++ leadingSpace (s.drop keyword.length), some (.block (.block block))⟩,
    { line with atStart := false, block := some (.block block) }, none⟩

/-- The keyword of a step and the space behind it. -/
def stepKeyword (line : LineState) (keyword : StepKeyword) (spelling s : List Char) : Reading :=
  ⟨⟨spelling ++ leadingSpace (s.drop spelling.length), some (.keyword keyword)⟩,
    { line with atStart := false, keyword := some keyword }, none⟩

/-- A line read as a description. -/
def description (line : LineState) (s : List Char) : Reading :=
  let text := lineUntil never s
  ⟨⟨text, some (.description (trimSpace text))⟩, { line with atStart := false }, none⟩

/-- The text between the mark `opened` and the mark `closed`, which ends with
the line if it is not closed. -/
def between (line : LineState) (opened closed : Char) (token : List Char → Token)
    (s : List Char) : Reading :=
  let text := lineUntil (· == closed) s
  plain line (opened :: text ++ leading closed (s.drop text.length)) (token text)

/-- What comes first on a line, from the character `c` on: space, a keyword, or
else a description. -/
def lineStart (language : Language) (line : LineState) (c : Char) (s : List Char) : Reading :=
  if isSpace c then silent line (leadingSpace (c :: s))
  else
    match language.openingOf (lineUntil (· == ':') (c :: s)) with
    | .block block _ => blockKeyword line block (c :: s)
    | .step keyword spelling => stepKeyword line keyword spelling (c :: s)
    | .unknown => description line (c :: s)

/-- The next lexeme of a text, in a language and with a line so far. -/
def next (language : Language) (line : LineState) : List Char → Reading
  | [] => silent line []
  | c :: s =>
    if c = '\n' then ⟨⟨['\n'], some .newline⟩, .start, none⟩
    else if c = '#' then comment s
    else if c = '@' then
      let text := lineUntil (!isTagChar ·) s
      plain line ('@' :: text) (.tag text)
    else if c = '|' then cell line s
    else if line.atStart then lineStart language line c s
    else if c = '<' then between line '<' '>' .placeholder s
    else if line.block.isSome then
      let text := lineUntil (· == '<') (c :: s)
      plain line text (.title text)
    else if c = '"' then between line '"' '"' .quoted s
    else if isDigit c then
      let text := lineUntil (!isDigit ·) (c :: s)
      plain line text (.integer text)
    else if line.keyword.isSome then
      let text := lineUntil isSymbol (c :: s)
      plain line text (.stepText text)
    else silent line [c]

/-! ### Which rule it is -/

/-- A character that has no meaning of its own wherever it stands on a line. -/
structure Ordinary (c : Char) : Prop where
  newline : c ≠ '\n'
  comment : c ≠ '#'
  tag : c ≠ '@'
  cell : c ≠ '|'

/-- The readings of the text `c :: s`, each with what makes it the next one. -/
inductive NextCase (language : Language) (line : LineState) (c : Char) (s : List Char) :
    Reading → Prop where
  | newline (hc : c = '\n') :
      NextCase language line c s ⟨⟨['\n'], some .newline⟩, .start, none⟩
  | comment (hc : c = '#') : NextCase language line c s (comment s)
  | tag (hc : c = '@') :
      NextCase language line c s (plain line ('@' :: lineUntil (!isTagChar ·) s)
        (.tag (lineUntil (!isTagChar ·) s)))
  | cell (hc : c = '|') : NextCase language line c s (cell line s)
  | lineStart (hc : Ordinary c) (hstart : line.atStart = true) :
      NextCase language line c s (lineStart language line c s)
  | placeholder (hc : c = '<') (hstart : line.atStart = false) :
      NextCase language line c s (between line '<' '>' .placeholder s)
  | title (hc : Ordinary c) (hopen : c ≠ '<') (hstart : line.atStart = false)
      (hblock : line.block.isSome = true) :
      NextCase language line c s (plain line (lineUntil (· == '<') (c :: s))
        (.title (lineUntil (· == '<') (c :: s))))
  | quoted (hc : c = '"') (hstart : line.atStart = false) (hblock : line.block = none) :
      NextCase language line c s (between line '"' '"' .quoted s)
  | integer (hc : Ordinary c) (hdigit : isDigit c = true) (hstart : line.atStart = false)
      (hblock : line.block = none) :
      NextCase language line c s (plain line (lineUntil (!isDigit ·) (c :: s))
        (.integer (lineUntil (!isDigit ·) (c :: s))))
  | stepText (hc : Ordinary c) (hsymbol : isSymbol c = false) (hstart : line.atStart = false)
      (hblock : line.block = none) (hkeyword : line.keyword.isSome = true) :
      NextCase language line c s (plain line (lineUntil isSymbol (c :: s))
        (.stepText (lineUntil isSymbol (c :: s))))
  | skip (hc : Ordinary c) (hsymbol : isSymbol c = false) (hidle : line.Idle) :
      NextCase language line c s (silent line [c])

/-- **What the next lexeme is,** said once and with all conditions. -/
theorem next_cases {language : Language} {line : LineState} {c : Char} {s : List Char}
    {reading : Reading} (h : next language line (c :: s) = reading) :
    NextCase language line c s reading := by
  rw [← h, next]
  by_cases hnewline : c = '\n'
  · rw [if_pos hnewline]
    exact .newline hnewline
  rw [if_neg hnewline]
  by_cases hcomment : c = '#'
  · rw [if_pos hcomment]
    exact .comment hcomment
  rw [if_neg hcomment]
  by_cases htag : c = '@'
  · rw [if_pos htag]
    exact .tag htag
  rw [if_neg htag]
  by_cases hcell : c = '|'
  · rw [if_pos hcell]
    exact .cell hcell
  rw [if_neg hcell]
  have hc : Ordinary c := ⟨hnewline, hcomment, htag, hcell⟩
  cases hstart : line.atStart with
  | true => exact .lineStart hc hstart
  | false =>
    rw [if_neg Bool.false_ne_true]
    by_cases hopen : c = '<'
    · rw [if_pos hopen]
      exact .placeholder hopen hstart
    rw [if_neg hopen]
    cases hblock : line.block with
    | some kind => exact .title hc hopen hstart (by rw [hblock]; rfl)
    | none =>
      rw [if_neg (by simp)]
      by_cases hquote : c = '"'
      · rw [if_pos hquote]
        exact .quoted hquote hstart hblock
      rw [if_neg hquote]
      by_cases hdigit : isDigit c = true
      · rw [if_pos hdigit]
        exact .integer hc hdigit hstart hblock
      rw [if_neg hdigit]
      have hsymbol : isSymbol c = false := by simp [isSymbol, hquote, hopen, hdigit]
      cases hkeyword : line.keyword with
      | some keyword => exact .stepText hc hsymbol hstart hblock (by rw [hkeyword]; rfl)
      | none => exact .skip hc hsymbol ⟨hstart, hblock, hkeyword⟩

/-! ### What stands behind the line does not matter -/

/-- A comment takes its newline with it, so it has to be seen whether there is
one. -/
theorem comment_append_of_mem {s : List Char} (h : '\n' ∈ s) (t : List Char) :
    comment (s ++ t) = comment s := by
  have hpart := lineUntil_isPrefix never s
  have hhides : Hides s t := Or.inl h
  have hmem : '\n' ∈ s.drop (lineUntil never s).length := by
    rw [← lineUntil_append_drop never s] at h
    exact (List.mem_append.1 h).resolve_left (passes_lineUntil never s).newline_notMem
  have hlead : leading '\n' (s.drop (lineUntil never s).length ++ t) =
      leading '\n' (s.drop (lineUntil never s).length) := by
    obtain ⟨c, rest, hrest⟩ := List.exists_cons_of_ne_nil (List.ne_nil_of_mem hmem)
    rw [hrest]
    rfl
  simp only [comment, lineUntil_append_of_hides hhides, drop_append_of_isPrefix hpart, hlead]

theorem cell_append_of_hides {s t : List Char} (h : Hides s t) (line : LineState) :
    cell line (s ++ t) = cell line s := by
  have hle := Cell.read_length_le Cell.isBar s
  have hpart : s.take (Cell.read Cell.isBar s).2 <+: s := List.take_prefix _ _
  have hdrop := h.drop hpart (Cell.newline_notMem_take_read Cell.isBar s)
  rw [List.length_take_of_le hle] at hdrop
  simp only [cell, Cell.read_append_of_hides h, List.take_append_of_le_length hle,
    List.drop_append_of_le_length hle, hdrop.head?_append (by decide : '|' ≠ '\n')]

theorem blockKeyword_append_of_hides {s t : List Char} (h : Hides s t) (line : LineState)
    (block : Block) : blockKeyword line block (s ++ t) = blockKeyword line block s := by
  have hpart := lineUntil_isPrefix (· == ':') s
  have hline := (passes_lineUntil (· == ':') s).newline_notMem
  have hpart' := append_leading_isPrefix hpart ':'
  have hline' := newline_notMem_append_leading hline (by decide : ':' ≠ '\n')
    (s.drop (lineUntil (· == ':') s).length)
  simp only [blockKeyword, lineUntil_append_of_hides h, drop_append_of_isPrefix hpart,
    leading_append_of_hides (h.drop hpart hline) (by decide : ':' ≠ '\n'),
    drop_append_of_isPrefix hpart', leadingSpace,
    lineUntil_append_of_hides (h.drop hpart' hline')]

theorem stepKeyword_append_of_hides {spelling s t : List Char} (h : Hides s t)
    (hpart : spelling <+: s) (hline : '\n' ∉ spelling) (line : LineState)
    (keyword : StepKeyword) :
    stepKeyword line keyword spelling (s ++ t) = stepKeyword line keyword spelling s := by
  simp only [stepKeyword, drop_append_of_isPrefix hpart, leadingSpace,
    lineUntil_append_of_hides (h.drop hpart hline)]

theorem between_append_of_hides {s t : List Char} (h : Hides s t) (line : LineState)
    (opened : Char) {closed : Char} (hclosed : closed ≠ '\n') (token : List Char → Token) :
    between line opened closed token (s ++ t) = between line opened closed token s := by
  have hpart := lineUntil_isPrefix (· == closed) s
  have hdrop := h.drop hpart (passes_lineUntil (· == closed) s).newline_notMem
  simp only [between, lineUntil_append_of_hides h, drop_append_of_isPrefix hpart,
    leading_append_of_hides hdrop hclosed]

/-- The spelling of a step stands within the line, at its start. -/
theorem spelling_isPrefix {language : Language} {c : Char} {s spelling : List Char}
    {keyword : StepKeyword} (hc : c ≠ '\n') (hspace : isSpace c ≠ true)
    (h : language.openingOf (lineUntil (· == ':') (c :: s)) = .step keyword spelling) :
    spelling <+: lineUntil (· == ':') (c :: s) := by
  refine Language.isPrefix_of_openingOf_eq_step h fun d hd => ?_
  obtain rfl := eq_of_mem_head?_lineUntil hd
  simpa [isSpace, hc] using hspace

theorem lineStart_append_of_hides (language : Language) (line : LineState) {c : Char}
    {s t : List Char} (hc : c ≠ '\n') (h : Hides (c :: s) t) :
    lineStart language line c (s ++ t) = lineStart language line c s := by
  have hcut (stop : Char → Bool) : lineUntil stop (c :: (s ++ t)) = lineUntil stop (c :: s) :=
    lineUntil_append_of_hides h stop
  simp only [lineStart, leadingSpace, description, hcut]
  by_cases hspace : isSpace c = true
  · rw [if_pos hspace, if_pos hspace]
  · rw [if_neg hspace, if_neg hspace]
    cases hopening : language.openingOf (lineUntil (· == ':') (c :: s)) with
    | block block _ => exact blockKeyword_append_of_hides h line block
    | step keyword spelling =>
      have hpart := spelling_isPrefix hc hspace hopening
      have hline : '\n' ∉ spelling := fun hmem =>
        (passes_lineUntil _ _).newline_notMem (hpart.subset hmem)
      exact stepKeyword_append_of_hides h (hpart.trans (lineUntil_isPrefix _ _)) hline line keyword
    | unknown => rfl

/-- **What stands behind the line does not matter** for the next lexeme, except
to a comment that has yet to find its newline. -/
theorem next_append_of_hides (language : Language) (line : LineState) {c : Char}
    {s t : List Char} (h : Hides (c :: s) t) (hcomment : c = '#' → '\n' ∈ s) :
    next language line (c :: s ++ t) = next language line (c :: s) := by
  rw [List.cons_append, next, next]
  by_cases hc : c = '\n'
  · rw [if_pos hc, if_pos hc]
  rw [if_neg hc, if_neg hc]
  by_cases hmark : c = '#'
  · rw [if_pos hmark, if_pos hmark]
    exact comment_append_of_mem (hcomment hmark) t
  have hs := h.tail hc
  have hcut (stop : Char → Bool) : lineUntil stop (c :: (s ++ t)) = lineUntil stop (c :: s) :=
    lineUntil_append_of_hides h stop
  simp only [if_neg hmark, lineUntil_append_of_hides hs, cell_append_of_hides hs,
    lineStart_append_of_hides language line hc h,
    between_append_of_hides hs line '<' (by decide : '>' ≠ '\n'),
    between_append_of_hides hs line '"' (by decide : '"' ≠ '\n'), hcut]

end Reading
end FeatureLexer
