import FeatureLexer.Proofs.Feature.SourceName

/-!
# Writing the rows of a table

A row is written cell by cell: a bar, the contents with their bars, backslashes
and newlines written as pairs, and any space around them. A last bar closes the
row. Lexing the row gives the contents back, one token for each cell and a token
for the newline, in every language.

Three readings act on the characters of a cell one after the other, and each of
them has to see what it should:

| reading | what it must not mistake | settled by |
| --- | --- | --- |
| the end of the cell | a bar that belongs to a pair | `Cell.read_escape` |
| the pairs | space around the contents | `Cell.escape_eq_self` |
| trimming | a newline at an end of the contents | `PaddedCell.trimSpace_full` |

The space can be taken for part of the contents as long as the cell is read,
since writing leaves it as it is. It is told apart only by trimming.
-/

namespace FeatureLexer

open Text

namespace Cell

/-- **Space is written as itself.** -/
theorem escape_eq_self {s : List Char} (h : s.all isSpace = true) : escape s = s := by
  induction s with
  | nil => rfl
  | cons c s ih =>
    rw [List.all_cons, Bool.and_eq_true] at h
    obtain ⟨hc, hrest⟩ := h
    have hbar : c ≠ '|' := by rintro rfl; exact absurd hc (by decide)
    have hslash : c ≠ '\\' := by rintro rfl; exact absurd hc (by decide)
    have hline : c ≠ '\n' := by rintro rfl; exact absurd hc (by decide)
    have hchar : escapeChar c = [c] := by simp [escapeChar, hbar, hslash, hline]
    have hs := ih hrest
    rw [escape] at hs ⊢
    rw [List.flatMap_cons, hchar, hs, List.singleton_append]

theorem escape_append (s t : List Char) : escape (s ++ t) = escape s ++ escape t :=
  List.flatMap_append

/-- **What is written stays on one line,** since it is read back within a line. -/
theorem newline_notMem_escape (contents : List Char) : '\n' ∉ escape contents := by
  have hread := newline_notMem_take_read isBar (escape contents ++ ['|'])
  rwa [read_escape, List.take_left] at hread

end Cell

/-- The contents of a cell, with the space that is written around them. -/
structure PaddedCell where
  before : List Char
  contents : List Char
  after : List Char
  all_before : before.all isSpace = true
  all_after : after.all isSpace = true
  /-- The contents do not begin with space. -/
  head_contents : contents.head?.any isSpace = false
  /-- The contents do not end in space. -/
  last_contents : contents.getLast?.any isSpace = false

namespace PaddedCell

/-- A cell as it is written, without the bars around it. -/
def written (cell : PaddedCell) : List Char :=
  cell.before ++ Cell.escape cell.contents ++ cell.after

/-- The contents of a cell together with the space around them. -/
def full (cell : PaddedCell) : List Char :=
  cell.before ++ cell.contents ++ cell.after

variable (cell : PaddedCell)

/-- Writing the contents and the space around them is writing all of it at once. -/
theorem written_eq_escape : cell.written = Cell.escape cell.full := by
  rw [written, full, Cell.escape_append, Cell.escape_append,
    Cell.escape_eq_self cell.all_before, Cell.escape_eq_self cell.all_after]

/-- **Trimming finds the contents.** -/
theorem trimSpace_full : trimSpace cell.full = cell.contents := by
  rw [trimSpace, full, trim_append_right _ _ (List.all_eq_true.1 cell.all_after),
    trim_append_left _ (List.all_eq_true.1 cell.all_before),
    trim_eq_self cell.head_contents cell.last_contents]

/-- The reading of a written cell behind its bar. -/
def reading (line : LineState) : Reading :=
  .plain line ('|' :: cell.written) (.cell cell.contents)

/-- **A written cell is read back,** from a bar to the next. -/
theorem next_eq_reading (language : Language) (line : LineState) (rest : List Char) :
    Reading.next language line ('|' :: cell.written ++ '|' :: rest) = cell.reading line := by
  have hread : Cell.read Cell.isBar (cell.written ++ '|' :: rest) =
      (cell.full, cell.written.length) := by
    rw [written_eq_escape, Cell.read_escape]
  show Reading.cell line (cell.written ++ '|' :: rest) = cell.reading line
  simp only [Reading.cell, hread, List.drop_left, List.take_left, List.head?_cons, if_true,
    trimSpace_full]
  rfl

end PaddedCell

/-- The cells of a row, each behind its bar. -/
def writtenCells (cells : List PaddedCell) : List Char :=
  cells.flatMap fun cell => '|' :: cell.written

/-- A row of a table as it is written, with the bar that closes its last cell
and the newline. -/
def writtenRow (cells : List PaddedCell) : List Char :=
  writtenCells cells ++ ['|', '\n']

theorem newline_notMem_writtenCells (cells : List PaddedCell) : '\n' ∉ writtenCells cells := by
  intro hmem
  obtain ⟨cell, _, hcell⟩ := List.mem_flatMap.1 hmem
  rcases List.mem_cons.1 hcell with hbar | hwritten
  · exact absurd hbar (by decide)
  · rw [cell.written_eq_escape] at hwritten
    exact Cell.newline_notMem_escape _ hwritten

/-- **A row has one line break,** and no carriage return stands before it. -/
theorem joinCarriageReturns_writtenRow (cells : List PaddedCell) :
    joinCarriageReturns (writtenRow cells) = writtenRow cells := by
  have hrow : writtenRow cells = (writtenCells cells ++ ['|']) ++ '\n' :: [] :=
    (List.append_assoc _ ['|'] ['\n']).symm
  have hline : '\n' ∉ writtenCells cells ++ ['|'] := by
    rw [List.mem_append, not_or]
    exact ⟨newline_notMem_writtenCells cells, by decide⟩
  obtain ⟨kept, hkept, hjoin⟩ := joinCarriageReturns_append_newline hline []
  rcases hkept with rfl | hreturn
  · rw [hrow, hjoin]
    rfl
  · have hlast := congrArg List.getLast? hreturn
    rw [List.getLast?_concat, List.getLast?_concat] at hlast
    exact absurd hlast (by decide)

/-- The readings behind the last cell of a row: the bar that closes the row opens
a cell that nothing closes, and the newline. -/
def rowEnd (line : LineState) : List Reading :=
  [.silent line ['|'], ⟨⟨['\n'], some .newline⟩, .start, none⟩]

/-- **The scan of a row** reads its cells and then its end, whatever is on the
line before. -/
theorem scan_writtenRow {language : Language} (hl : language.Supported) (line : LineState)
    (cells : List PaddedCell) :
    scan language line (writtenRow cells) = cells.map (·.reading line) ++ rowEnd line := by
  induction cells with
  | nil =>
    have hnext : Reading.next language line ['|', '\n'] = .silent line ['|'] := rfl
    show scan language line ['|', '\n'] = rowEnd line
    rw [scan_cons hl, hnext]
    exact congrArg (_ :: ·) (scan_newline language line)
  | cons cell cells ih =>
    -- What closes a cell is the first character of what is written behind it.
    obtain ⟨rest, hrest⟩ : ∃ rest, writtenRow cells = '|' :: rest := by
      cases cells with
      | nil => exact ⟨_, rfl⟩
      | cons next cells => exact ⟨_, rfl⟩
    have hrow : writtenRow (cell :: cells) = (cell.reading line).span ++ writtenRow cells :=
      List.append_assoc _ _ _
    have hnext : Reading.next language line ((cell.reading line).span ++ writtenRow cells) =
        cell.reading line := by
      rw [hrest]
      exact cell.next_eq_reading language line rest
    rw [hrow, scan_span_append hl (List.cons_ne_nil _ _) hnext]
    exact congrArg (_ :: ·) ih

theorem tokensOf_row (line : LineState) (cells : List PaddedCell) :
    tokensOf (cells.map (·.reading line) ++ rowEnd line) =
      cells.map (fun cell => .cell cell.contents) ++ [.newline] := by
  rw [tokensOf, List.filterMap_append, List.filterMap_map]
  refine congrArg₂ (· ++ ·) ?_ rfl
  exact congrFun List.filterMap_eq_map' cells

/-- A row of one cell or more is no prose, and it declares no language. -/
theorem problemsIn_row (line : LineState) {cells : List PaddedCell} (h : cells ≠ []) :
    problemsIn (cells.map (·.reading line) ++ rowEnd line) = [] := by
  obtain ⟨cell, cells, rfl⟩ := List.exists_cons_of_ne_nil h
  have hdirectives : ((cell :: cells).map (·.reading line) ++ rowEnd line).flatMap
      (·.problems []) = [] := by
    rw [List.flatMap_eq_nil_iff]
    intro reading hmem
    rcases List.mem_append.1 hmem with hcell | hend
    · obtain ⟨_, _, rfl⟩ := List.mem_map.1 hcell
      rfl
    · simp only [rowEnd, List.mem_cons, List.not_mem_nil, or_false] at hend
      rcases hend with rfl | rfl
      · rfl
      · rfl
  rw [problemsIn_eq_nil_iff, foundIn, hdirectives, tokensOf_row]
  rfl

/-- **A row of a table gives back its cells.** In every supported language, and
from every source and under every policy, lexing a row as it is written gives
the contents of its cells, in their order, and the newline. -/
theorem table_row_gives_back_its_cells {name : Option (List Char)} {language : Language}
    (hlanguage : Language.requested? name = some language) {cells : List PaddedCell}
    (hcells : cells ≠ []) (source : Source) (policy : Policy) :
    lexText (writtenRow cells) ⟨source, name, policy⟩ =
      .ok ⟨cells.map (fun cell => .cell cell.contents) ++ [.newline], [], []⟩ := by
  have hl := Language.supported_of_requested? hlanguage
  have hscan : scan language .start (joinCarriageReturns (writtenRow cells)) =
      cells.map (·.reading .start) ++ rowEnd .start := by
    rw [joinCarriageReturns_writtenRow, scan_writtenRow hl]
  have hproblems : problemsIn (scan language .start (joinCarriageReturns (writtenRow cells))) =
      [] := by
    rw [hscan, problemsIn_row .start hcells]
  rw [lexText_of_problemsIn_eq_nil hlanguage hproblems, hscan, tokensOf_row]

/-- The theorem at work in English, on contents that end in a backslash, that
begin and end with a newline and that look like other lexemes, and on an empty
cell, with carriage returns and other space around them. -/
theorem table_row_gives_back_its_cells_english :
    let cells : List PaddedCell :=
      [⟨[' '], "a|b\\".toList, [], by decide, by decide, by decide, by decide⟩,
       ⟨['\r'], "\n\\n\n".toList, ['\r'], by decide, by decide, by decide, by decide⟩,
       ⟨[], "#@\"<1".toList, ['\u3000'], by decide, by decide, by decide, by decide⟩,
       ⟨['\t'], [], [' '], by decide, by decide, by decide, by decide⟩]
    writtenRow cells = "| a\\|b\\\\|\r\\n\\\\n\\n\r|#@\"<1\u3000|\t |\n".toList ∧
      lexText (writtenRow cells) ⟨.unnamed, some Language.defaultName, .record⟩ =
        .ok ⟨[.cell "a|b\\".toList, .cell "\n\\n\n".toList, .cell "#@\"<1".toList, .cell [],
          .newline], [], []⟩ := by
  intro cells
  refine ⟨by decide, ?_⟩
  exact table_row_gives_back_its_cells Language.requested?_defaultName (by simp [cells])
    .unnamed .record

end FeatureLexer
