import FeatureLexer.Cursor.Basic

/-!
# Cells of a table row

Within a cell a backslash in front of a bar, of another backslash or of the
letter `n` forms a pair that stands for one character:

| pair | character |
| --- | --- |
| `\|` | the bar |
| `\\` | the backslash |
| `\n` | the newline |

In front of anything else the backslash stands for itself. Reading decodes
the pairs from the left, so a bar that belongs to a pair does not end the
cell. `Cell.escape` is the writing side, and `Cell.read_escape` says that
reading gives back what was written.
-/

namespace FeatureLexer
namespace Cell

/-- The character that a backslash and the given character stand for, if they
form a pair. -/
def unescape? : Char → Option Char
  | '|' => some '|'
  | 'n' => some '\n'
  | '\\' => some '\\'
  | _ => none

/-- Reads up to the first newline or character of class `stop` outside a pair:
what was read, with pairs decoded, and how many characters it took. -/
def read (stop : Char → Bool) : List Char → List Char × Nat
  | [] => ([], 0)
  | '\\' :: c :: rest =>
    match unescape? c with
    | some decoded =>
      let after := read stop rest
      (decoded :: after.1, after.2 + 2)
    | none =>
      if stop '\\' then ([], 0)
      else
        let after := read stop (c :: rest)
        ('\\' :: after.1, after.2 + 1)
  | c :: rest =>
    if c = '\n' ∨ stop c = true then ([], 0)
    else
      let after := read stop rest
      (c :: after.1, after.2 + 1)

/-- Writes one character of a cell. -/
def escapeChar (c : Char) : List Char :=
  if c = '|' then ['\\', '|']
  else if c = '\\' then ['\\', '\\']
  else if c = '\n' then ['\\', 'n']
  else [c]

/-- Writes the contents of a cell. -/
def escape (contents : List Char) : List Char :=
  contents.flatMap escapeChar

/-- Whether a character ends a cell. -/
def isBar (c : Char) : Bool :=
  c == '|'

theorem read_length_le (stop : Char → Bool) (s : List Char) : (read stop s).2 ≤ s.length := by
  fun_induction read stop s with
  | case1 => exact Nat.zero_le _
  | case2 c rest decoded _ after ih => exact Nat.add_le_add_right ih 2
  | case3 => exact Nat.zero_le _
  | case4 c rest _ _ after ih => exact Nat.add_le_add_right ih 1
  | case5 => exact Nat.zero_le _
  | case6 c rest after _ _ ih => exact Nat.add_le_add_right ih 1

/-- **Reading gives back what was written,** up to the bar that closes the
cell. -/
theorem read_escape (contents rest : List Char) :
    read isBar (escape contents ++ '|' :: rest) = (contents, (escape contents).length) := by
  induction contents with
  | nil => simp [escape, read, isBar]
  | cons c contents ih =>
    simp only [escape, List.flatMap_cons, List.append_assoc] at ih ⊢
    by_cases hbar : c = '|'
    · subst hbar; simp [escapeChar, read, unescape?, ih]
    by_cases hslash : c = '\\'
    · subst hslash; simp [escapeChar, read, unescape?, ih]
    by_cases hline : c = '\n'
    · subst hline; simp [escapeChar, read, unescape?, ih]
    have hc : escapeChar c = [c] := by simp [escapeChar, hbar, hslash, hline]
    rw [hc, List.singleton_append, read.eq_3 _ _ _ (by simp [hslash])]
    simp [hline, isBar, hbar, ih]

end Cell

namespace Cursor

/-- The cell up to a character of class `stop`, with pairs decoded, and the
place after it. -/
def takeCell (cursor : Cursor) (stop : Char → Bool) : List Char × Cursor :=
  let cell := Cell.read stop cursor.rest
  (cell.1, cursor.advance cell.2)

end Cursor
end FeatureLexer
