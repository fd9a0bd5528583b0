import FeatureLexer.Text.CharClass

/-!
# Cursors

A cursor is a place in a text: the text, a position counted in characters,
and the rest of the text from there, kept beside them so that reading does
not walk through the text again. A position may lie past the end; the rest is
then empty, and reading moves nothing.

Reading within a line stops before the newline, before a character that the
caller names, or at the end of the text. None of these is read.
-/

namespace FeatureLexer
namespace Text

/-- The characters from the start of a text up to its first newline or
character of class `stop`. -/
def lineUntil (stop : Char → Bool) (s : List Char) : List Char :=
  s.takeWhile fun c => c != '\n' && !stop c

/-- The class of no character. -/
def never (_ : Char) : Bool := false

theorem lineUntil_append_drop (stop : Char → Bool) (s : List Char) :
    lineUntil stop s ++ s.drop (lineUntil stop s).length = s := by
  induction s with
  | nil => rfl
  | cons c rest ih =>
    simp only [lineUntil] at ih ⊢
    rw [List.takeWhile_cons]
    split
    · simp [ih]
    · simp

/-- **A line holds no newline and nothing to stop at.** -/
theorem mem_lineUntil {stop : Char → Bool} {s : List Char} {c : Char} (h : c ∈ lineUntil stop s) :
    c ≠ '\n' ∧ stop c = false := by
  have h' := List.all_eq_true.1 (List.all_takeWhile (l := s)) c h
  simpa using h'

end Text

/-- A place in a text. -/
structure Cursor where
  text : List Char
  pos : Nat
  rest : List Char
  rest_eq : rest = text.drop pos
deriving DecidableEq, Repr

namespace Cursor

/-- **A cursor is its text and its position.** -/
@[ext] theorem ext {a b : Cursor} (htext : a.text = b.text) (hpos : a.pos = b.pos) : a = b := by
  obtain ⟨text, pos, rest, h⟩ := a
  obtain ⟨text', pos', rest', h'⟩ := b
  obtain rfl : text = text' := htext
  obtain rfl : pos = pos' := hpos
  obtain rfl : rest = rest' := h.trans h'.symm
  rfl

/-- The start of a text. -/
def ofText (text : List Char) : Cursor :=
  ⟨text, 0, text, rfl⟩

/-- Moves to a position, which may lie past the end. -/
def seek (cursor : Cursor) (pos : Nat) : Cursor :=
  ⟨cursor.text, pos, cursor.text.drop pos, rfl⟩

theorem drop_rest (cursor : Cursor) (n : Nat) :
    cursor.rest.drop n = cursor.text.drop (cursor.pos + (cursor.rest.take n).length) := by
  rw [← List.drop_drop, ← cursor.rest_eq, List.length_take]
  rcases Nat.le_total n cursor.rest.length with h | h
  · rw [Nat.min_eq_left h]
  · rw [Nat.min_eq_right h, List.drop_length, List.drop_eq_nil_of_le h]

/-- Moves `n` characters on, or to the end if fewer are left. -/
def advance (cursor : Cursor) (n : Nat) : Cursor where
  text := cursor.text
  pos := cursor.pos + (cursor.rest.take n).length
  rest := cursor.rest.drop n
  rest_eq := cursor.drop_rest n

@[simp] theorem text_advance (cursor : Cursor) (n : Nat) : (cursor.advance n).text = cursor.text :=
  rfl

@[simp] theorem rest_advance (cursor : Cursor) (n : Nat) :
    (cursor.advance n).rest = cursor.rest.drop n :=
  rfl

@[simp] theorem pos_advance (cursor : Cursor) (n : Nat) :
    (cursor.advance n).pos = cursor.pos + min n cursor.rest.length := by
  simp [advance]

@[simp] theorem advance_zero (cursor : Cursor) : cursor.advance 0 = cursor := by
  ext1 <;> simp

/-- The next character, if there is one. -/
def peek? (cursor : Cursor) : Option Char :=
  cursor.rest.head?

/-- The next `n` characters, or as many as are left, and the place after them. -/
def read (cursor : Cursor) (n : Nat) : List Char × Cursor :=
  (cursor.rest.take n, cursor.advance n)

/-- All that is left, and the place after it. -/
def readAll (cursor : Cursor) : List Char × Cursor :=
  cursor.read cursor.rest.length

/-- The rest of the line up to a character of class `stop`, and the place after it. -/
def takeLine (cursor : Cursor) (stop : Char → Bool) : List Char × Cursor :=
  let line := Text.lineUntil stop cursor.rest
  (line, cursor.advance line.length)

/-- The run of space that comes next. -/
def space (cursor : Cursor) : List Char :=
  Text.lineUntil (fun c => !Text.isSpace c) cursor.rest

/-- Whether space comes next. -/
def atSpace (cursor : Cursor) : Bool :=
  !cursor.space.isEmpty

/-- Moves past the run of space that comes next. -/
def dropSpace (cursor : Cursor) : Cursor :=
  cursor.advance cursor.space.length

/-- Moves past the next character if it is `c`. -/
def dropChar (cursor : Cursor) (c : Char) : Cursor :=
  if cursor.peek? = some c then cursor.advance 1 else cursor

end Cursor
end FeatureLexer
