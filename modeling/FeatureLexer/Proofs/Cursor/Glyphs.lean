import FeatureLexer.Proofs.Text.Line

/-!
# A cell, glyph by glyph

`Cell.read` decodes the pairs of a cell and looks for its end in one go, and a
backslash can be four things to it: the first half of a pair, the second half, a
character that stands for itself, or the end of the cell. Here the two tasks are
taken apart. `Cell.glyphs` divides a text into its glyphs, from the left, and
knows nothing of where a cell ends:

| glyph | written | stands for |
| --- | --- | --- |
| `pair .bar` | `\|` | the bar |
| `pair .newline` | `\n` | the newline |
| `pair .backslash` | `\\` | the backslash |
| `lone c` | `c` | `c` |

Reading a cell is then taking glyphs as long as none of them is a newline or
a character to stop at (`read_eq_takeWhile`); a pair is taken in any case. What
was read has the glyphs that were taken, and what is left has the others
(`glyphs_of_append`): the cut never goes through a pair, and it never makes one.
-/

namespace FeatureLexer
namespace Cell

/-- The pairs that stand for one character. -/
inductive Escape where
  | bar
  | newline
  | backslash
deriving DecidableEq, Repr

namespace Escape

/-- The character behind the backslash. -/
def letter : Escape → Char
  | bar => '|'
  | newline => 'n'
  | backslash => '\\'

/-- The character that a pair stands for. -/
def meaning : Escape → Char
  | bar => '|'
  | newline => '\n'
  | backslash => '\\'

/-- A pair as it is written. -/
def written (escape : Escape) : List Char :=
  ['\\', escape.letter]

end Escape

/-- What a text consists of, where pairs count as one. -/
inductive Glyph where
  | pair (escape : Escape)
  | lone (c : Char)
deriving DecidableEq, Repr

namespace Glyph

/-- A glyph as it is written. -/
def written : Glyph → List Char
  | pair escape => escape.written
  | lone c => [c]

/-- The character that a glyph stands for. -/
def meaning : Glyph → Char
  | pair escape => escape.meaning
  | lone c => c

/-- Whether a cell goes on behind a glyph, if it ends at the class `stop`. -/
def goesOn (stop : Char → Bool) : Glyph → Bool
  | pair _ => true
  | lone c => c != '\n' && !stop c

end Glyph

/-- Divides a text into its glyphs: from the left, a pair wherever there is one. -/
def glyphs : List Char → List Glyph
  | '\\' :: '|' :: rest => .pair .bar :: glyphs rest
  | '\\' :: 'n' :: rest => .pair .newline :: glyphs rest
  | '\\' :: '\\' :: rest => .pair .backslash :: glyphs rest
  | c :: rest => .lone c :: glyphs rest
  | [] => []

/-- Whether a text begins with a pair. -/
def BeginsPair (s : List Char) : Prop :=
  ∃ escape : Escape, escape.written <+: s

/-- Whether a cell ends before a text: the text is empty, or begins with the
newline or with a character of the class `stop` that begins no pair. -/
def EndsCell (stop : Char → Bool) : List Char → Prop
  | [] => True
  | c :: rest => c = '\n' ∨ stop c = true ∧ ¬BeginsPair (c :: rest)

/-! ### Two equations for each definition -/

theorem beginsPair_written_append (escape : Escape) (s : List Char) :
    BeginsPair (escape.written ++ s) :=
  ⟨escape, List.prefix_append _ _⟩

theorem BeginsPair.of_isPrefix {s t : List Char} (h : BeginsPair s) (hs : s <+: t) :
    BeginsPair t := by
  obtain ⟨escape, hescape⟩ := h
  exact ⟨escape, hescape.trans hs⟩

theorem glyphs_pair (escape : Escape) (s : List Char) :
    glyphs (escape.written ++ s) = .pair escape :: glyphs s := by
  cases escape with
  | bar => rfl
  | newline => rfl
  | backslash => rfl

theorem glyphs_lone {c : Char} {s : List Char} (h : ¬BeginsPair (c :: s)) :
    glyphs (c :: s) = .lone c :: glyphs s := by
  rw [glyphs]
  · rintro rest rfl rfl
    exact h (beginsPair_written_append .bar rest)
  · rintro rest rfl rfl
    exact h (beginsPair_written_append .newline rest)
  · rintro rest rfl rfl
    exact h (beginsPair_written_append .backslash rest)

theorem read_pair (stop : Char → Bool) (escape : Escape) (s : List Char) :
    read stop (escape.written ++ s) =
      (escape.meaning :: (read stop s).1, (read stop s).2 + 2) := by
  cases escape with
  | bar => rfl
  | newline => rfl
  | backslash => rfl

theorem unescape?_eq_none {c : Char} (h : ∀ escape : Escape, c ≠ escape.letter) :
    unescape? c = none := by
  rw [unescape?]
  · exact h .bar
  · exact h .newline
  · exact h .backslash

theorem read_lone (stop : Char → Bool) {c : Char} {s : List Char} (h : ¬BeginsPair (c :: s)) :
    read stop (c :: s) =
      if Glyph.goesOn stop (.lone c) then (c :: (read stop s).1, (read stop s).2 + 1)
      else ([], 0) := by
  by_cases hc : c = '\\'
  · subst hc
    cases s with
    | nil => cases hstop : stop '\\' <;> simp [read, Glyph.goesOn, hstop]
    | cons d s =>
      have hpair : unescape? d = none := by
        refine unescape?_eq_none fun escape hd => h ?_
        rw [hd]
        exact beginsPair_written_append escape s
      rw [read]
      simp only [hpair]
      cases hstop : stop '\\' <;> simp [Glyph.goesOn, hstop]
  · rw [read_cons_of_ne hc]
    by_cases hnewline : c = '\n'
    · simp [Glyph.goesOn, hnewline]
    · cases hstop : stop c <;> simp [Glyph.goesOn, hnewline, hstop]

/-- **Induction along the glyphs of a text.** To show something of every text,
show it of the empty one, of a pair in front of a text of which it holds, and of
a character that begins no pair there. -/
@[elab_as_elim]
theorem glyph_induction {motive : List Char → Prop} (nil : motive [])
    (pair : ∀ (escape : Escape) (s : List Char), motive s → motive (escape.written ++ s))
    (lone : ∀ (c : Char) (s : List Char), ¬BeginsPair (c :: s) → motive s → motive (c :: s))
    (s : List Char) : motive s := by
  induction hn : s.length using Nat.strongRecOn generalizing s with
  | ind n ih =>
    by_cases hpair : BeginsPair s
    · obtain ⟨escape, rest, rfl⟩ := hpair
      rw [List.length_append] at hn
      have hwritten : escape.written.length = 2 := rfl
      exact pair escape rest (ih rest.length (by omega) rest rfl)
    · cases s with
      | nil => exact nil
      | cons c s =>
        rw [List.length_cons] at hn
        exact lone c s hpair (ih s.length (by omega) s rfl)

/-! ### Reading is taking glyphs -/

/-- **A text is the writing of its glyphs.** -/
theorem flatMap_written_glyphs (s : List Char) : (glyphs s).flatMap Glyph.written = s := by
  induction s using glyph_induction with
  | nil => rfl
  | pair escape s ih => rw [glyphs_pair, List.flatMap_cons, ih, Glyph.written]
  | lone c s hc ih =>
    rw [glyphs_lone hc, List.flatMap_cons, ih, Glyph.written, List.singleton_append]

/-- **A cell is read glyph by glyph,** up to the first one that ends it. -/
theorem read_eq_takeWhile (stop : Char → Bool) (s : List Char) :
    read stop s =
      (((glyphs s).takeWhile (Glyph.goesOn stop)).map Glyph.meaning,
        (((glyphs s).takeWhile (Glyph.goesOn stop)).flatMap Glyph.written).length) := by
  induction s using glyph_induction with
  | nil => rfl
  | pair escape s ih =>
    have hgoes : Glyph.goesOn stop (.pair escape) = true := rfl
    rw [read_pair, glyphs_pair, List.takeWhile_cons_of_pos hgoes, List.map_cons, List.flatMap_cons,
      List.length_append, ih, Nat.add_comm]
    rfl
  | lone c s hc ih =>
    rw [read_lone stop hc, glyphs_lone hc]
    by_cases hgoes : Glyph.goesOn stop (.lone c) = true
    · rw [if_pos hgoes, List.takeWhile_cons_of_pos hgoes, List.map_cons, List.flatMap_cons,
        List.length_append, ih, Nat.add_comm]
      rfl
    · rw [if_neg hgoes, List.takeWhile_cons_of_neg hgoes]
      rfl

/-- The first glyphs of a text are those of the part that they write: what follows
the part makes no pair with its last character. -/
theorem glyphs_flatMap_of_isPrefix {s : List Char} {kept : List Glyph} (h : kept <+: glyphs s) :
    glyphs (kept.flatMap Glyph.written) = kept := by
  induction s using glyph_induction generalizing kept with
  | nil =>
    rw [List.prefix_nil.1 h]
    rfl
  | pair escape s ih =>
    cases kept with
    | nil => rfl
    | cons glyph kept =>
      rw [glyphs_pair] at h
      obtain ⟨rfl, hkept⟩ := List.cons_prefix_cons.1 h
      rw [List.flatMap_cons, Glyph.written, glyphs_pair, ih hkept]
  | lone c s hc ih =>
    cases kept with
    | nil => rfl
    | cons glyph kept =>
      rw [glyphs_lone hc] at h
      obtain ⟨rfl, hkept⟩ := List.cons_prefix_cons.1 h
      have hpart : kept.flatMap Glyph.written <+: s := by
        obtain ⟨left, hleft⟩ := hkept
        refine ⟨left.flatMap Glyph.written, ?_⟩
        rw [← List.flatMap_append, hleft, flatMap_written_glyphs]
      have hlone : ¬BeginsPair (c :: kept.flatMap Glyph.written) := fun hpair =>
        hc (hpair.of_isPrefix (List.cons_prefix_cons.2 ⟨rfl, hpart⟩))
      rw [List.flatMap_cons, Glyph.written, List.singleton_append, glyphs_lone hlone, ih hkept]

/-- The last glyphs of a text are those of the part that they write. -/
theorem glyphs_flatMap_of_isSuffix {s : List Char} {left : List Glyph} (h : left <:+ glyphs s) :
    glyphs (left.flatMap Glyph.written) = left := by
  induction s using glyph_induction with
  | nil =>
    rw [List.suffix_nil.1 h]
    rfl
  | pair escape s ih =>
    rw [glyphs_pair] at h
    rcases List.suffix_cons_iff.1 h with rfl | hleft
    · rw [← glyphs_pair, flatMap_written_glyphs]
    · exact ih hleft
  | lone c s hc ih =>
    rw [glyphs_lone hc] at h
    rcases List.suffix_cons_iff.1 h with rfl | hleft
    · rw [← glyphs_lone hc, flatMap_written_glyphs]
    · exact ih hleft

/-- **A text can be cut between any two of its glyphs,** and each part keeps its
own. -/
theorem glyphs_of_append {s : List Char} {kept left : List Glyph} (h : glyphs s = kept ++ left) :
    s = kept.flatMap Glyph.written ++ left.flatMap Glyph.written ∧
      glyphs (kept.flatMap Glyph.written) = kept ∧ glyphs (left.flatMap Glyph.written) = left := by
  refine ⟨?_, ?_, ?_⟩
  · rw [← List.flatMap_append, ← h, flatMap_written_glyphs]
  · exact glyphs_flatMap_of_isPrefix (s := s) ⟨left, h.symm⟩
  · exact glyphs_flatMap_of_isSuffix (s := s) ⟨kept, h.symm⟩

/-- What is taken holds no newline: no pair is written with one, and the cell does
not go on behind a newline. -/
theorem newline_notMem_written {stop : Char → Bool} {glyph : Glyph}
    (h : glyph.goesOn stop = true) : '\n' ∉ glyph.written := by
  cases glyph with
  | pair escape =>
    cases escape with
    | bar => decide
    | newline => decide
    | backslash => decide
  | lone c =>
    simp only [Glyph.goesOn, Bool.and_eq_true, bne_iff_ne] at h
    rw [Glyph.written, List.mem_singleton]
    exact Ne.symm h.1

/-- A cell ends before a text whose first glyph ends it. -/
theorem endsCell_of_glyphs {stop : Char → Bool} {s : List Char}
    (h : (glyphs s).head?.any (Glyph.goesOn stop) = false) : EndsCell stop s := by
  cases s with
  | nil => trivial
  | cons c rest =>
    by_cases hpair : BeginsPair (c :: rest)
    · obtain ⟨escape, after, hescape⟩ := hpair
      rw [← hescape, glyphs_pair] at h
      exact absurd h (by simp [Glyph.goesOn])
    · rw [glyphs_lone hpair] at h
      have hends : Glyph.goesOn stop (.lone c) = false := h
      simp only [Glyph.goesOn, Bool.and_eq_false_iff, bne_eq_false_iff_eq,
        Bool.not_eq_false'] at hends
      exact hends.imp_right fun hstop => ⟨hstop, hpair⟩

/-- **What reading a cell cuts off:** a part whose glyphs all let the cell go on,
in front of a text before which it ends. -/
theorem exists_glyphs_of_read (stop : Char → Bool) (s : List Char) :
    ∃ raw rest, s = raw ++ rest ∧ glyphs s = glyphs raw ++ glyphs rest ∧
      read stop s = ((glyphs raw).map Glyph.meaning, raw.length) ∧
      (∀ glyph ∈ glyphs raw, glyph.goesOn stop = true) ∧ EndsCell stop rest := by
  have hsplit : glyphs s = (glyphs s).takeWhile (Glyph.goesOn stop) ++
      (glyphs s).dropWhile (Glyph.goesOn stop) := List.takeWhile_append_dropWhile.symm
  obtain ⟨hs, hraw, hrest⟩ := glyphs_of_append hsplit
  refine ⟨_, _, hs, ?_, ?_, ?_, ?_⟩
  · rw [hraw, hrest]
    exact hsplit
  · rw [hraw]
    exact read_eq_takeWhile stop s
  · rw [hraw]
    exact fun glyph hglyph => List.all_eq_true.1 List.all_takeWhile glyph hglyph
  · refine endsCell_of_glyphs ?_
    rw [hrest]
    have hhead := List.head?_dropWhile_not (Glyph.goesOn stop) (glyphs s)
    cases hfirst : ((glyphs s).dropWhile (Glyph.goesOn stop)).head? with
    | none => rfl
    | some glyph =>
      rw [hfirst] at hhead
      simpa using hhead

end Cell

open Cell

/-- **Reading a cell is exact,** for every text, every place in it and every class
of characters to stop at. Let `raw` be the text from where the cursor was to where
it is then. It holds no newline, what was read is what its glyphs stand for, in
their order, and no character that stands for itself is of the class. Behind it
the text ends, or begins with a newline, or with a character of the class that
begins no pair. The cut falls between two glyphs of the text, so that it could
not have been made elsewhere. At the end of the text and past it nothing is read,
and the cursor stays where it is. -/
theorem reading_cell_is_exact (cursor : Cursor) (stop : Char → Bool) :
    let contents := (cursor.takeCell stop).1
    let after := (cursor.takeCell stop).2
    let raw := (cursor.text.drop cursor.pos).take (after.pos - cursor.pos)
    after.text = cursor.text ∧ after.pos = cursor.pos + raw.length ∧
    cursor.rest = raw ++ after.rest ∧
    '\n' ∉ raw ∧
    contents = (glyphs raw).map Glyph.meaning ∧
    (∀ c, .lone c ∈ glyphs raw → stop c = false) ∧
    EndsCell stop after.rest ∧
    glyphs cursor.rest = glyphs raw ++ glyphs after.rest ∧
    (cursor.text.length ≤ cursor.pos → contents = [] ∧ after = cursor) := by
  intro contents after raw
  obtain ⟨part, rest, hs, hglyphs, hread, hgoes, hends⟩ := exists_glyphs_of_read stop cursor.rest
  have hcontents : contents = (glyphs part).map Glyph.meaning := congrArg Prod.fst hread
  have hafter : after = cursor.advance part.length :=
    congrArg (fun cell : List Char × Nat => cursor.advance cell.2) hread
  have hlength : part.length ≤ cursor.rest.length := by
    rw [hs, List.length_append]
    exact Nat.le_add_right _ _
  have hpos : after.pos = cursor.pos + part.length := by
    rw [hafter, Cursor.pos_advance, Nat.min_eq_left hlength]
  have hrest : after.rest = rest := by
    rw [hafter, Cursor.rest_advance, hs, List.drop_left]
  have hraw : raw = part := by
    show (cursor.text.drop cursor.pos).take (after.pos - cursor.pos) = part
    rw [← cursor.rest_eq, hpos, Nat.add_sub_cancel_left, hs, List.take_left]
  rw [hraw, hrest]
  refine ⟨?_, hpos, hs, ?_, hcontents, ?_, hends, hglyphs, ?_⟩
  · rw [hafter, Cursor.text_advance]
  · -- The part is the writing of its glyphs, and none of these is written with a newline.
    intro hmem
    rw [← flatMap_written_glyphs part] at hmem
    obtain ⟨glyph, hglyph, hnewline⟩ := List.mem_flatMap.1 hmem
    exact newline_notMem_written (hgoes glyph hglyph) hnewline
  · intro c hc
    have hgoes := hgoes _ hc
    simp only [Glyph.goesOn, Bool.and_eq_true, Bool.not_eq_true'] at hgoes
    exact hgoes.2
  · intro hend
    have hnil : cursor.rest = [] := by
      rw [cursor.rest_eq, List.drop_eq_nil_of_le hend]
    rw [hnil] at hs
    obtain ⟨rfl, -⟩ := List.append_eq_nil_iff.1 hs.symm
    exact ⟨hcontents, hafter.trans cursor.advance_zero⟩

/-- The theorem at work from the second character of a text, where the backslash is
itself to stop at: past two pairs and a character, up to the backslash that begins
none. From a place past the end it reads nothing. -/
theorem reading_cell_is_exact_backslash :
    let cursor := (Cursor.ofText "a\\\\\\nx\\y|".toList).seek 1
    let past := cursor.seek 12
    let after := (cursor.takeCell (· == '\\')).2
    after.pos = 6 ∧ after.rest = "\\y|".toList ∧
      (cursor.takeCell (· == '\\')).1 = "\\\nx".toList ∧ EndsCell (· == '\\') after.rest ∧
      past.text.length ≤ past.pos ∧ past.takeCell (· == '\\') = ([], past) := by
  intro cursor past after
  have hcut := reading_cell_is_exact cursor (· == '\\')
  have hend : past.text.length ≤ past.pos := by decide
  obtain ⟨hcontents, hstays⟩ := (reading_cell_is_exact past (· == '\\')).2.2.2.2.2.2.2.2 hend
  exact ⟨by decide, by decide, by decide, hcut.2.2.2.2.2.2.1, hend, Prod.ext hcontents hstays⟩

end FeatureLexer
