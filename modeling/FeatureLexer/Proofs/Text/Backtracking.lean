import FeatureLexer.Text.Blank
import Mathlib.Data.List.TakeWhile

/-!
# Matching by backtracking

A shape describes the start of a text by parts that follow each other. A part that
repeats a class of characters may take more or fewer of them: a *greedy* one takes
as many as it can, a *lazy* one as few as it can. Both give way: where what follows
does not match, a greedy part takes one character less and a lazy part one more.
The first way that is found counts, so it is the order of trying that decides what
each part takes.

For most repetitions this comes to less than it seems to:

| a repetition | takes | lemma |
| --- | --- | --- |
| greedy, before what matches behind the longest run | the longest run | `greedyThen_of_some` |
| greedy, before what never begins in the class | the longest run | `greedyThen_of_fails` |
| lazy | the shortest run behind which the rest matches | `lazyThen_of_some` |

A line that is read up to blanks at its end, with a lazy part between two greedy
ones, is thereby trimmed (`find?_trimmed`).
-/

namespace FeatureLexer
namespace Text

/-- A part of a shape. -/
inductive Part where
  /-- A text as it is written. -/
  | literal (text : List Char)
  /-- Characters of a class, as many as possible. -/
  | greedy (kind : Char → Bool)
  /-- Characters of a class, as few as possible. -/
  | lazy (kind : Char → Bool)
  /-- Nothing, at the end of the text or before a newline that ends it. -/
  | atEnd

section

variable {α : Type} (kind : Char → Bool) (next : List Char → Option α)

/-- Takes characters of a class and goes on behind them, trying the longest run
first. -/
def greedyThen : List Char → Option (List Char × α)
  | [] => (next []).map ([], ·)
  | c :: s =>
    if kind c then
      ((greedyThen s).map fun found => (c :: found.1, found.2)).or ((next (c :: s)).map ([], ·))
    else (next (c :: s)).map ([], ·)

/-- Takes characters of a class and goes on behind them, trying the shortest run
first. -/
def lazyThen : List Char → Option (List Char × α)
  | [] => (next []).map ([], ·)
  | c :: s =>
    ((next (c :: s)).map ([], ·)).or
      (if kind c then (lazyThen s).map fun found => (c :: found.1, found.2) else none)

end

/-- What the parts of a shape take from the start of a text, if it has that shape. -/
def find? : List Part → List Char → Option (List (List Char))
  | [], _ => some []
  | .literal text :: parts, s =>
    if text.isPrefixOf s then (find? parts (s.drop text.length)).map (text :: ·) else none
  | .greedy kind :: parts, s =>
    (greedyThen kind (find? parts) s).map fun found => found.1 :: found.2
  | .lazy kind :: parts, s => (lazyThen kind (find? parts) s).map fun found => found.1 :: found.2
  | .atEnd :: parts, s =>
    if s = [] ∨ s = ['\n'] then (find? parts s).map ([] :: ·) else none

example : find? [.greedy (· == 'a'), .literal "ab".toList] "aab".toList =
    some ["a".toList, "ab".toList] := by decide

theorem find?_greedy (kind : Char → Bool) (parts : List Part) (s : List Char) :
    find? (.greedy kind :: parts) s =
      (greedyThen kind (find? parts) s).map fun found => found.1 :: found.2 :=
  rfl

/-! ### What a repetition takes -/

section

variable {α : Type} {kind : Char → Bool} {next : List Char → Option α} {s : List Char}

/-- **A greedy part takes the longest run** if what follows matches behind it. -/
theorem greedyThen_of_some {result : α} (h : next (s.dropWhile kind) = some result) :
    greedyThen kind next s = some (s.takeWhile kind, result) := by
  induction s with
  | nil =>
    rw [List.dropWhile_nil] at h
    rw [greedyThen, h]
    rfl
  | cons c s ih =>
    rw [greedyThen]
    by_cases hc : kind c = true
    · rw [List.dropWhile_cons_of_pos hc] at h
      rw [if_pos hc, ih h, List.takeWhile_cons_of_pos hc]
      rfl
    · rw [List.dropWhile_cons_of_neg hc] at h
      rw [if_neg hc, h, List.takeWhile_cons_of_neg hc]
      rfl

/-- **So it does if what follows does not begin in the class:** there is nothing to
be gained by giving way. -/
theorem greedyThen_of_fails
    (h : ∀ c t, c :: t <:+ s → kind c = true → next (c :: t) = none) :
    greedyThen kind next s = (next (s.dropWhile kind)).map (s.takeWhile kind, ·) := by
  induction s with
  | nil => rfl
  | cons c s ih =>
    rw [greedyThen]
    by_cases hc : kind c = true
    · have hlater := ih fun d t ht => h d t (ht.trans (List.suffix_cons c s))
      rw [if_pos hc, hlater, h c s (List.suffix_refl _) hc, List.dropWhile_cons_of_pos hc,
        List.takeWhile_cons_of_pos hc, Option.map_none, Option.or_none, Option.map_map]
      rfl
    · rw [if_neg hc, List.dropWhile_cons_of_neg hc, List.takeWhile_cons_of_neg hc]

/-- **A lazy part takes the shortest run** behind which what follows matches. -/
theorem lazyThen_of_some {taken left : List Char} {result : α}
    (htaken : ∀ c ∈ taken, kind c = true) (hnext : next left = some result)
    (hearlier : ∀ part, part ≠ [] → part <:+ taken → next (part ++ left) = none) :
    lazyThen kind next (taken ++ left) = some (taken, result) := by
  induction taken with
  | nil =>
    rw [List.nil_append]
    cases left with
    | nil =>
      rw [lazyThen, hnext]
      rfl
    | cons c left =>
      rw [lazyThen, hnext]
      rfl
  | cons c taken ih =>
    have hlater := ih (fun d hd => htaken d (List.mem_cons_of_mem c hd))
      fun part hpart hsuffix => hearlier part hpart (hsuffix.trans (List.suffix_cons c taken))
    have hnone : next (c :: (taken ++ left)) = none :=
      hearlier (c :: taken) (List.cons_ne_nil c taken) (List.suffix_refl _)
    rw [List.cons_append, lazyThen, hnone, if_pos (htaken c List.mem_cons_self), hlater]
    rfl

end

/-- Blanks before a text that does not begin with one are taken to the last. -/
theorem find?_blanks_literal {first : Char} (hfirst : isBlank first = false) (text : List Char)
    (parts : List Part) (s : List Char) :
    find? (.greedy isBlank :: .literal (first :: text) :: parts) s =
      (find? (.literal (first :: text) :: parts) (s.dropWhile isBlank)).map
        (s.takeWhile isBlank :: ·) := by
  have hfails (c : Char) (t : List Char) (hc : isBlank c = true) :
      find? (.literal (first :: text) :: parts) (c :: t) = none := by
    have hne : first ≠ c := by
      rintro rfl
      exact Bool.false_ne_true (hfirst.symm.trans hc)
    rw [find?, if_neg (by simp [List.isPrefixOf, hne])]
  rw [find?_greedy, greedyThen_of_fails fun c t _ => hfails c t, Option.map_map]
  rfl

/-! ### Trimming by matching -/

/-- Blanks, and then the end: within a line, that is a text of blanks. -/
theorem find?_blanksToEnd {s : List Char} (hs : '\n' ∉ s) :
    find? [.greedy isBlank, .atEnd] s = if s.all isBlank then some [s, []] else none := by
  have hend {c : Char} {t : List Char} (hsuffix : c :: t <:+ s) :
      find? [.atEnd] (c :: t) = none := by
    have hnewline : c ≠ '\n' := fun hc => hs (hc ▸ hsuffix.subset List.mem_cons_self)
    rw [find?, if_neg (by simp [hnewline])]
  rw [find?_greedy, greedyThen_of_fails fun c t hsuffix _ => hend hsuffix]
  by_cases hall : s.all isBlank = true
  · have hblanks : ∀ c ∈ s, isBlank c = true := List.all_eq_true.1 hall
    rw [if_pos hall, List.dropWhile_eq_nil_iff.2 hblanks, List.takeWhile_eq_self_iff.2 hblanks]
    rfl
  · cases hrest : s.dropWhile isBlank with
    | nil => exact absurd (List.all_eq_true.2 (List.dropWhile_eq_nil_iff.1 hrest)) hall
    | cons c t =>
      have hsuffix : c :: t <:+ s := hrest ▸ List.dropWhile_suffix isBlank
      rw [if_neg hall, hend hsuffix]
      rfl

/-- A part of a trimmed text that reaches to its end is not blank. -/
theorem not_all_isBlank_of_suffix {s part : List Char} (hpart : part ≠ [])
    (hsuffix : part <:+ trimBlank s) (left : List Char) : ¬(part ++ left).all isBlank = true := by
  intro hall
  obtain ⟨front, hfront⟩ := hsuffix
  have hlast := getLast?_trim isBlank s
  rw [← trimBlank, ← hfront, List.getLast?_append, List.getLast?_eq_some_getLast hpart] at hlast
  have hnot : isBlank (part.getLast hpart) = false := hlast
  have hblank := List.all_eq_true.1 hall _ (List.mem_append_left left (List.getLast_mem hpart))
  exact Bool.false_ne_true (hnot.symm.trans hblank)

/-- **A lazy part between blanks is trimmed:** where a shape ends in blanks,
anything and blanks, that anything is the rest of the line without the blanks
around it. -/
theorem find?_trimmed {s : List Char} (hs : '\n' ∉ s) :
    ∃ before after, find? [.greedy isBlank, .lazy (· != '\n'), .greedy isBlank, .atEnd] s =
      some [before, trimBlank s, after, []] := by
  obtain ⟨blanks, hsplit, hblanks⟩ : ∃ blanks, s.dropWhile isBlank = trimBlank s ++ blanks ∧
      ∀ c ∈ blanks, isBlank c = true :=
    ⟨_, (trimEnd_append_takeWhile isBlank (s.dropWhile isBlank)).symm,
      fun c hc => List.all_eq_true.1 List.all_takeWhile c (List.mem_reverse.1 hc)⟩
  have hline : '\n' ∉ trimBlank s ++ blanks := by
    rw [← hsplit]
    exact fun hmem => hs ((List.dropWhile_suffix isBlank).subset hmem)
  have hlazy : lazyThen (· != '\n') (find? [.greedy isBlank, .atEnd]) (trimBlank s ++ blanks) =
      some (trimBlank s, [blanks, []]) := by
    refine lazyThen_of_some ?_ ?_ ?_
    · intro c hc
      have hnewline : c ≠ '\n' := fun h => hline (List.mem_append_left _ (h ▸ hc))
      simpa using hnewline
    · rw [find?_blanksToEnd fun hmem => hline (List.mem_append_right _ hmem),
        if_pos (List.all_eq_true.2 hblanks)]
    · intro part hpart hsuffix
      rw [find?_blanksToEnd, if_neg (not_all_isBlank_of_suffix hpart hsuffix blanks)]
      intro hmem
      refine hline ?_
      rcases List.mem_append.1 hmem with hmem | hmem
      · exact List.mem_append_left _ (hsuffix.subset hmem)
      · exact List.mem_append_right _ hmem
  have hfound : find? [.lazy (· != '\n'), .greedy isBlank, .atEnd] (s.dropWhile isBlank) =
      some [trimBlank s, blanks, []] := by
    rw [find?, hsplit, hlazy]
    rfl
  refine ⟨s.takeWhile isBlank, blanks, ?_⟩
  rw [find?_greedy, greedyThen_of_some hfound]
  rfl

end Text
end FeatureLexer
