/-!
# Listings

A listing pairs spellings with what they stand for, in the order in which
they were listed. Two operations turn the raw listing of a dialect into one
that a text can be matched against: of several entries with one spelling the
first is kept, and longer spellings are moved before shorter ones, entries
of one length staying in order.
-/

namespace FeatureLexer

/-- Spellings with what they stand for. -/
abbrev Listing (κ : Type) := List (List Char × κ)

namespace Listing

variable {κ : Type}

/-- Keeps, of the entries with one spelling, the first. -/
def firstOfEach : Listing κ → Listing κ
  | [] => []
  | entry :: rest => entry :: (firstOfEach rest).filter fun other => other.1 != entry.1

/-- Puts an entry before the first one that is not longer. -/
def insertByLength (entry : List Char × κ) : Listing κ → Listing κ
  | [] => [entry]
  | other :: rest =>
    if other.1.length ≤ entry.1.length then entry :: other :: rest
    else other :: insertByLength entry rest

/-- Sorts a listing by the length of its spellings, the longest first. -/
def longestFirst : Listing κ → Listing κ
  | [] => []
  | entry :: rest => insertByLength entry (longestFirst rest)

theorem lookup_filter_ne {spelling other : List Char} (h : spelling ≠ other) (l : Listing κ) :
    (l.filter fun entry => entry.1 != other).lookup spelling = l.lookup spelling := by
  induction l with
  | nil => rfl
  | cons entry rest ih =>
    obtain ⟨key, value⟩ := entry
    by_cases hk : key = other
    · have hs : (spelling == other) = false := by simpa using h
      simp [hk, List.lookup_cons, ih, hs]
    · simp [hk, List.lookup_cons, ih]

/-- **The first listing wins.** Looking a spelling up gives what it was first
listed for. -/
theorem lookup_firstOfEach (l : Listing κ) (spelling : List Char) :
    (firstOfEach l).lookup spelling = l.lookup spelling := by
  induction l with
  | nil => rfl
  | cons entry rest ih =>
    obtain ⟨key, value⟩ := entry
    by_cases hs : spelling = key
    · simp [firstOfEach, hs]
    · rw [firstOfEach, List.lookup_cons, List.lookup_cons, lookup_filter_ne hs, ih]

theorem mem_insertByLength (entry e : List Char × κ) (l : Listing κ) :
    e ∈ insertByLength entry l ↔ e = entry ∨ e ∈ l := by
  induction l with
  | nil => simp [insertByLength]
  | cons other rest ih =>
    simp only [insertByLength]
    split
    · simp
    · simp only [List.mem_cons, ih]
      exact or_left_comm

/-- **Sorting keeps the entries.** -/
theorem mem_longestFirst (e : List Char × κ) (l : Listing κ) : e ∈ longestFirst l ↔ e ∈ l := by
  induction l with
  | nil => simp [longestFirst]
  | cons entry rest ih => simp [longestFirst, mem_insertByLength, ih]

theorem pairwise_insertByLength (entry : List Char × κ) {l : Listing κ}
    (h : l.Pairwise fun a b => b.1.length ≤ a.1.length) :
    (insertByLength entry l).Pairwise fun a b => b.1.length ≤ a.1.length := by
  induction l with
  | nil => simp [insertByLength]
  | cons other rest ih =>
    obtain ⟨hother, hrest⟩ := List.pairwise_cons.1 h
    simp only [insertByLength]
    split
    next hle =>
      refine List.pairwise_cons.2 ⟨fun b hb => ?_, h⟩
      rcases List.mem_cons.1 hb with rfl | hb
      · exact hle
      · exact Nat.le_trans (hother b hb) hle
    next hlt =>
      refine List.pairwise_cons.2 ⟨fun b hb => ?_, ih hrest⟩
      rcases (mem_insertByLength entry b rest).1 hb with rfl | hb
      · omega
      · exact hother b hb

/-- **Longer spellings come first.** -/
theorem pairwise_longestFirst (l : Listing κ) :
    (longestFirst l).Pairwise fun a b => b.1.length ≤ a.1.length := by
  induction l with
  | nil => simp [longestFirst]
  | cons entry rest ih => exact pairwise_insertByLength entry ih

end Listing
end FeatureLexer
