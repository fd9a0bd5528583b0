/-!
# Tables of code points

A property of characters that a standard fixes by enumeration is kept as a
table of closed intervals of code points, in ascending order. A text is the
list of its characters, which are Unicode scalar values; every length and
every position in this library counts them.
-/

namespace FeatureLexer
namespace Text

/-- Closed intervals `(first, last)` of code points, in ascending order. -/
abbrev RangeTable := List (Nat × Nat)

/-- Whether a code point lies in one of the intervals of a table. -/
def RangeTable.covers (table : RangeTable) (code : Nat) : Bool :=
  table.any fun range => decide (range.1 ≤ code) && decide (code ≤ range.2)

theorem RangeTable.covers_iff (table : RangeTable) (code : Nat) :
    table.covers code = true ↔ ∃ range ∈ table, range.1 ≤ code ∧ code ≤ range.2 := by
  simp [RangeTable.covers]

/-- The intervals are non-empty, ascending and apart from one another. -/
def RangeTable.ordered : RangeTable → Bool
  | [] => true
  | [range] => decide (range.1 ≤ range.2)
  | range :: next :: rest =>
    decide (range.1 ≤ range.2) && decide (range.2 < next.1) && RangeTable.ordered (next :: rest)

/-- The number of code points in the intervals of an ordered table. -/
def RangeTable.size (table : RangeTable) : Nat :=
  table.foldl (fun total range => total + (range.2 + 1 - range.1)) 0

/-- The characters with code points from `start` up to, and not including,
`stop`; surrogates are no characters. -/
def charsBetween (start stop : Nat) : List Char :=
  (List.range' start (stop - start)).filterMap fun code =>
    if code.isValidChar then some (Char.ofNat code) else none

end Text
end FeatureLexer
