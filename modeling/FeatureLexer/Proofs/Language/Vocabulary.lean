import FeatureLexer.Proofs.Language.LongestSpelling
import FeatureLexer.Proofs.Text.Line
import Mathlib.Data.List.Nodup

/-!
# The vocabulary of the table

What a spelling needs in order to be found where it is written, beside a place
in the listing of its language. The table has to grant three things, and each of
them could be lost by a single entry:

| what could go wrong | what the table grants |
| --- | --- |
| the first character is taken for space, a comment, a tag or a cell | `LeadsLine.head` |
| the line is cut within the spelling, at a colon | `LeadsLine.passes` |
| two spellings of blocks cannot be told apart without the blanks around them | `nodup_inkOf` |

As in `FeatureLexer.Proofs.Language.Spelling`, the table is checked on bytes. A
character below 0x80 is a byte of its own, so colons and newlines are looked for
as bytes. The first character is compared with the few that lead elsewhere only
if its first byte is one of theirs. For the third row, blanks leave no ink:
spellings that agree but for the blanks around them agree in `inkOf`.
-/

namespace FeatureLexer
namespace Text

/-- The bytes of a text. -/
def bytesOf (s : String) : List UInt8 :=
  s.toByteArray.data.toList

theorem bytesOf_eq (s : String) : bytesOf s = s.toList.flatMap String.utf8EncodeChar := by
  obtain ⟨chars, rfl⟩ := s.exists_eq_ofList
  rw [bytesOf, String.toByteArray_ofList, List.utf8Encode, List.data_toByteArray,
    String.toList_ofList]

/-! ### Ink -/

/-- The bytes of a character that no blank character has. -/
def inkOfChar (c : Char) : List UInt8 :=
  (String.utf8EncodeChar c).filter (!isBlankByte ·)

/-- The bytes of a text that no blank character has. -/
def inkOf (s : String) : List UInt8 :=
  (bytesOf s).filter (!isBlankByte ·)

theorem inkOf_eq_flatMap (s : String) : inkOf s = s.toList.flatMap inkOfChar := by
  rw [inkOf, bytesOf_eq, List.filter_flatMap]
  rfl

theorem flatMap_inkOfChar_of_blanks {blanks : List Char} (h : ∀ c ∈ blanks, isBlank c = true) :
    blanks.flatMap inkOfChar = [] := by
  rw [List.flatMap_eq_nil_iff]
  intro c hc
  rw [inkOfChar, List.filter_eq_nil_iff]
  intro byte hbyte
  simp [isBlankByte_of_isBlank (h c hc) hbyte]

/-- **Blanks around a text leave no ink.** -/
theorem inkOf_eq (s : String) : inkOf s = (trimBlank s.toList).flatMap inkOfChar := by
  obtain ⟨before, after, hs, hbefore, hafter⟩ := trim_decomposition isBlank s.toList
  calc inkOf s
      = (before ++ trimBlank s.toList ++ after).flatMap inkOfChar := by
        rw [inkOf_eq_flatMap]
        exact congrArg (List.flatMap inkOfChar) hs
    _ = (trimBlank s.toList).flatMap inkOfChar := by
        simp [List.flatMap_append, flatMap_inkOfChar_of_blanks hbefore,
          flatMap_inkOfChar_of_blanks hafter]

/-! ### The start of a line -/

/-- Whether a character at the start of a line leads to something else than a
keyword: to space, a comment, a tag or a cell. -/
def leadsAway (c : Char) : Bool :=
  c == '#' || c == '@' || c == '|' || isBlank c

/-- Whether a text can be found at the start of a line: a reading up to the next
colon passes it, and its first character does not lead elsewhere. -/
structure LeadsLine (s : List Char) : Prop where
  ne_nil : s ≠ []
  passes : Passes (· == ':') s
  head : ∀ c ∈ s.head?, leadsAway c = false

/-- The characters that lead elsewhere. -/
def awayChars : List Char :=
  '#' :: '@' :: '|' :: blankTable.flatMap fun range => charsBetween range.1 (range.2 + 1)

theorem mem_awayChars {c : Char} (h : leadsAway c = true) : c ∈ awayChars := by
  simp only [leadsAway, Bool.or_eq_true, beq_iff_eq] at h
  rcases h with ((rfl | rfl) | rfl) | hblank
  · exact List.mem_cons_self
  · exact List.mem_cons_of_mem _ List.mem_cons_self
  · exact List.mem_cons_of_mem _ (List.mem_cons_of_mem _ List.mem_cons_self)
  · obtain ⟨range, hrange, hlo, hhi⟩ := (RangeTable.covers_iff _ _).1 hblank
    refine List.mem_cons_of_mem _ (List.mem_cons_of_mem _ (List.mem_cons_of_mem _ ?_))
    exact List.mem_flatMap.2 ⟨range, hrange, mem_charsBetween hlo (by omega)⟩

/-- Whether a byte occurs in the encoding of a character that leads elsewhere. -/
def isAwayByte (byte : UInt8) : Bool :=
  byte == 0x23 || byte == 0x40 || byte == 0x7c || isBlankByte byte

theorem isAwayByte_of_leadsAway {c : Char} (h : leadsAway c = true) {byte : UInt8}
    (hbyte : byte ∈ String.utf8EncodeChar c) : isAwayByte byte = true := by
  simp only [leadsAway, Bool.or_eq_true, beq_iff_eq] at h
  rcases h with ((rfl | rfl) | rfl) | hblank
  · obtain rfl : byte = 0x23 := List.mem_singleton.1 hbyte
    rfl
  · obtain rfl : byte = 0x40 := List.mem_singleton.1 hbyte
    rfl
  · obtain rfl : byte = 0x7c := List.mem_singleton.1 hbyte
    rfl
  · simp [isAwayByte, isBlankByte_of_isBlank hblank hbyte]

/-- Whether a text does not begin with a character that leads elsewhere, told
from its bytes. -/
def beginsKeyword (s : String) : Bool :=
  (bytesOf s).head?.any (!isAwayByte ·) ||
    awayChars.all fun c => !(String.utf8EncodeChar c).isPrefixOf (bytesOf s)

theorem leadsAway_head {s : String} (h : beginsKeyword s = true) :
    ∀ c ∈ s.toList.head?, leadsAway c = false := by
  intro c hc
  obtain ⟨rest, hs⟩ := List.head?_eq_some_iff.1 hc
  have hbytes : bytesOf s = String.utf8EncodeChar c ++ rest.flatMap String.utf8EncodeChar := by
    rw [bytesOf_eq, hs, List.flatMap_cons]
  rw [← Bool.not_eq_true]
  intro haway
  rcases Bool.or_eq_true_iff.1 h with hfirst | hall
  · obtain ⟨byte, hbyte, hnot⟩ := (Option.any_eq_true _ _).1 hfirst
    rw [hbytes, List.head?_append_of_ne_nil _ String.utf8EncodeChar_ne_nil] at hbyte
    rw [isAwayByte_of_leadsAway haway (List.mem_of_mem_head? hbyte)] at hnot
    exact Bool.false_ne_true hnot
  · have hnot := List.all_eq_true.1 hall c (mem_awayChars haway)
    rw [hbytes, List.isPrefixOf_iff_prefix.2 (List.prefix_append _ _)] at hnot
    exact Bool.false_ne_true hnot

/-- Whether a text holds neither a colon nor a newline, told from its bytes. -/
def staysBeforeColon (s : String) : Bool :=
  (bytesOf s).all fun byte => byte != 0x3a && byte != 0x0a

theorem passes_colon {s : String} (h : staysBeforeColon s = true) :
    Passes (· == ':') s.toList := by
  intro c hc
  have hbytes : ∀ byte ∈ String.utf8EncodeChar c, (byte != 0x3a && byte != 0x0a) = true := by
    intro byte hbyte
    refine List.all_eq_true.1 h byte ?_
    rw [bytesOf_eq]
    exact List.mem_flatMap.2 ⟨c, hc, hbyte⟩
  constructor
  · rintro rfl
    exact absurd (hbytes 0x0a (by decide)) (by decide)
  · rw [beq_eq_false_iff_ne]
    rintro rfl
    exact absurd (hbytes 0x3a (by decide)) (by decide)

/-- **The bytes tell whether a text can be found** at the start of a line. -/
theorem leadsLine_toList {s : String} (h : (staysBeforeColon s && beginsKeyword s) = true)
    (hne : trimBlank s.toList ≠ []) : LeadsLine s.toList := by
  rw [Bool.and_eq_true] at h
  refine ⟨?_, passes_colon h.1, leadsAway_head h.2⟩
  intro hnil
  exact hne (by rw [hnil]; rfl)

end Text

namespace Dialect

open Text

theorem blockSpellings_lead :
    (Block.all.all fun block => all.all fun dialect => (dialect.blockSpellings block).all
      fun spelling => staysBeforeColon spelling && beginsKeyword spelling) = true := by
  decide +kernel

theorem stepSpellings_lead :
    (StepKeyword.all.all fun keyword => all.all fun dialect =>
      (dialect.stepSpellings keyword).all
        fun spelling => staysBeforeColon spelling && beginsKeyword spelling) = true := by
  decide +kernel

theorem nodup_inkOf : ∀ dialect ∈ all,
    ((Block.all.flatMap dialect.blockSpellings).map inkOf).Nodup := by
  decide +kernel

/-- **Every spelling of a block can be found** at the start of a line. -/
theorem leadsLine_blockSpelling {dialect : Dialect} (hd : dialect ∈ all) {block : Block}
    {spelling : String} (hs : spelling ∈ dialect.blockSpellings block) :
    LeadsLine spelling.toList := by
  have hall := List.all_eq_true.1 blockSpellings_lead block block.mem_all
  have hlead := List.all_eq_true.1 (List.all_eq_true.1 hall dialect hd) spelling hs
  exact leadsLine_toList hlead (trimBlank_blockSpelling_ne_nil hd hs)

/-- **So can every spelling of a step keyword.** -/
theorem leadsLine_stepSpelling {dialect : Dialect} (hd : dialect ∈ all) {keyword : StepKeyword}
    {spelling : String} (hs : spelling ∈ dialect.stepSpellings keyword) :
    LeadsLine spelling.toList := by
  have hall := List.all_eq_true.1 stepSpellings_lead keyword keyword.mem_all
  have hlead := List.all_eq_true.1 (List.all_eq_true.1 hall dialect hd) spelling hs
  exact leadsLine_toList hlead (trimBlank_stepSpelling_ne_nil hd hs)

/-- **The spellings of blocks differ in more than blanks.** -/
theorem eq_of_trimBlank_eq {dialect : Dialect} (hd : dialect ∈ all) {block other : Block}
    {spelling spelling' : String} (hs : spelling ∈ dialect.blockSpellings block)
    (hs' : spelling' ∈ dialect.blockSpellings other)
    (h : trimBlank spelling.toList = trimBlank spelling'.toList) : spelling = spelling' := by
  have hink : inkOf spelling = inkOf spelling' := by rw [inkOf_eq, inkOf_eq, h]
  refine List.inj_on_of_nodup_map (nodup_inkOf dialect hd) ?_ ?_ hink
  · exact List.mem_flatMap.2 ⟨block, block.mem_all, hs⟩
  · exact List.mem_flatMap.2 ⟨other, other.mem_all, hs'⟩

/-- **A spelling opens the first block that lists it,** as it is written there. -/
theorem blockSpelled?_trimBlank {dialect : Dialect} (hd : dialect ∈ all) {block : Block}
    {spelling : String} (hs : spelling ∈ dialect.blockSpellings block) :
    ∃ first, Block.all.find? (fun other => (dialect.blockSpellings other).contains spelling) =
        some first ∧
      dialect.blockSpelled? (trimBlank spelling.toList) = some first := by
  have hsame : dialect.blockSpelled? (trimBlank spelling.toList) =
      Block.all.find? fun other => (dialect.blockSpellings other).contains spelling := by
    unfold blockSpelled?
    congr 1
    funext other
    rw [Bool.eq_iff_iff, List.contains_iff_mem, List.contains_iff_mem, List.mem_map]
    constructor
    · rintro ⟨spelling', hs', htrim⟩
      rwa [eq_of_trimBlank_eq hd hs hs' htrim.symm]
    · intro hmem
      exact ⟨spelling, hmem, rfl⟩
  have hsome : (Block.all.find? fun other =>
      (dialect.blockSpellings other).contains spelling).isSome = true := by
    rw [List.find?_isSome]
    exact ⟨block, block.mem_all, List.contains_iff_mem.2 hs⟩
  obtain ⟨first, hfirst⟩ := Option.isSome_iff_exists.1 hsome
  exact ⟨first, hfirst, hsame.trans hfirst⟩

end Dialect
end FeatureLexer
