import FeatureLexer.Language.Name

/-!
# The spellings of the table

Every keyword of the table of dialects has a character that is not blank. A
line that opens a block or a step therefore has something to read
(`Supported.spelling_ne_nil`), and where the line does not begin with a blank,
the spelling stands at its start (`isPrefix_of_openingOf_eq_step`).

The table is checked on the bytes of its spellings. The encodings of the blank
characters share a small stock of bytes, so a text with a byte outside of this
stock is not blank (`exists_not_isBlank`), and the bytes of a text are faster
to come by than its characters.
-/

namespace FeatureLexer
namespace Text

/-- The bytes that occur in the encoding of a blank character. -/
def blankByteTable : RangeTable :=
  [(0x09, 0x0d), (0x1c, 0x20), (0x80, 0x8a), (0x9a, 0x9a), (0x9f, 0xa0), (0xa8, 0xa9), (0xaf, 0xaf),
   (0xc2, 0xc2), (0xe1, 0xe3)]

/-- Whether a byte occurs in the encoding of a blank character. -/
def isBlankByte (byte : UInt8) : Bool :=
  blankByteTable.covers byte.toNat

/-- Whether the encoding of a text has a byte that no blank character has. -/
def hasInk (s : String) : Bool :=
  s.toByteArray.data.toList.any fun byte => !isBlankByte byte

theorem mem_charsBetween {start stop : Nat} {c : Char} (hlo : start ≤ c.toNat)
    (hhi : c.toNat < stop) : c ∈ charsBetween start stop := by
  refine List.mem_filterMap.2 ⟨c.toNat, List.mem_range'_1.2 ⟨hlo, by omega⟩, ?_⟩
  have hvalid : c.toNat.isValidChar := c.valid
  rw [if_pos hvalid, Char.ofNat_toNat]

theorem isBlankByte_of_isBlank {c : Char} (h : isBlank c = true) {byte : UInt8}
    (hbyte : byte ∈ String.utf8EncodeChar c) : isBlankByte byte = true := by
  have check : (blankTable.all fun range => (charsBetween range.1 (range.2 + 1)).all fun c =>
      (String.utf8EncodeChar c).all isBlankByte) = true := by decide +kernel
  obtain ⟨range, hrange, hlo, hhi⟩ := (RangeTable.covers_iff _ _).1 h
  have hchars := List.all_eq_true.1 check range hrange
  have hbytes := List.all_eq_true.1 hchars c (mem_charsBetween hlo (by omega))
  exact List.all_eq_true.1 hbytes byte hbyte

theorem exists_not_isBlank {s : String} (h : hasInk s = true) :
    ∃ c ∈ s.toList, isBlank c = false := by
  obtain ⟨chars, rfl⟩ := s.exists_eq_ofList
  obtain ⟨byte, hbyte, hink⟩ := List.any_eq_true.1 h
  rw [String.toByteArray_ofList, List.utf8Encode, List.data_toByteArray] at hbyte
  obtain ⟨c, hc, hbyte⟩ := List.mem_flatMap.1 hbyte
  refine ⟨c, by rwa [String.toList_ofList], ?_⟩
  cases hblank : isBlank c with
  | false => rfl
  | true =>
    rw [isBlankByte_of_isBlank hblank hbyte] at hink
    exact absurd hink Bool.false_ne_true

/-- What is not blank stays. -/
theorem trim_ne_nil {p : Char → Bool} {s : List Char} {c : Char} (hc : c ∈ s) (hp : p c = false) :
    trim p s ≠ [] := by
  intro h
  obtain ⟨before, after, hs, hbefore, hafter⟩ := trim_decomposition p s
  rw [h, List.append_nil] at hs
  rw [hs] at hc
  rcases List.mem_append.1 hc with hc | hc
  · exact absurd (hbefore c hc) (by simp [hp])
  · exact absurd (hafter c hc) (by simp [hp])

/-- A text that does not begin inside the class is trimmed at its end only. -/
theorem trim_isPrefix {p : Char → Bool} {s : List Char} (h : ∀ c ∈ s.head?, p c = false) :
    trim p s <+: s := by
  have hdrop : s.dropWhile p = s := by
    cases s with
    | nil => rfl
    | cons c s => exact List.dropWhile_cons_of_neg (by simp [h c rfl])
  rw [trim, hdrop]
  exact ⟨_, trimEnd_append_takeWhile p s⟩

end Text

namespace Dialect

theorem blockSpellings_hasInk :
    (Block.all.all fun block => all.all fun dialect =>
      (dialect.blockSpellings block).all Text.hasInk) = true := by
  decide +kernel

theorem stepSpellings_hasInk :
    (StepKeyword.all.all fun keyword => all.all fun dialect =>
      (dialect.stepSpellings keyword).all Text.hasInk) = true := by
  decide +kernel

/-- **No block is spelled by blanks.** -/
theorem trimBlank_blockSpelling_ne_nil {dialect : Dialect} (hd : dialect ∈ all) {block : Block}
    {spelling : String} (hs : spelling ∈ dialect.blockSpellings block) :
    Text.trimBlank spelling.toList ≠ [] := by
  have hall := List.all_eq_true.1 blockSpellings_hasInk block block.mem_all
  have hink := List.all_eq_true.1 (List.all_eq_true.1 hall dialect hd) spelling hs
  obtain ⟨c, hc, hblank⟩ := Text.exists_not_isBlank hink
  exact Text.trim_ne_nil hc hblank

/-- **No step keyword is spelled by blanks.** -/
theorem trimBlank_stepSpelling_ne_nil {dialect : Dialect} (hd : dialect ∈ all)
    {keyword : StepKeyword} {spelling : String} (hs : spelling ∈ dialect.stepSpellings keyword) :
    Text.trimBlank spelling.toList ≠ [] := by
  have hall := List.all_eq_true.1 stepSpellings_hasInk keyword keyword.mem_all
  have hink := List.all_eq_true.1 (List.all_eq_true.1 hall dialect hd) spelling hs
  obtain ⟨c, hc, hblank⟩ := Text.exists_not_isBlank hink
  exact Text.trim_ne_nil hc hblank

end Dialect

namespace Listing

variable {κ : Type}

theorem mem_of_mem_firstOfEach {l : Listing κ} {entry : List Char × κ}
    (h : entry ∈ firstOfEach l) : entry ∈ l := by
  induction l with
  | nil => exact h
  | cons first rest ih =>
    rcases List.mem_cons.1 h with rfl | h
    · exact List.mem_cons_self
    · exact List.mem_cons_of_mem _ (ih (List.mem_filter.1 h).1)

end Listing

namespace Language

open Text

/-- Whether a language is that of a dialect of the table. -/
def Supported (language : Language) : Prop :=
  ∃ dialect ∈ Dialect.all, language = ofDialect dialect

theorem supported_english : (ofDialect .english).Supported :=
  ⟨.english, by simp [Dialect.all], rfl⟩

theorem supported_of_requested? {name : Option (List Char)} {language : Language}
    (h : requested? name = some language) : language.Supported := by
  obtain ⟨text, -, hnamed⟩ := Option.bind_eq_some_iff.1 h
  exact exists_dialect_of_named? hnamed

theorem stepMatch?_eq_some {text trimmed : List Char} {entry : List Char × StepKeyword}
    {opening : Opening} (h : stepMatch? text trimmed entry = some opening) :
    ∃ spelling, opening = .step entry.2 spelling ∧
      (entry.1 <+: text ∧ spelling = entry.1 ∨
        trimmed = trimBlank entry.1 ∧ spelling = trimmed) := by
  simp only [stepMatch?] at h
  split at h
  next hstart =>
    exact ⟨entry.1, (Option.some.inj h).symm, Or.inl ⟨List.isPrefixOf_iff_prefix.1 hstart, rfl⟩⟩
  next =>
    split at h
    next heq => exact ⟨trimmed, (Option.some.inj h).symm, Or.inr ⟨eq_of_beq heq, rfl⟩⟩
    next => exact absurd h (by simp)

/-- What a line that opens no block opens comes from one of the step spellings,
if from any. -/
theorem exists_stepMatch? {steps : Listing StepKeyword} {text trimmed : List Char}
    {opening : Opening}
    (h : (steps.findSome? (stepMatch? text trimmed)).getD .unknown = opening)
    (hne : opening ≠ .unknown) :
    ∃ entry ∈ steps, stepMatch? text trimmed entry = some opening := by
  cases hfind : steps.findSome? (stepMatch? text trimmed) with
  | none =>
    rw [hfind] at h
    exact absurd h.symm hne
  | some found =>
    rw [hfind, Option.getD_some] at h
    rw [h] at hfind
    exact List.exists_of_findSome?_eq_some hfind

/-- **How a line opens a block:** it is, blanks aside, listed for the block. -/
theorem openingOf_eq_block {language : Language} {text spelling : List Char} {block : Block}
    (h : language.openingOf text = .block block spelling) :
    spelling = trimBlank text ∧ language.blocks.lookup (trimBlank text) = some block := by
  simp only [openingOf] at h
  split at h
  next found hfound =>
    obtain ⟨rfl, rfl⟩ := Opening.block.inj h
    exact ⟨rfl, hfound⟩
  next =>
    obtain ⟨entry, -, hentry⟩ := exists_stepMatch? h (by simp)
    obtain ⟨_, hstep, -⟩ := stepMatch?_eq_some hentry
    exact absurd hstep (by simp)

/-- **How a line opens a step:** a listed spelling is a prefix of it, or is
the whole of it but for blanks. -/
theorem openingOf_eq_step {language : Language} {text spelling : List Char}
    {keyword : StepKeyword} (h : language.openingOf text = .step keyword spelling) :
    ∃ entry ∈ language.steps,
      entry.1 <+: text ∧ spelling = entry.1 ∨
        trimBlank text = trimBlank entry.1 ∧ spelling = trimBlank text := by
  simp only [openingOf] at h
  split at h
  next => exact absurd h (by simp)
  next =>
    obtain ⟨entry, hmem, hentry⟩ := exists_stepMatch? h (by simp)
    obtain ⟨found, hstep, hfit⟩ := stepMatch?_eq_some hentry
    obtain ⟨-, rfl⟩ := Opening.step.inj hstep
    exact ⟨entry, hmem, hfit⟩

/-- **When a line opens nothing:** it is, blanks aside, listed for no block, and no
step spelling is a prefix of it or the whole of it but for blanks. -/
theorem openingOf_eq_unknown_iff {language : Language} {text : List Char} :
    language.openingOf text = .unknown ↔
      language.blocks.lookup (trimBlank text) = none ∧
        ∀ entry ∈ language.steps, ¬entry.1 <+: text ∧ trimBlank text ≠ trimBlank entry.1 := by
  have hmatch (entry : List Char × StepKeyword) :
      stepMatch? text (trimBlank text) entry = none ↔
        ¬entry.1 <+: text ∧ trimBlank text ≠ trimBlank entry.1 := by
    rw [stepMatch?]
    by_cases hstart : entry.1 <+: text
    · simp [hstart]
    · by_cases hwhole : trimBlank text = trimBlank entry.1 <;> simp [hstart, hwhole]
  simp only [openingOf, ← hmatch, ← List.findSome?_eq_none_iff]
  cases language.blocks.lookup (trimBlank text) with
  | some block => simp
  | none =>
    cases hfind : language.steps.findSome? (stepMatch? text (trimBlank text)) with
    | none => simp
    | some opening =>
      obtain ⟨entry, -, hentry⟩ := List.exists_of_findSome?_eq_some hfind
      obtain ⟨_, hstep, -⟩ := stepMatch?_eq_some hentry
      simp [hstep]

/-- **A line that opens nothing** does not begin to when blanks are taken from its
end. -/
theorem openingOf_eq_unknown_of_append {language : Language} {text blanks : List Char}
    (hblanks : ∀ c ∈ blanks, isBlank c = true)
    (h : language.openingOf (text ++ blanks) = .unknown) : language.openingOf text = .unknown := by
  have htrim : trimBlank (text ++ blanks) = trimBlank text := trim_append_right isBlank text hblanks
  rw [openingOf_eq_unknown_iff, htrim] at h
  rw [openingOf_eq_unknown_iff]
  refine ⟨h.1, fun entry hentry => ?_⟩
  obtain ⟨hstart, hwhole⟩ := h.2 entry hentry
  exact ⟨fun hlead => hstart (hlead.trans (List.prefix_append _ _)), hwhole⟩

/-- The spelling of a step stands at the start of a line that does not begin
with a blank. -/
theorem isPrefix_of_openingOf_eq_step {language : Language} {text spelling : List Char}
    {keyword : StepKeyword} (h : language.openingOf text = .step keyword spelling)
    (htext : ∀ c ∈ text.head?, isBlank c = false) : spelling <+: text := by
  obtain ⟨entry, -, ⟨hstart, rfl⟩ | ⟨-, rfl⟩⟩ := openingOf_eq_step h
  · exact hstart
  · exact trim_isPrefix htext

namespace Supported

variable {language : Language}

/-- The empty text opens no block. -/
theorem lookup_nil (hl : language.Supported) : language.blocks.lookup [] = none := by
  obtain ⟨dialect, hd, rfl⟩ := hl
  rw [ofDialect, Listing.lookup_firstOfEach, List.lookup_eq_none_iff]
  intro entry hentry
  obtain ⟨block, -, hentry⟩ := List.mem_flatMap.1 hentry
  obtain ⟨spelling, hs, rfl⟩ := List.mem_map.1 hentry
  have hne := Dialect.trimBlank_blockSpelling_ne_nil hd hs
  cases hspelling : trimBlank spelling.toList with
  | nil => exact absurd hspelling hne
  | cons c s => rfl

theorem trimBlank_step_ne_nil (hl : language.Supported) {entry : List Char × StepKeyword}
    (hentry : entry ∈ language.steps) : trimBlank entry.1 ≠ [] := by
  obtain ⟨dialect, hd, rfl⟩ := hl
  rw [ofDialect, Listing.mem_longestFirst] at hentry
  obtain ⟨keyword, -, hentry⟩ := List.mem_flatMap.1 (Listing.mem_of_mem_firstOfEach hentry)
  obtain ⟨spelling, hs, rfl⟩ := List.mem_map.1 hentry
  exact Dialect.trimBlank_stepSpelling_ne_nil hd hs

/-- **A keyword has something to read:** neither a block nor a step is opened
by nothing. -/
theorem spelling_ne_nil (hl : language.Supported) {text : List Char}
    (h : language.openingOf text ≠ .unknown) : (language.openingOf text).spelling ≠ [] := by
  cases hopening : language.openingOf text with
  | unknown => exact absurd hopening h
  | block block spelling =>
    obtain ⟨rfl, hlookup⟩ := openingOf_eq_block hopening
    intro hnil
    rw [Opening.spelling] at hnil
    rw [hnil, hl.lookup_nil] at hlookup
    exact absurd hlookup (by simp)
  | step keyword spelling =>
    obtain ⟨entry, hentry, ⟨-, rfl⟩ | ⟨htrim, rfl⟩⟩ := openingOf_eq_step hopening
    · intro hnil
      rw [Opening.spelling] at hnil
      exact hl.trimBlank_step_ne_nil hentry (by rw [hnil]; rfl)
    · exact htrim ▸ hl.trimBlank_step_ne_nil hentry

end Supported
end Language
end FeatureLexer
