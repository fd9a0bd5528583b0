import FeatureLexer.Proofs.Language.Spelling

/-!
# The longest spelling opens the line

A language is made of its dialect in three moves: of the entries with one
spelling the first is kept, the bullet is put down for `And` under whichever
keyword it stands, and longer spellings are moved to the front. A line is then
opened by the first entry that fits, in one of two ways. Here the same opening
is read off the lists of the dialect as they stand, without any table
(`Dialect.Opens`): of all step spellings that fit, the longest, and of several
that long the one listed first.

What has to be seen is that the three moves do not get into each other's way.
Sorting makes "the first that fits" the longest one and keeps ties in order
(`isLongest_of_find?_longestFirst`); an entry that was dropped had a spelling
that is listed before, so that it is neither longer nor earlier than what was
kept (`isLongest_of_firstOfEach`); and what was kept stands for the first
keyword that lists it (`mem_firstOfEach_iff`).
-/

namespace FeatureLexer

open Text

namespace Listing

/-- The longest of those texts of a list that fit, and of several that long the
first. -/
inductive IsLongest (fits : List Char → Prop) : List (List Char) → List Char → Prop where
  | first {text : List Char} {others : List (List Char)} (hfits : fits text)
      (hothers : ∀ other ∈ others, fits other → other.length ≤ text.length) :
      IsLongest fits (text :: others) text
  | later {earlier text : List Char} {others : List (List Char)}
      (h : IsLongest fits others text)
      (hlonger : fits earlier → earlier.length < text.length) :
      IsLongest fits (earlier :: others) text

namespace IsLongest

variable {fits : List Char → Prop} {texts : List (List Char)} {text other : List Char}

theorem mem (h : IsLongest fits texts text) : text ∈ texts := by
  induction h with
  | first => exact List.mem_cons_self
  | later _ _ ih => exact List.mem_cons_of_mem _ ih

theorem fits_self (h : IsLongest fits texts text) : fits text := by
  induction h with
  | first hfits => exact hfits
  | later _ _ ih => exact ih

/-- A text that fits is not longer than the longest. -/
theorem length_le (h : IsLongest fits texts text) (hmem : other ∈ texts) (hfits : fits other) :
    other.length ≤ text.length := by
  induction h with
  | first _ hothers =>
    rcases List.mem_cons.1 hmem with rfl | hmem
    · exact Nat.le_refl _
    · exact hothers other hmem hfits
  | later _ hlonger ih =>
    rcases List.mem_cons.1 hmem with rfl | hmem
    · exact Nat.le_of_lt (hlonger hfits)
    · exact ih hmem

/-- **There is one longest text at most.** -/
theorem unique (h : IsLongest fits texts text) (h' : IsLongest fits texts other) :
    text = other := by
  induction h with
  | first hfits hothers =>
    cases h' with
    | first => rfl
    | later hlater hlonger =>
      have hle := hothers other hlater.mem hlater.fits_self
      have hlt := hlonger hfits
      omega
  | later hlater hlonger ih =>
    cases h' with
    | first hfits hothers =>
      have hle := hothers _ hlater.mem hlater.fits_self
      have hlt := hlonger hfits
      omega
    | later hlater' _ => exact ih hlater'

/-- A text that is shorter, or that does not fit, may be put back wherever it was
left out. -/
theorem of_filter {dropped : List Char}
    (h : IsLongest fits (texts.filter (· != dropped)) text)
    (hdropped : fits dropped → dropped.length < text.length) : IsLongest fits texts text := by
  induction texts with
  | nil => exact h
  | cons head rest ih =>
    by_cases hhead : head = dropped
    · rw [List.filter_cons_of_neg (by simp [hhead])] at h
      exact .later (ih h) (by rwa [hhead])
    · rw [List.filter_cons_of_pos (by simpa using hhead)] at h
      cases h with
      | first hfits hothers =>
        refine .first hfits fun other hmem hother => ?_
        by_cases heq : other = dropped
        · have hlt := hdropped (heq ▸ hother)
          rw [heq]
          omega
        · exact hothers other (List.mem_filter.2 ⟨hmem, by simpa using heq⟩) hother
      | later hlater hlonger => exact .later (ih hlater) hlonger

end IsLongest

/-! ### Sorting by length -/

variable {κ : Type}

/-- **Where an entry that is put in is found:** in front of all entries that are
not longer, and behind those that are. -/
theorem find?_insertByLength {entry found : List Char × κ} {l : Listing κ}
    {p : List Char × κ → Bool} (hsorted : l.Pairwise fun a b => b.1.length ≤ a.1.length)
    (h : (insertByLength entry l).find? p = some found) :
    (found = entry ∧ p entry = true ∧
      ∀ other ∈ l, p other = true → other.1.length ≤ entry.1.length) ∨
    l.find? p = some found ∧ (p entry = true → entry.1.length < found.1.length) := by
  induction l with
  | nil =>
    left
    simp only [insertByLength, List.find?_singleton, Option.ite_none_right_eq_some,
      Option.some.injEq] at h
    exact ⟨h.2.symm, h.1, fun other hmem => absurd hmem List.not_mem_nil⟩
  | cons head rest ih =>
    obtain ⟨hhead, hrest⟩ := List.pairwise_cons.1 hsorted
    simp only [insertByLength] at h
    split at h
    next hle =>
      by_cases hp : p entry = true
      · rw [List.find?_cons_of_pos hp] at h
        refine Or.inl ⟨(Option.some.inj h).symm, hp, fun other hmem _ => ?_⟩
        rcases List.mem_cons.1 hmem with rfl | hmem
        · exact hle
        · exact Nat.le_trans (hhead other hmem) hle
      · rw [List.find?_cons_of_neg hp] at h
        exact Or.inr ⟨h, fun hentry => absurd hentry hp⟩
    next hlt =>
      by_cases hp : p head = true
      · rw [List.find?_cons_of_pos hp] at h ⊢
        obtain rfl := Option.some.inj h
        exact Or.inr ⟨rfl, fun _ => by omega⟩
      · rw [List.find?_cons_of_neg hp] at h ⊢
        rcases ih hrest h with ⟨hfound, hentry, hothers⟩ | hlater
        · refine Or.inl ⟨hfound, hentry, fun other hmem hother => ?_⟩
          rcases List.mem_cons.1 hmem with rfl | hmem
          · exact absurd hother hp
          · exact hothers other hmem hother
        · exact Or.inr hlater

/-- **The first that fits is the longest** once a listing is sorted. -/
theorem isLongest_of_find?_longestFirst {fits : List Char → Prop} [DecidablePred fits]
    {l : Listing κ} {found : List Char × κ}
    (h : (longestFirst l).find? (fun entry => fits entry.1) = some found) :
    IsLongest fits (l.map Prod.fst) found.1 := by
  induction l generalizing found with
  | nil => exact absurd h (by simp [longestFirst])
  | cons entry rest ih =>
    rcases find?_insertByLength (pairwise_longestFirst rest) h with
      ⟨rfl, hfits, hothers⟩ | ⟨hrest, hlonger⟩
    · refine .first (of_decide_eq_true hfits) fun text htext hother => ?_
      obtain ⟨other, hmem, rfl⟩ := List.mem_map.1 htext
      exact hothers other ((mem_longestFirst other rest).2 hmem) (decide_eq_true hother)
    · exact .later (ih hrest) fun hentry => hlonger (decide_eq_true hentry)

/-! ### The first entry of each spelling -/

/-- **What is kept of a listing:** each spelling with what it is first listed
for. -/
theorem mem_firstOfEach_iff {l : Listing κ} {entry : List Char × κ} :
    entry ∈ firstOfEach l ↔ l.lookup entry.1 = some entry.2 := by
  induction l with
  | nil => simp [firstOfEach]
  | cons head rest ih =>
    obtain ⟨key, value⟩ := head
    obtain ⟨text, meaning⟩ := entry
    by_cases hkey : text = key
    · simp [firstOfEach, hkey, eq_comm]
    · have hbeq : (text == key) = false := by simpa using hkey
      simp [firstOfEach, List.lookup_cons, hkey, hbeq, ih]

theorem map_fst_firstOfEach_cons (head : List Char × κ) (rest : Listing κ) :
    (firstOfEach (head :: rest)).map Prod.fst =
      head.1 :: ((firstOfEach rest).map Prod.fst).filter (· != head.1) := by
  rw [firstOfEach, List.map_cons, List.filter_map]
  rfl

/-- No spelling is lost. -/
theorem mem_map_fst_firstOfEach {l : Listing κ} {text : List Char} (h : text ∈ l.map Prod.fst) :
    text ∈ (firstOfEach l).map Prod.fst := by
  obtain ⟨entry, hmem, rfl⟩ := List.mem_map.1 h
  have hsome : (l.lookup entry.1).isSome = true :=
    List.lookup_isSome_iff.2 ⟨entry, hmem, beq_self_eq_true _⟩
  obtain ⟨meaning, hmeaning⟩ := Option.isSome_iff_exists.1 hsome
  exact List.mem_map.2 ⟨(entry.1, meaning), mem_firstOfEach_iff.2 hmeaning, rfl⟩

/-- **What is dropped from a listing was not the longest,** nor the first of those
that long. -/
theorem isLongest_of_firstOfEach {fits : List Char → Prop} {l : Listing κ} {text : List Char}
    (h : IsLongest fits ((firstOfEach l).map Prod.fst) text) :
    IsLongest fits (l.map Prod.fst) text := by
  induction l with
  | nil => exact h
  | cons head rest ih =>
    rw [map_fst_firstOfEach_cons] at h
    cases h with
    | first hfits hothers =>
      refine .first hfits fun other hmem hother => ?_
      by_cases heq : other = head.1
      · exact Nat.le_of_eq (congrArg List.length heq)
      · have hkept := mem_map_fst_firstOfEach hmem
        exact hothers other (List.mem_filter.2 ⟨hkept, by simpa using heq⟩) hother
    | later hlater hlonger => exact .later (ih (hlater.of_filter hlonger)) hlonger

/-! ### Listings made key by key -/

/-- A text in the lists of several keys is looked up under the first key that
lists it. -/
theorem lookup_flatMap {κ' : Type} (keys : List κ) (texts : κ → List (List Char))
    (meaning : List Char → κ → κ') (text : List Char) :
    (keys.flatMap fun key => (texts key).map fun listed => (listed, meaning listed key)).lookup
        text =
      (keys.find? fun key => (texts key).contains text).map (meaning text) := by
  have hlist (key : κ) (l : List (List Char)) :
      (l.map fun listed => (listed, meaning listed key)).lookup text =
        if l.contains text then some (meaning text key) else none := by
    induction l with
    | nil => rfl
    | cons head rest ih =>
      by_cases hhead : text = head
      · simp [hhead]
      · have hbeq : (text == head) = false := by simpa using hhead
        simp [List.lookup_cons, hbeq, ih, hhead]
  induction keys with
  | nil => rfl
  | cons key keys ih =>
    rw [List.flatMap_cons, List.lookup_append, hlist, ih, List.find?_cons]
    cases (texts key).contains text with
    | true => rfl
    | false => rfl

end Listing

namespace Dialect

/-- The first block that a dialect lists a text for, blanks around its spellings
aside. -/
def blockSpelled? (dialect : Dialect) (text : List Char) : Option Block :=
  Block.all.find? fun block =>
    ((dialect.blockSpellings block).map fun spelling => trimBlank spelling.toList).contains text

/-- What a step spelling of a dialect stands for: the bullet for `And`, any other
for the first keyword that lists it. -/
def keywordSpelled? (dialect : Dialect) (spelling : List Char) : Option StepKeyword :=
  if trimBlank spelling = bullet then some .andStep
  else
    StepKeyword.all.find? fun keyword =>
      ((dialect.stepSpellings keyword).map String.toList).contains spelling

/-- All step spellings of a dialect, keyword by keyword. -/
def listedSteps (dialect : Dialect) : List (List Char) :=
  StepKeyword.all.flatMap fun keyword => (dialect.stepSpellings keyword).map String.toList

theorem mem_listedSteps {dialect : Dialect} {keyword : StepKeyword} {spelling : String}
    (h : spelling ∈ dialect.stepSpellings keyword) : spelling.toList ∈ dialect.listedSteps :=
  List.mem_flatMap.2 ⟨keyword, keyword.mem_all, List.mem_map.2 ⟨spelling, h, rfl⟩⟩

/-- Whether a step spelling fits a text: it is a prefix of it, or the whole of it
but for blanks around either. -/
def Fits (text spelling : List Char) : Prop :=
  spelling <+: text ∨ trimBlank spelling = trimBlank text

instance (text : List Char) : DecidablePred (Fits text) := fun _ =>
  inferInstanceAs (Decidable (_ ∨ _))

/-- What a text opens, read off the lists of a dialect. -/
inductive Opens (dialect : Dialect) (text : List Char) : Opening → Prop where
  /-- It is, blanks aside, a spelling of a block. -/
  | block {block : Block} (hblock : dialect.blockSpelled? (trimBlank text) = some block) :
      Opens dialect text (.block block (trimBlank text))
  /-- It is none, and step spellings fit; the longest of them counts. -/
  | step {spelling : List Char} {keyword : StepKeyword}
      (hblock : dialect.blockSpelled? (trimBlank text) = none)
      (hlongest : Listing.IsLongest (Fits text) dialect.listedSteps spelling)
      (hkeyword : dialect.keywordSpelled? spelling = some keyword) :
      Opens dialect text
        (.step keyword (if spelling <+: text then spelling else trimBlank text))
  /-- It is none, and no step spelling fits. -/
  | unknown (hblock : dialect.blockSpelled? (trimBlank text) = none)
      (hsteps : ∀ spelling ∈ dialect.listedSteps, ¬Fits text spelling) :
      Opens dialect text .unknown

/-- **A text opens one thing at most.** -/
theorem Opens.unique {dialect : Dialect} {text : List Char} {opening other : Opening}
    (h : dialect.Opens text opening) (h' : dialect.Opens text other) : opening = other := by
  cases h with
  | block hblock =>
    cases h' with
    | block hblock' => rw [Option.some.inj (hblock.symm.trans hblock')]
    | step hblock' | unknown hblock' => exact absurd (hblock.symm.trans hblock') (by simp)
  | step hblock hlongest hkeyword =>
    cases h' with
    | block hblock' => exact absurd (hblock.symm.trans hblock') (by simp)
    | step _ hlongest' hkeyword' =>
      obtain rfl := hlongest.unique hlongest'
      rw [Option.some.inj (hkeyword.symm.trans hkeyword')]
    | unknown _ hsteps => exact absurd hlongest.fits_self (hsteps _ hlongest.mem)
  | unknown hblock hsteps =>
    cases h' with
    | block hblock' => exact absurd (hblock.symm.trans hblock') (by simp)
    | step _ hlongest => exact absurd hlongest.fits_self (hsteps _ hlongest.mem)
    | unknown => rfl

/-- The table of blocks says which block lists a text first. -/
theorem lookup_blocks (dialect : Dialect) (text : List Char) :
    (Language.ofDialect dialect).blocks.lookup text = dialect.blockSpelled? text := by
  have hlisting : dialect.blockListing = Block.all.flatMap fun block =>
      ((dialect.blockSpellings block).map fun spelling => trimBlank spelling.toList).map
        fun listed => (listed, block) := by
    simp [blockListing, Function.comp_def]
  rw [Language.ofDialect, Listing.lookup_firstOfEach, hlisting,
    Listing.lookup_flatMap Block.all _ fun _ block => block, Option.map_id']
  rfl

theorem map_fst_stepListing (dialect : Dialect) :
    dialect.stepListing.map Prod.fst = dialect.listedSteps := by
  simp [stepListing, listedSteps, List.map_flatMap, Function.comp_def]

/-- An entry of the table of steps stands for what its spelling stands for in the
dialect. -/
theorem keywordSpelled?_of_mem_steps {dialect : Dialect} {entry : List Char × StepKeyword}
    (h : entry ∈ (Language.ofDialect dialect).steps) :
    dialect.keywordSpelled? entry.1 = some entry.2 := by
  have hlisting : dialect.stepListing = StepKeyword.all.flatMap fun keyword =>
      ((dialect.stepSpellings keyword).map String.toList).map fun listed =>
        (listed, if trimBlank listed == bullet then .andStep else keyword) := by
    simp [stepListing, Function.comp_def]
  rw [Language.ofDialect, Listing.mem_longestFirst, Listing.mem_firstOfEach_iff, hlisting,
    Listing.lookup_flatMap StepKeyword.all _ fun listed keyword =>
      if trimBlank listed == bullet then .andStep else keyword] at h
  rw [keywordSpelled?]
  by_cases hbullet : trimBlank entry.1 = bullet
  · obtain ⟨keyword, _, hkeyword⟩ := Option.map_eq_some_iff.1 h
    rw [if_pos (by simpa using hbullet)] at hkeyword
    rw [if_pos hbullet, hkeyword]
  · simp only [beq_iff_eq, if_neg hbullet, Option.map_id'] at h
    rw [if_neg hbullet, h]

end Dialect

namespace Language

/-- How an entry that fits opens a text. -/
def stepOpening (text : List Char) (entry : List Char × StepKeyword) : Opening :=
  .step entry.2 (if entry.1 <+: text then entry.1 else trimBlank text)

/-- **An entry opens the texts that it fits,** and no others. -/
theorem stepMatch?_eq (text : List Char) :
    stepMatch? text (trimBlank text) =
      Option.map (stepOpening text) ∘ Option.guard fun entry => Dialect.Fits text entry.1 := by
  funext entry
  simp only [stepMatch?, Function.comp_apply, Option.guard, Dialect.Fits,
    List.isPrefixOf_iff_prefix, beq_iff_eq]
  by_cases hstart : entry.1 <+: text
  · simp [stepOpening, hstart]
  · by_cases hwhole : trimBlank entry.1 = trimBlank text
    · simp [stepOpening, hstart, hwhole]
    · simp [hstart, hwhole, Ne.symm hwhole]

/-- **What a language opens a text with is read off its dialect.** -/
theorem opens_openingOf (dialect : Dialect) (text : List Char) :
    dialect.Opens text ((ofDialect dialect).openingOf text) := by
  have hblock := dialect.lookup_blocks (trimBlank text)
  have hkeys := dialect.map_fst_stepListing
  simp only [openingOf, hblock]
  cases hspelled : dialect.blockSpelled? (trimBlank text) with
  | some block => exact .block hspelled
  | none =>
    simp only [stepMatch?_eq, ← List.map_findSome?, ← List.find?_eq_findSome?_guard]
    cases hfind : (ofDialect dialect).steps.find? (fun entry => Dialect.Fits text entry.1) with
    | none =>
      refine .unknown hspelled fun spelling hmem hfits => ?_
      rw [← hkeys] at hmem
      obtain ⟨entry, hentry, rfl⟩ := List.mem_map.1 (Listing.mem_map_fst_firstOfEach hmem)
      have hnone := List.find?_eq_none.1 hfind entry ((Listing.mem_longestFirst _ _).2 hentry)
      exact hnone (decide_eq_true hfits)
    | some entry =>
      have hlongest := Listing.isLongest_of_firstOfEach
        (Listing.isLongest_of_find?_longestFirst hfind)
      rw [hkeys] at hlongest
      exact .step hspelled hlongest
        (Dialect.keywordSpelled?_of_mem_steps (List.mem_of_find?_eq_some hfind))

end Language

/-- **The longest spelling opens the line,** in every dialect, whatever it lists. A
text opens a block if it is, blanks aside, a spelling of one, and the first such
block counts. Otherwise it opens a step if step spellings are a prefix of it or,
blanks aside, the whole of it; the longest of them counts, and of several that
long the one listed first; the bullet stands for `And` and every other spelling
for the first keyword that lists it. A text with neither opens nothing. -/
theorem longest_spelling_opens_line (dialect : Dialect) (text : List Char) (opening : Opening) :
    (Language.ofDialect dialect).openingOf text = opening ↔ dialect.Opens text opening := by
  constructor
  · rintro rfl
    exact Language.opens_openingOf dialect text
  · intro h
    exact (Language.opens_openingOf dialect text).unique h

/-- Two spellings are a prefix of this line, and the longer one counts. -/
example : (Language.ofDialect .czech).openingOf "A také kniha".toList =
    .step .andStep "A také ".toList := by
  decide +kernel

end FeatureLexer
