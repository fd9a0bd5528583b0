import FeatureLexer.Proofs.Feature.SourceName
import FeatureLexer.Proofs.Language.Vocabulary

/-!
# Every keyword of the table is found

No spelling of the table is there in vain: written at the start of a text, it
opens its line, whatever follows. What the line opens is decided by the part of
it up to its first colon (`Reading.next_of_leadsLine`), and a spelling is whole
in that part.

For the spelling of a block with its colon that part is the spelling itself. For
the spelling of a step it goes on behind the spelling, and what follows may make
it more: a longer spelling of a step, whose keyword then counts, or the spelling
of a block. It is never less, since the spelling written there fits.
-/

namespace FeatureLexer

open Text

/-- Whether a token is the first of a text in a language: a session that is
started on the text gives it out first, from every source and under every
policy, and in a file that can be named, lexing returns it in front of all
others, unless a warning is raised. -/
def BeginsWith (language : Language) (text : List Char) (token : Token) : Prop :=
  ∀ (source : Source) (policy : Policy),
    (∃ after, (Session.start (.fresh text source language) policy).draw =
      (.ok (some token), after)) ∧
    ∀ fileName, source.fileName = .ok fileName → policy ≠ .raise →
      ∃ lexed others, (Lexer.fresh text source language).lex policy = .ok lexed ∧
        lexed.tokens = token :: others

/-- **The first token of a text** is that of its first lexeme, if it has one. -/
theorem beginsWith_of_next {language : Language} (hl : language.Supported) {text : List Char}
    {token : Token} (h : (Reading.next language .start text).token? = some token) :
    BeginsWith language text token := by
  have hne : text ≠ [] := by
    rintro rfl
    exact absurd h (by simp [Reading.next, Reading.silent])
  intro source policy
  constructor
  · -- What gives a token declares nothing, so the source is not asked for its name.
    have hdeclared : (Reading.next language .start text).declared? = none := by
      by_contra hsome
      rw [Reading.token?_next_of_declared? hsome] at h
      exact absurd h (by simp)
    have hrest : (Lexer.fresh text source language).rest ≠ [] := hne
    have hrun : Pattern.nextLexeme.run (.fresh text source language) =
        (Lexer.fresh text source language).accept (.next language .start text) :=
      Lexer.nextLexeme_run hrest
    rw [Lexer.accept_of_declared?_eq_none hdeclared, h] at hrun
    rw [Session.draw_of_run_give rfl hrun]
    exact ⟨_, (Session.giveOut_settles _ token).eq_ok⟩
  · intro fileName hname hpolicy
    obtain ⟨c, s, rfl⟩ := List.exists_cons_of_ne_nil hne
    rcases (Lexer.fresh (c :: s) source language).lex_tokens hname hl policy with
      ⟨lexed, hlexed, htokens⟩ | ⟨hraise, _⟩
    · have htokens' : lexed.tokens = tokensOf (scan language .start (c :: s)) := htokens
      rw [scan_cons hl, tokensOf_cons_of_some h] at htokens'
      exact ⟨lexed, _, hlexed, htokens'⟩
    · exact absurd hraise hpolicy

/-! ### The part of a line that decides -/

/-- **What a line opens decides its first token,** if the text that it begins with
leads nowhere else. -/
theorem Reading.next_of_leadsLine (language : Language) {s : List Char} (hs : LeadsLine s)
    (rest : List Char) :
    (∀ block spelling,
      language.openingOf (lineUntil (· == ':') (s ++ rest)) = .block block spelling →
      (next language .start (s ++ rest)).token? = some (.block (.block block))) ∧
    ∀ keyword spelling,
      language.openingOf (lineUntil (· == ':') (s ++ rest)) = .step keyword spelling →
      (next language .start (s ++ rest)).token? = some (.keyword keyword) := by
  obtain ⟨c, s, rfl⟩ := List.exists_cons_of_ne_nil hs.ne_nil
  have hc := hs.head c rfl
  simp only [leadsAway, Bool.or_eq_false_iff, beq_eq_false_iff_ne] at hc
  obtain ⟨⟨⟨hcomment, htag⟩, hcell⟩, hblank⟩ := hc
  have hnewline := (hs.passes c List.mem_cons_self).1
  have hspace : isSpace c = false := by simp [isSpace, hblank]
  have hnext : next language .start (c :: s ++ rest) =
      lineStart language .start c (s ++ rest) := by
    rw [List.cons_append, next, if_neg hnewline, if_neg hcomment, if_neg htag, if_neg hcell]
    rfl
  rw [hnext, lineStart, hspace, if_neg Bool.false_ne_true]
  constructor
  · intro block spelling hopening
    rw [List.cons_append] at hopening
    rw [hopening]
    rfl
  · intro keyword spelling hopening
    rw [List.cons_append] at hopening
    rw [hopening]
    rfl

/-! ### The spellings of the table -/

section

variable {dialect : Dialect} (hd : dialect ∈ Dialect.all)
include hd

/-- A line that is, up to its colon and blanks aside, a spelling of a block begins
with that block. -/
theorem beginsWith_block {s : List Char} (hs : LeadsLine s) {rest : List Char} {block : Block}
    (h : dialect.blockSpelled? (trimBlank (lineUntil (· == ':') (s ++ rest))) = some block) :
    BeginsWith (.ofDialect dialect) (s ++ rest) (.block (.block block)) := by
  have hopening := Language.opens_openingOf dialect (lineUntil (· == ':') (s ++ rest))
  have hblock := hopening.unique (.block h)
  exact beginsWith_of_next ⟨dialect, hd, rfl⟩
    ((Reading.next_of_leadsLine _ hs rest).1 block _ hblock)

/-- A line that is none begins with the longest spelling of a step that fits, if
one does. -/
theorem exists_beginsWith_keyword {s : List Char} (hs : LeadsLine s) {rest spelling : List Char}
    (hmem : spelling ∈ dialect.listedSteps)
    (hfits : Dialect.Fits (lineUntil (· == ':') (s ++ rest)) spelling)
    (h : dialect.blockSpelled? (trimBlank (lineUntil (· == ':') (s ++ rest))) = none) :
    ∃ longest keyword,
      Listing.IsLongest (Dialect.Fits (lineUntil (· == ':') (s ++ rest))) dialect.listedSteps
        longest ∧
      dialect.keywordSpelled? longest = some keyword ∧
      BeginsWith (.ofDialect dialect) (s ++ rest) (.keyword keyword) := by
  generalize hline : lineUntil (· == ':') (s ++ rest) = line at hfits h ⊢
  have hopens := Language.opens_openingOf dialect line
  generalize hopening : (Language.ofDialect dialect).openingOf line = opening at hopens
  cases hopens with
  | block hblock => exact absurd (h.symm.trans hblock) (by simp)
  | unknown _ hsteps => exact absurd hfits (hsteps spelling hmem)
  | @step longest keyword _ hlongest hkeyword =>
    rw [← hline] at hopening
    exact ⟨longest, keyword, hlongest, hkeyword, beginsWith_of_next ⟨dialect, hd, rfl⟩
      ((Reading.next_of_leadsLine _ hs rest).2 keyword _ hopening)⟩

/-- **No keyword of the table is dead,** whatever follows it. In the language of
every dialect, a text that begins with the spelling of a block and a colon begins
with the first block that lists the spelling. A text that begins with the spelling
of a step begins with a step, the one that the longest spelling stands for that
fits the line up to its colon, and that spelling is no shorter; unless this part
of the line is, blanks aside, the spelling of a block, and then it begins with the
block. -/
theorem every_spelling_opens_its_line (rest : List Char) :
    (∀ block, ∀ spelling ∈ dialect.blockSpellings block,
      ∃ first, Block.all.find? (fun other => (dialect.blockSpellings other).contains spelling) =
          some first ∧
        BeginsWith (.ofDialect dialect) (spelling.toList ++ ':' :: rest)
          (.block (.block first))) ∧
    ∀ keyword, ∀ spelling ∈ dialect.stepSpellings keyword,
      let line := lineUntil (· == ':') (spelling.toList ++ rest)
      (∀ block, dialect.blockSpelled? (trimBlank line) = some block →
        BeginsWith (.ofDialect dialect) (spelling.toList ++ rest) (.block (.block block))) ∧
      (dialect.blockSpelled? (trimBlank line) = none →
        ∃ longest word, Listing.IsLongest (Dialect.Fits line) dialect.listedSteps longest ∧
          spelling.toList.length ≤ longest.length ∧
          dialect.keywordSpelled? longest = some word ∧
          BeginsWith (.ofDialect dialect) (spelling.toList ++ rest) (.keyword word)) := by
  constructor
  · intro block spelling hs
    have hlead := Dialect.leadsLine_blockSpelling hd hs
    obtain ⟨first, hfirst, hspelled⟩ := Dialect.blockSpelled?_trimBlank hd hs
    refine ⟨first, hfirst, beginsWith_block hd hlead ?_⟩
    rw [hlead.passes.lineUntil_append, lineUntil_cons_of_stops (Or.inr rfl), List.append_nil,
      hspelled]
  · intro keyword spelling hs line
    have hlead := Dialect.leadsLine_stepSpelling hd hs
    constructor
    · intro block hblock
      exact beginsWith_block hd hlead hblock
    · intro hblock
      have hmem := Dialect.mem_listedSteps hs
      -- The spelling is whole in the part that decides, so that it fits.
      have hfits : Dialect.Fits line spelling.toList := by
        refine Or.inl ⟨lineUntil (· == ':') rest, ?_⟩
        exact (hlead.passes.lineUntil_append rest).symm
      obtain ⟨longest, word, hlongest, hword, hbegins⟩ :=
        exists_beginsWith_keyword hd hlead hmem hfits hblock
      exact ⟨longest, word, hlongest, hlongest.length_le hmem hfits, hword, hbegins⟩

end

/-- The theorem at work: on a block that the table spells with a blank at its end;
on a spelling for `When` in a line where a longer one stands, for `Then`; and on
the spelling of a step that the line goes on to make that of a block. -/
theorem every_spelling_opens_its_line_hidden :
    BeginsWith (.ofDialect .texas) "Rule :#".toList (.block (.block .rule)) ∧
    BeginsWith (.ofDialect .creole) "Lè sa a li rive: <".toList (.keyword .thenStep) ∧
    BeginsWith (.ofDialect .turkish) "Mevcut Durum\r\n".toList (.block (.block .background)) := by
  have htexas : "Rule " ∈ Dialect.texas.blockSpellings .rule := by decide
  have hcreole : "Lè " ∈ Dialect.creole.stepSpellings .whenStep := by decide
  have hturkish : "Mevcut " ∈ Dialect.turkish.stepSpellings .givenStep := by decide
  refine ⟨?_, ?_, ?_⟩
  · obtain ⟨first, hfirst, hbegins⟩ := (every_spelling_opens_its_line
      (by simp [Dialect.all] : Dialect.texas ∈ Dialect.all) ['#']).1 .rule _ htexas
    have hrule : Block.all.find? (fun other =>
        (Dialect.texas.blockSpellings other).contains "Rule ") = some .rule := by decide
    rwa [Option.some.inj (hfirst.symm.trans hrule)] at hbegins
  · let line := lineUntil (· == ':') ("Lè ".toList ++ "sa a li rive: <".toList)
    have hnone : Dialect.creole.blockSpelled? (trimBlank line) = none := by decide +kernel
    have hopening : (Language.ofDialect .creole).openingOf line =
        .step .thenStep "Lè sa a ".toList := by decide +kernel
    obtain ⟨longest, word, hlongest, _, hword, hbegins⟩ := ((every_spelling_opens_its_line
      (by simp [Dialect.all] : Dialect.creole ∈ Dialect.all) "sa a li rive: <".toList).2
        .whenStep _ hcreole).2 hnone
    have hopens := Language.opens_openingOf .creole line
    rw [hopening] at hopens
    have hthen := (Dialect.Opens.step hnone hlongest hword).unique hopens
    rwa [(Opening.step.inj hthen).1] at hbegins
  · exact ((every_spelling_opens_its_line
      (by simp [Dialect.all] : Dialect.turkish ∈ Dialect.all) "Durum\r\n".toList).2
        .givenStep _ hturkish).1 .background (by decide +kernel)

end FeatureLexer
