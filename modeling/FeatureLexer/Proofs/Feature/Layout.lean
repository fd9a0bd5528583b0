import FeatureLexer.Proofs.Feature.SourceName
import FeatureLexer.Proofs.Session.Lines

/-!
# Layout does not matter

Space in front of the lines of a text, and carriage returns at their ends, do not
change what the text is lexed to. The two texts are compared line by line, since
lexing goes line by line: whatever a line is, the readings of the line and of the
same line with space in front differ only in readings that nobody notices
(`alike_scan_indented`).

The two changes meet where the space ends in a carriage return and the line is
empty: then the carriage return belongs to the line break. What is left of the
space is still space (`exists_space_of_relaid_line`), so that this does no harm.
-/

namespace FeatureLexer

open Text

/-- Whether a text is another one in a new layout: with space put in front of its
lines, and with newlines written as pairs of a carriage return and a newline. -/
inductive Relaid : List Char → List Char → Prop where
  /-- The last line, or what stands behind the last newline. -/
  | last {space line : List Char} (hspace : space.all isSpace = true) (hline : '\n' ∉ line) :
      Relaid line (space ++ line)
  /-- A line in front of others. -/
  | line {space line lineBreak rest rest' : List Char} (hspace : space.all isSpace = true)
      (hline : '\n' ∉ line) (hbreak : lineBreak = ['\n'] ∨ lineBreak = ['\r', '\n'])
      (hrest : Relaid rest rest') :
      Relaid (line ++ '\n' :: rest) (space ++ line ++ lineBreak ++ rest')

/-! ### Readings that nobody notices -/

/-- Whether readings come to the same: they give the same tokens, they have the
same problems, and they leave every language at the same one. -/
structure Alike (readings readings' : List Reading) : Prop where
  tokens : tokensOf readings = tokensOf readings'
  problems : ∀ fileName, readings.flatMap (·.problems fileName) =
    readings'.flatMap (·.problems fileName)
  language : ∀ language, languageAfter language readings = languageAfter language readings'

namespace Alike

variable {readings readings' later later' : List Reading}

theorem refl (readings : List Reading) : Alike readings readings :=
  ⟨rfl, fun _ => rfl, fun _ => rfl⟩

theorem append (h : Alike readings readings') (hlater : Alike later later') :
    Alike (readings ++ later) (readings' ++ later') := by
  refine ⟨?_, ?_, ?_⟩
  · rw [tokensOf_append, tokensOf_append, h.tokens, hlater.tokens]
  · intro fileName
    rw [List.flatMap_append, List.flatMap_append, h.problems, hlater.problems]
  · intro language
    have hfirst := h.language language
    have hsecond := hlater.language (languageAfter language readings')
    simp only [languageAfter, List.foldl_append] at hfirst hsecond ⊢
    rw [hfirst, hsecond]

theorem foundIn_eq (h : Alike readings readings') (fileName : List Char) :
    foundIn fileName readings = foundIn fileName readings' := by
  rw [foundIn, foundIn, h.problems, h.tokens]

theorem problemsIn_eq (h : Alike readings readings') :
    problemsIn readings = problemsIn readings' := by
  rw [problemsIn, problemsIn, h.foundIn_eq]

end Alike

/-! ### Space in front of a line -/

/-- The reading of the space that a line begins with, if it begins with any. -/
def indentationOf (s : List Char) : List Reading :=
  if leadingSpace s = [] then [] else [.silent .start (leadingSpace s)]

theorem alike_indentationOf (s t : List Char) : Alike (indentationOf s) (indentationOf t) := by
  unfold indentationOf
  split <;> split <;> exact ⟨rfl, fun _ => rfl, fun _ => rfl⟩

theorem Reading.next_of_isSpace (language : Language) {c : Char} (hc : isSpace c = true)
    (s : List Char) : next language .start (c :: s) = silent .start (leadingSpace (c :: s)) := by
  have hother (d : Char) (hd : isSpace d = false) : c ≠ d := by
    rintro rfl
    exact absurd hc (by simp [hd])
  rw [next, if_neg (hother '\n' (by decide)), if_neg (hother '#' (by decide)),
    if_neg (hother '@' (by decide)), if_neg (hother '|' (by decide))]
  show lineStart language .start c s = _
  rw [lineStart, if_pos hc]

/-- **A line is read behind its space** as if it began there. -/
theorem scan_indentation {language : Language} (hl : language.Supported) (s : List Char) :
    scan language .start s =
      indentationOf s ++ scan language .start (s.drop (leadingSpace s).length) := by
  cases s with
  | nil => rfl
  | cons c s =>
    unfold indentationOf
    by_cases hc : isSpace c = true
    · have hne : leadingSpace (c :: s) ≠ [] := by
        rw [leadingSpace, lineUntil_cons_of_passes (ne_newline_of_isSpace hc) (by simp [hc])]
        exact List.cons_ne_nil _ _
      rw [if_neg hne, scan_cons hl, Reading.next_of_isSpace language hc]
      rfl
    · have hnil : leadingSpace (c :: s) = [] := lineUntil_cons_of_stops (Or.inr (by simp [hc])) s
      rw [if_pos hnil, hnil]
      rfl

/-- **Space in front of a line is not noticed.** -/
theorem alike_scan_indented {language : Language} (hl : language.Supported) {space : List Char}
    (hspace : ∀ c ∈ space, isSpace c = true) (s : List Char) :
    Alike (scan language .start (space ++ s)) (scan language .start s) := by
  have hpasses : Passes (fun c => !isSpace c) space := by
    intro c hc
    exact ⟨ne_newline_of_isSpace (hspace c hc), by simp [hspace c hc]⟩
  have hlead : leadingSpace (space ++ s) = space ++ leadingSpace s := hpasses.lineUntil_append s
  have hdrop : (space ++ s).drop (leadingSpace (space ++ s)).length =
      s.drop (leadingSpace s).length := by
    rw [hlead, List.length_append, ← List.drop_drop, List.drop_left]
  rw [scan_indentation hl (space ++ s), scan_indentation hl s, hdrop]
  exact (alike_indentationOf _ _).append (.refl _)

/-! ### Line after line -/

theorem newline_notMem_indented {space line : List Char} (hspace : ∀ c ∈ space, isSpace c = true)
    (hline : '\n' ∉ line) : '\n' ∉ space ++ line := by
  rw [List.mem_append, not_or]
  exact ⟨newline_notMem_of_isSpace hspace, hline⟩

/-- A line of a text without pairs keeps its end where it is. -/
theorem joinCarriageReturns_line {line rest : List Char} (hline : '\n' ∉ line)
    (hpairs : ¬['\r', '\n'] <:+: line ++ '\n' :: rest) :
    line.getLast? ≠ some '\r' ∧
      joinCarriageReturns (line ++ '\n' :: rest) = line ++ '\n' :: joinCarriageReturns rest := by
  have hlast : line.getLast? ≠ some '\r' := by
    intro hreturn
    obtain ⟨front, rfl⟩ := List.getLast?_eq_some_iff.1 hreturn
    exact hpairs ⟨front, rest, by simp⟩
  refine ⟨hlast, ?_⟩
  rw [joinCarriageReturns_append_of_notMem hline fun h => hlast h.1,
    joinCarriageReturns_cons (by simp)]

/-- **A line in a new layout** is the line with space in front: the space that was
put there, or all of it but a carriage return that has become part of the line
break. -/
theorem exists_space_of_relaid_line {space line lineBreak : List Char}
    (hspace : ∀ c ∈ space, isSpace c = true) (hline : '\n' ∉ line)
    (hlast : line.getLast? ≠ some '\r')
    (hbreak : lineBreak = ['\n'] ∨ lineBreak = ['\r', '\n']) (rest : List Char) :
    ∃ left : List Char, (∀ c ∈ left, isSpace c = true) ∧
      joinCarriageReturns (space ++ line ++ lineBreak ++ rest) =
        left ++ line ++ '\n' :: joinCarriageReturns rest := by
  have hboth := newline_notMem_indented hspace hline
  rw [List.append_assoc]
  rcases hbreak with rfl | rfl
  · by_cases hreturn : (space ++ line).getLast? = some '\r'
    · -- The line has no carriage return at its end, so it is empty and the space has.
      obtain rfl : line = [] := by
        by_contra hne
        exact hlast (by rwa [List.getLast?_append_of_ne_nil _ hne] at hreturn)
      rw [List.append_nil] at hreturn ⊢
      obtain ⟨front, rfl⟩ := List.getLast?_eq_some_iff.1 hreturn
      have hfront : ∀ c ∈ front, isSpace c = true := fun c hc =>
        hspace c (List.mem_append_left _ hc)
      refine ⟨front, hfront, ?_⟩
      rw [List.append_nil, List.append_assoc,
        joinCarriageReturns_append_of_notMem (newline_notMem_of_isSpace hfront) (by simp)]
      rfl
    · refine ⟨space, hspace, ?_⟩
      rw [joinCarriageReturns_append_of_notMem hboth fun h => hreturn h.1]
      rfl
  · refine ⟨space, hspace, ?_⟩
    rw [joinCarriageReturns_append_of_notMem hboth (by simp)]
    rfl

/-- **A new layout is not noticed,** whatever the language. -/
theorem Relaid.alike_scan {text laid : List Char} (h : Relaid text laid)
    (hpairs : ¬['\r', '\n'] <:+: text) {language : Language} (hl : language.Supported) :
    Alike (scan language .start (joinCarriageReturns laid))
      (scan language .start (joinCarriageReturns text)) := by
  induction h generalizing language with
  | @last space line hspace hline =>
    rw [List.all_eq_true] at hspace
    have hboth := newline_notMem_indented hspace hline
    rw [joinCarriageReturns_of_notMem hline, joinCarriageReturns_of_notMem hboth]
    exact alike_scan_indented hl hspace line
  | @line space line lineBreak rest rest' hspace hline hbreak _ ih =>
    rw [List.all_eq_true] at hspace
    obtain ⟨hlast, hjoin⟩ := joinCarriageReturns_line hline hpairs
    obtain ⟨left, hleft, hjoin'⟩ := exists_space_of_relaid_line hspace hline hlast hbreak rest'
    have hrest : ¬['\r', '\n'] <:+: rest := fun hpair =>
      hpairs (hpair.trans ⟨line ++ ['\n'], [], by simp⟩)
    have hindented := alike_scan_indented hl hleft (line ++ ['\n'])
    rw [← List.append_assoc] at hindented
    rw [hjoin, hjoin', scan_lines hl (left ++ line), scan_lines hl line, hindented.language]
    exact hindented.append (ih hrest (supported_languageAfter hl _))

/-- **Layout does not matter.** A text in which no carriage return stands right
before a newline is lexed, in a supported language, to the same outcome in every
layout: with any space put in front of its lines and with carriage returns put
before any of its newlines. That holds from every source and under every policy,
and where the file can be named and no warning is raised, there is an outcome with
tokens. -/
theorem layout_does_not_matter {name : Option (List Char)} {language : Language}
    (hlanguage : Language.requested? name = some language) {text laid : List Char}
    (hpairs : ¬['\r', '\n'] <:+: text) (h : Relaid text laid) (source : Source)
    (policy : Policy) :
    lexText laid ⟨source, name, policy⟩ = lexText text ⟨source, name, policy⟩ ∧
    ∀ fileName, source.fileName = .ok fileName → policy ≠ .raise →
      ∃ lexed, lexText laid ⟨source, name, policy⟩ = .ok lexed := by
  have halike := h.alike_scan hpairs (Language.supported_of_requested? hlanguage)
  constructor
  · cases hname : source.fileName with
    | ok fileName =>
      rw [lexText_eq hname hlanguage, lexText_eq hname hlanguage, halike.tokens,
        halike.foundIn_eq]
    | error error =>
      rw [lexText_of_unnamable hname hlanguage, lexText_of_unnamable hname hlanguage,
        halike.tokens, halike.problemsIn_eq]
  · intro fileName hname hpolicy
    rw [lexText_eq hname hlanguage]
    cases policy with
    | record => exact ⟨_, rfl⟩
    | discard => exact ⟨_, rfl⟩
    | raise => exact absurd rfl hpolicy

/-- The theorem at work on a directive, on an empty line with a carriage return put
in front of its newline as space, on tags, on a row and on an empty last line. -/
theorem layout_does_not_matter_english :
    let text := "# language: fr\n\n@a b\n| x |\n".toList
    let laid := "\u00a0# language: fr\r\n\r\n\t@a b\n \r| x |\r\n\u3000".toList
    Relaid text laid ∧ ¬['\r', '\n'] <:+: text ∧
      ∃ lexed, lexText laid ⟨.unnamed, some Language.defaultName, .record⟩ = .ok lexed ∧
        lexText text ⟨.unnamed, some Language.defaultName, .record⟩ = .ok lexed := by
  intro text laid
  have hrelaid : Relaid text laid :=
    @Relaid.line ['\u00a0'] "# language: fr".toList ['\r', '\n'] _ _ (by decide) (by decide)
      (Or.inr rfl) <|
    @Relaid.line ['\r'] [] ['\n'] _ _ (by decide) (by decide) (Or.inl rfl) <|
    @Relaid.line ['\t'] "@a b".toList ['\n'] _ _ (by decide) (by decide) (Or.inl rfl) <|
    @Relaid.line [' ', '\r'] "| x |".toList ['\r', '\n'] _ _ (by decide) (by decide)
      (Or.inr rfl) <|
    @Relaid.last ['\u3000'] [] (by decide) (by decide)
  have hpairs : ¬['\r', '\n'] <:+: text := by decide +kernel
  obtain ⟨hsame, hresult⟩ := layout_does_not_matter Language.requested?_defaultName hpairs
    hrelaid .unnamed .record
  obtain ⟨lexed, hlexed⟩ := hresult _ Source.fileName_unnamed (by decide)
  exact ⟨hrelaid, hpairs, lexed, hlexed, hsame.symm.trans hlexed⟩

end FeatureLexer
