import FeatureLexer.Proofs.Feature.SourceName
import Mathlib.Data.List.TakeWhile

/-!
# Files are named by the last component of their path

A file that is lexed by its path is called by the last component of that path in
every message. The path is read as a locator on the way, though, and a locator has
parts that are no part of a path. A character that marks such a part takes away from
the name, or the name with it:

| in the path | what happens | example | name |
| --- | --- | --- | --- |
| a control or a space in front | it is dropped | ` a` | `a` |
| a tab or a line break | it is dropped | `a`, tab, `b` | `ab` |
| `?` or `#` | all from there on is dropped | `a#b` | `a` |
| `;` behind the last slash | all from there on is dropped | `a;b` | `a` |
| `:` behind a word, and no separator | the word is dropped | `a:b` | `b` |
| a bracket in what reads as an authority | the locator may be refused | `//[x]/a` | none |
| a character like a mark in an authority | the locator may be refused | `//℀/a` | none |

A path without these is *plain* (`Path.Plain`). Of a plain path nothing is dropped but
whole components from its front, and only as long as a separator is left in front of
the name (`Path.EndsIn.of_suffix`); or all of it, and then the path as it was written
stands in.
-/

namespace FeatureLexer

open Text

namespace Path

/-- Whether a name is the last component of a path: what stands behind the last
separator, or all of it if there is none. -/
structure EndsIn (path name : List Char) : Prop where
  ne_nil : name ≠ []
  whole : ∀ c ∈ name, isSeparator c = false
  divided : ∃ directory, path = directory ++ name ∧ ∀ c ∈ directory.getLast?, isSeparator c = true

/-- A path that reads alike as a path and as a locator. -/
structure Plain (path : List Char) : Prop where
  /-- No control and no space comes first. -/
  start : ∀ c ∈ path.head?, 0x20 < c.toNat
  /-- No tab and no line break is dropped. -/
  kept : ∀ c ∈ path, c ≠ '\t' ∧ c ≠ '\r' ∧ c ≠ '\n'
  /-- No query and no fragment begins. -/
  query : ∀ c ∈ path, c ≠ '?' ∧ c ≠ '#'
  /-- No parameters begin behind the last slash. -/
  parameters : ';' ∉ path.reverse.takeWhile (· != '/')
  /-- A path of one component has no scheme. -/
  scheme : (∀ c ∈ path, isSeparator c = false) → ':' ∉ path
  /-- What reads as an authority cannot be refused. -/
  authority : ['/', '/'] <+: path ∨ [':', '/', '/'] <:+: path →
    ∀ c ∈ path, c ≠ '[' ∧ c ≠ ']' ∧ Locator.isConfusable c = false

namespace EndsIn

variable {path name part : List Char}

/-- The last component is found. -/
theorem lastComponent_eq (h : EndsIn path name) : lastComponent path = name := by
  obtain ⟨hne, hwhole, directory, rfl, hdirectory⟩ := h
  have hname : ∀ c ∈ name.reverse, (!isSeparator c) = true := fun c hc => by
    simp [hwhole c (List.mem_reverse.1 hc)]
  have htrim : trimEnd isSeparator (directory ++ name) = directory ++ name := by
    obtain ⟨c, rest, hreverse⟩ := List.exists_cons_of_ne_nil (List.reverse_ne_nil_iff.2 hne)
    have hc : ¬isSeparator c = true := by
      simpa using hname c (hreverse ▸ List.mem_cons_self)
    rw [trimEnd, List.reverse_append, hreverse, List.cons_append, List.dropWhile_cons_of_neg hc,
      ← List.cons_append, ← hreverse, ← List.reverse_append, List.reverse_reverse]
  have hstop : directory.reverse.takeWhile (!isSeparator ·) = [] := by
    cases hreverse : directory.reverse with
    | nil => rfl
    | cons c rest =>
      have hlast : directory.getLast? = some c := by
        rw [← List.head?_reverse, hreverse]
        rfl
      exact List.takeWhile_cons_of_neg (by simp [hdirectory c hlast])
  rw [lastComponent, htrim, List.reverse_append, List.takeWhile_append_of_pos hname, hstop,
    List.append_nil, List.reverse_reverse]

/-- **A part of a path that has a separator** ends in the same name, if it reaches to
the end of the path. -/
theorem of_suffix (h : EndsIn path name) (hpart : part <:+ path) {c : Char} (hc : c ∈ part)
    (hseparator : isSeparator c = true) : EndsIn part name := by
  obtain ⟨hne, hwhole, directory, rfl, hdirectory⟩ := h
  rcases List.suffix_or_suffix_of_suffix hpart (List.suffix_append directory name) with
    hwithin | ⟨front, rfl⟩
  · exact absurd (hwhole c (hwithin.subset hc)) (by simp [hseparator])
  · refine ⟨hne, hwhole, front, rfl, fun d hd => hdirectory d ?_⟩
    obtain ⟨before, hbefore⟩ := hpart
    rw [← List.append_assoc] at hbefore
    rw [← List.append_cancel_right hbefore, List.getLast?_append, Option.mem_def.1 hd]
    rfl

end EndsIn
end Path

namespace Locator

variable {path name : List Char}

/-- A plain path has nothing to be cleaned of. -/
theorem clean_eq_self (h : Path.Plain path) : clean path = path := by
  have hstart : path.dropWhile (fun c => c.toNat ≤ 0x20) = path := by
    cases path with
    | nil => rfl
    | cons c path =>
      have hc := h.start c rfl
      exact List.dropWhile_cons_of_neg (by simpa using hc)
  rw [clean, hstart, List.filter_eq_self]
  intro c hc
  simp [h.kept c hc]

/-- Of a text without their marks, no query and no fragment is dropped. -/
theorem dropQuery_eq_self {s : List Char} (h : ∀ c ∈ s, c ≠ '?' ∧ c ≠ '#') : dropQuery s = s := by
  have hfragment : s.takeWhile (· != '#') = s :=
    List.takeWhile_eq_self_iff.2 fun c hc => by simpa using (h c hc).2
  have hquery : s.takeWhile (· != '?') = s :=
    List.takeWhile_eq_self_iff.2 fun c hc => by simpa using (h c hc).1
  rw [dropQuery, hfragment, hquery]

/-- Nor are parameters, if no semicolon stands behind the last slash. -/
theorem dropParameters_eq_self {s : List Char} (h : ';' ∉ s.reverse.takeWhile (· != '/')) :
    dropParameters s = s := by
  have hlast : (s.reverse.takeWhile (· != '/')).reverse.takeWhile (· != ';') =
      (s.reverse.takeWhile (· != '/')).reverse := by
    refine List.takeWhile_eq_self_iff.2 fun c hc => ?_
    have hne : c ≠ ';' := fun heq => h (heq ▸ List.mem_reverse.1 hc)
    simpa using hne
  simp only [dropParameters, hlast]
  rw [← List.reverse_append, List.takeWhile_append_dropWhile, List.reverse_reverse]

/-- A separator is no part of a scheme, nor the mark behind it. -/
theorem separator_not_in_scheme {c : Char} (h : Path.isSeparator c = true) :
    isSchemeChar c = false ∧ c ≠ ':' := by
  simp only [Path.isSeparator, Bool.or_eq_true, beq_iff_eq] at h
  rcases h with rfl | rfl
  · decide
  · decide

/-- A path keeps its name when a scheme is split off. -/
theorem endsIn_splitScheme (h : Path.Plain path) (hname : Path.EndsIn path name) :
    (splitScheme path).2 <:+ path ∧ Path.EndsIn (splitScheme path).2 name := by
  refine ⟨splitScheme_suffix path, ?_⟩
  rcases splitScheme_cases path with hall | ⟨word, hsplit, hword⟩
  · rwa [hall]
  -- A scheme has no separator in it, so the separators of the path stand behind the colon.
  obtain ⟨c, hc, hseparator⟩ : ∃ c ∈ path, Path.isSeparator c = true := by
    by_contra hnone
    refine h.scheme (fun c hc => ?_) (by rw [hsplit]; simp)
    simpa using fun hseparator => hnone ⟨c, hc, hseparator⟩
  refine hname.of_suffix (splitScheme_suffix path) (c := c) ?_ hseparator
  rw [hsplit] at hc
  obtain ⟨hscheme, hcolon⟩ := separator_not_in_scheme hseparator
  rcases List.mem_append.1 hc with hc | hc
  · exact absurd (hword c hc) (by simp [hscheme])
  · exact (List.mem_cons.1 hc).resolve_left hcolon

/-- A double slash behind a scheme stands at the start of the path or behind a colon. -/
theorem slashes_of_splitScheme (h : ['/', '/'] <+: (splitScheme path).2) :
    ['/', '/'] <+: path ∨ [':', '/', '/'] <:+: path := by
  rcases splitScheme_cases path with hall | ⟨word, hsplit, _⟩
  · rw [hall] at h
    exact Or.inl h
  · obtain ⟨rest, hrest⟩ := h
    rw [← hrest] at hsplit
    refine Or.inr ⟨word, rest, ?_⟩
    rw [hsplit, List.append_assoc]
    rfl

/-- A path keeps its name when an authority is split off, or is used up by it; and
the authority of a plain path is not refused. -/
theorem endsIn_splitAuthority (h : Path.Plain path) (hname : Path.EndsIn path name) :
    let parts := splitAuthority (splitScheme path).2
    (∀ c ∈ parts.1, c ≠ '[' ∧ c ≠ ']' ∧ isConfusable c = false) ∧ parts.2 <:+ path ∧
      (parts.2 = [] ∨ Path.EndsIn parts.2 name) := by
  intro parts
  obtain ⟨hsuffix, hrest⟩ := endsIn_splitScheme h hname
  rcases splitAuthority_cases (splitScheme path).2 with hnone | ⟨hslashes, hwithin, hleft, hends⟩
  · have hparts : parts = ([], (splitScheme path).2) := hnone
    rw [hparts]
    exact ⟨fun c hc => absurd hc List.not_mem_nil, hsuffix, Or.inr hrest⟩
  · refine ⟨fun c hc => ?_, hleft.trans hsuffix, ?_⟩
    · exact h.authority (slashes_of_splitScheme hslashes) c (hsuffix.subset (hwithin hc))
    · cases hparts : parts.2 with
      | nil => exact Or.inl rfl
      | cons c rest =>
        right
        have hpart : c :: rest <:+ (splitScheme path).2 := hparts ▸ hleft
        obtain ⟨hquery, hfragment⟩ :=
          h.query c (hsuffix.subset (hpart.subset List.mem_cons_self))
        have hslash : c = '/' := by
          have hend : endsAuthority c = true := hends c (congrArg List.head? hparts)
          simpa [endsAuthority, hquery, hfragment] using hend
        exact hrest.of_suffix hpart (c := c) List.mem_cons_self (by rw [hslash]; rfl)

/-- Parameters that a path does not have, no later part of it has. -/
theorem semicolon_notMem_of_suffix {part : List Char} (h : Path.Plain path)
    (hpart : part <:+ path) : ';' ∉ part.reverse.takeWhile (· != '/') := by
  obtain ⟨front, rfl⟩ := hpart
  intro hmem
  refine h.parameters ?_
  rw [List.reverse_append, List.takeWhile_append]
  split
  · exact List.mem_append_left _ ((List.takeWhile_prefix _).subset hmem)
  · exact hmem

/-- **A plain path is its own path,** as far as the name of the file goes: what is left
of it ends in the same name, if anything is left. -/
theorem path_of_plain (h : Path.Plain path) (hname : Path.EndsIn path name) :
    ∃ found, Locator.path path = .ok found ∧ (found = [] ∨ Path.EndsIn found name) := by
  obtain ⟨hauthority, hsuffix, hfound⟩ := endsIn_splitAuthority h hname
  generalize hparts : splitAuthority (splitScheme path).2 = parts at hauthority hsuffix hfound
  have haccepted := checkAuthority_eq_ok hauthority
  have hquery := dropQuery_eq_self fun c hc => h.query c (hsuffix.subset hc)
  have hparameters := dropParameters_eq_self (semicolon_notMem_of_suffix h hsuffix)
  refine ⟨parts.2, ?_, hfound⟩
  simp only [Locator.path, clean_eq_self h, hparts, haccepted, hquery, hparameters, ite_self]
  rfl

end Locator

/-- **A file with a plain path** is named by the last component of it. -/
theorem Source.fileName_of_plain {path name : List Char} (h : Path.Plain path)
    (hname : Path.EndsIn path name) : (Source.named path).fileName = .ok name := by
  obtain ⟨found, hfound, hends⟩ := Locator.path_of_plain h hname
  have hcomponent :
      Path.lastComponent (if found.isEmpty then path else found) = name := by
    rcases hends with rfl | hends
    · exact hname.lastComponent_eq
    · cases found with
      | nil => exact hname.lastComponent_eq
      | cons c rest => exact hends.lastComponent_eq
  rw [fileName_of_written rfl, hfound]
  exact congrArg Except.ok hcomponent

/-! ### What the messages of a file begin with -/

/-- A file that is lexed by its name, as it is written, is the source of its text. -/
theorem lexFile_name_eq {bytes : ByteArray} {text : List Char} (h : decode? bytes = some text)
    (path : List Char) (language : Option (List Char)) (policy : Policy) :
    lexFile (.name path) (some bytes) ⟨.unnamed, language, policy⟩ =
      lexText text ⟨.named path, language, policy⟩ := by
  rw [lexFile, lexText, Lexer.ofFile]
  simp only [h]
  rfl

/-- Whether a diagnostic names a file before it says anything else. -/
def Diagnostic.Names (diagnostic : Diagnostic) (name : List Char) : Prop :=
  ∃ problem, diagnostic.message = "File: " ++ String.ofList name ++ " " ++ problem

/-- Of problems that all name a file, so do those that lexing comes to. -/
theorem Policy.outcome_names {name : List Char} {found : List Diagnostic}
    (h : ∀ diagnostic ∈ found, diagnostic.Names name) (policy : Policy) (tokens : List Token) :
    (∃ lexed, policy.outcome tokens found = .ok lexed ∧
      ∀ diagnostic ∈ lexed.diagnostics ++ lexed.warnings, diagnostic.Names name) ∨
    policy = .raise ∧ ∃ diagnostic,
      policy.outcome tokens found = .error (.stopped (.raised diagnostic)) ∧
        diagnostic.Names name := by
  cases policy with
  | record => exact Or.inl ⟨_, rfl, by simpa using h⟩
  | discard => exact Or.inl ⟨_, rfl, by simpa using h⟩
  | raise =>
    cases found with
    | nil => exact Or.inl ⟨_, rfl, by simp⟩
    | cons first others => exact Or.inr ⟨rfl, first, rfl, h first List.mem_cons_self⟩

/-- **Diagnostics name the file that was lexed,** by the last component of its path, if
the path is plain. A file that can be decoded, lexed by such a path in a supported
language, is lexed with diagnostics and warnings that all begin with that name; or, if
warnings are raised, it may be stopped by one that begins so. Nothing else stops it. -/
theorem diagnostics_name_the_file {path name : List Char} (hplain : Path.Plain path)
    (hname : Path.EndsIn path name) {bytes : ByteArray} {text : List Char}
    (hbytes : decode? bytes = some text) {requested : Option (List Char)} {language : Language}
    (hlanguage : Language.requested? requested = some language) (policy : Policy) :
    let outcome := lexFile (.name path) (some bytes) ⟨.unnamed, requested, policy⟩
    (∃ lexed, outcome = .ok lexed ∧
      ∀ diagnostic ∈ lexed.diagnostics ++ lexed.warnings, diagnostic.Names name) ∨
    policy = .raise ∧ ∃ diagnostic, outcome = .error (.stopped (.raised diagnostic)) ∧
      diagnostic.Names name := by
  intro outcome
  have hsource := Source.fileName_of_plain hplain hname
  have houtcome : outcome = policy.outcome _ _ :=
    (lexFile_name_eq hbytes path requested policy).trans
      (lexText_eq hsource hlanguage text policy)
  rw [houtcome]
  refine Policy.outcome_names (fun diagnostic hmem => ?_) policy _
  rw [foundIn_eq_map] at hmem
  obtain ⟨problem, _, rfl⟩ := List.mem_map.1 hmem
  exact ⟨problem.2, rfl⟩

/-- The theorem at work on a path with a scheme, a semicolon, a double slash, and
brackets and a blank in its name. -/
theorem diagnostics_name_the_file_bracketed :
    let path := "C:/d;1//e\\näme [1].feature".toList
    let name := "näme [1].feature".toList
    Path.Plain path ∧ Path.EndsIn path name ∧
    ∃ lexed, lexFile (.name path) (some "prose".toUTF8) {} = .ok lexed ∧
      lexed.diagnostics ≠ [] ∧ ∀ diagnostic ∈ lexed.diagnostics, diagnostic.Names name := by
  intro path name
  have hchars : path.all (fun c => c != '\t' && c != '\r' && c != '\n' && c != '?' && c != '#') =
      true := by decide +kernel
  have hplain : Path.Plain path := by
    refine ⟨fun c hc => ?_, fun c hc => ?_, fun c hc => ?_, by decide +kernel, fun hnone => ?_,
      fun hslashes => absurd hslashes (by decide +kernel)⟩
    · obtain rfl : 'C' = c := Option.some.inj hc
      decide
    · have hc := List.all_eq_true.1 hchars c hc
      simp only [Bool.and_eq_true, bne_iff_ne] at hc
      exact ⟨hc.1.1.1.1, hc.1.1.1.2, hc.1.1.2⟩
    · have hc := List.all_eq_true.1 hchars c hc
      simp only [Bool.and_eq_true, bne_iff_ne] at hc
      exact ⟨hc.1.2, hc.2⟩
    · exact absurd (hnone '/' (by decide +kernel)) (by decide)
  have hwhole : name.all (!Path.isSeparator ·) = true := by decide +kernel
  have hname : Path.EndsIn path name := by
    refine ⟨by decide +kernel, fun c hc => ?_, "C:/d;1//e\\".toList, by decide +kernel,
      fun c hc => ?_⟩
    · simpa using List.all_eq_true.1 hwhole c hc
    · obtain rfl : '\\' = c := Option.some.inj hc
      rfl
  refine ⟨hplain, hname, ?_⟩
  have hdiagnostics : (lexText (unifyLineBreaks "prose".toList)
      ⟨.named path, some Language.defaultName, .record⟩).toOption.map (·.diagnostics.length) =
        some 1 := by decide +kernel
  rcases diagnostics_name_the_file hplain hname (decode?_toUTF8 "prose")
    Language.requested?_defaultName .record with ⟨lexed, hlexed, hnames⟩ | ⟨hraise, _⟩
  · refine ⟨lexed, hlexed, fun hnone => ?_, fun diagnostic hmem =>
      hnames diagnostic (List.mem_append_left _ hmem)⟩
    rw [← lexFile_name_eq (decode?_toUTF8 "prose"), hlexed] at hdiagnostics
    exact absurd (Option.some.inj hdiagnostics) (by simp [hnone])
  · exact absurd hraise (by decide)

/-- **A mark in its path hides the name of a file.** A file whose name holds a number
sign is called by the part before it, and one whose path reads as a locator that is
refused is not lexed at all. -/
theorem marked_path_hides_name :
    (lexFile (.name "a#b.feature".toList) (some "prose".toUTF8) {}).toOption.map
        (·.diagnostics.map (·.message)) =
      some ["File: a does not contain any valid gherkin"] ∧
    lexFile (.name "//[x/a.feature".toList) (some "prose".toUTF8) {} =
      .error (.stopped (.unnamable .unbalancedBrackets)) := by
  have hfile (path : List Char) : lexFile (.name path) (some "prose".toUTF8) {} =
      lexText (unifyLineBreaks "prose".toList)
        ⟨.named path, some Language.defaultName, .record⟩ :=
    lexFile_name_eq (decode?_toUTF8 "prose") path _ _
  rw [hfile, hfile]
  refine ⟨by decide +kernel, ?_⟩
  have hname : (Source.named "//[x/a.feature".toList).fileName = .error .unbalancedBrackets := rfl
  have hproblems : problemsIn (scan (.ofDialect .english) .start
      (joinCarriageReturns (unifyLineBreaks "prose".toList))) ≠ [] := by decide +kernel
  rw [lexText_of_unnamable hname Language.requested?_defaultName, if_neg hproblems]

end FeatureLexer
