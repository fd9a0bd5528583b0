import FeatureLexer.Proofs.Lexer.Lexeme

/-!
# A text, reading after reading

`scan` takes the readings of a text one after the other until nothing is left.
Between two of them there is nothing to remember but the language in force and
the line so far, so `scan` is a function of these and of the text alone: no
position, no diagnostic and no earlier text plays a part. The lexer is compared
with it in `FeatureLexer.Proofs.Lexer.Steps`.

In a supported language every reading takes a start of what is left, so a scan
is best followed by `scan_induction`, in which the text is the span of the
first reading followed by the rest. From it come the two laws of scanning: the
spans of a scan, put together, are the text (`flatMap_span_scan`), and a text
whose first part ends in a newline is scanned part by part (`scan_append`).
-/

namespace FeatureLexer

open Text

namespace Reading

/-- The language in force behind a reading. -/
def languageAfter (reading : Reading) (language : Language) : Language :=
  (reading.declared?.bind Language.named?).getD language

/-- The problems with a file that a reading brings up. -/
def problems (fileName : List Char) (reading : Reading) : List Diagnostic :=
  match reading.declared? with
  | none => []
  | some name =>
    if (Language.named? name).isSome then []
    else [{ category := .unsupportedLanguage, fileName, problem := Lexer.unsupportedProblem }]

theorem supported_languageAfter (reading : Reading) {language : Language}
    (hl : language.Supported) : (reading.languageAfter language).Supported := by
  rw [languageAfter]
  cases h : reading.declared?.bind Language.named? with
  | none => exact hl
  | some adopted => exact Language.supported_of_requested? h

theorem category_of_mem_problems {fileName : List Char} {reading : Reading}
    {diagnostic : Diagnostic} (h : diagnostic ∈ reading.problems fileName) :
    diagnostic.category = .unsupportedLanguage := by
  rw [problems] at h
  split at h
  · exact absurd h List.not_mem_nil
  · split at h
    · exact absurd h List.not_mem_nil
    · rw [List.mem_singleton.1 h]

end Reading

/-- The readings of a text, from its start to its end. A reading that took
nothing would be followed by another one like it, so that a character is left
behind in any case. -/
def scan (language : Language) (line : LineState) : List Char → List Reading
  | [] => []
  | c :: s =>
    let reading := Reading.next language line (c :: s)
    reading :: scan (reading.languageAfter language) reading.line
      (s.drop (reading.span.length - 1))
termination_by s => s.length
decreasing_by
  simp only [List.length_drop, List.length_cons]
  omega

/-- The tokens of readings. -/
def tokensOf (readings : List Reading) : List Token :=
  readings.filterMap (·.token?)

/-- The language in force behind readings. -/
def languageAfter (language : Language) (readings : List Reading) : Language :=
  readings.foldl (fun language reading => reading.languageAfter language) language

/-- The line so far behind readings. -/
def lineAfter (line : LineState) (readings : List Reading) : LineState :=
  readings.foldl (fun _ reading => reading.line) line

theorem tokensOf_cons_of_none {reading : Reading} (h : reading.token? = none)
    (readings : List Reading) : tokensOf (reading :: readings) = tokensOf readings :=
  List.filterMap_cons_none h

theorem tokensOf_cons_of_some {reading : Reading} {token : Token} (h : reading.token? = some token)
    (readings : List Reading) : tokensOf (reading :: readings) = token :: tokensOf readings :=
  List.filterMap_cons_some h

theorem tokensOf_eq_filterMap (readings : List Reading) :
    (readings.map (·.toPiece)).filterMap (·.token?) = tokensOf readings :=
  List.filterMap_map

@[simp] theorem scan_nil (language : Language) (line : LineState) : scan language line [] = [] := by
  rw [scan]

/-- In a supported language, scanning goes on where the reading ends. -/
theorem scan_cons {language : Language} (hl : language.Supported) (line : LineState) (c : Char)
    (s : List Char) :
    scan language line (c :: s) =
      Reading.next language line (c :: s) ::
        scan ((Reading.next language line (c :: s)).languageAfter language)
          (Reading.next language line (c :: s)).line
          ((c :: s).drop (Reading.next language line (c :: s)).span.length) := by
  obtain ⟨_, _, hne⟩ := Reading.next_span hl line c s
  rw [scan]
  congr 2
  obtain ⟨d, span, hspan⟩ := List.exists_cons_of_ne_nil hne
  rw [hspan]
  rfl

theorem scan_span_append {language : Language} (hl : language.Supported) {line : LineState}
    {reading : Reading} {after : List Char} (hne : reading.span ≠ [])
    (h : Reading.next language line (reading.span ++ after) = reading) :
    scan language line (reading.span ++ after) =
      reading :: scan (reading.languageAfter language) reading.line after := by
  obtain ⟨c, span, hspan⟩ := List.exists_cons_of_ne_nil hne
  have hdrop : (reading.span ++ after).drop reading.span.length = after := List.drop_left
  rw [hspan, List.cons_append] at h hdrop ⊢
  rw [scan_cons hl, h, hspan, hdrop]

/-- **Induction along a scan.** To show something of every text in a supported
language, show it of the empty one, and of the span of a reading followed by a
rest of which it holds in the state behind the reading. -/
@[elab_as_elim]
theorem scan_induction
    {motive : (language : Language) → language.Supported → LineState → List Char → Prop}
    (nil : ∀ language hl line, motive language hl line [])
    (cons : ∀ (language : Language) (hl : language.Supported) (line : LineState)
      (reading : Reading) (after : List Char), reading.span ≠ [] →
      Reading.next language line (reading.span ++ after) = reading →
      motive (reading.languageAfter language) (reading.supported_languageAfter hl) reading.line
        after →
      motive language hl line (reading.span ++ after))
    {language : Language} (hl : language.Supported) (line : LineState) (s : List Char) :
    motive language hl line s := by
  induction hn : s.length using Nat.strongRecOn generalizing language line s with
  | ind n ih =>
    cases s with
    | nil => exact nil language hl line
    | cons c s =>
      obtain ⟨after, hs, hne⟩ := Reading.next_span hl line c s
      have hlength := congrArg List.length hs
      have hpos := List.length_pos_iff.2 hne
      rw [List.length_append] at hlength
      have hafter := ih after.length (by omega)
        ((Reading.next language line (c :: s)).supported_languageAfter hl)
        (Reading.next language line (c :: s)).line after rfl
      have hcons := cons language hl line (Reading.next language line (c :: s)) after hne
      rw [← hs] at hcons
      exact hcons rfl hafter

theorem supported_languageAfter {language : Language} (hl : language.Supported)
    (readings : List Reading) : (languageAfter language readings).Supported := by
  induction readings generalizing language with
  | nil => exact hl
  | cons reading readings ih => exact ih (reading.supported_languageAfter hl)

/-- **Nothing is lost:** the spans of a scan, put together, are the text. -/
theorem flatMap_span_scan {language : Language} (hl : language.Supported) (line : LineState)
    (s : List Char) : (scan language line s).flatMap (·.span) = s := by
  induction hl, line, s using scan_induction with
  | nil language hl line => rw [scan_nil, List.flatMap_nil]
  | cons language hl line reading after hne h ih =>
    rw [scan_span_append hl hne h, List.flatMap_cons, ih]

theorem eq_nil_of_scan_eq_nil {language : Language} {line : LineState} {s : List Char}
    (h : scan language line s = []) : s = [] := by
  cases s with
  | nil => rfl
  | cons c s =>
    rw [scan] at h
    exact absurd h (List.cons_ne_nil _ _)

/-- **The first of the readings** is the next lexeme, and the others are the
scan of the text behind it. -/
theorem next_of_scan_eq_cons {language : Language} (hl : language.Supported) {line : LineState}
    {s : List Char} {reading : Reading} {later : List Reading}
    (h : scan language line s = reading :: later) :
    s ≠ [] ∧ Reading.next language line s = reading ∧
      scan (reading.languageAfter language) reading.line (s.drop reading.span.length) = later := by
  cases s with
  | nil =>
    rw [scan_nil] at h
    exact absurd h.symm (List.cons_ne_nil _ _)
  | cons c s =>
    rw [scan_cons hl] at h
    obtain ⟨rfl, hlater⟩ := List.cons.inj h
    exact ⟨List.cons_ne_nil _ _, rfl, hlater⟩

/-! ### Scanning part by part -/

/-- A later part of a scan is the scan of what is left there. -/
theorem scan_of_append {language : Language} (hl : language.Supported) {line : LineState}
    {s : List Char} {before later : List Reading} (h : scan language line s = before ++ later) :
    scan (languageAfter language before) (lineAfter line before) (later.flatMap (·.span)) =
      later := by
  induction before generalizing language line s with
  | nil =>
    rw [List.nil_append] at h
    rw [← h, flatMap_span_scan hl]
    rfl
  | cons first before ih =>
    obtain ⟨_, _, hbefore⟩ := next_of_scan_eq_cons hl h
    exact ih (first.supported_languageAfter hl) hbefore

/-- The next lexeme is the same with a text behind whole lines. -/
theorem next_append_of_wholeLines (language : Language) (line : LineState) {s : List Char}
    (hs : s ≠ []) (hwhole : WholeLines s) (t : List Char) :
    Reading.next language line (s ++ t) = Reading.next language line s := by
  obtain ⟨c, s, rfl⟩ := List.exists_cons_of_ne_nil hs
  have hmem := hwhole.newline_mem hs
  refine Reading.next_append_of_hides language line (Or.inl hmem) fun hc => ?_
  exact (List.mem_cons.1 hmem).resolve_left (by simp [hc])

/-- **Scanning goes line by line:** behind whole lines it goes on in the state
that they leave, and what they are read as does not depend on what follows. -/
theorem scan_append {language : Language} (hl : language.Supported) (line : LineState)
    {s : List Char} (hwhole : WholeLines s) (t : List Char) :
    scan language line (s ++ t) = scan language line s ++
      scan (languageAfter language (scan language line s)) (lineAfter line (scan language line s))
        t := by
  induction hl, line, s using scan_induction with
  | nil language hl line =>
    simp only [scan_nil, List.nil_append, languageAfter, lineAfter, List.foldl_nil]
  | cons language hl line reading after hne h ih =>
    have hs : reading.span ++ after ≠ [] := List.append_ne_nil_of_left_ne_nil hne _
    have hnext := (next_append_of_wholeLines language line hs hwhole t).trans h
    rw [List.append_assoc] at hnext
    rw [List.append_assoc, scan_span_append hl hne hnext, scan_span_append hl hne h,
      ih hwhole.of_append, List.cons_append]
    rfl

/-- **Whole lines leave nothing behind** but the language. -/
theorem lineAfter_scan {language : Language} (hl : language.Supported) (line : LineState)
    {s : List Char} (hs : s ≠ []) (hwhole : WholeLines s) :
    lineAfter line (scan language line s) = .start := by
  induction hl, line, s using scan_induction with
  | nil => exact absurd rfl hs
  | cons language hl line reading after hne h ih =>
    rw [scan_span_append hl hne h]
    by_cases hafter : after = []
    · subst hafter
      rw [List.append_nil] at h hwhole
      obtain ⟨c, span, hspan⟩ := List.exists_cons_of_ne_nil hne
      have hmem := hwhole.newline_mem hne
      rw [scan_nil]
      show reading.line = .start
      rw [← h, hspan]
      refine Reading.next_line_of_newline_mem hl line c span ?_
      rwa [← hspan, h]
    · exact ih hafter hwhole.of_append

end FeatureLexer
