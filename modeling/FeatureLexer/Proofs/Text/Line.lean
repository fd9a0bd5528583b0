import FeatureLexer.Cursor.Cell

/-!
# Where a reading within a line ends

`Text.lineUntil` cuts a line at the first character of a class, `Cell.read`
does the same outside of pairs. Both stop at the newline whatever the class
is. Three things follow, and they are all that the lexer's theory needs to
know about the two readings:

| statement | for a line | for a cell |
| --- | --- | --- |
| what is read holds no newline | `passes_lineUntil` | `newline_notMem_take_read` |
| what follows begins where the reading stops | `stopsBefore_drop_lineUntil` | `stopsBefore_drop_read` |
| a line hides what stands behind it | `lineUntil_append_of_hides` | `read_append_of_hides` |

A cell is also compared with `Cell.decode`, which decodes the pairs of a text
and knows nothing of where a cell ends (`read_fst`).
-/

namespace FeatureLexer
namespace Text

/-- Whether a reading up to the class `stop` ends before a text: the text is
empty, or begins with the newline or with a character of the class. -/
def StopsBefore (stop : Char → Bool) : List Char → Prop
  | [] => True
  | c :: _ => c = '\n' ∨ stop c = true

/-- Whether a line ends before a text: the text is empty or begins with the
newline. -/
def EndsLine : List Char → Prop
  | [] => True
  | c :: _ => c = '\n'

/-- Whether a reading up to the class `stop` passes a text: the text holds
neither the newline nor a character of the class. -/
def Passes (stop : Char → Bool) (s : List Char) : Prop :=
  ∀ c ∈ s, c ≠ '\n' ∧ stop c = false

/-- A reading that stops, and not at the mark that it looks for, has come to
the end of the line. -/
theorem StopsBefore.endsLine {mark : Char} {s : List Char} (h : StopsBefore (· == mark) s)
    (hs : s.head? ≠ some mark) : EndsLine s := by
  cases s with
  | nil => trivial
  | cons c s =>
    rcases h with h | h
    · exact h
    · exact absurd (congrArg some (eq_of_beq h)) hs

theorem EndsLine.eq_nil {s : List Char} (h : EndsLine s) (hs : '\n' ∉ s) : s = [] := by
  cases s with
  | nil => rfl
  | cons c s => exact absurd (h ▸ List.mem_cons_self) hs

theorem Passes.newline_notMem {stop : Char → Bool} {s : List Char} (h : Passes stop s) :
    '\n' ∉ s :=
  fun hmem => (h _ hmem).1 rfl

theorem Passes.ne_mark {mark : Char} {text : List Char} (h : Passes (· == mark) text) :
    ∀ c ∈ text, c ≠ mark ∧ c ≠ '\n' := by
  intro c hc
  obtain ⟨hnewline, hmark⟩ := h c hc
  exact ⟨by simpa using hmark, hnewline⟩

theorem passes_lineUntil (stop : Char → Bool) (s : List Char) : Passes stop (lineUntil stop s) :=
  fun _ => mem_lineUntil

theorem lineUntil_isPrefix (stop : Char → Bool) (s : List Char) : lineUntil stop s <+: s :=
  ⟨_, lineUntil_append_drop stop s⟩

theorem lineUntil_cons_of_passes {stop : Char → Bool} {c : Char} (hc : c ≠ '\n')
    (hs : stop c = false) (s : List Char) : lineUntil stop (c :: s) = c :: lineUntil stop s := by
  simp [lineUntil, hc, hs]

theorem lineUntil_cons_of_stops {stop : Char → Bool} {c : Char} (h : c = '\n' ∨ stop c = true)
    (s : List Char) : lineUntil stop (c :: s) = [] := by
  rcases h with rfl | h
  · simp [lineUntil]
  · simp [lineUntil, h]

/-- A reading goes on behind what it passes. -/
theorem Passes.lineUntil_append {stop : Char → Bool} {s : List Char} (h : Passes stop s)
    (t : List Char) : lineUntil stop (s ++ t) = s ++ lineUntil stop t := by
  induction s with
  | nil => rfl
  | cons c s ih =>
    obtain ⟨hc, hs⟩ := h c List.mem_cons_self
    rw [List.cons_append, lineUntil_cons_of_passes hc hs,
      ih fun d hd => h d (List.mem_cons_of_mem c hd), List.cons_append]

/-- A character either stops a reading or is passed by it. -/
theorem stops_or_passes (stop : Char → Bool) (c : Char) :
    (c = '\n' ∨ stop c = true) ∨ c ≠ '\n' ∧ stop c = false := by
  by_cases hc : c = '\n'
  · exact Or.inl (Or.inl hc)
  · cases hs : stop c with
    | true => exact Or.inl (Or.inr rfl)
    | false => exact Or.inr ⟨hc, rfl⟩

/-- What stands behind a text adds a start of itself to a reading, if anything. -/
theorem exists_lineUntil_append (stop : Char → Bool) (s t : List Char) :
    ∃ more, more <+: t ∧ lineUntil stop (s ++ t) = lineUntil stop s ++ more := by
  induction s with
  | nil => exact ⟨lineUntil stop t, lineUntil_isPrefix stop t, rfl⟩
  | cons c s ih =>
    rcases stops_or_passes stop c with hc | ⟨hc, hs⟩
    · refine ⟨[], List.nil_prefix, ?_⟩
      rw [List.cons_append, lineUntil_cons_of_stops hc, lineUntil_cons_of_stops hc, List.append_nil]
    · obtain ⟨more, hmore, happend⟩ := ih
      refine ⟨more, hmore, ?_⟩
      rw [List.cons_append, lineUntil_cons_of_passes hc hs, happend,
        lineUntil_cons_of_passes hc hs, List.cons_append]

theorem eq_of_mem_head?_lineUntil {stop : Char → Bool} {c d : Char} {s : List Char}
    (h : d ∈ (lineUntil stop (c :: s)).head?) : d = c := by
  rcases stops_or_passes stop c with hc | ⟨hc, hs⟩
  · rw [lineUntil_cons_of_stops hc] at h
    exact absurd h (by simp)
  · rw [lineUntil_cons_of_passes hc hs] at h
    exact (Option.mem_some.1 h).symm

/-- **A reading goes on as far as it can.** -/
theorem stopsBefore_drop_lineUntil (stop : Char → Bool) (s : List Char) :
    StopsBefore stop (s.drop (lineUntil stop s).length) := by
  induction s with
  | nil => trivial
  | cons c s ih =>
    rcases stops_or_passes stop c with h | ⟨hc, hs⟩
    · rw [lineUntil_cons_of_stops h]
      exact h
    · rw [lineUntil_cons_of_passes hc hs]
      exact ih

theorem endsLine_drop_lineUntil_never (s : List Char) :
    EndsLine (s.drop (lineUntil never s).length) := by
  have hstop := stopsBefore_drop_lineUntil never s
  cases hafter : s.drop (lineUntil never s).length with
  | nil => trivial
  | cons c after =>
    rw [hafter] at hstop
    exact hstop.resolve_right Bool.false_ne_true

theorem lineUntil_never_eq_self {s : List Char} (h : '\n' ∉ s) : lineUntil never s = s := by
  have hsplit := lineUntil_append_drop never s
  have hend := endsLine_drop_lineUntil_never s
  rw [hend.eq_nil fun hmem => h (List.mem_of_mem_drop hmem), List.append_nil] at hsplit
  exact hsplit

/-- Whether a text consists of whole lines: it is empty or ends in a newline. -/
def WholeLines (s : List Char) : Prop :=
  ∀ c ∈ s.getLast?, c = '\n'

theorem WholeLines.newline_mem {s : List Char} (h : WholeLines s) (hs : s ≠ []) : '\n' ∈ s := by
  have hlast := h _ (List.getLast?_eq_some_getLast hs)
  rw [← hlast]
  exact List.getLast_mem hs

theorem WholeLines.of_append {s t : List Char} (h : WholeLines (s ++ t)) : WholeLines t := by
  intro c hc
  refine h c ?_
  rw [Option.mem_def] at hc ⊢
  rw [List.getLast?_append, hc]
  rfl

theorem wholeLines_append_newline (s : List Char) : WholeLines (s ++ ['\n']) := by
  intro c hc
  rw [List.getLast?_concat] at hc
  exact (Option.some.inj hc).symm

/-- Whether a text hides another one put behind it from readings within its
first line: the line ends in the text or right behind it. -/
def Hides (s t : List Char) : Prop :=
  '\n' ∈ s ∨ EndsLine t

namespace Hides

variable {s t : List Char}

theorem tail {c : Char} (h : Hides (c :: s) t) (hc : c ≠ '\n') : Hides s t :=
  h.imp_left fun hmem => (List.mem_cons.1 hmem).resolve_left (Ne.symm hc)

/-- What is left of a line behind a part of it still hides what comes after. -/
theorem drop {part : List Char} (h : Hides s t) (hpart : part <+: s) (hline : '\n' ∉ part) :
    Hides (s.drop part.length) t := by
  obtain ⟨rest, rfl⟩ := hpart
  rw [List.drop_left]
  exact h.imp_left fun hmem => (List.mem_append.1 hmem).resolve_left hline

/-- Whether a mark comes next is seen from the text alone. -/
theorem head?_append (h : Hides s t) {mark : Char} (hmark : mark ≠ '\n') :
    (s ++ t).head? = some mark ↔ s.head? = some mark := by
  cases s with
  | cons c s => exact Iff.rfl
  | nil =>
    cases t with
    | nil => exact Iff.rfl
    | cons c t =>
      have hc : c = '\n' := h.resolve_left List.not_mem_nil
      simp [hc, Ne.symm hmark]

end Hides

/-- **A line hides what stands behind it:** a reading within a line is the same
whatever text comes after the line. -/
theorem lineUntil_append_of_hides {s t : List Char} (h : Hides s t) (stop : Char → Bool) :
    lineUntil stop (s ++ t) = lineUntil stop s := by
  induction s with
  | nil =>
    cases t with
    | nil => rfl
    | cons c t =>
      have hc : c = '\n' := h.resolve_left List.not_mem_nil
      exact lineUntil_cons_of_stops (Or.inl hc) t
  | cons c s ih =>
    rcases stops_or_passes stop c with hc | ⟨hc, hs⟩
    · rw [List.cons_append, lineUntil_cons_of_stops hc, lineUntil_cons_of_stops hc]
    · rw [List.cons_append, lineUntil_cons_of_passes hc hs, lineUntil_cons_of_passes hc hs,
        ih (h.tail hc)]

/-- **A reading within a line sees the line alone.** -/
theorem lineUntil_lineUntil_never (stop : Char → Bool) (s : List Char) :
    lineUntil stop (lineUntil never s) = lineUntil stop s := by
  have hhides : Hides (lineUntil never s) (s.drop (lineUntil never s).length) :=
    Or.inr (endsLine_drop_lineUntil_never s)
  have hcut := lineUntil_append_of_hides hhides stop
  rw [lineUntil_append_drop] at hcut
  exact hcut.symm

end Text

namespace Cell

open Text

/-- A text with its pairs decoded from the left. -/
def decode : List Char → List Char
  | [] => []
  | '\\' :: c :: rest =>
    match unescape? c with
    | some decoded => decoded :: decode rest
    | none => '\\' :: decode (c :: rest)
  | c :: rest => c :: decode rest

theorem ne_newline_of_unescape? {c decoded : Char} (h : unescape? c = some decoded) :
    c ≠ '\n' := by
  rintro rfl
  simp [unescape?] at h

/-- **A cell holds no newline** in the text, whatever its pairs stand for. -/
theorem newline_notMem_take_read (stop : Char → Bool) (s : List Char) :
    '\n' ∉ s.take (read stop s).2 := by
  fun_induction read stop s with
  | case1 => simp
  | case2 c rest decoded hc after ih =>
    have hne := ne_newline_of_unescape? hc
    simpa [Ne.symm hne] using ih
  | case3 => simp
  | case4 c rest _ _ after ih => simpa using ih
  | case5 => simp
  | case6 c rest _ hc after ih =>
    have hne : c ≠ '\n' := fun h => hc (Or.inl h)
    simpa [Ne.symm hne] using ih

/-- **A cell goes on as far as it can.** -/
theorem stopsBefore_drop_read (stop : Char → Bool) (s : List Char) :
    StopsBefore stop (s.drop (read stop s).2) := by
  fun_induction read stop s with
  | case1 => trivial
  | case2 c rest decoded _ after ih => simpa using ih
  | case3 c rest _ h => exact Or.inr h
  | case4 c rest _ _ after ih => simpa using ih
  | case5 c rest _ h => exact h
  | case6 c rest _ _ after ih => simpa using ih

theorem decode_cons_of_ne {c : Char} (hc : c ≠ '\\') (s : List Char) :
    decode (c :: s) = c :: decode s :=
  decode.eq_3 c s fun _ _ h => absurd h hc

/-- A backslash that begins no pair stands for itself. -/
theorem decode_backslash_cons {s : List Char} (hs : ∀ c ∈ s.head?, unescape? c = none) :
    decode ('\\' :: s) = '\\' :: decode s := by
  cases s with
  | nil => rfl
  | cons c s =>
    rw [decode]
    simp only [hs c rfl]

/-- **A cell is its text decoded.** -/
theorem read_fst (stop : Char → Bool) (s : List Char) :
    (read stop s).1 = decode (s.take (read stop s).2) := by
  fun_induction read stop s with
  | case1 => rfl
  | case2 c rest decoded hc after ih =>
    simp only [List.take_succ_cons, decode, hc]
    rw [ih]
  | case3 => rfl
  | case4 c rest hc _ after ih =>
    rw [List.take_succ_cons, decode_backslash_cons, ih]
    intro d hd
    rw [List.head?_take] at hd
    split at hd
    · simp at hd
    · obtain rfl : c = d := by simpa using hd
      exact hc
  | case5 => rfl
  | case6 c rest hc _ after ih =>
    rw [List.take_succ_cons]
    by_cases h : c = '\\'
    · cases rest with
      | nil =>
        subst h
        rfl
      | cons d rest => exact absurd rfl (hc d rest h)
    · rw [decode_cons_of_ne h, ih]

theorem read_cons_of_ne {stop : Char → Bool} {c : Char} (hc : c ≠ '\\') (s : List Char) :
    read stop (c :: s) =
      if c = '\n' ∨ stop c = true then ([], 0)
      else (c :: (read stop s).1, (read stop s).2 + 1) :=
  read.eq_3 stop c s fun _ _ h => absurd h hc

theorem read_of_endsLine {stop : Char → Bool} {s : List Char} (h : EndsLine s) :
    read stop s = ([], 0) := by
  cases s with
  | nil => rfl
  | cons c s =>
    obtain rfl : c = '\n' := h
    rw [read_cons_of_ne (by decide), if_pos (Or.inl rfl)]

/-- A backslash at the end of a line begins no pair. -/
theorem read_backslash_of_endsLine (stop : Char → Bool) {s : List Char} (h : EndsLine s) :
    read stop ('\\' :: s) = if stop '\\' = true then ([], 0) else (['\\'], 1) := by
  cases s with
  | nil => simp [read]
  | cons c s =>
    obtain rfl : c = '\n' := h
    have hpair : unescape? '\n' = none := rfl
    have hread : read stop ('\n' :: s) = ([], 0) := read_of_endsLine rfl
    simp only [read, hpair, hread]

theorem read_append_of_lone_backslash (stop : Char → Bool) {s t : List Char}
    (h : Hides ('\\' :: s) t) (hs : ∀ c rest, s = c :: rest → False) :
    read stop ('\\' :: s ++ t) = read stop ('\\' :: s) := by
  cases s with
  | cons c rest => exact absurd rfl (hs c rest)
  | nil =>
    have hend : EndsLine t := h.resolve_left (by decide)
    rw [List.cons_append, List.nil_append, read_backslash_of_endsLine stop hend,
      read_backslash_of_endsLine stop (s := []) trivial]

/-- **A line hides what stands behind it** from a cell too. -/
theorem read_append_of_hides {s t : List Char} (h : Hides s t) (stop : Char → Bool) :
    read stop (s ++ t) = read stop s := by
  induction s using read.induct stop with
  | case1 => exact read_of_endsLine (h.resolve_left List.not_mem_nil)
  | case2 c rest decoded hc ih =>
    have hrest := ih ((h.tail (by decide)).tail (ne_newline_of_unescape? hc))
    simp only [List.cons_append, read, hc, hrest]
  | case3 c rest hc hs => simp only [List.cons_append, read, hc, hs, if_true]
  | case4 c rest hc hs ih =>
    have hrest := ih (h.tail (by decide))
    rw [List.cons_append] at hrest
    simp only [List.cons_append, read, hc, hrest]
  | case5 c rest hpair hs =>
    by_cases hc : c = '\\'
    · subst hc
      exact read_append_of_lone_backslash stop h fun d rest' => hpair d rest' rfl
    · rw [List.cons_append, read_cons_of_ne hc, read_cons_of_ne hc, if_pos hs, if_pos hs]
  | case6 c rest hpair hs ih =>
    by_cases hc : c = '\\'
    · subst hc
      exact read_append_of_lone_backslash stop h fun d rest' => hpair d rest' rfl
    · have hrest := ih (h.tail fun hc => hs (Or.inl hc))
      rw [List.cons_append, read_cons_of_ne hc, read_cons_of_ne hc, hrest]

end Cell
end FeatureLexer
