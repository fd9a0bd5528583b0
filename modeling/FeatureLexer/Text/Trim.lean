/-!
# Trimming

Removing the characters of a class from both ends of a text. What is left
begins and ends outside the class, and the removed parts lie inside it.
-/

namespace FeatureLexer
namespace Text

/-- Removes the longest run of characters of class `p` from the end. -/
def trimEnd (p : Char → Bool) (s : List Char) : List Char :=
  (s.reverse.dropWhile p).reverse

/-- Removes the longest runs of characters of class `p` from both ends. -/
def trim (p : Char → Bool) (s : List Char) : List Char :=
  trimEnd p (s.dropWhile p)

@[simp] theorem trimEnd_nil (p : Char → Bool) : trimEnd p [] = [] := rfl

@[simp] theorem trim_nil (p : Char → Bool) : trim p [] = [] := rfl

theorem trimEnd_append_takeWhile (p : Char → Bool) (s : List Char) :
    trimEnd p s ++ (s.reverse.takeWhile p).reverse = s := by
  rw [trimEnd, ← List.reverse_append, List.takeWhile_append_dropWhile, List.reverse_reverse]

/-- **Nothing but the class is removed.** A text is its trimmed form between
two runs of the class. -/
theorem trim_decomposition (p : Char → Bool) (s : List Char) :
    ∃ before after, s = before ++ trim p s ++ after ∧
      (∀ c ∈ before, p c = true) ∧ ∀ c ∈ after, p c = true := by
  refine ⟨s.takeWhile p, ((s.dropWhile p).reverse.takeWhile p).reverse, ?_, ?_, ?_⟩
  · rw [List.append_assoc, trim, trimEnd_append_takeWhile, List.takeWhile_append_dropWhile]
  · intro c hc
    exact (List.all_eq_true.1 List.all_takeWhile) c hc
  · intro c hc
    exact (List.all_eq_true.1 List.all_takeWhile) c (List.mem_reverse.1 hc)

theorem trimEnd_append (p : Char → Bool) (s : List Char) {after : List Char}
    (h : ∀ c ∈ after, p c = true) : trimEnd p (s ++ after) = trimEnd p s := by
  have hreverse : ∀ c ∈ after.reverse, p c = true := fun c hc => h c (List.mem_reverse.1 hc)
  rw [trimEnd, List.reverse_append, List.dropWhile_append_of_pos hreverse, trimEnd]

/-- **What is of the class does not count** in front of a text. -/
theorem trim_append_left (p : Char → Bool) {before : List Char} (h : ∀ c ∈ before, p c = true)
    (s : List Char) : trim p (before ++ s) = trim p s := by
  rw [trim, List.dropWhile_append_of_pos h, trim]

/-- Nor does it behind a text. -/
theorem trim_append_right (p : Char → Bool) (s : List Char) {after : List Char}
    (h : ∀ c ∈ after, p c = true) : trim p (s ++ after) = trim p s := by
  induction s with
  | nil =>
    have hall := trim_append_left p h []
    rwa [List.append_nil] at hall
  | cons c s ih =>
    by_cases hc : p c = true
    · have hcons (t : List Char) : trim p (c :: t) = trim p t := by
        rw [trim, List.dropWhile_cons_of_pos hc, trim]
      rw [List.cons_append, hcons, hcons, ih]
    · rw [trim, trim, List.cons_append, List.dropWhile_cons_of_neg hc,
        List.dropWhile_cons_of_neg hc, ← List.cons_append, trimEnd_append p _ h]

/-- **A text that begins outside the class** loses something at its end only. -/
theorem exists_trim_append {p : Char → Bool} {s : List Char} (h : s.head?.any p = false) :
    ∃ after, s = trim p s ++ after ∧ ∀ c ∈ after, p c = true := by
  obtain ⟨before, after, hs, hbefore, hafter⟩ := trim_decomposition p s
  cases before with
  | nil => exact ⟨after, hs, hafter⟩
  | cons c before =>
    rw [hs] at h
    have hc : p c = false := h
    exact absurd (hbefore c List.mem_cons_self) (by simp [hc])

/-- **Trimming once is enough.** -/
theorem trim_trim (p : Char → Bool) (s : List Char) : trim p (trim p s) = trim p s := by
  obtain ⟨before, after, hs, hbefore, hafter⟩ := trim_decomposition p s
  have htrim := congrArg (trim p) hs
  rw [trim_append_right p _ hafter, trim_append_left p hbefore] at htrim
  exact htrim.symm

/-- What is trimmed was there before. -/
theorem mem_of_mem_trim {p : Char → Bool} {s : List Char} {c : Char} (h : c ∈ trim p s) :
    c ∈ s := by
  obtain ⟨before, after, hs, _, _⟩ := trim_decomposition p s
  rw [hs]
  exact List.mem_append_left _ (List.mem_append_right _ h)

theorem head?_dropWhile (p : Char → Bool) (s : List Char) :
    (s.dropWhile p).head?.any p = false := by
  induction s with
  | nil => rfl
  | cons c s ih =>
    by_cases hc : p c = true
    · rw [List.dropWhile_cons_of_pos hc, ih]
    · rw [List.dropWhile_cons_of_neg hc]
      simpa using hc

/-- **A trimmed text begins outside the class.** -/
theorem head?_trim (p : Char → Bool) (s : List Char) : (trim p s).head?.any p = false := by
  have hdrop := head?_dropWhile p s
  rw [← trimEnd_append_takeWhile p (s.dropWhile p)] at hdrop
  rw [trim]
  cases htrim : trimEnd p (s.dropWhile p) with
  | nil => rfl
  | cons c rest =>
    rw [htrim] at hdrop
    exact hdrop

/-- **So does it end.** -/
theorem getLast?_trim (p : Char → Bool) (s : List Char) : (trim p s).getLast?.any p = false := by
  rw [trim, trimEnd, List.getLast?_reverse]
  exact head?_dropWhile p _

/-- **A text that begins and ends outside the class** has nothing to lose. -/
theorem trim_eq_self {p : Char → Bool} {s : List Char} (hhead : s.head?.any p = false)
    (hlast : s.getLast?.any p = false) : trim p s = s := by
  obtain ⟨before, after, hs, hbefore, hafter⟩ := trim_decomposition p s
  have hno_before : before = [] := by
    cases before with
    | nil => rfl
    | cons c before =>
      rw [hs] at hhead
      have hc : p c = false := hhead
      exact absurd (hbefore c List.mem_cons_self) (by simp [hc])
  have hno_after : after = [] := by
    rcases List.eq_nil_or_concat after with hnil | ⟨front, c, rfl⟩
    · exact hnil
    · rw [List.concat_eq_append] at hs hafter
      rw [hs, ← List.append_assoc, List.getLast?_concat] at hlast
      have hc : p c = false := hlast
      exact absurd (hafter c (List.mem_append_right _ List.mem_cons_self)) (by simp [hc])
  rw [hno_before, hno_after, List.nil_append, List.append_nil] at hs
  exact hs.symm

end Text
end FeatureLexer
