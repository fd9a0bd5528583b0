import FeatureLexer.Source.Basic
import FeatureLexer.Text.Trim
import Mathlib.Algebra.Group.Nat.Defs

/-!
# Which sources have no name

A locator is refused for its authority, and for nothing else. Only a double slash
begins an authority, so a text without slashes is never refused
(`Locator.exists_path_of_slash_notMem`). A number is written without slashes: it has a name,
unless it has too many digits to be written. This leaves two kinds of sources without a
name (`Source.fileName_eq_error_iff`).
-/

namespace FeatureLexer
namespace Locator

/-- **What a scheme leaves of a text:** all of it, or what stands behind a word and a
colon. -/
theorem splitScheme_cases (s : List Char) :
    (splitScheme s).2 = s ∨
      ∃ word, s = word ++ ':' :: (splitScheme s).2 ∧ ∀ c ∈ word, isSchemeChar c = true := by
  rw [splitScheme]
  split
  next first others mark rest htake hdrop =>
    split
    next hword =>
      right
      have hsplit : s.takeWhile (· != ':') ++ s.dropWhile (· != ':') = s :=
        List.takeWhile_append_dropWhile
      have hmark := Text.head?_dropWhile (· != ':') s
      rw [hdrop] at hmark
      obtain rfl : mark = ':' := by simpa using hmark
      rw [htake, hdrop] at hsplit
      refine ⟨first :: others, hsplit.symm, fun c hc => ?_⟩
      rw [Bool.and_eq_true] at hword
      rcases List.mem_cons.1 hc with rfl | hc
      · simp [isSchemeChar, Char.isAlphanum, hword.1]
      · exact List.all_eq_true.1 hword.2 c hc
    next => exact Or.inl rfl
  next => exact Or.inl rfl

theorem splitScheme_suffix (s : List Char) : (splitScheme s).2 <:+ s := by
  rcases splitScheme_cases s with hall | ⟨word, hsplit, _⟩
  · exact ⟨[], hall⟩
  · exact ⟨word ++ [':'], by rw [List.append_assoc, List.singleton_append, ← hsplit]⟩

/-- **What an authority leaves of a text:** all of it, or what begins with the mark
that ends the authority. -/
theorem splitAuthority_cases (s : List Char) :
    splitAuthority s = ([], s) ∨
      ['/', '/'] <+: s ∧ (splitAuthority s).1 ⊆ s ∧ (splitAuthority s).2 <:+ s ∧
        ∀ c ∈ (splitAuthority s).2.head?, endsAuthority c = true := by
  rw [splitAuthority.eq_def]
  split
  next rest =>
    right
    refine ⟨⟨rest, rfl⟩, ?_, ?_, ?_⟩
    · intro c hc
      have hrest := (List.takeWhile_prefix (!endsAuthority ·)).subset hc
      exact List.mem_cons_of_mem _ (List.mem_cons_of_mem _ hrest)
    · exact (List.dropWhile_suffix _).trans (List.suffix_append ['/', '/'] rest)
    · intro c hc
      have hhead := Text.head?_dropWhile (!endsAuthority ·) rest
      rw [Option.mem_def.1 hc] at hhead
      simpa using hhead
  next => exact Or.inl rfl

/-- An authority without square brackets, and without characters that may be confused
with marks, is accepted. -/
theorem checkAuthority_eq_ok {authority : List Char}
    (h : ∀ c ∈ authority, c ≠ '[' ∧ c ≠ ']' ∧ isConfusable c = false) :
    checkAuthority authority = .ok () := by
  have hopened : authority.contains '[' = false := by
    simpa using fun hmem => (h '[' hmem).1 rfl
  have hclosed : authority.contains ']' = false := by
    simpa using fun hmem => (h ']' hmem).2.1 rfl
  have hconfusable : ¬authority.any isConfusable = true := by
    simpa using fun c hc => (h c hc).2.2
  rw [checkAuthority, checkBrackets, hopened, hclosed, if_neg hconfusable]
  rfl

/-- **A text without slashes is not refused,** since it has no authority. -/
theorem exists_path_of_slash_notMem {s : List Char} (h : '/' ∉ s) :
    ∃ found, path s = .ok found := by
  have hclean : '/' ∉ clean s := fun hmem =>
    h ((List.dropWhile_suffix _).subset (List.mem_filter.1 hmem).1)
  have hauthority : (splitAuthority (splitScheme (clean s)).2).1 = [] := by
    rcases splitAuthority_cases (splitScheme (clean s)).2 with hnone | ⟨hslashes, _⟩
    · rw [hnone]
    · have hslash := hslashes.subset (List.mem_cons_self (a := '/'))
      exact absurd ((splitScheme_suffix _).subset hslash) hclean
  have haccepted : checkAuthority [] = .ok () := checkAuthority_eq_ok (by simp)
  simp only [path, hauthority, haccepted]
  exact ⟨_, rfl⟩

end Locator

namespace Source

variable {source : Source} {number : Int}

/-- A source that can be written has a name if its text is accepted as a locator. -/
theorem fileName_of_written {text : List Char} (h : source.written = .ok text) :
    source.fileName = (Locator.path text).map fun path =>
      Path.lastComponent (if path.isEmpty then text else path) := by
  rw [fileName, h]
  rfl

/-- The numbers within the limit. -/
theorem length_digits_le_iff {n : Nat} :
    (Nat.toDigits 10 n).length ≤ digitLimit ↔ n < 10 ^ digitLimit :=
  Nat.length_toDigits_le_iff (by decide) (by decide)

/-- **A number is not written** if it has more digits than the limit. -/
theorem written_of_long (h : 10 ^ digitLimit ≤ number.natAbs) :
    (numbered number).written = .error (.longNumber digitLimit) := by
  have hlength : ¬(Nat.toDigits 10 number.natAbs).length ≤ digitLimit := fun hle =>
    Nat.not_lt_of_le h (length_digits_le_iff.1 hle)
  have hne : number ≠ 0 := by
    rintro rfl
    exact absurd (Nat.pow_pos (by decide)) (Nat.not_lt_of_le h)
  rw [written, if_neg hne, decimal, if_pos (Nat.lt_of_not_le hlength)]

/-- Any other number is written, and without slashes. -/
theorem exists_written_of_short (h : number.natAbs < 10 ^ digitLimit) :
    ∃ text, (numbered number).written = .ok text ∧ '/' ∉ text := by
  have hlength := length_digits_le_iff.2 h
  have hdigits : '/' ∉ Nat.toDigits 10 number.natAbs := fun hmem =>
    absurd (Nat.isDigit_of_mem_toDigits (by decide) (by decide) hmem) (by decide)
  rw [written]
  split
  · exact ⟨[], rfl, List.not_mem_nil⟩
  · refine ⟨_, by rw [decimal, if_neg (Nat.not_lt_of_le hlength)], ?_⟩
    split
    · simpa using hdigits
    · exact hdigits

/-- **The sources without a name** are the locators that are refused and the numbers
with too many digits. -/
theorem fileName_eq_error_iff {error : LocatorError} :
    source.fileName = .error error ↔
      (∃ text, source = .named text ∧ Locator.path text = .error error) ∨
      ∃ number : Int, source = .numbered number ∧ 10 ^ digitLimit ≤ number.natAbs ∧
        error = .longNumber digitLimit := by
  cases source with
  | unnamed => simp
  | named text =>
    have hwritten : (named text).written = .ok text := rfl
    cases hpath : Locator.path text with
    | error refusal => simp [fileName_of_written hwritten, hpath, Except.map]
    | ok path => simp [fileName_of_written hwritten, hpath, Except.map]
  | numbered number =>
    by_cases hlong : 10 ^ digitLimit ≤ number.natAbs
    · have hname : (numbered number).fileName = .error (.longNumber digitLimit) := by
        rw [fileName, written_of_long hlong]
        rfl
      simp [hname, hlong, eq_comm]
    · obtain ⟨text, hwritten, hslash⟩ := exists_written_of_short (Nat.lt_of_not_le hlong)
      obtain ⟨path, hpath⟩ := Locator.exists_path_of_slash_notMem hslash
      simp [fileName_of_written hwritten, hpath, hlong, Except.map]

end Source
end FeatureLexer
