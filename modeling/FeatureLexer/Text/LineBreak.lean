/-!
# Line breaks

Within the library a line ends with the newline and with nothing else. Texts
that arrive with other line breaks are brought into this form first: a text
held in memory has each carriage return that stands before a newline dropped,
a text read from a file has every carriage return turned into a line break.
-/

namespace FeatureLexer
namespace Text

/-- Writes each pair of a carriage return and a newline as one newline. -/
def joinCarriageReturns : List Char → List Char
  | '\r' :: '\n' :: rest => '\n' :: joinCarriageReturns rest
  | c :: rest => c :: joinCarriageReturns rest
  | [] => []

/-- Writes each carriage return as a newline, together with the newline after
it if there is one. -/
def unifyLineBreaks : List Char → List Char
  | '\r' :: '\n' :: rest => '\n' :: unifyLineBreaks rest
  | '\r' :: rest => '\n' :: unifyLineBreaks rest
  | c :: rest => c :: unifyLineBreaks rest
  | [] => []

/-- **A unified text has one kind of line break.** -/
theorem carriageReturn_notMem_unifyLineBreaks (s : List Char) :
    '\r' ∉ unifyLineBreaks s := by
  fun_induction unifyLineBreaks s with
  | case1 rest ih => simpa using ih
  | case2 rest _ ih => simpa using ih
  | case3 c rest _ hc ih => simpa [Ne.symm hc] using ih
  | case4 => simp

/-- A carriage return is joined to a newline that stands right behind it, and to
nothing else. -/
theorem joinCarriageReturns_cons {c : Char} {s : List Char}
    (h : ¬(c = '\r' ∧ s.head? = some '\n')) :
    joinCarriageReturns (c :: s) = c :: joinCarriageReturns s := by
  rw [joinCarriageReturns]
  rintro rest rfl rfl
  exact h ⟨rfl, rfl⟩

/-- A part without carriage returns stays as it is in front of any other. -/
theorem joinCarriageReturns_append {s : List Char} (h : '\r' ∉ s) (t : List Char) :
    joinCarriageReturns (s ++ t) = s ++ joinCarriageReturns t := by
  induction s with
  | nil => rfl
  | cons c s ih =>
    rw [List.mem_cons, not_or] at h
    have hc : ¬(c = '\r' ∧ (s ++ t).head? = some '\n') := fun hreturn => h.1 hreturn.1.symm
    rw [List.cons_append, joinCarriageReturns_cons hc, ih h.2, List.cons_append]

/-- **A text without carriage returns stays as it is.** -/
theorem joinCarriageReturns_eq_self {s : List Char} (h : '\r' ∉ s) :
    joinCarriageReturns s = s := by
  have hself := joinCarriageReturns_append h []
  rwa [List.append_nil, joinCarriageReturns, List.append_nil] at hself

/-- **A line keeps its text,** except for a carriage return at its end. -/
theorem joinCarriageReturns_append_newline {s : List Char} (h : '\n' ∉ s) (t : List Char) :
    ∃ line, (s = line ∨ s = line ++ ['\r']) ∧
      joinCarriageReturns (s ++ '\n' :: t) = line ++ '\n' :: joinCarriageReturns t := by
  induction s with
  | nil =>
    refine ⟨[], Or.inl rfl, ?_⟩
    exact joinCarriageReturns_cons (by simp)
  | cons c s ih =>
    obtain ⟨line, hline, hjoin⟩ := ih fun hmem => h (List.mem_cons_of_mem _ hmem)
    by_cases hreturn : c = '\r' ∧ s = []
    · obtain ⟨rfl, rfl⟩ := hreturn
      exact ⟨[], Or.inr rfl, rfl⟩
    · have hhead : ¬(c = '\r' ∧ (s ++ '\n' :: t).head? = some '\n') := by
        rintro ⟨hc, hnewline⟩
        cases s with
        | nil => exact hreturn ⟨hc, rfl⟩
        | cons d s =>
          obtain rfl : d = '\n' := Option.some.inj hnewline
          exact h (List.mem_cons_of_mem _ List.mem_cons_self)
      refine ⟨c :: line, ?_, ?_⟩
      · rcases hline with rfl | rfl
        · exact Or.inl rfl
        · exact Or.inr rfl
      · rw [List.cons_append, joinCarriageReturns_cons hhead, hjoin, List.cons_append]

/-- A part of a line stays as it is, unless it ends in a carriage return that is
joined to the newline behind it. -/
theorem joinCarriageReturns_append_of_notMem {s t : List Char} (h : '\n' ∉ s)
    (hlast : ¬(s.getLast? = some '\r' ∧ t.head? = some '\n')) :
    joinCarriageReturns (s ++ t) = s ++ joinCarriageReturns t := by
  induction s with
  | nil => rfl
  | cons c s ih =>
    rw [List.mem_cons, not_or] at h
    cases s with
    | nil => exact joinCarriageReturns_cons (by simpa using hlast)
    | cons d s =>
      rw [List.getLast?_cons_cons] at hlast
      have hd : ¬(c = '\r' ∧ (d :: s ++ t).head? = some '\n') := by
        rintro ⟨_, hnewline⟩
        exact h.2 (Option.some.inj hnewline ▸ List.mem_cons_self)
      rw [List.cons_append, joinCarriageReturns_cons hd, ih h.2 hlast]
      rfl

/-- A line without its end stays as it is. -/
theorem joinCarriageReturns_of_notMem {s : List Char} (h : '\n' ∉ s) :
    joinCarriageReturns s = s := by
  have hlast : ¬(s.getLast? = some '\r' ∧ ([] : List Char).head? = some '\n') := by simp
  have hself := joinCarriageReturns_append_of_notMem h hlast
  rwa [List.append_nil, joinCarriageReturns, List.append_nil] at hself

/-- Whether every carriage return of a text stands before a newline. -/
def PairsReturns (s : List Char) : Prop :=
  ∀ before after, s = before ++ '\r' :: after → after.head? = some '\n'

theorem pairsReturns_nil : PairsReturns [] := by
  intro before after h
  exact absurd h.symm (List.append_ne_nil_of_right_ne_nil _ (List.cons_ne_nil _ _))

theorem pairsReturns_cons_iff {c : Char} {s : List Char} :
    PairsReturns (c :: s) ↔ (c = '\r' → s.head? = some '\n') ∧ PairsReturns s := by
  constructor
  · intro h
    refine ⟨?_, ?_⟩
    · rintro rfl
      exact h [] s rfl
    · rintro before after rfl
      exact h (c :: before) after rfl
  · rintro ⟨hc, hs⟩ before after h
    cases before with
    | nil =>
      obtain ⟨rfl, rfl⟩ := List.cons.inj h
      exact hc rfl
    | cons d before =>
      obtain ⟨_, hafter⟩ := List.cons.inj h
      exact hs before after hafter

instance decidablePairsReturns : (s : List Char) → Decidable (PairsReturns s)
  | [] => isTrue pairsReturns_nil
  | c :: s =>
    have := decidablePairsReturns s
    decidable_of_iff _ (pairsReturns_cons_iff (c := c) (s := s)).symm

/-- **The two forms of a text agree where every carriage return is paired.** -/
theorem unifyLineBreaks_eq_joinCarriageReturns {s : List Char} (h : PairsReturns s) :
    unifyLineBreaks s = joinCarriageReturns s := by
  fun_induction unifyLineBreaks s with
  | case1 rest ih =>
    obtain ⟨_, hnewline⟩ := pairsReturns_cons_iff.1 h
    obtain ⟨_, hrest⟩ := pairsReturns_cons_iff.1 hnewline
    rw [joinCarriageReturns, ih hrest]
  | case2 rest hlone ih =>
    obtain ⟨hpair, _⟩ := pairsReturns_cons_iff.1 h
    obtain ⟨after, hafter⟩ := List.head?_eq_some_iff.1 (hpair rfl)
    exact absurd hafter (hlone after)
  | case3 c rest _ hc ih =>
    obtain ⟨_, hrest⟩ := pairsReturns_cons_iff.1 h
    rw [joinCarriageReturns_cons fun hreturn => hc hreturn.1, ih hrest]
  | case4 => rfl

end Text
end FeatureLexer
