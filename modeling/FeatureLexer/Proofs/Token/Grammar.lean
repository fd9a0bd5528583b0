import FeatureLexer.Token
import Mathlib.Data.List.Chain

/-!
# The grammar of a line

What the tokens of one line look like, whatever the line says:

| line | tokens |
| --- | --- |
| nothing, or space | tags |
| a table row | tags, cells |
| prose | tags, one description |
| a block | tags, the keyword, then titles, placeholders and tags, then cells |
| a step | tags, the keyword, then the parts of the step and tags, then cells |

A title that is not the last token is followed by a placeholder, and a step
text that is not the last token by a part of another kind; two integers never
stand side by side.

`LineGrammar` is the grammar, and `WellOrdered` is what a reader of tokens may
rely on: which tokens need a keyword before them, that there is one keyword or
description at most, and that nothing but cells follows a cell. The second
follows from the first (`LineGrammar.wellOrdered`).
-/

namespace FeatureLexer
namespace Token

/-- Whether a token is a tag. -/
def isTag : Token → Bool
  | .tag _ => true
  | _ => false

/-- Whether a token is a cell. -/
def isCell : Token → Bool
  | .cell _ => true
  | _ => false

/-- Whether a token is a keyword or a description. -/
def opensLine : Token → Bool
  | .block _ | .keyword _ | .description _ => true
  | _ => false

/-- Whether a token is a part of a step that nothing else has. -/
def isStepPart : Token → Bool
  | .stepText _ | .integer _ | .quoted _ => true
  | _ => false

/-- Whether a token can stand behind the keyword of a block, cells aside. -/
def continuesBlock : Token → Bool
  | .title _ | .placeholder _ | .tag _ => true
  | _ => false

/-- Whether a token can stand behind the keyword of a step, cells aside. -/
def continuesStep : Token → Bool
  | .stepText _ | .integer _ | .quoted _ | .placeholder _ | .tag _ => true
  | _ => false

/-- Whether the second token can directly follow the first one in a block. -/
def mayFollowInBlock : Token → Token → Bool
  | .title _, .placeholder _ => true
  | .title _, _ => false
  | _, _ => true

/-- Whether the second token can directly follow the first one in a step. -/
def mayFollowInStep : Token → Token → Bool
  | .stepText _, .integer _ | .stepText _, .quoted _ | .stepText _, .placeholder _ => true
  | .stepText _, _ => false
  | .integer _, .integer _ => false
  | _, _ => true

end Token

/-- What can follow the keyword of a line: tokens that continue it, then cells. -/
structure LineTail (continues : Token → Bool) (mayFollow : Token → Token → Bool)
    (tokens : List Token) : Prop where
  parts : ∃ body cells, tokens = body ++ cells ∧ (∀ token ∈ body, continues token = true) ∧
    ∀ token ∈ cells, token.isCell = true
  chain : tokens.IsChain fun first second => mayFollow first second = true

/-- What can follow the tags at the start of a line. -/
inductive LineRest : List Token → Prop where
  | empty : LineRest []
  | cells {tokens : List Token} (hne : tokens ≠ []) (h : ∀ token ∈ tokens, token.isCell = true) :
      LineRest tokens
  | description (text : List Char) : LineRest [.description text]
  | block (kind : LineKind) {tail : List Token}
      (h : LineTail Token.continuesBlock Token.mayFollowInBlock tail) :
      LineRest (.block kind :: tail)
  | step (keyword : StepKeyword) {tail : List Token}
      (h : LineTail Token.continuesStep Token.mayFollowInStep tail) :
      LineRest (.keyword keyword :: tail)

/-- The tokens that a line can give. -/
def LineGrammar (tokens : List Token) : Prop :=
  ∃ tags rest, tokens = tags ++ rest ∧ (∀ token ∈ tags, token.isTag = true) ∧ LineRest rest

/-- How the tokens of a line are ordered. -/
structure WellOrdered (tokens : List Token) : Prop where
  opensOnce : tokens.countP Token.opensLine ≤ 1
  title : ∀ before text after, tokens = before ++ .title text :: after →
    ∃ kind, .block kind ∈ before
  stepPart : ∀ before token after, tokens = before ++ token :: after →
    token.isStepPart = true → ∃ keyword, .keyword keyword ∈ before
  placeholder : ∀ before text after, tokens = before ++ .placeholder text :: after →
    (∃ kind, .block kind ∈ before) ∨ ∃ keyword, .keyword keyword ∈ before
  cell : ∀ before text after, tokens = before ++ .cell text :: after →
    ∀ token ∈ after, token.isCell = true

/-! ### Building lines -/

theorem LineGrammar.of_rest {tokens : List Token} (h : LineRest tokens) : LineGrammar tokens :=
  ⟨[], tokens, rfl, fun _ hmem => absurd hmem List.not_mem_nil, h⟩

theorem LineGrammar.cons_tag {tokens : List Token} (h : LineGrammar tokens) (text : List Char) :
    LineGrammar (.tag text :: tokens) := by
  obtain ⟨tags, rest, rfl, htags, hrest⟩ := h
  refine ⟨.tag text :: tags, rest, rfl, ?_, hrest⟩
  intro token hmem
  rcases List.mem_cons.1 hmem with rfl | hmem
  · rfl
  · exact htags token hmem

theorem LineGrammar.of_cells {tokens : List Token} (h : ∀ token ∈ tokens, token.isCell = true) :
    LineGrammar tokens := by
  by_cases hne : tokens = []
  · rw [hne]
    exact .of_rest .empty
  · exact .of_rest (.cells hne h)

namespace LineTail

variable {continues : Token → Bool} {mayFollow : Token → Token → Bool} {tokens : List Token}

theorem cons (h : LineTail continues mayFollow tokens) {token : Token}
    (hcontinues : continues token = true)
    (hfollow : ∀ next ∈ tokens.head?, mayFollow token next = true) :
    LineTail continues mayFollow (token :: tokens) where
  parts := by
    obtain ⟨body, cells, hparts, hbody, hcells⟩ := h.parts
    refine ⟨token :: body, cells, by rw [hparts, List.cons_append], ?_, hcells⟩
    intro other hmem
    rcases List.mem_cons.1 hmem with rfl | hmem
    · exact hcontinues
    · exact hbody other hmem
  chain := List.isChain_cons.2 ⟨hfollow, h.chain⟩

/-- Cells follow each other freely, so that they are a tail by themselves. -/
theorem of_cells (hfree : ∀ text next, mayFollow (.cell text) next = true)
    (h : ∀ token ∈ tokens, token.isCell = true) : LineTail continues mayFollow tokens where
  parts := ⟨[], tokens, rfl, fun _ hmem => absurd hmem List.not_mem_nil, h⟩
  chain := by
    induction tokens with
    | nil => exact .nil
    | cons token tokens ih =>
      have htokens := ih fun other hmem => h other (List.mem_cons_of_mem _ hmem)
      refine List.isChain_cons.2 ⟨fun next _ => ?_, htokens⟩
      cases token with
      | cell text => exact hfree text next
      | _ => exact absurd (h _ List.mem_cons_self) Bool.false_ne_true

theorem continues_or_isCell (h : LineTail continues mayFollow tokens) {token : Token}
    (hmem : token ∈ tokens) : continues token = true ∨ token.isCell = true := by
  obtain ⟨body, cells, rfl, hbody, hcells⟩ := h.parts
  rcases List.mem_append.1 hmem with hmem | hmem
  · exact Or.inl (hbody token hmem)
  · exact Or.inr (hcells token hmem)

end LineTail

/-! ### Reading lines -/

theorem Token.of_isTag {token : Token} (h : token.isTag = true) :
    token.opensLine = false ∧ token.isCell = false := by
  cases token with
  | tag => exact ⟨rfl, rfl⟩
  | _ => exact absurd h Bool.false_ne_true

theorem Token.of_continuesBlock {token : Token} (h : token.continuesBlock = true) :
    token.opensLine = false ∧ token.isCell = false := by
  cases token with
  | title | placeholder | tag => exact ⟨rfl, rfl⟩
  | _ => exact absurd h Bool.false_ne_true

theorem Token.of_continuesStep {token : Token} (h : token.continuesStep = true) :
    token.opensLine = false ∧ token.isCell = false := by
  cases token with
  | stepText | integer | quoted | placeholder | tag => exact ⟨rfl, rfl⟩
  | _ => exact absurd h Bool.false_ne_true

theorem Token.opensLine_of_isCell {token : Token} (h : token.isCell = true) :
    token.opensLine = false := by
  cases token with
  | cell => rfl
  | _ => exact absurd h Bool.false_ne_true

/-- A list that begins with `front` and holds `x` behind it, split at `x`. -/
theorem exists_append_of_notMem {α : Type} {front back before after : List α} {x : α}
    (h : front ++ back = before ++ x :: after) (hx : x ∉ front) :
    ∃ others, before = front ++ others ∧ back = others ++ x :: after := by
  rcases List.append_eq_append_iff.1 h with ⟨others, hbefore, hback⟩ | ⟨others, hfront, hback⟩
  · exact ⟨others, hbefore, hback⟩
  · cases others with
    | nil => exact ⟨[], by simpa using hfront.symm, by simpa using hback.symm⟩
    | cons y others =>
      obtain ⟨rfl, _⟩ := List.cons.inj hback
      exact absurd (hfront ▸ List.mem_append_right _ List.mem_cons_self) hx

namespace LineTail

variable {continues : Token → Bool} {mayFollow : Token → Token → Bool} {tail : List Token}
  (hcontinues : ∀ {token : Token}, continues token = true →
    token.opensLine = false ∧ token.isCell = false)
include hcontinues

theorem countP_opensLine (h : LineTail continues mayFollow tail) :
    tail.countP Token.opensLine = 0 := by
  rw [List.countP_eq_zero]
  intro token hmem
  rw [Bool.not_eq_true]
  rcases h.continues_or_isCell hmem with htoken | htoken
  · exact (hcontinues htoken).1
  · exact Token.opensLine_of_isCell htoken

theorem exists_cells (h : LineTail continues mayFollow tail) {keyword : Token}
    (hkeyword : keyword.isCell = false) :
    ∃ body cells, keyword :: tail = body ++ cells ∧ (∀ token ∈ body, token.isCell = false) ∧
      ∀ token ∈ cells, token.isCell = true := by
  obtain ⟨body, cells, rfl, hbody, hcells⟩ := h.parts
  refine ⟨keyword :: body, cells, rfl, ?_, hcells⟩
  intro token hmem
  rcases List.mem_cons.1 hmem with rfl | hmem
  · exact hkeyword
  · exact (hcontinues (hbody token hmem)).2

end LineTail

theorem LineRest.countP_opensLine_le {rest : List Token} (h : LineRest rest) :
    rest.countP Token.opensLine ≤ 1 := by
  cases h with
  | empty => exact Nat.zero_le 1
  | cells _ h =>
    rw [List.countP_eq_zero.2 fun token hmem => by simp [Token.opensLine_of_isCell (h token hmem)]]
    exact Nat.zero_le 1
  | description => exact Nat.le_refl 1
  | block kind h =>
    rw [List.countP_cons, h.countP_opensLine Token.of_continuesBlock]
    exact Nat.le_refl 1
  | step keyword h =>
    rw [List.countP_cons, h.countP_opensLine Token.of_continuesStep]
    exact Nat.le_refl 1

/-- **The cells come last.** -/
theorem LineRest.exists_cells {rest : List Token} (h : LineRest rest) :
    ∃ body cells, rest = body ++ cells ∧ (∀ token ∈ body, token.isCell = false) ∧
      ∀ token ∈ cells, token.isCell = true := by
  cases h with
  | empty => exact ⟨[], [], rfl, by simp, by simp⟩
  | cells _ h => exact ⟨[], rest, rfl, by simp, h⟩
  | description text => exact ⟨[.description text], [], rfl, by simp [Token.isCell], by simp⟩
  | block kind h => exact h.exists_cells Token.of_continuesBlock rfl
  | step keyword h => exact h.exists_cells Token.of_continuesStep rfl

namespace LineGrammar

variable {tokens : List Token}

/-- **A keyword or a description comes once at most.** -/
theorem countP_opensLine_le (h : LineGrammar tokens) : tokens.countP Token.opensLine ≤ 1 := by
  obtain ⟨tags, rest, rfl, htags, hrest⟩ := h
  have hcount : tags.countP Token.opensLine = 0 :=
    List.countP_eq_zero.2 fun token hmem => by simp [Token.of_isTag (htags token hmem)]
  rw [List.countP_append, hcount, Nat.zero_add]
  exact hrest.countP_opensLine_le

/-- **What is neither tag nor cell and opens no line has its keyword before it.** -/
theorem exists_keyword_before (h : LineGrammar tokens) {before after : List Token} {token : Token}
    (htokens : tokens = before ++ token :: after) (htag : token.isTag = false)
    (hcell : token.isCell = false) (hopens : token.opensLine = false) :
    (token.continuesBlock = true ∧ ∃ kind, .block kind ∈ before) ∨
      (token.continuesStep = true ∧ ∃ keyword, .keyword keyword ∈ before) := by
  obtain ⟨tags, rest, rfl, htags, hrest⟩ := h
  have hnot : token ∉ tags := fun hmem =>
    absurd (htag.symm.trans (htags token hmem)) Bool.false_ne_true
  obtain ⟨others, rfl, hothers⟩ := exists_append_of_notMem htokens hnot
  have hmem : token ∈ rest := hothers ▸ List.mem_append_right _ List.mem_cons_self
  -- The keyword is the first token behind the tags, and no keyword is its own continuation.
  have hsplit (keyword : Token) (tail : List Token) (hkeyword : keyword.opensLine = true)
      (hrest : rest = keyword :: tail) : keyword ∈ tags ++ others ∧ token ∈ tail := by
    have hne : token ∉ [keyword] := fun hmem => by
      rw [List.mem_singleton.1 hmem, hkeyword] at hopens
      exact absurd hopens.symm Bool.false_ne_true
    have hcons : [keyword] ++ tail = others ++ token :: after := hrest.symm.trans hothers
    obtain ⟨later, rfl, rfl⟩ := exists_append_of_notMem hcons hne
    exact ⟨List.mem_append_right _ List.mem_cons_self,
      List.mem_append_right _ List.mem_cons_self⟩
  cases hrest with
  | empty => exact absurd hmem List.not_mem_nil
  | cells _ hcells => exact absurd (hcell.symm.trans (hcells token hmem)) Bool.false_ne_true
  | description text =>
    rw [List.mem_singleton.1 hmem] at hopens
    exact absurd hopens.symm Bool.false_ne_true
  | block kind htail =>
    obtain ⟨hbefore, hintail⟩ := hsplit _ _ rfl rfl
    have hcontinues := (htail.continues_or_isCell hintail).resolve_right (by simp [hcell])
    exact Or.inl ⟨hcontinues, kind, hbefore⟩
  | step keyword htail =>
    obtain ⟨hbefore, hintail⟩ := hsplit _ _ rfl rfl
    have hcontinues := (htail.continues_or_isCell hintail).resolve_right (by simp [hcell])
    exact Or.inr ⟨hcontinues, keyword, hbefore⟩

/-- **Nothing but cells follows a cell.** -/
theorem isCell_of_mem_after (h : LineGrammar tokens) {before after : List Token} {text : List Char}
    (htokens : tokens = before ++ .cell text :: after) : ∀ token ∈ after, token.isCell = true := by
  obtain ⟨tags, rest, rfl, htags, hrest⟩ := h
  obtain ⟨body, cells, rfl, hbody, hcells⟩ := hrest.exists_cells
  have hnot : Token.cell text ∉ tags ++ body := by
    intro hmem
    rcases List.mem_append.1 hmem with hmem | hmem
    · exact absurd (Token.of_isTag (htags _ hmem)).2.symm Bool.false_ne_true
    · exact absurd (hbody _ hmem).symm Bool.false_ne_true
  rw [← List.append_assoc] at htokens
  obtain ⟨others, _, rfl⟩ := exists_append_of_notMem htokens hnot
  intro token hmem
  exact hcells token (List.mem_append_right _ (List.mem_cons_of_mem _ hmem))

/-- **The grammar keeps the order.** -/
theorem wellOrdered (h : LineGrammar tokens) : WellOrdered tokens where
  opensOnce := h.countP_opensLine_le
  title before text after htokens := by
    rcases h.exists_keyword_before htokens rfl rfl rfl with ⟨_, hblock⟩ | ⟨hcontinues, _⟩
    · exact hblock
    · exact absurd hcontinues Bool.false_ne_true
  stepPart before token after htokens hpart := by
    have hplace : token.isTag = false ∧ token.isCell = false ∧ token.opensLine = false ∧
        token.continuesBlock = false := by
      cases token with
      | stepText | integer | quoted => exact ⟨rfl, rfl, rfl, rfl⟩
      | _ => exact absurd hpart Bool.false_ne_true
    obtain ⟨htag, hcell, hopens, hblock⟩ := hplace
    rcases h.exists_keyword_before htokens htag hcell hopens with ⟨hcontinues, _⟩ | ⟨_, hkeyword⟩
    · exact absurd (hblock.symm.trans hcontinues) Bool.false_ne_true
    · exact hkeyword
  placeholder before text after htokens := by
    rcases h.exists_keyword_before htokens rfl rfl rfl with ⟨_, hblock⟩ | ⟨_, hkeyword⟩
    · exact Or.inl hblock
    · exact Or.inr hkeyword
  cell _ _ _ htokens := h.isCell_of_mem_after htokens

end LineGrammar
end FeatureLexer
