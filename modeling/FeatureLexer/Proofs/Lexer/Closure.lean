import FeatureLexer.Lexer.Pattern

/-!
# What holds across every rule holds across every pattern

Patterns do nothing to a lexer that rules do not do. A choice runs its patterns
one after the other, each where the one before it left the lexer, and a
repetition does so with one pattern. A relation between the lexer before and
the lexer after which holds across every rule, and which may be put together
(`Lexer.AcrossRules`), holds therefore across every pattern
(`AcrossRules.run`), however the run ends. It holds also across the runs by
which a session looks for its next token (`AcrossRules.untilToken`).
-/

namespace FeatureLexer
namespace Lexer

/-- Whether a relation between a lexer and a later one holds across every rule,
and across one run after another if it holds across each of them. -/
structure AcrossRules (R : Lexer → Lexer → Prop) : Prop where
  refl (lexer : Lexer) : R lexer lexer
  trans {first second third : Lexer} : R first second → R second third → R first third
  rule (rule : Rule) (lexer : Lexer) : R lexer (rule.run lexer).lexer

namespace AcrossRules

variable {R : Lexer → Lexer → Prop} (hR : AcrossRules R)
include hR

theorem iterate {step : Lexer → Run} (hstep : ∀ lexer, R lexer (step lexer).lexer)
    (lexer : Lexer) : R lexer (Run.iterate step lexer).lexer := by
  fun_induction Run.iterate step lexer with
  | case1 lexer run hdone hless ih => exact hR.trans (hstep lexer) ih
  | case2 lexer run hdone hless => exact hstep lexer
  | case3 lexer run why hrefused => exact hstep lexer
  | case4 lexer run error hfailed => exact hstep lexer
  | case5 lexer run hendless => exact hstep lexer

theorem untilToken {step : Lexer → Run} (hstep : ∀ lexer, R lexer (step lexer).lexer)
    (lexer : Lexer) : R lexer (Run.untilToken step lexer).lexer := by
  fun_induction Run.untilToken step lexer with
  | case1 lexer run hdone htokens hless ih => exact hR.trans (hstep lexer) ih
  | case2 lexer run hdone htokens hless => exact hstep lexer
  | case3 lexer run hother => exact hstep lexer

mutual

/-- **What holds across every rule holds across every pattern.** -/
theorem run : ∀ (pattern : Pattern) (lexer : Lexer), R lexer (pattern.run lexer).lexer
  | .rule r, lexer => by
    rw [Pattern.run]
    exact hR.rule r lexer
  | .choice patterns, lexer => by
    rw [Pattern.run]
    exact runFirst patterns [] lexer
  | .many pattern, lexer => by
    rw [Pattern.run]
    exact hR.iterate (run pattern) lexer
  | .beforeEnd pattern, lexer => by
    rw [Pattern.run]
    split
    · exact hR.refl lexer
    · exact run pattern lexer

/-- A choice goes on where a refused pattern left the lexer. -/
theorem runFirst : ∀ (patterns : List Pattern) (refusals : List Refusal) (lexer : Lexer),
    R lexer (Pattern.runFirst patterns refusals lexer).lexer
  | [], refusals, lexer => by
    rw [Pattern.runFirst]
    exact hR.refl lexer
  | pattern :: patterns, refusals, lexer => by
    rw [Pattern.runFirst]
    split
    · exact hR.trans (run pattern lexer) (runFirst patterns _ _)
    · exact run pattern lexer

end

end AcrossRules
end Lexer
end FeatureLexer
