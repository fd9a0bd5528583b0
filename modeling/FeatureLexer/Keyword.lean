/-!
# Keywords

A line of a feature file may open a block (`Feature:`, `Scenario:`) or a step
(`Given`, `When`). Blocks and step keywords are the same in every natural
language; their spellings belong to a dialect. The *opening* of a line says
which of these it is, if any, and how its keyword is spelled.
-/

namespace FeatureLexer

/-- The blocks of a feature file, each opened by a line of its own and
followed by a title. -/
inductive Block where
  | feature
  | rule
  | background
  | scenario
  | scenarioOutline
  | examples
deriving DecidableEq, Repr

/-- The blocks in the order in which a spelling listed twice is decided. -/
def Block.all : List Block :=
  [.feature, .rule, .background, .scenario, .scenarioOutline, .examples]

theorem Block.mem_all (b : Block) : b ∈ Block.all := by
  cases b <;> decide

/-- The keywords that begin a step. -/
inductive StepKeyword where
  | givenStep
  | whenStep
  | thenStep
  | andStep
  | butStep
deriving DecidableEq, Repr

/-- The step keywords in the order in which a spelling listed twice is decided. -/
def StepKeyword.all : List StepKeyword :=
  [.givenStep, .whenStep, .thenStep, .andStep, .butStep]

theorem StepKeyword.mem_all (keyword : StepKeyword) : keyword ∈ StepKeyword.all := by
  cases keyword <;> decide

/-- What the start of a line can be. -/
inductive LineKind where
  | block (block : Block)
  | step
  | unknown
deriving DecidableEq, Repr

/-- The kinds that open a block. -/
def LineKind.blockKinds : List LineKind :=
  Block.all.map .block

/-- Whether a kind opens a block. -/
def LineKind.opensBlock : LineKind → Bool
  | .block _ => true
  | _ => false

/-- Whether a kind is the step. -/
def LineKind.isStep : LineKind → Bool
  | .step => true
  | _ => false

theorem LineKind.opensBlock_iff (kind : LineKind) :
    kind.opensBlock = true ↔ kind ∈ LineKind.blockKinds := by
  cases kind with
  | block b => simp [opensBlock, blockKinds, Block.mem_all]
  | step => simp [opensBlock, blockKinds]
  | unknown => simp [opensBlock, blockKinds]

/-- What the start of a line is, with the keyword as it is spelled there. For
a step the spelling is the part of the line to skip to get to the step's
text. -/
inductive Opening where
  | block (block : Block) (spelling : List Char)
  | step (keyword : StepKeyword) (spelling : List Char)
  | unknown
deriving DecidableEq, Repr

/-- The kind of line that an opening makes. -/
def Opening.kind : Opening → LineKind
  | .block b _ => .block b
  | .step _ _ => .step
  | .unknown => .unknown

/-- The step keyword of an opening, if it opens a step. -/
def Opening.keyword? : Opening → Option StepKeyword
  | .step keyword _ => some keyword
  | _ => none

/-- The spelling of the keyword, empty if there is none. -/
def Opening.spelling : Opening → List Char
  | .block _ spelling => spelling
  | .step _ spelling => spelling
  | .unknown => []

end FeatureLexer
