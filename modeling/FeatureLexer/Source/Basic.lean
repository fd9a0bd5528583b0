import FeatureLexer.Source.Locator
import FeatureLexer.Source.Path

/-!
# Sources

Where a text came from, as far as its reader knows: nowhere in particular, a
path or locator, or the number of a stream. The only use of a source is to
name the file in messages. Not every source has a name: a locator may be refused,
and a number may be too long to be written.
-/

namespace FeatureLexer

/-- Where a text came from. -/
inductive Source where
  | unnamed
  | named (text : List Char)
  | numbered (number : Int)
deriving DecidableEq, Repr

namespace Source

/-- The most digits that a number is written in, unless another limit is set. -/
def digitLimit : Nat := 4300

/-- The decimal digits of an integer, behind a minus sign if it is negative. The sign
does not count as a digit. -/
def decimal (number : Int) : Except LocatorError (List Char) :=
  let digits := Nat.toDigits 10 number.natAbs
  if digits.length > digitLimit then .error (.longNumber digitLimit)
  else .ok (if number < 0 then '-' :: digits else digits)

/-- How a source is written; the stream numbered zero is unnamed. -/
def written : Source → Except LocatorError (List Char)
  | .unnamed => .ok []
  | .named text => .ok text
  | .numbered number => if number = 0 then .ok [] else decimal number

/-- The name of a source in messages: the last component of its path, or of
all of it when the path is empty. -/
def fileName (source : Source) : Except LocatorError (List Char) := do
  let text ← source.written
  (Locator.path text).map fun path => Path.lastComponent (if path.isEmpty then text else path)

/-- A source, unless it is unnamed; then the other one. -/
def orElse : Source → Source → Source
  | .unnamed, other => other
  | source, _ => source

@[simp] theorem fileName_unnamed : fileName .unnamed = .ok [] := rfl

end Source
end FeatureLexer
