import FeatureLexer.Text.Trim

/-!
# Paths

Two readings of a path. The *last component* names a file in messages; both
the slash and the backslash divide components, since a path may have been
written on any system. The *normal form* is how a path value is shown: empty
components and components `.` are dropped, and a path that begins with one
slash, or with more than two, begins with one.
-/

namespace FeatureLexer
namespace Path

/-- Characters that divide the components of a path. -/
def isSeparator (c : Char) : Bool :=
  c == '\\' || c == '/'

/-- The last component of a path; separators at its end do not count. -/
def lastComponent (s : List Char) : List Char :=
  ((Text.trimEnd isSeparator s).reverse.takeWhile (!isSeparator ·)).reverse

/-- The slashes that a path in normal form begins with. -/
def root : List Char → List Char
  | '/' :: '/' :: '/' :: _ => ['/']
  | '/' :: '/' :: _ => ['/', '/']
  | '/' :: _ => ['/']
  | _ => []

/-- The normal form of a path; the empty path is the directory `.`. -/
def normalize (s : List Char) : List Char :=
  let named := (s.splitOn '/').filter fun part => part != [] && part != ['.']
  let shown := root s ++ List.intercalate ['/'] named
  if shown = [] then ['.'] else shown

example : lastComponent "C:\\dir\\x.feature".toList = "x.feature".toList := by decide +kernel

example : normalize "./d//e/./t.feature".toList = "d/e/t.feature".toList := by decide +kernel

end Path
end FeatureLexer
