import FeatureLexer.Source.Host
import FeatureLexer.Text.Quoted
import FeatureLexer.Text.Range

/-!
# The path of a locator

A source may be named by a path or by a locator, of which a path is one part.
The parts come in this order, and each but the path may be missing:

| part | mark |
| --- | --- |
| scheme | a colon after it |
| authority | a double slash before it |
| path | none |
| parameters | a semicolon before them, in the last segment of the path |
| query | a question mark before it |
| fragment | a number sign before it |

Only the path matters here. Controls and spaces in front of a locator are
dropped, and line breaks and tabs anywhere in it. A name without any of the
marks is its own path.

An authority may be refused. It is checked for

* square brackets of one kind without the other,
* a host between square brackets that is no address, or an IPv4 address, which stands
  without brackets,
* characters that are compatible with a mark of the locator syntax (`℀` reads as `a/c`),
  since such an authority may be taken for another one,

in this order.
-/

namespace FeatureLexer

/-- Why a source cannot be read as a locator. -/
inductive LocatorError where
  /-- The authority has an opening or a closing square bracket, but not both. -/
  | unbalancedBrackets
  /-- The host between square brackets begins like an address of a version to come, and
  is none. -/
  | futureAddress
  /-- The host between square brackets is an IPv4 address. -/
  | bracketedIPv4
  /-- The host between square brackets is no address. -/
  | noAddress (host : List Char)
  /-- The authority holds a character that is compatible with a mark. -/
  | confusable (authority : List Char)
  /-- The source is a number with more digits than are ever written. -/
  | longNumber (limit : Nat)
deriving DecidableEq, Repr

/-- The message for a source that cannot be read as a locator. -/
def LocatorError.message : LocatorError → String
  | .unbalancedBrackets => "Invalid IPv6 URL"
  | .futureAddress => "IPvFuture address is invalid"
  | .bracketedIPv4 => "An IPv4 address cannot be in brackets"
  | .noAddress host =>
    String.ofList (Text.quoted host) ++ " does not appear to be an IPv4 or IPv6 address"
  | .confusable authority =>
    "netloc '" ++ String.ofList authority ++
      "' contains invalid characters under NFKC normalization"
  | .longNumber limit =>
    "Exceeds the limit (" ++ toString limit ++ " digits) for integer string conversion; " ++
      "use sys.set_int_max_str_digits() to increase the limit"

namespace Locator

/-- Drops the controls and spaces in front, and every tab and line break. -/
def clean (s : List Char) : List Char :=
  (s.dropWhile fun c => c.toNat ≤ 0x20).filter fun c => c != '\t' && c != '\r' && c != '\n'

/-- Characters of a scheme. -/
def isSchemeChar (c : Char) : Bool :=
  c.isAlphanum || c == '+' || c == '-' || c == '.'

/-- The scheme in lower case, and what follows its colon. A locator that does
not begin with a letter and further scheme characters up to a colon has the
empty scheme. -/
def splitScheme (s : List Char) : List Char × List Char :=
  match s.takeWhile (· != ':'), s.dropWhile (· != ':') with
  | first :: others, _ :: rest =>
    if first.isAlpha && others.all isSchemeChar then ((first :: others).map Char.toLower, rest)
    else ([], s)
  | _, _ => ([], s)

/-- Characters that end an authority. -/
def endsAuthority (c : Char) : Bool :=
  c == '/' || c == '?' || c == '#'

/-- The authority behind a double slash, and what follows it. -/
def splitAuthority : List Char → List Char × List Char
  | '/' :: '/' :: rest => (rest.takeWhile (!endsAuthority ·), rest.dropWhile (!endsAuthority ·))
  | s => ([], s)

/-- The code points compatible with a text that holds one of `/ ? # @ :`. -/
def confusableTable : Text.RangeTable :=
  [(0x2047, 0x2049), (0x2100, 0x2101), (0x2105, 0x2106), (0x2a74, 0x2a74), (0xfe13, 0xfe13),
   (0xfe16, 0xfe16), (0xfe55, 0xfe56), (0xfe5f, 0xfe5f), (0xfe6b, 0xfe6b), (0xff03, 0xff03),
   (0xff0f, 0xff0f), (0xff1a, 0xff1a), (0xff1f, 0xff20)]

example : confusableTable.ordered = true ∧ confusableTable.size = 19 := by decide

/-- Whether a character is compatible with a text that holds a mark. -/
def isConfusable (c : Char) : Bool :=
  confusableTable.covers c.toNat

/-- The host between square brackets: what stands between the first opening bracket and
the next closing one, or the end. -/
def bracketedHost (authority : List Char) : List Char :=
  ((authority.dropWhile (· != '[')).drop 1).takeWhile (· != ']')

/-- Checks a host that stands between square brackets. -/
def checkHost (host : List Char) : Except LocatorError Unit :=
  if host.head? = some 'v' then
    if Host.isFuture host then .ok () else .error .futureAddress
  else if Host.isIPv6 host then .ok ()
  else if Host.isIPv4 host then .error .bracketedIPv4
  else .error (.noAddress host)

/-- Checks the square brackets of an authority and the host between them. -/
def checkBrackets (authority : List Char) : Except LocatorError Unit :=
  match authority.contains '[', authority.contains ']' with
  | true, true => checkHost (bracketedHost authority)
  | false, false => .ok ()
  | _, _ => .error .unbalancedBrackets

/-- Checks an authority: its brackets first, then all its characters. -/
def checkAuthority (authority : List Char) : Except LocatorError Unit := do
  checkBrackets authority
  if authority.any isConfusable then .error (.confusable authority)

/-- Drops what follows the first fragment mark, then what follows the first
query mark. -/
def dropQuery (s : List Char) : List Char :=
  (s.takeWhile (· != '#')).takeWhile (· != '?')

/-- Drops the parameters: what follows the first semicolon of the last segment. -/
def dropParameters (s : List Char) : List Char :=
  let segments := s.reverse.dropWhile (· != '/')
  let last := (s.reverse.takeWhile (· != '/')).reverse
  segments.reverse ++ last.takeWhile (· != ';')

/-- The schemes whose paths may have parameters; the empty scheme is one of them. -/
def parameterSchemes : List String :=
  ["", "ftp", "hdl", "prospero", "http", "imap", "https", "shttp", "rtsp", "rtsps", "rtspu", "sip",
   "sips", "mms", "sftp", "tel"]

/-- The path of a locator. -/
def path (s : List Char) : Except LocatorError (List Char) := do
  let (scheme, afterScheme) := splitScheme (clean s)
  let (authority, afterAuthority) := splitAuthority afterScheme
  checkAuthority authority
  let rest := dropQuery afterAuthority
  return if parameterSchemes.contains (String.ofList scheme) then dropParameters rest else rest

end Locator
end FeatureLexer
