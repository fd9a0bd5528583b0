/-!
# Hosts between square brackets

The authority of a locator may give its host between square brackets. What stands
there is told apart by its form:

| form | what it is | example |
| --- | --- | --- |
| four numbers up to 255 between dots | IPv4 address | `127.0.0.1` |
| eight groups of up to four hexadecimal digits between colons | IPv6 address | `1:2:3:4:5:6:7:8` |
| `v`, hexadecimal digits, a dot and more | address of a version to come | `v7.x` |

An IPv6 address may leave out one or more groups where two colons follow one another
(`::1`), but only once. It may end in an IPv4 address, which stands for two groups
(`::127.0.0.1`), and a zone may follow it behind a percent sign (`fe80::1%eth0`).
-/

namespace FeatureLexer
namespace Host

/-- The decimal digits of a number up to 255, without zeros in front. -/
def isOctet (s : List Char) : Bool :=
  (List.range 256).any fun n => Nat.toDigits 10 n == s

/-- IPv4 addresses. -/
def isIPv4 (s : List Char) : Bool :=
  let octets := s.splitOn '.'
  octets.length == 4 && octets.all isOctet

/-- The groups of an IPv6 address. -/
def isHextet (s : List Char) : Bool :=
  !s.isEmpty && decide (s.length ≤ 4) && s.all Char.isHexDigit

/-- What stands before the first two colons that follow one another, and behind them. -/
def splitGap? : List Char → Option (List Char × List Char)
  | [] => none
  | ':' :: ':' :: rest => some ([], rest)
  | c :: rest => (splitGap? rest).map fun (front, back) => (c :: front, back)

/-- The parts between the colons of a text; an empty text has none. -/
def groups (s : List Char) : List (List Char) :=
  if s.isEmpty then [] else s.splitOn ':'

/-- The parts between the colons of a text at the end of an address, with two groups in
place of an IPv4 address. -/
def lastGroups (s : List Char) : List (List Char) :=
  let parts := groups s
  if isIPv4 (parts.getLastD []) then parts.dropLast ++ [['0'], ['0']] else parts

/-- IPv6 addresses without a zone. -/
def isUnzoned (s : List Char) : Bool :=
  match splitGap? s with
  | none =>
    let parts := lastGroups s
    parts.length == 8 && parts.all isHextet
  | some (front, back) =>
    let parts := groups front ++ lastGroups back
    decide (parts.length < 8) && parts.all isHextet

/-- IPv6 addresses. A zone is not empty and holds no percent sign. -/
def isIPv6 (s : List Char) : Bool :=
  isUnzoned (s.takeWhile (· != '%')) &&
    match s.dropWhile (· != '%') with
    | [] => true
    | _ :: zone => !zone.isEmpty && !zone.contains '%'

/-- Addresses of a version to come. -/
def isFuture : List Char → Bool
  | 'v' :: rest =>
    match rest.takeWhile Char.isHexDigit, rest.dropWhile Char.isHexDigit with
    | _ :: _, '.' :: _ :: _ => true
    | _, _ => false
  | _ => false

example : isIPv6 "2001:DB8::127.0.0.1%eth0".toList = true := by decide +kernel

example : isIPv6 "1::2::3".toList = false := by decide +kernel

end Host
end FeatureLexer
