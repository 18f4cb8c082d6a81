import ObjectStorage.Text.Numeral

/-!
# Internet addresses as text

* `isVersion4`: four decimal numbers up to 255 between points, without leading zeros.
* `isVersion6`: eight groups of up to four hexadecimal digits between colons, where `::` stands for
  one or more groups of zeros, the last two groups may be a version 4 address, and a zone may follow
  after `%`.
* `isFuture`: `v`, hexadecimal digits, a point, and at least one character.
-/

namespace ObjectStorage.Url.Ip

open ObjectStorage.Text.Numeral

/-! ## Version 4 -/

/-- A decimal number up to 255 without leading zeros. -/
def isOctet (cs : List Char) : Bool :=
  cs ≠ [] && cs.length ≤ 3 && cs.all isDigit && (cs = ['0'] || cs.head? ≠ some '0') &&
    value cs ≤ 255

/-- Four octets between points. -/
def isVersion4 (cs : List Char) : Bool :=
  let octets := cs.splitOn '.'
  octets.length = 4 && octets.all isOctet

/-! ## Version 6 -/

/-- A hexadecimal digit in either case. -/
def isHexDigit (c : Char) : Bool :=
  isDigit c || ('a' ≤ c && c ≤ 'f') || ('A' ≤ c && c ≤ 'F')

/-- A group of one to four hexadecimal digits. -/
def isGroup (cs : List Char) : Bool :=
  cs ≠ [] && cs.length ≤ 4 && cs.all isHexDigit

/-- How many groups stand between the colons of a text; in its last place, if `tail` allows it, a
version 4 address stands for two. -/
def countGroups? (tail : Bool) (cs : List Char) : Option Nat :=
  if cs = [] then some 0
  else
    let parts := cs.splitOn ':'
    let last := parts.getLast?.getD []
    if parts.all isGroup then some parts.length
    else if tail && parts.dropLast.all isGroup && isVersion4 last then some (parts.length + 1)
    else none

/-- The parts of a text before and after its first `::`. -/
def cutAtGap : List Char → Option (List Char × List Char)
  | [] => none
  | ':' :: ':' :: cs => some ([], cs)
  | c :: cs => (cutAtGap cs).map fun parts => (c :: parts.1, parts.2)

/-- Eight groups, or up to seven around a `::`. -/
def hasEightGroups (cs : List Char) : Bool :=
  match cutAtGap cs with
  | none => countGroups? true cs = some 8
  | some (left, right) =>
    match countGroups? false left, countGroups? true right with
    | some a, some b => a + b ≤ 7
    | _, _ => false

/-- Eight groups, and a zone that is not empty if there is a `%`. -/
def isVersion6 (cs : List Char) : Bool :=
  hasEightGroups (cs.takeWhile (· ≠ '%')) &&
    match cs.dropWhile (· ≠ '%') with
    | [] => true
    | _ :: zone => zone ≠ [] && !zone.contains '%'

/-! ## Future versions -/

/-- `v`, hexadecimal digits, a point, and at least one character. -/
def isFuture : List Char → Bool
  | 'v' :: cs =>
    cs.takeWhile isHexDigit ≠ [] &&
      match cs.dropWhile isHexDigit with
      | '.' :: _ :: _ => true
      | _ => false
  | _ => false

end ObjectStorage.Url.Ip
