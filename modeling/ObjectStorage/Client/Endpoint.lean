import ObjectStorage.Text.DecimalDigit
import ObjectStorage.Url.Authority

/-!
# Endpoints of a service

* `isHostLabel`, `isHostName`: letters, digits and hyphens between points.
* `isHostAddress`: a version 6 address, its zone made of characters that need no escape.
* `Endpoint.check`: whether requests can be sent to a URL.
-/

namespace ObjectStorage.Endpoint

open ObjectStorage.Text ObjectStorage.Url

/-! ## Hosts -/

/-- A hyphen, a decimal digit, an ASCII letter, or one of the three letters outside ASCII that differ
from one of these only in case: U+0131, U+017F and U+212A. -/
def isHostChar (c : Char) : Bool :=
  c = '-' || isDecimalDigit c || isLetter c || c = '\u0131' || c = '\u017F' || c = '\u212A'

/-- The most characters between two points of a host. -/
def longestLabel : Nat := 63

/-- The most characters of a host. -/
def longestHost : Nat := 255

/-- One to 63 letters, digits and hyphens, with no hyphen at either end. -/
def isHostLabel (cs : List Char) : Bool :=
  cs ≠ [] && cs.length ≤ longestLabel && cs.all isHostChar && cs.head? ≠ some '-' &&
    cs.getLast? ≠ some '-'

/-- A text less one point at its end. -/
def withoutFinalPoint (cs : List Char) : List Char :=
  if cs.getLast? = some '.' then cs.dropLast else cs

/-- Labels between points; one more point may stand at the end. -/
def isHostName (cs : List Char) : Bool :=
  cs.length ≤ longestHost && ((withoutFinalPoint cs).splitOn '.').all isHostLabel

/-- A character of a zone that needs no escape. -/
def isZoneChar (c : Char) : Bool :=
  isLetter c || Numeral.isDigit c || c = '.' || c = '_' || c = '!' || c = '-' || c = '~'

/-- A version 6 address whose zone, if it has one, needs no escape. -/
def isHostAddress (cs : List Char) : Bool :=
  Ip.isVersion6 cs && (after '%' cs).all isZoneChar

/-! ## URLs -/

/-- Whether requests can be sent to a URL; the scheme does not matter. Without a URL the service has
an endpoint of its own. -/
def check : Option String → Except Fault Unit
  | none => .ok ()
  | some url =>
    if !isUnbroken url.toList then .error (.endpoint url)
    else
      match endpoint? url.toList with
      | .error e => .error (.address e)
      | .ok (host, _) =>
        if isHostName host || isHostAddress host then .ok () else .error (.endpoint url)

end ObjectStorage.Endpoint
