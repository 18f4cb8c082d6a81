import ObjectStorage.Fault
import ObjectStorage.Url.Ip

/-!
# The authority of a URL

A URL is `scheme://user@host:port/path`, where all but the authority between the two slashes and the
next delimiter may be missing. Blanks and controls in front of it and tabs and line ends anywhere in
it do not count.

* `clean`, `withoutScheme`, `authority`: the authority of a URL.
* `checkBrackets`, `checkLookAlikes`: what makes an authority unreadable.
* `hostAndPort`: the host and the text of the port, each empty where it is missing.
* `endpoint?`: both, of a URL whose authority can be read.
-/

namespace ObjectStorage.Url

open ObjectStorage.Text

/-! ## Finding the authority -/

/-- A tab, a carriage return or a line feed. -/
def isBreak (c : Char) : Bool := c = '\t' || c = '\r' || c = '\n'

/-- A text without tabs and line ends. -/
def isUnbroken (cs : List Char) : Bool := cs.all (!isBreak ·)

/-- A URL less the blanks and controls in front of it and less all its tabs and line ends. -/
def clean (url : List Char) : List Char :=
  (url.dropWhile fun c => c.toNat ≤ 0x20).filter (!isBreak ·)

/-- A letter of the ASCII alphabet. -/
def isLetter (c : Char) : Bool := c.isAlpha

/-- A character that may stand in the name of a scheme. -/
def isSchemeChar (c : Char) : Bool :=
  isLetter c || Numeral.isDigit c || c = '+' || c = '-' || c = '.'

/-- A letter followed by letters, digits, `+`, `-` and `.`. -/
def isScheme : List Char → Bool
  | [] => false
  | c :: cs => isLetter c && cs.all isSchemeChar

/-- A URL less its scheme and the colon behind that, if it has one. -/
def withoutScheme (url : List Char) : List Char :=
  match url.dropWhile (· ≠ ':') with
  | ':' :: rest => if isScheme (url.takeWhile (· ≠ ':')) then rest else url
  | _ => url

/-- A character that ends an authority. -/
def endsAuthority (c : Char) : Bool := c = '/' || c = '?' || c = '#'

/-- The authority of a URL, empty if it has none. -/
def authority (url : List Char) : List Char :=
  match withoutScheme (clean url) with
  | '/' :: '/' :: rest => rest.takeWhile (!endsAuthority ·)
  | _ => []

/-! ## Taking an authority apart -/

/-- A text up to the first `c`. -/
def before (c : Char) (cs : List Char) : List Char := cs.takeWhile (· ≠ c)

/-- A text after the first `c`, empty if it has none. -/
def after (c : Char) (cs : List Char) : List Char := (cs.dropWhile (· ≠ c)).tail

/-- A text after the last `@`, or all of it. -/
def withoutUser (cs : List Char) : List Char := (cs.reverse.takeWhile (· ≠ '@')).reverse

/-- Whether the host in brackets is an address that may stand there. -/
def checkHost (host : List Char) : Except AddressFault Unit :=
  if host.head? = some 'v' then
    if Ip.isFuture host then .ok () else .error .futureVersion
  else if Ip.isVersion4 host then .error .version4
  else if Ip.isVersion6 host then .ok ()
  else .error (.notAnAddress (String.ofList host))

/-- Whether the brackets of an authority come in a pair around an address, with nothing in front of
them and nothing but a colon behind them. -/
def checkBrackets (authority : List Char) : Except AddressFault Unit :=
  if authority.contains '[' ≠ authority.contains ']' then .error .brackets
  else if authority.contains '[' then
    let place := withoutUser authority
    if place.contains '[' then
      let inside := after '[' place
      let behind := after ']' inside
      if before '[' place ≠ [] || (behind ≠ [] && behind.head? ≠ some ':') then .error .brackets
      else checkHost (before ']' inside)
    else checkHost (before ':' place)
  else .ok ()

/-- The characters whose compatibility form holds one of `/`, `?`, `#`, `@` and `:`. -/
def lookAlikes : List Char :=
  ['\u2047', '\u2048', '\u2049', '\u2100', '\u2101', '\u2105', '\u2106', '\u2A74', '\uFE13',
    '\uFE16', '\uFE55', '\uFE56', '\uFE5F', '\uFE6B', '\uFF03', '\uFF0F', '\uFF1A', '\uFF1F',
    '\uFF20']

/-- Whether an authority is free of characters that look like a delimiter. -/
def checkLookAlikes (authority : List Char) : Except AddressFault Unit :=
  if authority.any lookAlikes.contains then .error (.lookAlike (String.ofList authority))
  else .ok ()

/-- The host of an authority and the text of its port, each empty where it is missing. -/
def hostAndPort (authority : List Char) : List Char × List Char :=
  let place := withoutUser authority
  if place.contains '[' then
    let inside := after '[' place
    (before ']' inside, after ':' (after ']' inside))
  else (before ':' place, after ':' place)

/-- The host of a URL and the text of its port, unless its authority cannot be read. -/
def endpoint? (url : List Char) : Except AddressFault (List Char × List Char) := do
  let authority := authority url
  checkBrackets authority
  checkLookAlikes authority
  pure (hostAndPort authority)

/-! ## Ports -/

/-- The highest number of a port. -/
def highestPort : Nat := 65535

/-- A text of digits that are the number of a port. -/
def isPort (cs : List Char) : Bool :=
  cs ≠ [] && cs.length ≤ Numeral.digitLimit && cs.all Numeral.isDigit &&
    Numeral.value cs ≤ highestPort

end ObjectStorage.Url
