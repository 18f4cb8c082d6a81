import ObjectStorage.Document.Basic

/-!
# Documents as JSON text

* `Json.escape c`: a character inside quotation marks. The mark and the backslash get a backslash
  in front, five control characters have a letter, and every other character outside U+0020 to
  U+007E is written by its UTF-16 code units, four lower-case hexadecimal digits each.
* `Json.string s`: a text between quotation marks.
* `Json.write depth d`: a document, two spaces of indentation for each level.
* `Document.json d`: the JSON text of a document, closed by a line feed.
-/

namespace ObjectStorage.Json

open ObjectStorage.Text.Numeral

/-! ## Strings -/

/-- One UTF-16 code unit. -/
def unit (n : Nat) : List Char := '\\' :: 'u' :: hexadecimal 4 n

/-- The UTF-16 code units of a character. -/
def units (c : Char) : List Nat :=
  let n := c.toNat
  if n < 0x10000 then [n]
  else [0xD800 + (n - 0x10000) / 0x400, 0xDC00 + (n - 0x10000) % 0x400]

/-- A character as it stands inside quotation marks. -/
def escape (c : Char) : List Char :=
  if c = '\x22' then ['\\', '\x22']
  else if c = '\\' then ['\\', '\\']
  else if c = '\x08' then ['\\', 'b']
  else if c = '\x0c' then ['\\', 'f']
  else if c = '\n' then ['\\', 'n']
  else if c = '\r' then ['\\', 'r']
  else if c = '\t' then ['\\', 't']
  else if 0x20 ≤ c.toNat && c.toNat ≤ 0x7E then [c]
  else (units c).flatMap unit

/-- A text between quotation marks. -/
def string (s : String) : List Char :=
  '\x22' :: s.toList.flatMap escape ++ ['\x22']

/-! ## Documents -/

/-- The start of a line at a given depth. -/
def newline (depth : Nat) : List Char := '\n' :: List.replicate (2 * depth) ' '

/-- The word for a truth value. -/
def flag (b : Bool) : List Char := if b then "true".toList else "false".toList

mutual

/-- A document whose opening bracket stands on a line of the given depth. -/
def write (depth : Nat) : Document → List Char
  | .null => "null".toList
  | .flag b => flag b
  | .number n => integer n
  | .text s => string s
  | .list [] => ['[', ']']
  | .list (d :: ds) =>
    '[' :: newline (depth + 1) ++ write (depth + 1) d ++ writeItems (depth + 1) ds ++
      newline depth ++ [']']
  | .object [] => ['\x7b', '\x7d']
  | .object ((k, d) :: es) =>
    '\x7b' :: newline (depth + 1) ++ string k ++ ':' :: ' ' :: write (depth + 1) d ++
      writeEntries (depth + 1) es ++ newline depth ++ ['\x7d']

/-- The items after the first one, each after a comma on a line of its own. -/
def writeItems (depth : Nat) : List Document → List Char
  | [] => []
  | d :: ds => ',' :: newline depth ++ write depth d ++ writeItems depth ds

/-- The entries after the first one, each after a comma on a line of its own. -/
def writeEntries (depth : Nat) : Entries → List Char
  | [] => []
  | (k, d) :: es =>
    ',' :: newline depth ++ string k ++ ':' :: ' ' :: write depth d ++ writeEntries depth es

end

end ObjectStorage.Json

namespace ObjectStorage

/-- The JSON text of a document, closed by a line feed. -/
def Document.json (d : Document) : String :=
  String.ofList (Json.write 0 d ++ ['\n'])

end ObjectStorage
