import ObjectStorage.Text.Numeral
import ObjectStorage.Text.Printable

/-!
# Quoted text

* `mark cs`: the quotation mark for `cs`: the double one if `cs` holds the single one and not the
  double one, otherwise the single one.
* `escape q c`: a character inside the marks `q`. The mark and the backslash get a backslash in
  front; tab, line feed and carriage return have a letter; what has no printed form is its code
  point in hexadecimal.
* `quote s`: the text between its marks.
-/

namespace ObjectStorage.Text.Quoted

open ObjectStorage.Text ObjectStorage.Text.Numeral

/-- The quotation mark that `cs` is written with. -/
def mark (cs : List Char) : Char :=
  if cs.contains '\x27' && !cs.contains '\x22' then '\x22' else '\x27'

/-- The code point of `c` in the shortest of the three widths that holds it. -/
def codePoint (c : Char) : List Char :=
  let n := c.toNat
  if n < 0x100 then '\\' :: 'x' :: hexadecimal 2 n
  else if n < 0x10000 then '\\' :: 'u' :: hexadecimal 4 n
  else '\\' :: 'U' :: hexadecimal 8 n

/-- One character as it is written between the marks `q`. -/
def escape (q c : Char) : List Char :=
  if c = q || c = '\\' then ['\\', c]
  else if c = '\t' then ['\\', 't']
  else if c = '\n' then ['\\', 'n']
  else if c = '\r' then ['\\', 'r']
  else if isPrintable c then [c]
  else codePoint c

/-- A text between quotation marks. -/
def quote (s : String) : String :=
  let cs := s.toList
  let q := mark cs
  String.ofList (q :: cs.flatMap (escape q) ++ [q])

end ObjectStorage.Text.Quoted
