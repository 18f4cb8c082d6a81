import ObjectStorage.Text.Blank
import ObjectStorage.Text.Numeral

/-!
# Reading the integer in a text

A numeral is an optional sign, digits, and optionally a point with one zero or more behind it. Blanks
around it do not count, and neighbouring digits may have one underscore between them; among the
leading zeros any number of them. The minus sign may also stand behind the leading zeros, then with at
most one underscore and no further leading zeros after it. The digits after the leading zeros are
at most `digitLimit`; the sign is not counted, so that a negative number may have as many digits as a
positive one.

* `signed`: whether a numeral is negative, and what follows its sign.
* `wholePart`: a numeral less the zeros behind its point.
* `grouped`: the digits of a text less its underscores.
* `afterZero`, `afterInnerMinus`: what follows the leading zeros and a minus sign behind them.
* `beginsTooLong`: whether a text begins with more digits than an integer may have.
* `read`: the integer, or which of the two ways the text fails. A text that begins with too many
  digits is too long, whatever follows them; where they come after anything else, it is malformed.
-/

namespace ObjectStorage.IntegerText

open ObjectStorage.Text ObjectStorage.Text.Numeral

/-- Why a text is no integer. -/
inductive Unreadable
  | malformed
  | tooLong
  deriving DecidableEq, Repr

/-- Whether a text begins with a minus sign, and what follows the sign. -/
def signed : List Char → Bool × List Char
  | '-' :: cs => (true, cs)
  | '+' :: cs => (false, cs)
  | cs => (false, cs)

/-- A text up to its first point, if only zeros, and at least one, stand behind that. -/
def wholePart (cs : List Char) : Option (List Char) :=
  let whole := cs.takeWhile (· ≠ '.')
  match cs.dropWhile (· ≠ '.') with
  | [] => some whole
  | _ :: zeros => if !zeros.isEmpty && zeros.all (· == '0') then some whole else none

/-- The digits of a text in which single underscores may stand between digits. -/
def grouped : List Char → Option (List Char)
  | [] => none
  | [c] => if isDigit c then some [c] else none
  | c :: '_' :: cs => if isDigit c then (grouped cs).map (c :: ·) else none
  | c :: d :: cs => if isDigit c then (grouped (d :: cs)).map (c :: ·) else none

/-- A zero or an underscore, as they may follow the first of several leading zeros. -/
def isFiller (c : Char) : Bool := c == '0' || c == '_'

/-- The number of a text of digits, if they are not too many; a sign is no longer among them. -/
def bounded (digits : List Char) : Option Nat :=
  if digits.length ≤ digitLimit then some (value digits) else none

/-- The number behind an inner minus sign: one underscore may come first, and no leading zero. -/
def afterInnerMinus (cs : List Char) : Option Nat :=
  let body := match cs with
    | '_' :: rest => rest
    | _ => cs
  if body = ['0'] then some 0
  else if body.head? = some '0' then none
  else (grouped body).bind bounded

/-- What follows a zero at the start of a numeral: further zeros and underscores, and then nothing
more, digits, or a minus sign if the numeral has none yet. -/
def afterZero (negative : Bool) (cs : List Char) : Option Int :=
  match cs.dropWhile isFiller with
  | [] => if cs.getLast? = some '_' then none else some 0
  | '-' :: rest => if negative then none else (afterInnerMinus rest).map fun n : Nat => -(n : Int)
  | rest => (grouped rest).bind bounded |>.map fun n : Nat => if negative then -(n : Int) else n

/-- The integer of a numeral less its sign and the zeros behind its point. -/
def integer? (negative : Bool) : List Char → Option Int
  | '0' :: cs => afterZero negative cs
  | cs => (grouped cs).bind bounded |>.map fun n : Nat => if negative then -(n : Int) else n

/-- Whether a text begins, perhaps after a minus sign, which is not counted, with more digits than an
integer may have, the first of them not zero. -/
def beginsTooLong (cs : List Char) : Bool :=
  let body := match cs with
    | '-' :: rest => rest
    | _ => cs
  body.head? ≠ some '0' && digitLimit < (body.takeWhile isDigit).length

/-- The integer that a text stands for. -/
def read (s : String) : Except Unreadable Int :=
  if beginsTooLong s.toList then .error .tooLong
  else
    let (negative, body) := signed (trim isBlank s.toList)
    match (wholePart body).bind (integer? negative) with
    | some n => .ok n
    | none => .error .malformed

end ObjectStorage.IntegerText
