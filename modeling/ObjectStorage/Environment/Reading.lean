import ObjectStorage.Environment.IntegerText
import ObjectStorage.Environment.Variable
import ObjectStorage.Text.Blank

/-!
# Reading the value of a variable

* `Raw`: a value as it is handed over: mostly a text, but the other forms of data occur as well.
* `Unreadable`: why a value does not have the form that its variable asks for, with the wording.
* `truth?`: the ten words for truth values, in any letter case.
* `bucketList`: the names between commas, less their outer blanks and without the empty ones.
* `Form.read`: the value that raw data stands for in a given form.
-/

namespace ObjectStorage

open ObjectStorage.Text

/-- A value as it is handed over. -/
inductive Raw
  | null
  | flag (b : Bool)
  | number (n : Int)
  | text (s : String)
  | list (items : List Raw)

/-! ## Faults -/

/-- Why a value does not have the form that its variable asks for. -/
inductive Unreadable
  | numeral
  | numeralTooLong
  | notANumber
  | truthWord
  | notATruth
  | notAText
  | transportName (given : String)
  | notATransport
  | mode
  | notASet
  deriving DecidableEq, Repr

/-- The wording of a value that cannot be read. -/
def Unreadable.message : Unreadable → String
  | numeral => "Input should be a valid integer, unable to parse string as an integer"
  | numeralTooLong => "Unable to parse input string as an integer, exceeded maximum size"
  | notANumber => "Input should be a valid integer"
  | truthWord => "Input should be a valid boolean, unable to interpret input"
  | notATruth => "Input should be a valid boolean"
  | notAText => "Input should be a valid string"
  | transportName given => "Value error, " ++ (Fault.unknownTransport given).message
  | notATransport => "Input should be 'urllib3' or 'crt'"
  | mode => "Input should be 'disabled', 'enabled', 'auto' or 'custom'"
  | notASet => "Input should be a valid frozenset"

/-! ## Words and lists -/

/-- The words for "true", in lower case. -/
def trueWords : List String := ["1", "true", "t", "yes", "y", "on"]

/-- The words for "false", in lower case. -/
def falseWords : List String := ["0", "false", "f", "no", "n", "off"]

/-- The truth value of a word, whatever the case of its ASCII letters. -/
def truth? (s : String) : Option Bool :=
  let word := String.ofList (s.toList.map Char.toLower)
  if word ∈ trueWords then some true
  else if word ∈ falseWords then some false
  else none

/-- The names between the commas of a text, less their outer blanks and without the empty ones. -/
def bucketList (s : String) : List String :=
  ((s.toList.splitOn ',').map (trim isOuterBlank)).filterMap fun cs =>
    if cs = [] then none else some (String.ofList cs)

/-! ## Forms -/

namespace Variable.Form

/-- A text, untouched. -/
def readText : Raw → Except Unreadable String
  | .text s => .ok s
  | _ => .error .notAText

/-- Whether a number has the size of a signed machine word of 64 bits. -/
def isWordSized (n : Int) : Bool := Int64.minValue.toInt ≤ n && n ≤ Int64.maxValue.toInt

/-- A truth value, one of the words for it, or the number one or zero. -/
def readFlag : Raw → Except Unreadable Bool
  | .text s =>
    match truth? s with
    | some b => .ok b
    | none => .error .truthWord
  | .flag b => .ok b
  | .number n =>
    if n = 1 then .ok true
    else if n = 0 then .ok false
    else .error (if isWordSized n then .truthWord else .notATruth)
  | _ => .error .notATruth

/-- An integer, a numeral, or a truth value as one or zero. -/
def readNumber : Raw → Except Unreadable Int
  | .text s =>
    match IntegerText.read s with
    | .ok n => .ok n
    | .error .malformed => .error .numeral
    | .error .tooLong => .error .numeralTooLong
  | .flag b => .ok (if b then 1 else 0)
  | .number n => .ok n
  | _ => .error .notANumber

/-- The name of a transport. -/
def readTransport : Raw → Except Unreadable Transport
  | .text s =>
    match Transport.parse? s with
    | some t => .ok t
    | none => .error (.transportName s)
  | _ => .error .notATransport

/-- The name of a mode. -/
def readMode : Raw → Except Unreadable RequesterPays.Mode
  | .text s =>
    match RequesterPays.Mode.parse? s with
    | some m => .ok m
    | none => .error .mode
  | _ => .error .mode

/-- Bucket names in one text after commas, or a list of texts as they are. -/
def readBuckets : Raw → Except Unreadable Buckets
  | .text s => .ok (.ofList (bucketList s))
  | .list items => do
    let names ← items.mapM readText
    pure (.ofList names)
  | _ => .error .notASet

/-- The value that raw data stands for in a given form. -/
def read : (k : Form) → Raw → Except Unreadable k.Value
  | .text => readText
  | .flag => readFlag
  | .number => readNumber
  | .transport => readTransport
  | .mode => readMode
  | .buckets => readBuckets

end Variable.Form

end ObjectStorage
