import ObjectStorage.Settings.Field
import ObjectStorage.Text.Quoted

/-!
# What can go wrong

* `InvalidConfiguration`: a setting that cannot be used, by its name and the reason.
* `AddressFault`: why the authority of an address cannot be taken apart.
* `Fault`: every way in which an operation of this library ends without a result.
* `Fault.Kind`, `Fault.kind`: the sort of a fault, which a caller can tell apart.
* `Fault.message`: the wording of each.
-/

namespace ObjectStorage

open ObjectStorage.Text

/-! ## Causes -/

/-- A setting that cannot be used, by its name, and the reason. -/
structure InvalidConfiguration where
  field : String
  reason : String
  deriving DecidableEq, Repr

/-- The name and the reason on one line. -/
def InvalidConfiguration.message (e : InvalidConfiguration) : String :=
  e.field ++ " " ++ e.reason

/-- Why the authority of an address cannot be taken apart. -/
inductive AddressFault
  /-- One bracket without the other, or text that touches a bracketed host from outside. -/
  | brackets
  /-- The host of a bracketed authority is no internet address. -/
  | notAnAddress (host : String)
  /-- A version 4 address stands where only version 6 is bracketed. -/
  | version4
  /-- A host that announces a future version of addresses without being one. -/
  | futureVersion
  /-- A character of the authority looks like one that would end or divide it. -/
  | lookAlike (authority : String)
  deriving DecidableEq, Repr

/-- Every way in which an operation ends without a result. -/
inductive Fault
  /-- A setting cannot be used. -/
  | configuration (e : InvalidConfiguration)
  /-- No transport has this name, in any letter case. -/
  | unknownTransport (name : String)
  /-- No transport has exactly this name. -/
  | notATransport (name : String)
  /-- No requester-pays mode has exactly this name. -/
  | notAMode (name : String)
  /-- An address cannot be taken apart. -/
  | address (e : AddressFault)
  /-- A service endpoint has no host to send requests to. -/
  | endpoint (url : String)
  /-- An integer has too many digits to be written. -/
  | tooManyDigits
  /-- A time in milliseconds is too large for a time in seconds. -/
  | quotientTooLarge
  /-- Required fields have no value yet. -/
  | missingFields (fields : List Field)
  /-- A record of the given name has no such field. -/
  | unknownField (record name : String)
  /-- A field is named like the record itself in its constructor. -/
  | reservedField (record name : String)
  /-- A build takes the write channel from a draft, and none is installed. -/
  | nothingInstalled
  /-- A field of a finished value was assigned to. -/
  | assigned (field : String)
  /-- A field of a finished value was deleted. -/
  | deleted (field : String)
  /-- A field was given a value that is not of its kind. -/
  | mistyped
  /-- No object of the needed kind has this name. -/
  | noObject (name : String)
  deriving DecidableEq, Repr

/-! ## Sorts of faults -/

/-- The sorts of faults that a caller can tell apart. -/
inductive Fault.Kind
  | configuration
  | value
  | arguments
  | assertion
  | frozen
  | range
  | lookup
  deriving DecidableEq, Repr

namespace Fault

/-- A fault of this sort says that some value cannot be used. -/
def Kind.isValue : Kind → Bool
  | configuration => true
  | value => true
  | _ => false

/-- A fault of this sort is of this library's own making. -/
def Kind.isOwn : Kind → Bool
  | configuration => true
  | _ => false

/-- The sort of a fault. -/
def kind : Fault → Kind
  | configuration _ => .configuration
  | unknownTransport _ => .value
  | notATransport _ => .value
  | notAMode _ => .value
  | address _ => .value
  | endpoint _ => .value
  | tooManyDigits => .value
  | quotientTooLarge => .range
  | missingFields _ => .arguments
  | unknownField _ _ => .arguments
  | reservedField _ _ => .arguments
  | nothingInstalled => .assertion
  | assigned _ => .frozen
  | deleted _ => .frozen
  | mistyped => .arguments
  | noObject _ => .lookup

end Fault

/-! ## Wording -/

/-- The wording of an address fault. -/
def AddressFault.message : AddressFault → String
  | brackets => "Invalid IPv6 URL"
  | notAnAddress host => Quoted.quote host ++ " does not appear to be an IPv4 or IPv6 address"
  | version4 => "An IPv4 address cannot be in brackets"
  | futureVersion => "IPvFuture address is invalid"
  | lookAlike authority =>
    "netloc '" ++ authority ++ "' contains invalid characters under NFKC normalization"

/-- Names in single marks: one alone, two with `and`, more after commas with `and` before the last. -/
def enumeration : List String → String
  | [] => ""
  | [a] => "'" ++ a ++ "'"
  | [a, b] => "'" ++ a ++ "' and '" ++ b ++ "'"
  | names =>
    String.join (names.dropLast.map fun a => "'" ++ a ++ "', ") ++
      String.join (names.getLast?.toList.map fun a => "and '" ++ a ++ "'")

/-- How many arguments are missing, and which. -/
def missingMessage (fields : List Field) : String :=
  "StorageOptions.__init__() missing " ++ String.ofList (Numeral.digits fields.length) ++
    (if fields.length = 1 then " required positional argument: "
      else " required positional arguments: ") ++
    enumeration (fields.map Field.key)

/-- The wording of a fault. -/
def Fault.message : Fault → String
  | configuration e => e.message
  | unknownTransport name =>
    "Unknown transport type '" ++ name ++ "'; expected one of: urllib3, crt"
  | notATransport name => Quoted.quote name ++ " is not a valid HttpTransportType"
  | notAMode name => Quoted.quote name ++ " is not a valid RequesterPaysMode"
  | address e => e.message
  | endpoint url => "Invalid endpoint: " ++ url
  | tooManyDigits =>
    "Exceeds the limit (4300 digits) for integer string conversion; " ++
      "use sys.set_int_max_str_digits() to increase the limit"
  | quotientTooLarge => "integer division result too large for a float"
  | missingFields fields => missingMessage fields
  | unknownField record name =>
    record ++ ".__init__() got an unexpected keyword argument '" ++ name ++ "'"
  | reservedField record name =>
    record ++ ".__init__() got multiple values for argument '" ++ name ++ "'"
  | nothingInstalled => ""
  | assigned field => "cannot assign to field " ++ Quoted.quote field
  | deleted field => "cannot delete field " ++ Quoted.quote field
  | mistyped => "the field takes another kind of value"
  | noObject name => Quoted.quote name

end ObjectStorage
