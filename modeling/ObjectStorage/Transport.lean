import ObjectStorage.Fault
import ObjectStorage.Text.Name

/-!
# Transports

* `Transport`: the two HTTP stacks that a client can send its requests through.
* `Transport.ofName?`, `Transport.ofName`: the transport of a name, letter for letter.
* `Transport.parse?`, `Transport.parse`: the transport of a name in any letter case and between any
  blanks.
* `Transport.default`: the transport of a client that names none.
-/

namespace ObjectStorage

/-- An HTTP stack. -/
inductive Transport
  | urllib3
  | crt
  deriving DecidableEq, Repr

namespace Transport

/-- Every transport, in declaration order. -/
def all : List Transport := [.urllib3, .crt]

/-- The name of a transport. -/
def name : Transport → String
  | urllib3 => "urllib3"
  | crt => "crt"

/-- The transport of a client that names none. -/
def default : Transport := .urllib3

/-- The transport of a name, letter for letter. -/
def ofName? (s : String) : Option Transport := Text.Name.spelled? all name s

/-- The transport of a name in any letter case and between any blanks. -/
def parse? (s : String) : Option Transport := Text.Name.folded? all name s

/-- The transport of a name, letter for letter, or a fault. -/
def ofName (s : String) : Except Fault Transport :=
  match ofName? s with
  | some t => .ok t
  | none => .error (.notATransport s)

/-- The transport of a name in any letter case and between any blanks, or a fault. -/
def parse (s : String) : Except Fault Transport :=
  match parse? s with
  | some t => .ok t
  | none => .error (.unknownTransport s)

@[simp] theorem ofName?_name (t : Transport) : ofName? t.name = some t := by
  cases t <;> decide

theorem name_injective {t t' : Transport} (h : t.name = t'.name) : t = t' := by
  rw [← Option.some_inj, ← ofName?_name t, ← ofName?_name t', h]

end Transport

end ObjectStorage
