import ObjectStorage.Environment.Reading

/-!
# The values of an environment

* `Environment`: names with their values; the first entry of a name counts.
* `Environment.given?`: the value of a variable; null and the empty text count as not given.
* `Environment.read?`: the value of a variable in its own form, or the fault that names it.
* `Environment.overrides`: all given values in the order of the variables, or the first fault.
* `Override.find?`: the value of a variable among given values.
-/

namespace ObjectStorage

/-- Names with their values. -/
structure Environment where
  entries : List (String × Raw)

/-- A variable with a value of its form. -/
structure Override where
  source : Variable
  value : source.Value

namespace Override

/-- The value of an override, if it is one of the variable `v`. -/
def value? (v : Variable) (o : Override) : Option v.Value :=
  if h : o.source = v then some (h ▸ o.value) else none

/-- The value of a variable among some overrides. -/
def find? (v : Variable) (os : List Override) : Option v.Value := os.findSome? (value? v)

end Override

namespace Environment

/-- The environment of a process, in which every value is a text. -/
def ofTexts (entries : List (String × String)) : Environment :=
  ⟨entries.map fun e => (e.1, .text e.2)⟩

/-- The value of a variable; null and the empty text count as not given. -/
def given? (env : Environment) (v : Variable) : Option Raw :=
  match env.entries.lookup v.name with
  | none => none
  | some .null => none
  | some (.text s) => if s = "" then none else some (.text s)
  | some raw => some raw

/-- The fault of a variable whose value does not have its form. -/
def fault (v : Variable) (e : Unreadable) : InvalidConfiguration :=
  ⟨v.name, "is invalid: " ++ e.message⟩

/-- The value of a variable in its own form, if one is given. -/
def read? (env : Environment) (v : Variable) : Except InvalidConfiguration (Option Override) :=
  match env.given? v with
  | none => .ok none
  | some raw =>
    match v.form.read raw with
    | .error e => .error (fault v e)
    | .ok x => .ok (some ⟨v, x⟩)

/-- The given values of some variables in their order, or the fault of the first that has one. -/
def readAll (env : Environment) : List Variable → Except InvalidConfiguration (List Override)
  | [] => .ok []
  | v :: vs =>
    match env.read? v with
    | .error e => .error e
    | .ok o => (env.readAll vs).map (o.toList ++ ·)

/-- The given values of all variables in their order, or the first fault. -/
def overrides (env : Environment) : Except InvalidConfiguration (List Override) :=
  env.readAll Variable.all

end Environment

end ObjectStorage
