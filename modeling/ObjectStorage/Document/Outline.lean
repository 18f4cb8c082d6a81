import ObjectStorage.Document.Basic
import ObjectStorage.Text.Quoted

/-!
# Documents as an outline

One line for each entry, `key: value`, the entries of a nested document on lines of their own below
its key, two spaces further in.

* `Outline.literal d`: a document inside another one, on one line, with its texts quoted.
* `Outline.item d`: an item of a list; a text stands for itself.
* `Outline.list ds`: the items of a list after commas, or a word for an empty line.
* `Outline.write depth es`: the lines of keyed documents.
-/

namespace ObjectStorage.Outline

open ObjectStorage.Text

/-! ## Values on one line -/

/-- Texts with `, ` between neighbours. -/
def commaSeparated : List (List Char) → List Char
  | [] => []
  | [t] => t
  | t :: ts => t ++ ',' :: ' ' :: commaSeparated ts

/-- The word for a truth value. -/
def flag (b : Bool) : List Char := if b then "True".toList else "False".toList

mutual

/-- A document inside another one, on one line. -/
def literal : Document → List Char
  | .null => "None".toList
  | .flag b => flag b
  | .number n => Numeral.integer n
  | .text s => (Quoted.quote s).toList
  | .list items => '[' :: commaSeparated (literals items) ++ [']']
  | .object entries => '\x7b' :: commaSeparated (entryLiterals entries) ++ ['\x7d']

/-- Each document of a list on one line. -/
def literals : List Document → List (List Char)
  | [] => []
  | d :: ds => literal d :: literals ds

/-- Each key with its document on one line. -/
def entryLiterals : Entries → List (List Char)
  | [] => []
  | (k, d) :: es => ((Quoted.quote k).toList ++ ':' :: ' ' :: literal d) :: entryLiterals es

end

/-- An item of a list; a text stands for itself. -/
def item : Document → List Char
  | .text s => s.toList
  | d => literal d

/-- The items of a list after commas, `(none)` where that leaves nothing. -/
def list (items : List Document) : List Char :=
  match commaSeparated (items.map item) with
  | [] => "(none)".toList
  | line => line

/-- A value after its key; `(unset)` stands for null. -/
def value : Document → List Char
  | .null => "(unset)".toList
  | .list items => list items
  | d => item d

/-! ## Lines -/

mutual

/-- What follows the colon of a key: entries on lines of their own, or a value on the same line. -/
def afterKey (depth : Nat) : Document → List Char
  | .object es => '\n' :: write (depth + 1) es
  | d => ' ' :: value d ++ ['\n']

/-- The lines of keyed documents, indented by two spaces for each level. -/
def write (depth : Nat) : Entries → List Char
  | [] => []
  | (k, d) :: es =>
    List.replicate (2 * depth) ' ' ++ k.toList ++ ':' :: afterKey depth d ++ write depth es

end

end ObjectStorage.Outline

namespace ObjectStorage

/-- The outline of keyed documents. -/
def Entries.outline (es : Entries) : String :=
  String.ofList (Outline.write 0 es)

end ObjectStorage
