import ObjectStorage.Text.Numeral

/-!
# Documents

* `Document`: an ordered tree of the values that are written out: null, booleans, integers, texts,
  lists, and entries with a key each.
* `Entries`: the keyed entries of a document, in order.
* `Entries.put`, `Entries.ofPairs`: entries with distinct keys, where the latest document of a key
  stands at the key's first place.
* `Document.isWritable`: whether each integer in a document has few enough digits to be written.
-/

namespace ObjectStorage

/-- An ordered tree of values. -/
inductive Document
  | null
  | flag (b : Bool)
  | number (n : Int)
  | text (s : String)
  | list (items : List Document)
  | object (entries : List (String × Document))

/-- Keyed documents, in the order in which they are written. -/
abbrev Entries := List (String × Document)

namespace Entries

/-- The entries with a document under a key: in the place of the key, or last. -/
def put (key : String) (d : Document) : Entries → Entries
  | [] => [(key, d)]
  | (k, old) :: es => if k = key then (k, d) :: es else (k, old) :: put key d es

/-- The entries of a list of pairs, in which a key may come again. -/
def ofPairs (pairs : List (String × Document)) : Entries :=
  pairs.foldl (fun es pair => put pair.1 pair.2 es) []

end Entries

namespace Document

/-- A text, or null where there is none. -/
def ofOption : Option String → Document
  | none => .null
  | some s => .text s

mutual

/-- Whether each integer in a document has few enough digits to be written. -/
def isWritable : Document → Bool
  | .number n => Text.Numeral.isWritable n
  | .list items => itemsWritable items
  | .object entries => entriesWritable entries
  | _ => true

/-- Whether each integer in a list of documents can be written. -/
def itemsWritable : List Document → Bool
  | [] => true
  | d :: ds => isWritable d && itemsWritable ds

/-- Whether each integer in keyed documents can be written. -/
def entriesWritable : Entries → Bool
  | [] => true
  | (_, d) :: es => isWritable d && entriesWritable es

end

end Document

end ObjectStorage
