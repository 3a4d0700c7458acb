import PivotOracle.Number.Binary64
import PivotOracle.Text.Quoted

/-!
# Plain data

What a document in a data format holds, before anything is known of its meaning: stored expression
trees and settings files are read as data first. A table keeps its keys in the order in which they
were first given, and a key that is given again takes the new value.

* `Data.shown`, `Data.literal` — the two forms in which data appears in messages; they differ for a
  text, which a message shows bare at the top and quoted inside a list or table.
-/

namespace PivotOracle

/-- A value of a document. -/
inductive Data where
  | null
  | bool (b : Bool)
  | int (n : Int)
  | double (x : Double)
  | text (t : Text)
  | list (items : List Data)
  | table (entries : List (Text × Data))

/-- The entries of a table, in order. -/
abbrev Table := List (Text × Data)

namespace Table

/-- The value under a key. -/
def get? (t : Table) (key : Text) : Option Data := List.lookup key t

/-- Puts a value under a key: in its place if the key is there, at the end if it is not. -/
def set (key : Text) (value : Data) : Table → Table
  | [] => [(key, value)]
  | (k, v) :: rest => if k = key then (k, value) :: rest else (k, v) :: set key value rest

/-- The table that comes of putting entries one after the other. -/
def ofEntries (entries : List (Text × Data)) : Table :=
  entries.foldl (fun t (key, value) => t.set key value) []

end Table

namespace Data

/-- Whether data counts as given: not null, false, zero or empty. -/
def isTruthy : Data → Bool
  | .null => false
  | .bool b => b
  | .int n => n ≠ 0
  | .double (.finite x) => x.significand ≠ 0
  | .double _ => true
  | .text t => t ≠ []
  | .list items => !items.isEmpty
  | .table entries => !entries.isEmpty

mutual

/-- How deep containers are nested; data that holds no other counts as one level. -/
def depth : Data → Nat
  | .list items => itemsDepth items + 1
  | .table entries => entriesDepth entries + 1
  | _ => 1

def itemsDepth : List Data → Nat
  | [] => 0
  | d :: rest => max d.depth (itemsDepth rest)

def entriesDepth : List (Text × Data) → Nat
  | [] => 0
  | (_, d) :: rest => max d.depth (entriesDepth rest)

end

mutual

/-- Whether the texts of data and the keys of its tables are valid Unicode. -/
def isUnicode : Data → Bool
  | .text t => t.isUnicode
  | .list items => itemsUnicode items
  | .table entries => entriesUnicode entries
  | _ => true

def itemsUnicode : List Data → Bool
  | [] => true
  | d :: rest => d.isUnicode && itemsUnicode rest

def entriesUnicode : List (Text × Data) → Bool
  | [] => true
  | (key, d) :: rest => key.isUnicode && d.isUnicode && entriesUnicode rest

end

mutual

/-- Data as a message shows it inside other data. -/
def literal : Data → Text
  | .null => "None"
  | .bool b => if b then "True" else "False"
  | .int n => Text.ofInt n
  | .double x => x.text
  | .text t => t.quoted
  | .list items => "[" ++ (", " : Text).intercalate (literals items) ++ "]"
  | .table entries => "\x7b" ++ (", " : Text).intercalate (entryLiterals entries) ++ "\x7d"

def literals : List Data → List Text
  | [] => []
  | d :: rest => d.literal :: literals rest

def entryLiterals : List (Text × Data) → List Text
  | [] => []
  | (key, d) :: rest => (key.quoted ++ ": " ++ d.literal) :: entryLiterals rest

end

/-- Data as a message shows it. -/
def shown : Data → Text
  | .text t => t
  | d => d.literal

end Data

end PivotOracle
