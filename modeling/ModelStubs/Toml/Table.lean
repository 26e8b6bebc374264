import ModelStubs.Toml.Value

/-!
# Adding to tables

What a pair or a header may add to the tables that are already there. A dotted key makes the tables on its way, and may
go on through tables that only lie on the way to something; a header makes the tables on its way, and may open one that
so far was only on the way to others.
-/

namespace ModelStubs.Toml.Entries

/-- The last element of an array of tables replaced by what a function makes of its entries. -/
def updateLast (f : Entries → Option Entries) (elements : List Value) : Option (List Value) :=
  match elements.getLast? with
  | some (.table origin sub) => (f sub).map fun sub => elements.dropLast ++ [.table origin sub]
  | _ => none

/-- Add a pair whose key has the parts `path` and then `key`. Each table on the way is made if it is not there. One that
is there must itself have been made on a way; the one that takes the key must have been made by a dotted key. An array
of tables on the way stands for its last table. -/
def add (value : Value) : List Text → Text → Entries → Option Entries
  | [], key, es => if (es.find? key).isSome then none else some (es.set key value)
  | part :: path, key, es =>
    match es.find? part with
    | none => (add value path key []).map fun sub => es.set part (.table .dotted sub)
    | some (.table origin sub) =>
      if origin = .dotted ∨ (origin = .implied ∧ path ≠ []) then
        (add value path key sub).map fun sub => es.set part (.table origin sub)
      else none
    | some (.tables elements) =>
      if path = [] then none
      else (updateLast (add value path key) elements).map fun elements => es.set part (.tables elements)
    | some _ => none

/-- Add a pair with a key of one or more parts. -/
def addPair (es : Entries) (key : List Text) (value : Value) : Option Entries :=
  match key.getLast? with
  | none => none
  | some last => add value key.dropLast last es

/-- Add pairs one after the other. -/
def addPairs (es : Entries) (pairs : List (List Text × Value)) : Option Entries :=
  pairs.foldlM (fun es pair => es.addPair pair.1 pair.2) es

/-- Change the table that the parts of a header lead to, down from these entries. -/
def within (f : Entries → Option Entries) : List Text → Entries → Option Entries
  | [], es => f es
  | part :: path, es =>
    match es.find? part with
    | none => (within f path []).map fun sub => es.set part (.table .implied sub)
    | some (.table origin sub) =>
      if origin = .inline then none
      else (within f path sub).map fun sub => es.set part (.table origin sub)
    | some (.tables elements) =>
      (updateLast (within f path) elements).map fun elements => es.set part (.tables elements)
    | some _ => none

/-- Open the table `key` and add pairs to it. -/
def openTable (key : Text) (pairs : List (List Text × Value)) (es : Entries) : Option Entries :=
  match es.find? key with
  | none => (addPairs [] pairs).map fun sub => es.set key (.table .header sub)
  | some (.table .implied sub) => (addPairs sub pairs).map fun sub => es.set key (.table .header sub)
  | some _ => none

/-- Open a new table in the array of tables `key` and add pairs to it. -/
def openElement (key : Text) (pairs : List (List Text × Value)) (es : Entries) : Option Entries :=
  match es.find? key with
  | none => (addPairs [] pairs).map fun sub => es.set key (.tables [.table .header sub])
  | some (.tables elements) =>
    (addPairs [] pairs).map fun sub => es.set key (.tables (elements ++ [.table .header sub]))
  | some _ => none

end ModelStubs.Toml.Entries
