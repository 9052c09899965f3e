import PageShell.Text.Basic

/-!
# Tables

The value of a document is a *table*, a list of keys with a *node* each. Tables
come into being in three ways, and the rules on what may be added to one later
depend on how it did.

* `Node`, `Table` — the values of a document;
* `Table.insertDotted` — adds a value under a dotted key;
* `Table.under` — changes the table that a header's keys lead to;
* `Table.openTable`, `Table.pushElement` — what a header does to the table
  above it.
-/

namespace PageShell.Toml

/-- **The origin of a table**, which decides who may add to it. -/
inductive Origin where
  /-- it has a header of its own -/
  | header
  /-- it lies on the way to a table with a header -/
  | passage
  /-- it lies on the way of a dotted key -/
  | dotted
  deriving DecidableEq

/-- A value in a document. -/
inductive Node where
  /-- a string -/
  | text (content : Text)
  /-- an integer -/
  | integer (value : Int)
  /-- a floating-point number -/
  | float
  /-- a boolean -/
  | boolean (value : Bool)
  /-- a date, a time of day, or both -/
  | moment
  /-- an array -/
  | array (items : List Node)
  /-- a table written as one value, to which nothing can be added -/
  | inline (entries : List (Text × Node))
  /-- a table spread over lines -/
  | table (origin : Origin) (entries : List (Text × Node))
  /-- the tables with one repeated header, in order -/
  | tables (elements : List (List (Text × Node)))

/-- The content of a string. -/
def Node.text? : Node → Option Text
  | text content => some content
  | _ => none

/-- **A table**: nodes under different keys, in the order of their first mention. -/
abbrev Table := List (Text × Node)

namespace Table

/-- The node under a key. -/
def get? (t : Table) (key : Text) : Option Node :=
  t.lookup key

/-- The table with the node under a key replaced, or added at the end. -/
def put (key : Text) (node : Node) : Table → Table
  | [] => [(key, node)]
  | (k, n) :: rest => if k = key then (key, node) :: rest else (k, n) :: put key node rest

/-- **Adds a value under a dotted key.** The tables on its way are made where they are missing.
One that has a header of its own is closed to dotted keys; the last one has to be the work of
dotted keys alone. Of repeated tables the newest one is meant. No key is given twice. -/
def insertDotted (key : Text) (value : Node) : List Text → Table → Option Table
  | [], t => if (t.get? key).isSome then none else some (t.put key value)
  | k :: ks, t =>
    match t.get? k with
    | none => (insertDotted key value ks []).map fun inner => t.put k (.table .dotted inner)
    | some (.table origin inner) =>
      if origin = .header ∨ (ks = [] ∧ origin = .passage) then none
      else (insertDotted key value ks inner).map fun inner' => t.put k (.table origin inner')
    | some (.tables elements) =>
      if ks = [] then none
      else do
        let newest ← elements.getLast?
        let newest' ← insertDotted key value ks newest
        pure (t.put k (.tables (elements.dropLast ++ [newest'])))
    | some _ => none

/-- **Changes the table that a list of keys leads to.** The tables on its way are made where they
are missing. Of repeated tables the newest one is meant. -/
def under (change : Table → Option Table) : List Text → Table → Option Table
  | [], t => change t
  | k :: ks, t =>
    match t.get? k with
    | none => (under change ks []).map fun inner => t.put k (.table .passage inner)
    | some (.table origin inner) =>
      (under change ks inner).map fun inner' => t.put k (.table origin inner')
    | some (.tables elements) => do
      let newest ← elements.getLast?
      let newest' ← under change ks newest
      pure (t.put k (.tables (elements.dropLast ++ [newest'])))
    | some _ => none

/-- Gives a table its header. A table can have one only once, and never after dotted keys have
made it. -/
def openTable (key : Text) (t : Table) : Option Table :=
  match t.get? key with
  | none => some (t.put key (.table .header []))
  | some (.table .passage inner) => some (t.put key (.table .header inner))
  | some _ => none

/-- Adds one more table under a repeated header. -/
def pushElement (key : Text) (t : Table) : Option Table :=
  match t.get? key with
  | none => some (t.put key (.tables [[]]))
  | some (.tables elements) => some (t.put key (.tables (elements ++ [[]])))
  | some _ => none

end Table

end PageShell.Toml
