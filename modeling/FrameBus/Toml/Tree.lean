import FrameBus.Value.Basic

/-!
# Tables of a TOML document

A document is built line by line. A header opens a table, and the lines behind it put entries there,
or further down along a dotted key. What may be opened or extended depends on how a table came
about: by a header, on the way to one (`implicit`), or by a dotted key (`dotted`).
-/

namespace FrameBus.Toml

/-- What stands under a name. -/
inductive Node where
  | value (v : Value)
  | table (implicit dotted : Bool) (entries : List (String × Node))
  /-- the tables of headers in double brackets -/
  | tables (items : List (List (String × Node)))

abbrev Entries := List (String × Node)

/-! ## Entries -/

def Entries.set (name : String) (node : Node) : Entries → Entries
  | [] => [(name, node)]
  | e :: rest => if e.1 = name then (name, node) :: rest else e :: Entries.set name node rest

def Entries.remove (name : String) (es : Entries) : Entries := es.filter fun e => e.1 != name

/-- Changes the table at the end of a path, making tables on the way. A path of a dotted key does
not go through a table that a header opened; no path goes through a value. -/
def descend (dotted : Bool) (change : (isDotted : Bool) → Entries → Option Entries) :
    (path : List String) → (isDotted : Bool) → Entries → Option Entries
  | [], isDotted, es => change isDotted es
  | name :: path, _, es =>
    match es.lookup name with
    | none => do
      let inner ← descend dotted change path dotted []
      return es ++ [(name, .table true dotted inner)]
    | some (.value _) => none
    | some (.table implicit isDotted inner) =>
      if dotted && !implicit then none
      else do
        let inner ← descend dotted change path isDotted inner
        return es.set name (.table implicit isDotted inner)
    | some (.tables items) =>
      match items.getLast? with
      | none => none
      | some last => do
        let last ← descend dotted change path false last
        return es.set name (.tables (items.dropLast ++ [last]))

/-- Puts an entry under a key of some parts, the last of which names it. -/
def insert (path : List String) (name : String) (node : Node) (es : Entries) : Option Entries :=
  descend true (fun isDotted es =>
    if isDotted == path.isEmpty then none
    else if (es.lookup name).isSome then none
    else some (es ++ [(name, node)])) path false es

/-! ## Documents -/

/-- A document being read: what is finished, and the table that is open. -/
structure Draft where
  root : Entries := []
  current : Entries := []
  /-- where the open table belongs; empty for the entries before the first header -/
  path : List String := []
  isArray : Bool := false

namespace Draft

def parent (path : List String) : List String := path.dropLast

def lastName (path : List String) : String := path.getLast?.getD ""

/-- Puts the open table where it belongs. -/
def finish (d : Draft) : Option Entries :=
  if d.path.isEmpty then some d.current
  else
    let name := lastName d.path
    descend false (fun _ es =>
      match es.lookup name with
      | none =>
        some (es ++
          [(name, if d.isArray then .tables [d.current] else .table false false d.current)])
      | some (.tables items) =>
        if d.isArray then some (es.set name (.tables (items ++ [d.current]))) else none
      | some (.table true _ _) =>
        if d.isArray then none else some (es.set name (.table false false d.current))
      | some _ => none) (parent d.path) false d.root

/-- Opens the table of a header. A table that was only on the way keeps what it has. -/
def openTable (d : Draft) (path : List String) : Option Draft := do
  let root ← d.finish
  let name := lastName path
  let root ← descend false (fun _ es => some es) (parent path) false root
  let found ← lookupAt (parent path) root
  match found.lookup name with
  | none => return { root, current := [], path, isArray := false }
  | some (.table true false inner) =>
    let root ← descend false (fun _ es => some (es.remove name)) (parent path) false root
    return { root, current := inner, path, isArray := false }
  | some _ => none
where
  /-- The table at the end of a path that is there. -/
  lookupAt : List String → Entries → Option Entries
    | [], es => some es
    | name :: path, es =>
      match es.lookup name with
      | some (.table _ _ inner) => lookupAt path inner
      | some (.tables items) => items.getLast?.bind (lookupAt path)
      | _ => none

/-- Opens one more table of a header in double brackets. -/
def openArray (d : Draft) (path : List String) : Option Draft := do
  let root ← d.finish
  let name := lastName path
  let root ← descend false (fun _ es =>
    match es.lookup name with
    | none => some (es ++ [(name, .tables [])])
    | some (.tables _) => some es
    | some _ => none) (parent path) false root
  return { root, current := [], path, isArray := true }

def insert (d : Draft) (path : List String) (name : String) (v : Value) : Option Draft := do
  let current ← Toml.insert path name (.value v) d.current
  return { d with current }

end Draft

/-! ## Values -/

mutual

def Node.toValue : Node → Value
  | .value v => v
  | .table _ _ entries => .table (entriesToValues entries)
  | .tables items => .list (tablesToValues items)

def entriesToValues : List (String × Node) → List (String × Value)
  | [] => []
  | (name, node) :: rest => (name, node.toValue) :: entriesToValues rest

def tablesToValues : List (List (String × Node)) → List Value
  | [] => []
  | t :: ts => .table (entriesToValues t) :: tablesToValues ts

end

end FrameBus.Toml
