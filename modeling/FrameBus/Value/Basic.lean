/-!
# Values of a data format

What a configuration text or a message says, before it is read as something of the domain. Tables
keep their entries in an order, one entry to a name.
-/

namespace FrameBus

inductive Value where
  | null
  | bool (b : Bool)
  | int (n : Int)
  /-- a number with a fraction, by its binary64 bits -/
  | float (bits : UInt64)
  | text (s : String)
  /-- a date or a time, as it is written -/
  | moment (s : String)
  | list (items : List Value)
  | table (entries : List (String × Value))
deriving Inhabited

namespace Value

/-- The value under a name; nothing where there is no table or no such entry. -/
def get? (name : String) : Value → Option Value
  | .table entries => entries.lookup name
  | _ => none

def asText? : Value → Option String
  | .text s => some s
  | _ => none

def asInt? : Value → Option Int
  | .int n => some n
  | _ => none

def asList? : Value → Option (List Value)
  | .list items => some items
  | _ => none

/-- Puts an entry among entries sorted by name, in place of one of the same name. -/
def insertSorted (name : String) (v : Value) : List (String × Value) → List (String × Value)
  | [] => [(name, v)]
  | (n, w) :: rest =>
    if name < n then (name, v) :: (n, w) :: rest
    else if n < name then (n, w) :: insertSorted name v rest
    else (name, v) :: rest

/-- A table with its entries in the order of their names, the last one of a name. -/
def sorted (entries : List (String × Value)) : Value :=
  .table (entries.foldl (fun es e => insertSorted e.1 e.2 es) [])

end Value

end FrameBus
