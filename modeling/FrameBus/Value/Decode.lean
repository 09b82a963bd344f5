import FrameBus.Decimal.Shortest
import FrameBus.PortId.Notation
import FrameBus.Queue.Config
import FrameBus.Value.Basic

/-!
# Reading values as things of the bus

A value is read as a port id, a number, a choice or a record. A record is a table, of which unknown
entries are passed over, or a list with its fields in order. JSON and TOML differ in a few points:
a JSON list may not be longer than the record, and a choice in a table holds `null` in JSON and an
empty table or list in TOML.
-/

namespace FrameBus.Value

inductive Format where
  | json
  | toml
deriving DecidableEq, Repr

inductive DecodeError where
  | portId (error : PortId.ReadError)
  /-- an integer that is no port id -/
  | idRange (n : Int)
  /-- a value of another type where a port id is expected -/
  | notAnId (found : String)
  | missing (field : String)
  | unknownVariant (name : String) (known : List String)
  /-- any other value that does not fit -/
  | mismatch
deriving DecidableEq, Repr

namespace DecodeError

/-- The text of the error, where it has a fixed one. -/
def message? : DecodeError → Option String
  | .portId e => some e.message
  | .idRange n => some ("port id " ++ toString n ++ " out of range")
  | .notAnId found =>
    some ("invalid type: " ++ found ++ ", expected a port id as \"x.y.z\", hex string, or integer")
  | .missing field => some ("missing field \x60" ++ field ++ "\x60")
  | .unknownVariant name known =>
    some ("unknown variant \x60" ++ name ++ "\x60, expected " ++
      String.intercalate " or " (known.map fun k => "\x60" ++ k ++ "\x60"))
  | .mismatch => none

end DecodeError

/-- The name of a value's type in an error text. -/
def typeName : Value → String
  | .null => "null"
  | .bool b => "boolean \x60" ++ (if b then "true" else "false") ++ "\x60"
  | .int n => "integer \x60" ++ toString n ++ "\x60"
  | .float bits => "floating point \x60" ++ Decimal.shortest bits ++ "\x60"
  | .text s => "string " ++ s
  | .moment _ => "map"
  | .list _ => "sequence"
  | .table _ => "map"

/-! ## Scalars -/

def toPortId (v : Value) : Except DecodeError PortId :=
  match v with
  | .int n =>
    if 0 ≤ n ∧ n ≤ 65535 then .ok ⟨UInt16.ofNat n.toNat⟩ else .error (.idRange n)
  | .text s =>
    match PortId.read s.toList with
    | .ok id => .ok id
    | .error e => .error (.portId e)
  | v => .error (.notAnId v.typeName)

def toNat (limit : Nat) : Value → Except DecodeError Nat
  | .int n => if 0 ≤ n ∧ n ≤ limit then .ok n.toNat else .error .mismatch
  | _ => .error .mismatch

def toText : Value → Except DecodeError String
  | .text s => .ok s
  | _ => .error .mismatch

def sizeLimit : Nat := 0xFFFFFFFFFFFFFFFF

/-- The one entry of a table that stands for a choice. -/
def choice? (format : Format) : Value → Option (String × Bool)
  | .text s => some (s, true)
  | .table [(name, content)] =>
    some (name, match format, content with
      | .json, .null => true
      | .toml, .table [] => true
      | .toml, .list [] => true
      | _, _ => false)
  | _ => none

def toQueueKind (format : Format) (v : Value) : Except DecodeError QueueKind :=
  match choice? format v with
  | none => .error .mismatch
  | some (name, fits) =>
    match name with
    | "single" => if fits then .ok .single else .error .mismatch
    | "double" => if fits then .ok .double else .error .mismatch
    | name => .error (.unknownVariant name ["single", "double"])

/-! ## Records -/

/-- The fields of a record in the order in which they are met, and whether nothing is left over. -/
def fields (format : Format) (names : List String) : Value →
    Except DecodeError (List (String × Value) × Bool)
  | .table entries => .ok (entries.filter fun e => names.contains e.1, true)
  | .list items => .ok (names.zip items, format == .toml || items.length ≤ names.length)
  | _ => .error .mismatch

/-- Reads a record: every field that is met is checked in order by `check` before the record is
`build` from the fields. -/
def toRecord {α : Type} (format : Format) (names : List String)
    (check : String → Value → Except DecodeError Unit)
    (build : List (String × Value) → Except DecodeError α) (v : Value) : Except DecodeError α := do
  let (es, fits) ← fields format names v
  for (name, w) in es do check name w
  let a ← build es
  if fits then return a else .error .mismatch

/-- A field, or its default where it is not met. -/
def fieldOr {α : Type} (es : List (String × Value)) (name : String) (default : α)
    (read : Value → Except DecodeError α) : Except DecodeError α :=
  match es.lookup name with
  | some v => read v
  | none => .ok default

def required {α : Type} (es : List (String × Value)) (name : String)
    (read : Value → Except DecodeError α) : Except DecodeError α :=
  match es.lookup name with
  | some v => read v
  | none => .error (.missing name)

def toCapacity : Value → Except DecodeError (Option Nat)
  | .null => .ok none
  | v => (v.toNat sizeLimit).map some

def toQueueConfig (format : Format) (v : Value) : Except DecodeError QueueConfig :=
  v.toRecord format ["kind", "capacity"]
    (fun name w =>
      match name with
      | "kind" => (w.toQueueKind format).map fun _ => ()
      | _ => w.toCapacity.map fun _ => ())
    (fun es => do
      let kind ← fieldOr es "kind" .double (toQueueKind format)
      let capacity ← fieldOr es "capacity" none toCapacity
      return { kind, capacity })

end FrameBus.Value
