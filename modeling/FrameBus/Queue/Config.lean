/-!
# Queue parameters

The two queue designs, their names, and the bound that a queue is made with.
-/

namespace FrameBus

inductive QueueKind where
  /-- one list for both ends -/
  | single
  /-- a list for each end, swapped in bulk -/
  | double
deriving DecidableEq, Repr

structure QueueConfig where
  kind : QueueKind := .double
  /-- none for a queue without a bound -/
  capacity : Option Nat := none
deriving DecidableEq, Repr

namespace QueueKind

def name : QueueKind → String
  | .single => "single"
  | .double => "double"

/-- The name of the kind in diagnostic texts. -/
def inspect : QueueKind → String
  | .single => "Single"
  | .double => "Double"

/-- A kind by one of its names, in any case of the letters. -/
def read (s : String) : Except String QueueKind :=
  match String.ofList (s.toList.map Char.toLower) with
  | "single" | "list" | "basic" => .ok .single
  | "double" | "swap" | "double-list" => .ok .double
  | _ => .error ("Unknown queue kind: " ++ s)

end QueueKind

namespace QueueConfig

/-- A bound of zero would block every producer for ever, so it counts as one. -/
def bound (capacity : Option Nat) : Option Nat := capacity.map (max 1)

theorem bound_pos {capacity : Option Nat} {c : Nat} (h : bound capacity = some c) : 0 < c := by
  obtain ⟨n, _, rfl⟩ := Option.map_eq_some_iff.1 h
  exact Nat.lt_of_lt_of_le Nat.one_pos (Nat.le_max_left 1 n)

end QueueConfig

end FrameBus
