import FrameBus.Frame.Event

/-!
# Tables of event handlers

A session keeps one handler for each event id that is attached. The first handler attached stays
until it is detached. What a handler is is open (`η`).
-/

namespace FrameBus

/-- Handlers by event id. -/
abbrev EventTable (η : Type) := List (UInt32 × η)

namespace EventTable

variable {η : Type}

/-! ## Algorithm -/

def handler? (t : EventTable η) (event : UInt32) : Option η := t.lookup event

/-- Attaches a handler, unless the event has one. -/
def attach (t : EventTable η) (event : UInt32) (k : η) : EventTable η :=
  if (t.handler? event).isSome then t else t ++ [(event, k)]

def detach (t : EventTable η) (event : UInt32) : Except BusError (EventTable η) :=
  if (t.handler? event).isSome then .ok (t.filter fun e => e.1 != event)
  else .error (.eventNotFound event)

/-- What a handler is called with. -/
structure Received where
  source : PortId
  event : UInt32
  payload : List UInt8
deriving DecidableEq, Repr

/-- The handler that a frame is for, and what it is called with. -/
def dispatch (t : EventTable η) (f : Frame) : Option (η × Received) :=
  match EventFrame.decode f with
  | .error _ => none
  | .ok (header, rest) =>
    (t.handler? header.event).map fun k =>
      (k, ⟨header.source, header.event, EventFrame.payload header rest⟩)

end EventTable

end FrameBus
