import FrameBus.Registry.Delivery

/-!
# Sends that wait

A send to a full bounded queue waits with its frame. The target was resolved before; when there is
room the frame is put there, and when the port was destroyed meanwhile it is handed back.
-/

namespace FrameBus

/-- A registry and the sends on it that wait, in the order in which they began. -/
structure Senders (κ : Type) where
  registry : Registry κ
  waiting : List (Handle × Frame) := []

namespace Senders

variable {κ : Type}

/-- How far a send comes: it ends, or it waits (`none`). -/
abbrev Progress := Option (Except Rejected Unit)

def after (s : Senders κ) : Registry.Sending κ → Progress × Senders κ
  | .sent r => (some (.ok ()), { s with registry := r })
  | .returned why => (some (.error why), s)
  | .waiting target f => (none, { s with waiting := s.waiting ++ [(target, f)] })

def send (s : Senders κ) (sender : Handle) (dest : PortId) (f : Frame) : Progress × Senders κ :=
  s.after (s.registry.send sender dest f)

/-- Every waiting send tries again, in order; those that ended with their results. -/
def retry (s : Senders κ) : List (Except Rejected Unit) × Senders κ :=
  s.waiting.foldl (fun (results, s) (target, f) =>
    let (p, s) := s.after (s.registry.deliver target f)
    (results ++ p.toList, s)) ([], { s with waiting := [] })

/-- Changes the registry; then the waiting sends try again. -/
def change (s : Senders κ) (r : Registry κ) : List (Except Rejected Unit) × Senders κ :=
  retry { s with registry := r }

end Senders

end FrameBus
