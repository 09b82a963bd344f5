/-!
# The pace of workers

How the workers of a gateway or a session run.
-/

namespace FrameBus

structure Pace where
  /-- real-time priority, 0 for none -/
  priority : Nat
  /-- how long a worker waits before it looks at its flag again -/
  pollIntervalMs : Nat
deriving DecidableEq, Repr

namespace Pace

/-- The priority that gateways ask for unless they are told another one. -/
def realTimePriority : Nat := 80

def gateway : Pace := ⟨realTimePriority, 20⟩

def session : Pace := ⟨0, 20⟩

end Pace

end FrameBus
