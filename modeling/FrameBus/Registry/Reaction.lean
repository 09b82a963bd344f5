import FrameBus.Registry.Delivery

/-!
# Reactions to a broadcast

What a port can do with a frame that is broadcast: keep a copy, send one on, destroy a port, refuse,
or nothing.
-/

namespace FrameBus

inductive Reaction where
  | copy
  | send (dest : PortId)
  | refuse
  | destroy (id : PortId)
  | ignore
deriving DecidableEq, Repr

namespace Reaction

def run : Registry.Runner Reaction := fun k h f r =>
  match k with
  | .copy => r.enqueueCopy h f
  | .send dest =>
    match r.send h dest f.duplicate with
    | .sent r => some (.ok (), r)
    | .returned why => some (.error why.error, r)
    | .waiting _ _ => none
  | .refuse => some (.error (.invalidArgument "refused"), r)
  | .destroy id =>
    match r.destroyPort id with
    | .ok r => some (.ok (), r)
    | .error e => some (.error e, r)
  | .ignore => some (.ok (), r)

end Reaction

end FrameBus
