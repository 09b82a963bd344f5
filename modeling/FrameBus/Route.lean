import FrameBus.PortId.Basic

/-!
# Routing over the two domains

Inside a domain every channel is a star around its route endpoint. The domains are joined by a
fixed chain of backbone routes:

    controller endpoints -- 0.0.1 -- 1.0.2 -- 1.0.1 -- application channel routes -- endpoints

Controller endpoints reach each other directly. `nextHop?` is one step, `walk` repeats it.
-/

namespace FrameBus.Route

/-! ## Algorithm -/

/-- One step toward a destination in the controller domain. -/
def towardController (current dest : PortId) : PortId :=
  if current.domain = 0 then dest
  else if !current.isRoute && current.channel != 0 then current.route
  else if current = .appRoute then .chipRoute
  else if current = .chipRoute then .controllerRoute
  else .appRoute

/-- One step toward a destination in the application domain. -/
def towardApp (current dest : PortId) : PortId :=
  if current.domain = 0 then
    if current = .controllerRoute then .chipRoute else .controllerRoute
  else if current.channel = dest.channel then dest
  else if !current.isRoute then current.route
  else dest.route

/-- The id after `current` on the way to `dest`; none if either is reserved. -/
def nextHop? (current dest : PortId) : Option PortId :=
  if current.isReserved || dest.isReserved then none
  else if dest.domain = 0 then some (towardController current dest)
  else some (towardApp current dest)

/-- The ids after `current` up to `dest`, at most `hops` of them; `none` ends a stuck walk. -/
def walk : (hops : Nat) → (current dest : PortId) → List (Option PortId)
  | 0, _, _ => []
  | hops + 1, current, dest =>
    match nextHop? current dest with
    | none => [none]
    | some next => some next :: if next = dest then [] else walk hops next dest

/-- The gateway that serves an id: the controller's own route, or the route of its channel. -/
def servingGateway (id : PortId) : PortId :=
  if id.domain = 0 then .controllerRoute else id.route

/-! ## Lemmas -/

theorem nextHop?_eq_none_iff (current dest : PortId) :
    nextHop? current dest = none ↔ current.isReserved = true ∨ dest.isReserved = true := by
  simp only [nextHop?]
  split
  · simp_all
  · split <;> simp_all

theorem nextHop?_of_controller {current dest : PortId} (hc : current.isReserved = false)
    (hd : dest.isReserved = false) (h : dest.domain = 0) :
    nextHop? current dest = some (towardController current dest) := by
  simp [nextHop?, hc, hd, h]

theorem nextHop?_of_app {current dest : PortId} (hc : current.isReserved = false)
    (hd : dest.isReserved = false) (h : dest.domain ≠ 0) :
    nextHop? current dest = some (towardApp current dest) := by
  simp [nextHop?, hc, hd, h]

theorem servingGateway_controller {id : PortId} (h : id.domain = 0) :
    servingGateway id = .controllerRoute := if_pos h

theorem servingGateway_app {id : PortId} (h : id.domain ≠ 0) : servingGateway id = id.route :=
  if_neg h

end FrameBus.Route
