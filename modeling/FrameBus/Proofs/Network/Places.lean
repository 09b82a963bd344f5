import FrameBus.Network.Traffic
import FrameBus.Proofs.Registry.Adds

/-!
# Where frames are

A frame in a network is in a queue or in the hand of a worker (`Place`). What a worker does with a
frame that it has, and what a session sends, adds frames to queues and changes no other one
(`Network.Adds`): the same network but for what is queued, in hand and counted (`Network.blank`),
and at every place the frames that were there, with what is new behind them.
-/

namespace FrameBus

/-- Where a frame can be. -/
inductive Place where
  | port (node : Nat) (h : Handle)
  | ingress (g : Nat)
  /-- the worker that makes the move has it in its hand -/
  | hand (m : Network.Move)
deriving DecidableEq, Repr

def Worker.frames : Worker → List Frame
  | .holding f => [f]
  | _ => []

def Gateway.blank (gw : Gateway) : Gateway :=
  { gw with ingress := gw.ingress.blank, uplink := .ended, downlink := .ended, counters := {} }

def Session.blank (s : Session) : Session := { s with worker := .ended }

theorem Gateway.parts_of_blank {gv gw : Gateway} (h : gv.blank = gw.blank) :
    gv.node = gw.node ∧ gv.id = gw.id ∧ gv.port = gw.port := by
  have node : gv.blank.node = gw.blank.node := congrArg _ h
  have id : gv.blank.id = gw.blank.id := congrArg _ h
  have port : gv.blank.port = gw.blank.port := congrArg _ h
  exact ⟨node, id, port⟩

theorem Session.parts_of_blank {st ss : Session} (h : st.blank = ss.blank) :
    st.node = ss.node ∧ st.id = ss.id ∧ st.port = ss.port := by
  have node : st.blank.node = ss.blank.node := congrArg _ h
  have id : st.blank.id = ss.blank.id := congrArg _ h
  have port : st.blank.port = ss.blank.port := congrArg _ h
  exact ⟨node, id, port⟩

/-- What a gateway counts when it drops a frame. -/
def Counters.drops (c : Counters) : List UInt64 :=
  [c.integrityFailures, c.malformed, c.unroutable, c.undeliverable, c.sendErrors]

namespace Network

/-- The worker that makes a move; a socket's receiver keeps no frame between two moves. -/
def worker? (n : Network) : Move → Option Worker
  | .uplink g => (n.gateways[g]?).map Gateway.uplink
  | .downlink g => (n.gateways[g]?).map Gateway.downlink
  | .session s => (n.sessions[s]?).map Session.worker
  | .socket _ => none

/-- The frames at a place, the oldest first. -/
def frames (n : Network) : Place → List Frame
  | .port i h => (n.node i).frames h
  | .ingress g => ((n.gateways[g]?).map fun gw => gw.ingress.toList).getD []
  | .hand mv => ((n.worker? mv).map Worker.frames).getD []

/-- The network without its frames, its counters and its log, and without its sockets. -/
def blank (n : Network) : Network :=
  { n with nodes := n.nodes.map Registry.blank, sockets := []
           gateways := n.gateways.map Gateway.blank, sessions := n.sessions.map Session.blank
           log := [] }

/-- What the gateways count of the frames that they drop. -/
def drops (n : Network) : List (List UInt64) := n.gateways.map fun gw => gw.counters.drops

/-! ## Networks that differ in their frames -/

section

variable {n m : Network}

theorem hub_of_blank (h : m.blank = n.blank) (i : Nat) : m.hub i = n.hub i :=
  show m.blank.hub i = n.blank.hub i from congrArg (hub · i) h

theorem length_nodes_of_blank (h : m.blank = n.blank) : m.nodes.length = n.nodes.length := by
  simpa [blank] using congrArg (fun k : Network => k.nodes.length) h

theorem gateway_of_blank (h : m.blank = n.blank) {g : Nat} {gw : Gateway}
    (hg : m.gateways[g]? = some gw) : ∃ gv, n.gateways[g]? = some gv ∧ gv.blank = gw.blank := by
  have e : (n.gateways.map Gateway.blank)[g]? = (m.gateways.map Gateway.blank)[g]? :=
    congrArg (fun k : Network => k.gateways[g]?) h.symm
  rw [List.getElem?_map, List.getElem?_map, hg] at e
  simpa [Option.map_eq_some_iff] using e

theorem session_of_blank (h : m.blank = n.blank) {s : Nat} {ss : Session}
    (hs : m.sessions[s]? = some ss) : ∃ st, n.sessions[s]? = some st ∧ st.blank = ss.blank := by
  have e : (n.sessions.map Session.blank)[s]? = (m.sessions.map Session.blank)[s]? :=
    congrArg (fun k : Network => k.sessions[s]?) h.symm
  rw [List.getElem?_map, List.getElem?_map, hs] at e
  simpa [Option.map_eq_some_iff] using e

theorem node_blank (n : Network) (i : Nat) : n.blank.node i = (n.node i).blank := by
  simp only [node, blank, List.getD_eq_getElem?_getD, List.getElem?_map]
  cases n.nodes[i]? <;> rfl

theorem node_of_blank (h : m.blank = n.blank) (i : Nat) : (m.node i).blank = (n.node i).blank := by
  rw [← node_blank, ← node_blank, h]

end

/-! ## Adding frames -/

/-- One network after another: `out` came to the places, and no frame went away. -/
structure Adds (n m : Network) (out : List (Place × Frame)) : Prop where
  blank : m.blank = n.blank
  frames : ∀ p, m.frames p = n.frames p ++ arrivals out p

/-- One network after another, with more frames at the places. -/
def Extends (n m : Network) : Prop := ∃ out, Adds n m out

variable {n m k : Network}

theorem Adds.refl (n : Network) : Adds n n [] := ⟨rfl, fun _ => by simp⟩

theorem Adds.trans {out more : List (Place × Frame)} (h : Adds n m out) (h' : Adds m k more) :
    Adds n k (out ++ more) :=
  ⟨h'.blank.trans h.blank, fun p => by rw [h'.frames, h.frames]; simp⟩

theorem Extends.refl (n : Network) : Extends n n := ⟨[], .refl n⟩

theorem Extends.trans (h : Extends n m) (h' : Extends m k) : Extends n k := by
  obtain ⟨out, h⟩ := h
  obtain ⟨more, h'⟩ := h'
  exact ⟨out ++ more, h.trans h'⟩

/-- Nothing came anywhere. -/
theorem Adds.of_same (hb : m.blank = n.blank) (hf : ∀ p, m.frames p = n.frames p) : Adds n m [] :=
  ⟨hb, fun p => by simp [hf]⟩

theorem adds_write (n : Network) (h : Happening) : Adds n (n.write h) [] :=
  .of_same rfl fun p => by
    cases p with
    | hand m => cases m <;> rfl
    | _ => rfl

theorem node_setNode (n : Network) (i : Nat) (r : Registry Reaction) (j : Nat) :
    (n.setNode i r).node j = if i = j ∧ i < n.nodes.length then r else n.node j := by
  simp only [node, setNode, List.getD_eq_getElem?_getD, List.getElem?_set]
  by_cases hj : i = j
  · subst hj
    by_cases hi : i < n.nodes.length
    · simp [hi]
    · simp [hi]
  · simp [hj]

theorem setNode_setNode (n : Network) (i : Nat) (r s : Registry Reaction) :
    (n.setNode i r).setNode i s = n.setNode i s := by
  simp [setNode, List.set_set]

theorem setNode_self (n : Network) (i : Nat) : n.setNode i (n.node i) = n := by
  have same : n.nodes.set i (n.node i) = n.nodes := by
    apply List.ext_getElem?
    intro j
    rw [List.getElem?_set]
    split
    · next hj =>
      subst hj
      split
      · next hi => simp [node, hi]
      · next hi => rw [List.getElem?_eq_none (Nat.le_of_not_lt hi)]
    · rfl
  rw [setNode, same]

theorem node_eq_new {i : Nat} (hi : ¬ i < n.nodes.length) : n.node i = .new {} := by
  rw [node, List.getD_eq_getElem?_getD, List.getElem?_eq_none (Nat.le_of_not_lt hi)]
  rfl

theorem arrivals_port {out : List (Handle × Frame)} (i j : Nat) (h : Handle) :
    arrivals (out.map fun a => (Place.port i a.1, a.2)) (.port j h) =
      if i = j then arrivals out h else [] := by
  induction out with
  | nil => simp
  | cons a out ih =>
    rw [List.map_cons, arrivals_cons, ih, arrivals_cons]
    by_cases hj : i = j <;> by_cases hh : a.1 = h <;> simp [hj, hh]

theorem arrivals_ports_of_ne {out : List (Handle × Frame)} {i : Nat} {p : Place}
    (hp : ∀ h, p ≠ .port i h) : arrivals (out.map fun a => (Place.port i a.1, a.2)) p = [] := by
  rw [List.eq_nil_iff_forall_not_mem]
  intro f hf
  obtain ⟨a, _, e⟩ := List.mem_map.1 (mem_arrivals.1 hf)
  cases e
  exact hp _ rfl

theorem blank_setNode {i : Nat} {r : Registry Reaction} (hb : r.blank = (n.node i).blank) :
    (n.setNode i r).blank = n.blank := by
  have nodes : (n.nodes.set i r).map Registry.blank = n.nodes.map Registry.blank := by
    apply List.ext_getElem?
    intro j
    rw [List.getElem?_map, List.getElem?_map, List.getElem?_set]
    by_cases hj : i = j
    · subst hj
      by_cases hi : i < n.nodes.length
      · have : n.node i = n.nodes[i] := by simp [node, hi]
        simp [hi, hb, this]
      · simp [hi]
    · simp [hj]
  simp only [blank, setNode, nodes]

/-- What comes to the ports of a node. -/
theorem adds_setNode {i : Nat} {r : Registry Reaction} {out : List (Handle × Frame)}
    (h : (n.node i).Adds r out) : Adds n (n.setNode i r) (out.map fun a => (.port i a.1, a.2)) := by
  refine ⟨blank_setNode h.blank, fun p => ?_⟩
  cases p with
  | port j k =>
    show ((n.setNode i r).node j).frames k = (n.node j).frames k ++ _
    rw [arrivals_port, node_setNode]
    by_cases hj : i = j
    · subst hj
      rw [if_pos rfl, ← h.frames k]
      by_cases hi : i < n.nodes.length
      · rw [if_pos ⟨rfl, hi⟩]
      · -- a node that is not there has no ports, nor had `r`
        have none : r.port? k = none := by
          have e := h.blank
          rw [node_eq_new hi] at e
          have : r.ports.map Port.blank = [] := congrArg Registry.ports e
          simp [Registry.port?, List.map_eq_nil_iff.1 this]
        rw [if_neg fun h => hi h.2, node_eq_new hi, Registry.frames, Registry.frames, none]
        rfl
    · rw [if_neg fun h => hj h.1, if_neg hj, List.append_nil]
  | ingress g =>
    rw [arrivals_ports_of_ne (by simp), List.append_nil]
    rfl
  | hand m =>
    rw [arrivals_ports_of_ne (by simp), List.append_nil]
    cases m <;> rfl

/-! ## Gateways that change -/

theorem getElem?_modifyGateway (n : Network) (g k : Nat) (F : Gateway → Gateway) :
    (n.modifyGateway g F).gateways[k]? =
      if g = k then (n.gateways[k]?).map F else n.gateways[k]? := by
  simp only [modifyGateway, List.getElem?_modify]
  split <;> simp

theorem blank_modifyGateway {g : Nat} {F : Gateway → Gateway}
    (hF : ∀ gw, n.gateways[g]? = some gw → (F gw).blank = gw.blank) :
    (n.modifyGateway g F).blank = n.blank := by
  have gateways : (n.modifyGateway g F).gateways.map Gateway.blank =
      n.gateways.map Gateway.blank := by
    apply List.ext_getElem?
    intro k
    rw [List.getElem?_map, List.getElem?_map, getElem?_modifyGateway]
    split
    · next hk =>
      subst hk
      cases hg : n.gateways[g]? with
      | none => rfl
      | some gw => simp [hF gw hg]
    · rfl
  simp only [blank, gateways]
  rfl

theorem drops_modifyGateway {g : Nat} {F : Gateway → Gateway}
    (hF : ∀ gw, (F gw).counters.drops = gw.counters.drops) :
    (n.modifyGateway g F).drops = n.drops := by
  apply List.ext_getElem?
  intro k
  rw [drops, drops, List.getElem?_map, List.getElem?_map, getElem?_modifyGateway]
  split
  · cases n.gateways[k]? with
    | none => rfl
    | some gw => simp [hF gw]
  · rfl

theorem modifyGateway_eq_self {g : Nat} (hg : n.gateways[g]? = none) (F : Gateway → Gateway) :
    n.modifyGateway g F = n := by
  have same : n.gateways.modify g F = n.gateways := by
    apply List.ext_getElem?
    intro k
    have := getElem?_modifyGateway n g k F
    rw [show (n.gateways.modify g F)[k]? = _ from this]
    split
    · next hk => rw [← hk, hg]; rfl
    · rfl
  rw [modifyGateway, same]

/-- The frames at a gateway that is changed, and elsewhere. -/
theorem frames_modifyGateway {g : Nat} {gw : Gateway} (hg : n.gateways[g]? = some gw)
    (F : Gateway → Gateway) (p : Place) :
    (n.modifyGateway g F).frames p =
      if p = .ingress g then (F gw).ingress.toList
      else if p = .hand (.uplink g) then (F gw).uplink.frames
      else if p = .hand (.downlink g) then (F gw).downlink.frames
      else n.frames p := by
  have get (k : Nat) : (n.modifyGateway g F).gateways[k]? =
      if k = g then some (F gw) else n.gateways[k]? := by
    rw [getElem?_modifyGateway]
    by_cases hk : k = g
    · subst hk
      simp [hg]
    · simp [hk, Ne.symm hk]
  cases p with
  | port i h => rfl
  | ingress k => by_cases hk : k = g <;> simp [frames, get, hk]
  | hand m =>
    cases m with
    | uplink k => by_cases hk : k = g <;> simp [frames, worker?, get, hk]
    | downlink k => by_cases hk : k = g <;> simp [frames, worker?, get, hk]
    | session s => rfl
    | socket s => rfl

theorem frames_of_gateway {g : Nat} {gw : Gateway} (hg : n.gateways[g]? = some gw) :
    n.frames (.ingress g) = gw.ingress.toList ∧
      n.frames (.hand (.uplink g)) = gw.uplink.frames ∧
      n.frames (.hand (.downlink g)) = gw.downlink.frames := by
  simp [frames, worker?, hg]

theorem adds_record (n : Network) (g : Nat) (t : Tally) : Adds n (n.record g t) [] := by
  cases hg : n.gateways[g]? with
  | none => rw [record, modifyGateway_eq_self hg]; exact .refl n
  | some gw =>
    refine .of_same (blank_modifyGateway fun gw _ => rfl) fun p => ?_
    obtain ⟨hi, hu, hd⟩ := frames_of_gateway hg
    rw [record, frames_modifyGateway hg]
    split
    · next hp => rw [hp, hi]
    · split
      · next hp => rw [hp, hu]
      · split
        · next hp => rw [hp, hd]
        · rfl

/-- A frame comes to the ingress queue of a gateway. -/
theorem adds_ingress {g : Nat} {gw : Gateway} (hg : n.gateways[g]? = some gw) (f : Frame) :
    Adds n (n.modifyGateway g fun gv => { gv with ingress := gw.ingress.add f })
      [(.ingress g, f)] := by
  refine ⟨blank_modifyGateway fun gv hv => ?_, fun p => ?_⟩
  · obtain rfl := Option.some.inj (hg.symm.trans hv)
    simp [Gateway.blank]
  · obtain ⟨hi, hu, hd⟩ := frames_of_gateway hg
    rw [frames_modifyGateway hg, arrivals_cons]
    split
    · next hp => simp [hp, hi]
    · next hp =>
      rw [if_neg (Ne.symm hp)]
      split
      · next hp => simp [hp, hu]
      · split
        · next hp => simp [hp, hd]
        · simp

/-! ## Over a hub -/

theorem extends_hear {k : Receiver} {bytes : List UInt8} {result : Except BusError Unit}
    (h : hear k bytes n = some (result, m)) : Extends n m := by
  cases k with
  | listener l =>
    simp only [hear] at h
    split at h <;> cases h
    · exact .refl _
    · exact ⟨[], adds_write n _⟩
  | gateway g =>
    simp only [hear] at h
    split at h
    · cases h
      exact .refl _
    · next gw hg =>
      split at h
      · cases h
        exact .refl _
      · split at h
        · next q hq =>
          cases h
          obtain rfl := Queue.offer_eq_accepted hq
          exact ⟨_, adds_ingress hg _⟩
        · cases h
          exact .refl _
        · cases h

theorem extends_deliver {dest : PortId} {bytes : List UInt8} {ks : List Receiver}
    {result : Except BusError Unit} (h : Hub.deliver hear dest bytes ks n = some (result, m)) :
    Extends n m := by
  induction ks generalizing n with
  | nil => cases h; exact .refl _
  | cons k ks ih =>
    simp only [Hub.deliver, Option.bind_eq_bind, Option.bind_eq_some_iff] at h
    obtain ⟨⟨r, m'⟩, hk, h⟩ := h
    have first := extends_hear hk
    cases r with
    | ok u => exact first.trans (ih h)
    | error e =>
      simp only at h
      split at h
      · exact first.trans (ih h)
      · cases h
        exact first

theorem extends_transfer {link : Link} {dest : PortId} {bytes : List UInt8}
    {result : Except BusError Unit} (h : n.transfer link dest bytes = some (result, m)) :
    Extends n m := by
  cases link with
  | member hub endpoint faults =>
    simp only [transfer] at h
    split at h
    · cases h
      exact .refl _
    · exact extends_deliver h
  | datagram s =>
    simp only [transfer] at h
    split at h
    · cases h
      exact .refl _
    · split at h
      · cases h
        exact .refl _
      · cases h
        refine ⟨[], .of_same rfl fun p => ?_⟩
        cases p with
        | hand m => cases m <;> rfl
        | _ => rfl

end Network

end FrameBus
