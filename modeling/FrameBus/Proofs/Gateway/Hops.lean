import FrameBus.Proofs.Frame.Corruption
import FrameBus.Proofs.Network.Life
import FrameBus.Proofs.Network.Passage
import FrameBus.Proofs.Route.Paths
import FrameBus.Proofs.Stop.Steps

/-!
# A frame goes hop by hop

What a gateway's worker does with a frame that names one destination brings it along the path there:
to the destination's own port, to the port of the next hop, or over a hub to the next hop. A frame
comes to one place at most, with the bytes that it had, or in their envelope.

The way that is left is kept as a budget (`Affords`): of hops over a hub, and of times that workers
take the frame, which are two for each hop at most.
-/

namespace FrameBus

/-! ## Ways that are left -/

namespace Route

variable {current next dest : PortId} {k : Nat}

theorem nextHop?_self (hd : dest.isReserved = false) : nextHop? dest dest = some dest := by
  by_cases h : dest.domain = 0
  · rw [nextHop?_of_controller hd hd h, towardController, if_pos h]
  · rw [nextHop?_of_app hd hd h, towardApp, if_neg h, if_pos rfl]

theorem isReserved_of_within (hd : dest.isReserved = false) (h : Within k dest current) :
    current.isReserved = false := by
  obtain ⟨ids, path, -⟩ := h
  cases path with
  | arrived => exact hd
  | hop _ hn _ => exact (isReserved_of_hop hn).1

/-- A hop to another id uses up one of those that are left. -/
theorem Within.rest (h : Within k dest current) (hn : nextHop? current dest = some next)
    (hne : next ≠ current) : ∃ j, k = j + 1 ∧ Within j dest next := by
  obtain ⟨ids, path, length⟩ := h
  cases path with
  | arrived =>
    rw [nextHop?_self (isReserved_of_hop hn).2] at hn
    exact absurd (Option.some.inj hn).symm hne
  | @hop _ next' rest _ hn' path =>
    obtain rfl := Option.some.inj (hn.symm.trans hn')
    obtain ⟨j, rfl⟩ : ∃ j, k = j + 1 := ⟨k - 1, by simp only [List.length_cons] at length; omega⟩
    exact ⟨j, rfl, rest, path, Nat.le_of_succ_le_succ length⟩

end Route

/-- After so many hops over a hub, and so many times that it was taken, a frame can still come from
an id to its destination. -/
def Affords (dest : PortId) (sent taken : Nat) (id : PortId) : Prop :=
  ∃ k, Route.Within k dest id ∧ sent + k ≤ 5 ∧ taken + 2 * k ≤ 11

namespace Affords

variable {dest id hop : PortId} {sent taken : Nat}

theorem start (hd : dest.isReserved = false) (h : id.isReserved = false) : Affords dest 0 1 id :=
  ⟨5, Route.within_five hd h, by decide, by decide⟩

theorem mono (h : Affords dest sent taken id) {s t : Nat} (hs : s ≤ sent) (ht : t ≤ taken) :
    Affords dest s t id := by
  obtain ⟨k, near, hops, times⟩ := h
  exact ⟨k, near, by omega, by omega⟩

theorem sent_le (h : Affords dest sent taken id) : sent ≤ 5 := by
  obtain ⟨k, -, hops, -⟩ := h
  omega

theorem taken_le (h : Affords dest sent taken id) : taken ≤ 11 := by
  obtain ⟨k, -, -, times⟩ := h
  omega

/-- At the destination nothing more is needed. -/
theorem arrive (h : Affords dest sent taken id) : Affords dest sent taken dest := by
  obtain ⟨k, -, hops, times⟩ := h
  exact ⟨0, Route.within_self dest, by omega, by omega⟩

theorem onward (h : Affords dest sent taken id) (hn : Gateway.hop? id dest = some hop) :
    Affords dest (sent + 1) (taken + 2) hop := by
  obtain ⟨hn, hne⟩ := Gateway.hop?_eq_some_iff.1 hn
  obtain ⟨k, near, hops, times⟩ := h
  obtain ⟨j, rfl, nearer⟩ := near.rest hn hne
  exact ⟨j, nearer, by omega, by omega⟩

theorem isReserved (h : Affords dest sent taken id) (hd : dest.isReserved = false) :
    id.isReserved = false := by
  obtain ⟨k, near, -⟩ := h
  exact Route.isReserved_of_within hd near

end Affords

/-! ## One frame -/

/-- A window that has the addresses of a frame to one port. -/
structure Addressed (route : Addresses) (w : List UInt8) : Prop where
  dest_ok : route.dest.isReserved = false
  peek : ∀ f : Frame, f.window = w → Envelope.peek f = .ok route

theorem Envelope.peek_congr {f g : Frame} (h : f.window = g.window) : peek f = peek g := by
  obtain ⟨_, window, _⟩ := f
  obtain rfl : window = g.window := h
  rfl

theorem addressed_of_peek {f : Frame} {route : Addresses} (h : Envelope.peek f = .ok route)
    (hd : route.dest.isReserved = false) : Addressed route f.window :=
  ⟨hd, fun _ hw => (Envelope.peek_congr hw).trans h⟩

section

variable (route : Addresses) (w : List UInt8) (sent taken : Nat)

/-- The frame is waiting at a place on its way. -/
def Network.Waits (n : Network) : Place → Frame → Prop
  | .port i h, f => f.window = w ∧
      ∃ p, (n.node i).port? h = some p ∧ Affords route.dest sent (taken + 1) p.id
  | .ingress g, f => f.window = Envelope.sealed route w ∧
      ∃ gw, n.gateways[g]? = some gw ∧ Affords route.dest sent (taken + 2) gw.id
  | .hand _, _ => False

/-- An errand takes the frame on its way. -/
def Errand.Carries (r : Registry Reaction) : Errand → Prop
  | .transmit hop datagram _ => datagram.window = Envelope.sealed route w ∧
      Affords route.dest (sent + 1) (taken + 2) hop
  | .deliver target inner => inner.window = w ∧
      ∃ p, r.port? target = some p ∧ Affords route.dest sent (taken + 1) p.id
  | .spread _ _ _ => False

/-- A worker of a gateway has the frame in its hand. -/
def Stand.Carries (r : Registry Reaction) (id : PortId) : Side → Stand → Prop
  | .up, .holding f => f.window = w ∧ Affords route.dest sent taken id
  | .down, .holding f => f.window = Envelope.sealed route w ∧
      Affords route.dest sent (taken + 1) id
  | _, .busy _ e => e.Carries route w sent taken r
  | _, _ => False

end

/-! ## Parts of a move -/

namespace Network

variable {n m : Network} {g : Nat} {gw : Gateway} {route : Addresses} {w : List UInt8}
  {sent taken : Nat}

theorem Waits.of_keeps {p : Place} {f : Frame} (h : Waits route w sent taken n p f)
    (keeps : Keeps n m) : Waits route w sent taken m p f := by
  cases p with
  | port i k =>
    obtain ⟨hw, q, hq, affords⟩ := h
    obtain ⟨q', hq', id⟩ := keeps.port hq
    exact ⟨hw, q', hq', id ▸ affords⟩
  | ingress g =>
    obtain ⟨hw, gw, hg, affords⟩ := h
    obtain ⟨gv, hv, -, id, -⟩ := keeps.gateway hg
    exact ⟨hw, gv, hv, id ▸ affords⟩
  | hand mv => exact h

/-- Over a hub a frame for one id comes to the gateway that has it, or to none. -/
theorem transfer_unicast (wired : n.Wired) {link : Link} (onHub : link.OnHub) {hop : PortId}
    (single : hop.isBroadcast = false) {bytes : List UInt8} {result : Except BusError Unit}
    (h : n.transfer link hop bytes = some (result, m)) :
    Adds n m [] ∨ ∃ j gv, n.gateways[j]? = some gv ∧ gv.id = hop ∧
      Adds n m [(.ingress j, .ofBytes bytes)] := by
  obtain ⟨hub, endpoint, faults, rfl⟩ := onHub
  simp only [transfer] at h
  split at h
  · cases h
    exact .inl (.refl n)
  · next hooks hr =>
    -- the one member that has the id hears it
    simp only [Hub.route] at hr
    split at hr
    · cases hr
    · simp only [Hub.recipients, single, Bool.false_eq_true, if_false] at hr
      split at hr
      · next k hk =>
        cases hr
        obtain ⟨x, hx, live⟩ := Option.bind_eq_some_iff.1 hk
        have id : x.id = hop := by simpa using List.find?_some hx
        have hook : x.hook = some k := by
          simp only [Hub.Member.live?] at live
          split at live
          · exact live
          · cases live
        simp only [Hub.deliver, Option.bind_eq_bind, Option.bind_eq_some_iff] at h
        obtain ⟨⟨answer, m'⟩, heard, h⟩ := h
        obtain rfl : m' = m := by
          split at h
          · simp only [single, Bool.false_eq_true, if_false] at h
            cases h
            rfl
          · cases h
            rfl
        cases k with
        | listener l =>
          simp only [hear] at heard
          split at heard
          · cases heard
            exact .inl (.refl n)
          · cases heard
            exact .inl (adds_write n _)
        | gateway j =>
          obtain ⟨gv, hv, same⟩ := wired.member (List.mem_of_find?_eq_some hx) hook
          simp only [hear, hv] at heard
          split at heard
          · cases heard
            exact .inl (.refl n)
          · split at heard
            · next q hq =>
              cases heard
              obtain rfl := Queue.offer_eq_accepted hq
              exact .inr ⟨j, gv, hv, same.trans id, adds_ingress hv _⟩
            · cases heard
              exact .inl (.refl n)
            · cases heard
      · cases hr

theorem transmit_unicast (wired : n.Wired) (hg : n.gateways[g]? = some gw) {hop : PortId}
    (single : hop.isBroadcast = false) {datagram : Frame} {relayed : Bool}
    (h : n.transmit g hop datagram relayed = some m) :
    Adds n m [] ∨ ∃ j gv, n.gateways[j]? = some gv ∧ gv.id = hop ∧
      Adds n m [(.ingress j, .ofBytes datagram.window)] := by
  simp only [transmit, hg, Option.bind_eq_bind, Option.bind_some, Option.bind_eq_some_iff] at h
  obtain ⟨⟨result, k⟩, ht, h⟩ := h
  have counted : Adds k m [] := by
    have written := adds_write k (.transmitted gw.id hop datagram.window result)
    split at h
    · cases h
      exact written.trans (adds_record _ g _)
    · cases h
      cases relayed with
      | true => exact (written.trans (adds_record _ g _)).trans (adds_record _ g _)
      | false => exact written.trans (adds_record _ g _)
  rcases transfer_unicast wired (wired.gateway hg).2.2 single ht with first | ⟨j, gv, hv, id, first⟩
  · exact .inl (first.trans counted)
  · exact .inr ⟨j, gv, hv, id, first.trans counted⟩

/-- The target of a send is the destination's own port, or the next hop's. -/
theorem resolve_spec {r : Registry Reaction} {sender target : Handle} {dest : PortId}
    (h : r.resolve sender dest = .ok target) : ∃ p, r.port? target = some p ∧
      (p.id = dest ∨ Gateway.hop? (r.idOf sender) dest = some p.id) := by
  -- an id that is found is a port's, as no port's is reserved
  have found {id : PortId} (hf : r.find? id = some target) (id_ok : id.isReserved = false) :
      ∃ p, r.port? target = some p ∧ p.id = id := by
    have own : r.idOf target = id := by simpa using List.find?_some hf
    cases hp : r.port? target with
    | none =>
      rw [Registry.idOf, hp] at own
      rw [← own] at id_ok
      cases id_ok
    | some p =>
      rw [Registry.idOf, hp] at own
      exact ⟨p, rfl, own⟩
  simp only [Registry.resolve] at h
  split at h
  · cases h
  · next dest_ok =>
    split at h
    · cases h
    · split at h
      · cases h
      · next k ht =>
        split at h
        · cases h
          simp only [Registry.target?, Option.or_eq_some_iff] at ht
          rcases ht with ht | ⟨-, ht⟩
          · obtain ⟨p, hp, id⟩ := found ht (by simpa using dest_ok)
            exact ⟨p, hp, .inl id⟩
          · obtain ⟨hop, hh, ht⟩ := Option.bind_eq_some_iff.1 ht
            have hop_ok := (Route.hop_spec (Gateway.hop?_eq_some_iff.1 hh).1).1
            obtain ⟨p, hp, id⟩ := found ht hop_ok
            exact ⟨p, hp, .inr (id ▸ hh)⟩
        · cases h

theorem departure_spec (addressed : Addressed route w) {f datagram : Frame} (hw : f.window = w)
    {id hop : PortId} (h : Gateway.departure id f = .leaves hop datagram) :
    Gateway.hop? id route.dest = some hop ∧ datagram.window = Envelope.sealed route w := by
  obtain ⟨route', peeked, hh, wrapped⟩ := Gateway.departure_eq_leaves h
  obtain rfl := Except.ok.inj ((addressed.peek f hw).symm.trans peeked)
  rw [Gateway.departureHop?, PortId.isBroadcast_eq_false addressed.dest_ok] at hh
  exact ⟨hh, hw ▸ Envelope.window_of_wrap wrapped⟩

theorem carries_direct (wired : n.Wired) (hg : n.gateways[g]? = some gw)
    (addressed : Addressed route w) {inner : Frame} (hw : inner.window = w)
    (affords : Affords route.dest sent (taken + 1) gw.id) {k : Network} (nodes : k.nodes = n.nodes)
    {e : Errand} (h : (k.direct g gw route inner).1 = some e) :
    e.Carries route w sent taken (n.node gw.node) := by
  have same : k.node gw.node = n.node gw.node := by rw [node, nodes, node]
  obtain ⟨-, ⟨p, hp, own⟩, -⟩ := wired.gateway hg
  have id : (n.node gw.node).idOf gw.port = gw.id := by
    rw [Registry.idOf, hp]
    exact own
  simp only [direct, PortId.isBroadcast_eq_false addressed.dest_ok, Bool.false_eq_true, if_false,
    same] at h
  split at h
  · next target ht =>
    cases h
    obtain ⟨q, hq, near⟩ := resolve_spec ht
    refine ⟨hw, q, hq, ?_⟩
    rcases near with near | near
    · rw [near]
      exact affords.arrive
    · exact (affords.onward (id ▸ near)).mono (by omega) (by omega)
  · split at h
    · cases h
    · cases h
    · next hop datagram hr =>
      cases h
      obtain ⟨hh, wrapped⟩ := Gateway.relay_eq_leaves hr
      exact ⟨hw ▸ Envelope.window_of_wrap wrapped, (affords.onward hh).mono (by omega) (by omega)⟩

/-- What is to be done with the frame brings it on its way. -/
theorem carries_judge (wired : n.Wired) (hg : n.gateways[g]? = some gw)
    (addressed : Addressed route w) {side : Side} {f : Frame}
    (held : (Stand.holding f).Carries route w sent taken (n.node gw.node) gw.id side) {e : Errand}
    (h : (n.judge g gw side f).1 = some e) : e.Carries route w sent taken (n.node gw.node) := by
  cases side with
  | up =>
    obtain ⟨hw, affords⟩ := held
    simp only [judge] at h
    split at h
    · cases h
    · cases h
    · next hop datagram hd =>
      cases h
      obtain ⟨hh, sealed⟩ := departure_spec addressed hw hd
      exact ⟨sealed, affords.onward hh⟩
  | down =>
    obtain ⟨hw, affords⟩ := held
    obtain ⟨inner, opened, window, -⟩ := arrival_sealed hw
    simp only [judge, opened] at h
    exact carries_direct (k := n.record g (.downlink f.length)) wired hg addressed window affords
      rfl h

/-- The frame comes to one place on its way, or to none, and the errand is done. -/
theorem waits_advance (wired : n.Wired) (hg : n.gateways[g]? = some gw)
    (addressed : Addressed route w) {f : Frame} {e : Errand} {next : Option Errand}
    (carries : e.Carries route w sent taken (n.node gw.node))
    (h : n.advance g gw e = some (next, m)) :
    next = none ∧ ∃ out : Option (Place × Frame), Adds n m out.toList ∧ ∀ p f', out = some (p, f') →
      Waits route w (sent + (Stand.busy f e).needsLink.toNat) taken n p f' := by
  cases e with
  | transmit hop datagram relayed =>
    obtain ⟨sealed, affords⟩ := carries
    obtain ⟨k, hk, e⟩ := Option.map_eq_some_iff.1 h
    cases e
    have single := PortId.isBroadcast_eq_false (affords.isReserved addressed.dest_ok)
    rcases transmit_unicast wired hg single hk with adds | ⟨j, gv, hv, id, adds⟩
    · exact ⟨rfl, none, adds, fun _ _ e => by cases e⟩
    · refine ⟨rfl, some _, adds, fun p f' e => ?_⟩
      cases e
      exact ⟨sealed, gv, hv, id ▸ affords⟩
  | deliver target inner =>
    obtain ⟨hw, p, hp, affords⟩ := carries
    simp only [advance] at h
    split at h
    · next r hr =>
      cases h
      have adds := (adds_setNode (Registry.adds_enqueue hr)).trans (adds_record _ g .delivered)
      refine ⟨rfl, some _, adds, fun p' f' e => ?_⟩
      cases e
      exact ⟨hw, p, hp, affords⟩
    · cases h
      exact ⟨rfl, none, adds_record n g _, fun _ _ e => by cases e⟩
    · cases h
  | spread left inner accepted => exact carries.elim

/-- No errand takes a frame away, whatever it is. -/
theorem later_advance {e : Errand} {next : Option Errand} (h : n.advance g gw e = some (next, m)) :
    Later n m := by
  have counted (k : Network) (t : Tally) : Later k (k.record g t) :=
    later_of_extends (extends_record k g t)
  cases e with
  | transmit hop datagram relayed =>
    obtain ⟨k, hk, e⟩ := Option.map_eq_some_iff.1 h
    cases e
    exact later_of_extends (extends_transmit hk)
  | deliver target inner =>
    simp only [advance] at h
    split at h
    · next r hr =>
      cases h
      exact (later_setNode gw.node (Registry.later_of_adds (Registry.adds_enqueue hr))).trans
        (counted _ _)
    · cases h
      exact counted n _
    · cases h
  | spread left inner accepted =>
    cases left with
    | nil =>
      cases h
      exact counted n _
    | cons k left =>
      obtain ⟨⟨result, r⟩, hr, e⟩ := Option.map_eq_some_iff.1 h
      cases e
      exact later_setNode gw.node (Registry.later_run hr)

end Network

end FrameBus
