import FrameBus.Proofs.Network.Mesh

/-!
# How a frame passes a gateway

On a mesh the handling of a frame that is whole comes to one thing (`Sends`): at the uplink its seal
is on the link to the next gateway, or to all the others; at the downlink it is given to the local
port of its destination, to all the local sessions, or it is on the link again, the same bytes as
before.
-/

namespace FrameBus.Network

/-- One network after another: `out` came to the places, `sent` was written down, the latest first,
and nothing was counted as dropped. -/
structure Sends (n m : Network) (out : List (Place × Frame)) (sent : List Happening) : Prop where
  adds : Adds n m out
  log : m.log = sent ++ n.log
  drops : m.drops = n.drops

variable {hub : Nat} {n m k : Network}

theorem Sends.refl (n : Network) : Sends n n [] [] := ⟨.refl n, rfl, rfl⟩

theorem Sends.trans {out more : List (Place × Frame)} {sent next : List Happening}
    (h : Sends n m out sent) (h' : Sends m k more next) :
    Sends n k (out ++ more) (next ++ sent) :=
  ⟨h.adds.trans h'.adds, by rw [h'.log, h.log, List.append_assoc], h'.drops.trans h.drops⟩

theorem sends_write (n : Network) (h : Happening) : Sends n (n.write h) [] [h] :=
  ⟨adds_write n h, rfl, rfl⟩

/-- Counting something that is no drop. -/
theorem sends_record (n : Network) (g : Nat) {t : Tally}
    (ht : ∀ c : Counters, (c.record t).drops = c.drops) : Sends n (n.record g t) [] [] :=
  ⟨adds_record n g t, rfl, drops_modifyGateway fun gw => ht gw.counters⟩

theorem sends_setNode {i : Nat} {r : Registry Reaction} {out : List (Handle × Frame)}
    (h : (n.node i).Adds r out) :
    Sends n (n.setNode i r) (out.map fun a => (.port i a.1, a.2)) [] :=
  ⟨adds_setNode h, rfl, rfl⟩

/-! ## Over the hub -/

theorem hear_mesh (hm : Mesh hub n) {g : Nat} (hg : (n.gateways[g]?).isSome) {bytes : List UInt8}
    (hb : bytes ≠ []) :
    ∃ m, hear (.gateway g) bytes n = some (.ok (), m) ∧
      Sends n m [(.ingress g, .ofBytes bytes)] [] := by
  obtain ⟨gw, hg⟩ := Option.isSome_iff_exists.1 hg
  have serves := hm.gateway g gw hg
  have offer := Queue.offer_of_open serves.isOpen serves.unbounded (Frame.ofBytes bytes)
  have notEmpty : bytes.isEmpty = false := by simpa using hb
  refine ⟨_, ?_, adds_ingress hg _, rfl, drops_modifyGateway fun _ => rfl⟩
  simp only [hear, hg, notEmpty, offer]
  rfl

theorem deliver_mesh (hm : Mesh hub n) (dest : PortId) {bytes : List UInt8} (hb : bytes ≠ [])
    {ks : List Nat} (hk : ∀ k ∈ ks, (n.gateways[k]?).isSome) :
    ∃ m, Hub.deliver hear dest bytes (ks.map .gateway) n = some (.ok (), m) ∧
      Sends n m (ks.map fun k => (.ingress k, .ofBytes bytes)) [] := by
  induction ks generalizing n with
  | nil => exact ⟨n, rfl, .refl n⟩
  | cons g ks ih =>
    obtain ⟨m, hear, first⟩ := hear_mesh hm (hk g List.mem_cons_self) hb
    have there : ∀ k ∈ ks, (m.gateways[k]?).isSome := by
      intro k hmem
      obtain ⟨gw, hg⟩ := Option.isSome_iff_exists.1 (hk k (List.mem_cons_of_mem _ hmem))
      obtain ⟨gv, hv, _⟩ := gateway_of_blank first.adds.blank.symm hg
      simp [hv]
    obtain ⟨l, rest, others⟩ := ih (mesh_of_blank first.adds.blank hm) there
    refine ⟨l, ?_, first.trans others⟩
    simp only [List.map_cons, Hub.deliver, hear, Option.bind_eq_bind, Option.bind_some, rest]

/-- A transmission to gateways that hear it. -/
theorem transmit_mesh (hm : Mesh hub n) {g : Nat} {gw : Gateway} (hg : n.gateways[g]? = some gw)
    {hop : PortId} {ks : List Nat} (hk : ∀ k ∈ ks, (n.gateways[k]?).isSome)
    (route : ∀ endpoint, endpoint.id = some gw.id →
      (n.hub hub).route endpoint hop = .ok (ks.map .gateway))
    {datagram : Frame} (hd : datagram.window ≠ []) (relayed : Bool) :
    ∃ m, n.transmit g hop datagram relayed = some m ∧
      Sends n m (ks.map fun k => (.ingress k, .ofBytes datagram.window))
        [.transmitted gw.id hop datagram.window (.ok ())] := by
  obtain ⟨endpoint, faults, link, he⟩ := (hm.gateway g gw hg).link
  obtain ⟨m, hdel, sends⟩ := deliver_mesh hm hop hd hk
  have transfer : n.transfer gw.link hop datagram.window = some (.ok (), m) := by
    simp only [transfer, link, route endpoint he, hdel]
  have written := sends.trans (sends_write m (.transmitted gw.id hop datagram.window (.ok ())))
  have counted := written.trans (sends_record _ g (t := .uplink datagram.length) fun _ => rfl)
  rw [List.append_nil, List.append_nil] at counted
  refine ⟨_, by simp only [transmit, hg, transfer, Option.bind_eq_bind, Option.bind_some]; rfl, ?_⟩
  cases relayed with
  | false => exact counted
  | true =>
    have relays := counted.trans (sends_record _ g (t := .relayed) fun _ => rfl)
    rw [List.append_nil] at relays
    exact relays

/-! ## Seals -/

theorem sealed_ne_nil (route : Addresses) (window : List UInt8) :
    Envelope.sealed route window ≠ [] := by
  intro h
  have := congrArg List.length h
  rw [Envelope.length_sealed] at this
  simp [Envelope.size] at this

/-- A whole event frame leaves in the seal of its addresses. -/
theorem departure_bytes {f : Frame} {id source dest hop : PortId} {event : UInt32}
    {payload : List UInt8} (hw : f.window = EventFrame.bytes source dest event payload)
    (hr : Envelope.size ≤ f.headRoom) (hhop : Gateway.departureHop? id dest = some hop) :
    ∃ datagram, Gateway.departure id f = .leaves hop datagram ∧
      datagram.window = Envelope.sealed ⟨source, dest⟩ f.window := by
  refine ⟨⟨f.head.take (f.headRoom - Envelope.size), Envelope.sealed ⟨source, dest⟩ f.window,
    f.tail⟩, ?_, rfl⟩
  simp only [Gateway.departure, EventFrame.peek_bytes hw, hhop, Envelope.wrap_eq hr]

theorem arrival_sealed {f : Frame} {route : Addresses} {window : List UInt8}
    (h : f.window = Envelope.sealed route window) :
    ∃ inner, Gateway.arrival f = .opened route inner ∧ inner.window = window ∧
      Envelope.size ≤ inner.headRoom := by
  obtain ⟨inner, hu, hw, hr⟩ := Envelope.unwrap_sealed h
  exact ⟨inner, by simp only [Gateway.arrival, hu], hw, hr⟩

/-- A frame without a local target goes on to a gateway of another node. -/
theorem relay_unreachable {κ : Type} (r : Registry κ) {inner : Frame} (route : Addresses)
    {id hop : PortId} (hr : Envelope.size ≤ inner.headRoom)
    (hhop : Gateway.hop? id route.dest = some hop) (elsewhere : r.find? hop = none) :
    ∃ datagram, Gateway.relay id r route ⟨.unreachable route.dest, inner⟩ = .leaves hop datagram ∧
      datagram.window = Envelope.sealed route inner.window := by
  have free : (r.get? hop).isNone = true := by
    simp only [Registry.get?, elsewhere]
    split <;> rfl
  have kept : (some hop).filter (fun hop => (r.get? hop).isNone) = some hop :=
    Option.filter_some_pos free
  refine ⟨⟨inner.head.take (inner.headRoom - Envelope.size), Envelope.sealed route inner.window,
    inner.tail⟩, ?_, rfl⟩
  simp only [Gateway.relay, hhop, kept, Envelope.wrap_eq hr]

/-! ## At the uplink -/

variable {source dest : PortId} {event : UInt32} {payload : List UInt8}

/-- A frame for another session goes to the gateway that is its next hop. -/
theorem uplink_unicast (hm : Mesh hub n) {g g' : Nat} {gw gw' : Gateway}
    (hg : n.gateways[g]? = some gw) (hg' : n.gateways[g']? = some gw') {f : Frame}
    (hw : f.window = EventFrame.bytes source dest event payload)
    (hr : Envelope.size ≤ f.headRoom) (hd : dest.isBroadcast = false)
    (hop : Gateway.hop? gw.id dest = some gw'.id) :
    ∃ m, n.handleUplink g f = some m ∧
      Sends n m [(.ingress g', .ofBytes (Envelope.sealed ⟨source, dest⟩ f.window))]
        [.transmitted gw.id gw'.id (Envelope.sealed ⟨source, dest⟩ f.window) (.ok ())] := by
  have departs : Gateway.departureHop? gw.id dest = some gw'.id := by
    simp only [Gateway.departureHop?, hd, hop]
    rfl
  obtain ⟨datagram, leaves, hdw⟩ := departure_bytes hw hr departs
  have there : ∀ k ∈ [g'], (n.gateways[k]?).isSome := by
    intro k hk
    rw [List.mem_singleton.1 hk, hg']
    rfl
  obtain ⟨m, ht, sends⟩ := transmit_mesh hm hg there (fun _ he => hm.route_unicast hg' he)
    (hdw ▸ sealed_ne_nil _ _) false
  rw [hdw] at sends
  refine ⟨m, ?_, sends⟩
  simp only [handleUplink, hg, leaves, Option.bind_eq_bind, Option.bind_some, ht]

/-- A broadcast goes to all the other gateways. -/
theorem uplink_broadcast (hm : Mesh hub n) {g : Nat} {gw : Gateway} (hg : n.gateways[g]? = some gw)
    {f : Frame} (hw : f.window = EventFrame.bytes source .broadcast event payload)
    (hr : Envelope.size ≤ f.headRoom) :
    ∃ (ks : List Nat) (m : Network), n.handleUplink g f = some m ∧ ks.Nodup ∧
      (∀ k, k ∈ ks ↔ k ≠ g ∧ (n.gateways[k]?).isSome) ∧
      Sends n m
        (ks.map fun k => (.ingress k, .ofBytes (Envelope.sealed ⟨source, .broadcast⟩ f.window)))
        [.transmitted gw.id .broadcast (Envelope.sealed ⟨source, .broadcast⟩ f.window)
          (.ok ())] := by
  obtain ⟨datagram, leaves, hdw⟩ := departure_bytes hw hr
    (show Gateway.departureHop? gw.id .broadcast = some .broadcast from rfl)
  obtain ⟨endpoint, faults, link, he⟩ := (hm.gateway g gw hg).link
  obtain ⟨ks, route, nodup, mem⟩ := hm.route_broadcast hg he
  have same (e : Hub.Endpoint Receiver) (he' : e.id = some gw.id) :
      (n.hub hub).route e .broadcast = .ok (ks.map .gateway) := by
    rw [← route, Hub.route, Hub.route, he, he']
  obtain ⟨m, ht, sends⟩ := transmit_mesh hm hg (fun k hk => ((mem k).1 hk).2) same
    (hdw ▸ sealed_ne_nil _ _) false
  rw [hdw] at sends
  exact ⟨ks, m, by simp only [handleUplink, hg, leaves, Option.bind_eq_bind, Option.bind_some, ht],
    nodup, mem, sends⟩

/-! ## At the downlink -/

/-- A broadcast is given to the sessions of the node, a copy each. -/
theorem downlink_broadcast (hm : Mesh hub n) {g : Nat} {gw : Gateway}
    (hg : n.gateways[g]? = some gw) {f : Frame} {window : List UInt8}
    (hw : f.window = Envelope.sealed ⟨source, .broadcast⟩ window) :
    ∃ (m : Network) (inner : Frame), n.handleDownlink g f = some m ∧ inner.window = window ∧
      Sends n m (((n.node gw.node).others gw.id).map fun h => (.port gw.node h, inner.duplicate))
        [] := by
  obtain ⟨inner, opened, hiw, _⟩ := arrival_sealed hw
  have serves := hm.gateway g gw hg
  obtain ⟨o, ho, _, ha⟩ := Registry.broadcast_ready (hm.node gw.node) serves.port inner
  rw [serves.id] at ha
  have counted := sends_record n g (t := .downlink f.length) fun _ => rfl
  have given := counted.trans
    (sends_setNode (n := n.record g (.downlink f.length)) (i := gw.node) ha)
  have tallied := given.trans (sends_record _ g (t := .broadcast o.accepted) fun _ => rfl)
  rw [List.nil_append, List.append_nil, List.map_map] at tallied
  refine ⟨_, inner, ?_, hiw, tallied⟩
  have ho' : ((n.record g (.downlink f.length)).node gw.node).broadcast Reaction.run gw.port inner =
      some (.ok o) := ho
  have all : PortId.broadcast.isBroadcast = true := rfl
  simp only [handleDownlink, hg, opened, all, ho', Option.bind_eq_bind, Option.bind_some, if_true]
  rfl

/-- A frame for a session of the node is given to it. -/
theorem downlink_delivers (hm : Mesh hub n) {g s : Nat} {gw : Gateway} {ss : Session}
    (hg : n.gateways[g]? = some gw) (hs : n.sessions[s]? = some ss) (hnode : ss.node = gw.node)
    {f : Frame} {window : List UInt8}
    (hw : f.window = Envelope.sealed ⟨source, ss.id⟩ window) :
    ∃ (m : Network) (inner : Frame), n.handleDownlink g f = some m ∧ inner.window = window ∧
      Sends n m [(.port ss.node ss.port, inner)] [] := by
  obtain ⟨inner, opened, hiw, _⟩ := arrival_sealed hw
  have serves := hm.gateway g gw hg
  have session := hm.session s ss hs
  rw [hnode] at session ⊢
  have single := PortId.isBroadcast_eq_false session.id_ok
  obtain ⟨r, hr, ha⟩ := Registry.send_to_port (hm.node gw.node) serves.port session.port
    (session.id ▸ session.id_ok) (f := inner)
  rw [session.id] at hr
  have counted := sends_record n g (t := .downlink f.length) fun _ => rfl
  have given := counted.trans
    (sends_setNode (n := n.record g (.downlink f.length)) (i := gw.node) ha)
  have tallied := given.trans (sends_record _ g (t := .delivered) fun _ => rfl)
  rw [List.nil_append, List.append_nil] at tallied
  refine ⟨_, inner, ?_, hiw, tallied⟩
  have hr' : ((n.record g (.downlink f.length)).node gw.node).send gw.port ss.id inner =
      .sent r := hr
  simp only [handleDownlink, hg, opened, single, handleUnicast, hr', Option.bind_eq_bind,
    Option.bind_some]
  rfl

/-- A frame for a session of another node goes on to the next gateway, as it came. -/
theorem downlink_relays (hm : Mesh hub n) {g g' : Nat} {gw gw' : Gateway}
    (hg : n.gateways[g]? = some gw) (hg' : n.gateways[g']? = some gw')
    (hd : dest.isReserved = false) (nobody : (n.node gw.node).find? dest = none)
    (hop : Gateway.hop? gw.id dest = some gw'.id)
    (elsewhere : (n.node gw.node).find? gw'.id = none) {f : Frame} {window : List UInt8}
    (hw : f.window = Envelope.sealed ⟨source, dest⟩ window) :
    ∃ m, n.handleDownlink g f = some m ∧
      Sends n m [(.ingress g', .ofBytes (Envelope.sealed ⟨source, dest⟩ window))]
        [.transmitted gw.id gw'.id (Envelope.sealed ⟨source, dest⟩ window) (.ok ())] := by
  obtain ⟨inner, opened, hiw, hir⟩ := arrival_sealed hw
  have serves := hm.gateway g gw hg
  obtain ⟨hnext, _⟩ := Option.filter_eq_some_iff.1 hop
  have unreachable := Registry.send_unreachable (hm.node gw.node) serves.port hd nobody
    (serves.id.symm ▸ hnext) elsewhere (f := inner)
  have single := PortId.isBroadcast_eq_false hd
  obtain ⟨datagram, relays, hdw⟩ := relay_unreachable (n.node gw.node) ⟨source, dest⟩ hir hop
    elsewhere
  -- the gateways as they are once the frame is counted
  have counted := sends_record n g (t := .downlink f.length) fun _ => rfl
  obtain ⟨gv, hv, e⟩ := gateway_of_blank counted.adds.blank.symm hg
  obtain ⟨gv', hv', e'⟩ := gateway_of_blank counted.adds.blank.symm hg'
  obtain ⟨-, id, -⟩ := Gateway.parts_of_blank e
  obtain ⟨-, id', -⟩ := Gateway.parts_of_blank e'
  have hm' := mesh_of_blank counted.adds.blank hm
  have there : ∀ k ∈ [g'], ((n.record g (.downlink f.length)).gateways[k]?).isSome := by
    intro k hk
    rw [List.mem_singleton.1 hk, hv']
    rfl
  have route (endpoint : Hub.Endpoint Receiver) (he : endpoint.id = some gv.id) :
      ((n.record g (.downlink f.length)).hub hub).route endpoint gw'.id =
        .ok ([g'].map .gateway) := by
    rw [← id']
    exact hm'.route_unicast hv' he
  obtain ⟨m, ht, sends⟩ := transmit_mesh hm' hv there route (hdw ▸ sealed_ne_nil _ _) true
  rw [hdw, hiw, id] at sends
  refine ⟨m, ?_, by simpa using counted.trans sends⟩
  have unreachable' : ((n.record g (.downlink f.length)).node gw.node).send gw.port dest inner =
      .returned ⟨.unreachable dest, inner⟩ := unreachable
  have relays' : Gateway.relay gw.id ((n.record g (.downlink f.length)).node gw.node) ⟨source, dest⟩
      ⟨.unreachable dest, inner⟩ = _ := relays
  simp only [handleDownlink, hg, opened, single, handleUnicast, unreachable', relays', ht,
    Option.bind_eq_bind, Option.bind_some]
  rfl

end FrameBus.Network
