import FrameBus.Proofs.Stop.Threads

/-!
# A stopped gateway compared with a running one

`Network.revive` undoes what a stop did so far: the flag is set, the port connected and the link
started, as `Network.startGateway` leaves them. What a worker makes of a frame comes to the same
with and without:

    n  ──judge, advance──▶  m
    │ revive                │ revive
    ▼                       ▼
    n' ──judge, advance──▶  m'

An errand goes on like that whatever the stop did meanwhile (`advance_revive`), and so does the
judgement on a frame, but for a frame from the ingress queue after the port was disconnected
(`judge_revive`).
-/

namespace FrameBus

/-- A gateway with an id of its own, under which it is a member of its hub if it has one. -/
structure Gateway.Bound (gw : Gateway) : Prop where
  id_ok : gw.id.isReserved = false
  link : ∀ hub endpoint faults, gw.link = .member hub endpoint faults → endpoint.id = some gw.id

/-- A socket with its link started, if it can be. -/
def Datagram.Socket.raised (s : Datagram.Socket) : Datagram.Socket := s.start.toOption.getD s

namespace Network

/-! ## Revival -/

/-- The network as it is with a gateway started: its flag, its port and its link. -/
def revive (n : Network) (g : Nat) (gw : Gateway) : Network :=
  (((n.modifyGateway g fun gw => { gw with running := true }).setPortState gw.node gw.port
    .conn).startLink gw.link).2

/-- The hubs with a link started. -/
def startHubs (link : Link) (hubs : List (Hub Receiver)) : List (Hub Receiver) :=
  match link with
  | .member h endpoint _ =>
    match (hubs.getD h .empty).start endpoint with
    | .error _ => hubs
    | .ok hub => hubs.set h hub
  | .datagram _ => hubs

/-- The sockets with a link started. -/
def startSockets (link : Link) (sockets : List Datagram.Socket) : List Datagram.Socket :=
  match link with
  | .member _ _ _ => sockets
  | .datagram s =>
    match (sockets[s]?).map Datagram.Socket.start with
    | none | some (.error _) => sockets
    | some (.ok socket) => sockets.modify s fun _ => socket

variable {n m : Network} {g : Nat} {gw : Gateway}

theorem startLink_snd (n : Network) (link : Link) : (n.startLink link).2 =
    { n with hubs := startHubs link n.hubs, sockets := startSockets link n.sockets } := by
  cases link with
  | member h endpoint faults =>
    simp only [startLink, startHubs, startSockets, hub]
    cases (n.hubs.getD h .empty).start endpoint <;> rfl
  | datagram s =>
    simp only [startLink, startHubs, startSockets]
    cases n.sockets[s]? with
    | none => rfl
    | some socket =>
      simp only [Option.map_some]
      cases socket.start <;> rfl

theorem revive_eq (n : Network) (g : Nat) (gw : Gateway) : n.revive g gw =
    { n with
      nodes := n.nodes.set gw.node ((n.node gw.node).setState gw.port .conn)
      hubs := startHubs gw.link n.hubs
      sockets := startSockets gw.link n.sockets
      gateways := n.gateways.modify g fun gw => { gw with running := true } } := by
  rw [revive, startLink_snd]
  rfl

theorem node_setPortState (n : Network) (i : Nat) (p : Handle) (st : PortState) (j : Nat) :
    (n.setPortState i p st).node j = if i = j then (n.node j).setState p st else n.node j := by
  rw [setPortState, node_setNode]
  by_cases hj : i = j
  · subst hj
    by_cases hi : i < n.nodes.length
    · simp [hi]
    · -- a node that is not there has no port
      simp [hi, node_eq_new hi, Registry.setState, Registry.modify, Registry.new]
  · simp [hj]

theorem node_revive (n : Network) (g : Nat) (gw : Gateway) (i : Nat) :
    (n.revive g gw).node i =
      if gw.node = i then (n.node i).setState gw.port .conn else n.node i := by
  rw [revive_eq]
  exact node_setPortState n gw.node gw.port .conn i

theorem gateway_revive (n : Network) (g : Nat) (gw : Gateway) (k : Nat) :
    (n.revive g gw).gateways[k]? =
      (n.gateways[k]?).map fun gv => if g = k then { gv with running := true } else gv := by
  rw [revive_eq]
  show (n.modifyGateway g fun gw => { gw with running := true }).gateways[k]? = _
  rw [getElem?_modifyGateway]
  split <;> simp

/-! ## What workers change -/

/-- Two changes of entries that do not touch the same part of an entry. -/
theorem modify_comm {α : Type} (l : List α) (i j : Nat) {F G : α → α} (h : ∀ a, G (F a) = F (G a)) :
    (l.modify i F).modify j G = (l.modify j G).modify i F := by
  by_cases hij : i = j
  · subst hij
    rw [List.modify_modify_eq, List.modify_modify_eq]
    exact congrArg (l.modify i) (funext h)
  · exact List.modify_modify_ne F G l hij

theorem revive_write (n : Network) (g : Nat) (gw : Gateway) (x : Happening) :
    (n.write x).revive g gw = (n.revive g gw).write x := by
  rw [revive_eq, revive_eq]
  rfl

/-- Other parts of a gateway than its flag. -/
theorem revive_modifyGateway (n : Network) (g : Nat) (gw : Gateway) (k : Nat)
    {F : Gateway → Gateway}
    (hF : ∀ gv, F { gv with running := true } = { F gv with running := true }) :
    (n.modifyGateway k F).revive g gw = (n.revive g gw).modifyGateway k F := by
  have gateways := modify_comm n.gateways k g (F := F) (G := fun gv => { gv with running := true })
    fun gv => (hF gv).symm
  rw [revive_eq, revive_eq]
  simp only [modifyGateway, gateways]
  rfl

theorem revive_record (n : Network) (g : Nat) (gw : Gateway) (k : Nat) (t : Tally) :
    (n.record k t).revive g gw = (n.revive g gw).record k t :=
  revive_modifyGateway n g gw k fun _ => rfl

theorem revive_setNode (n : Network) (g : Nat) (gw : Gateway) (r : Registry Reaction) :
    (n.setNode gw.node r).revive g gw =
      (n.revive g gw).setNode gw.node (r.setState gw.port .conn) := by
  have nodes : n.nodes.set gw.node (((n.setNode gw.node r).node gw.node).setState gw.port .conn) =
      n.nodes.set gw.node (r.setState gw.port .conn) := by
    rw [node_setNode]
    by_cases hn : gw.node < n.nodes.length
    · rw [if_pos ⟨rfl, hn⟩]
    · rw [List.set_eq_of_length_le (Nat.le_of_not_lt hn),
        List.set_eq_of_length_le (Nat.le_of_not_lt hn)]
  rw [revive_eq, revive_eq]
  simp only [setNode, List.set_set] at nodes ⊢
  rw [nodes]

theorem start_arrive (socket : Datagram.Socket) (p : Datagram.Packet) :
    (socket.arrive p).start = socket.start.map fun socket => socket.arrive p := by
  obtain ⟨address, peers, id, hooked, receiving, inbox⟩ := socket
  by_cases hp : p.dest = address
  · cases id <;> cases receiving <;> cases hooked <;>
      simp [Datagram.Socket.start, Datagram.Socket.arrive, Except.map, hp]
  · cases id <;> cases receiving <;> cases hooked <;>
      simp [Datagram.Socket.start, Datagram.Socket.arrive, Except.map, hp]

theorem revive_carry (n : Network) (g : Nat) (gw : Gateway) (packets : List Datagram.Packet) :
    (n.carry packets).revive g gw = (n.revive g gw).carry packets := by
  let arrive (socket : Datagram.Socket) := packets.foldl Datagram.Socket.arrive socket
  have start (socket : Datagram.Socket) : (arrive socket).start = socket.start.map arrive := by
    simp only [arrive]
    clear arrive
    induction packets generalizing socket with
    | nil => simp only [List.foldl_nil]; cases socket.start <;> rfl
    | cons p packets ih =>
      simp only [List.foldl_cons]
      rw [ih, start_arrive]
      cases socket.start <;> rfl
  have sockets : startSockets gw.link (n.sockets.map arrive) =
      (startSockets gw.link n.sockets).map arrive := by
    cases gw.link with
    | member h endpoint faults => rfl
    | datagram s =>
      simp only [startSockets, List.getElem?_map]
      cases n.sockets[s]? with
      | none => rfl
      | some socket =>
        simp only [Option.map_some, start]
        cases socket.start with
        | error e => rfl
        | ok started =>
          simp only [Except.map]
          apply List.ext_getElem?
          intro i
          simp only [List.getElem?_modify, List.getElem?_map]
          cases n.sockets[i]? with
          | none => rfl
          | some socket => by_cases hi : s = i <;> simp [hi]
  rw [revive_eq, revive_eq]
  simp only [carry]
  exact congrArg (fun sockets => { n with
    nodes := n.nodes.set gw.node ((n.node gw.node).setState gw.port .conn)
    hubs := startHubs gw.link n.hubs
    sockets := sockets
    gateways := n.gateways.modify g fun gw => { gw with running := true } }) sockets

/-! ## Links -/

section

variable {id : PortId} {f : Hub.Member Receiver → Hub.Member Receiver}

/-- The members under other ids do not change. -/
theorem members_update (hub : Hub Receiver) (hf : ∀ m, (f m).id = m.id) :
    (hub.update id f).members.filter (fun m => m.id != id) =
      hub.members.filter fun m => m.id != id := by
  have sameId (m : Hub.Member Receiver) : (if m.id = id then f m else m).id = m.id := by
    split
    · exact hf m
    · rfl
  have stays : ∀ m ∈ hub.members.filter (fun m => m.id != id),
      (if m.id = id then f m else m) = m :=
    fun m hm => if_neg (by simpa using (List.mem_filter.1 hm).2)
  simp only [Hub.update, List.filter_map, Function.comp_def, sameId]
  exact (List.map_congr_left stays).trans (List.map_id _)

theorem find?_update (hub : Hub Receiver) (hf : ∀ m, (f m).id = m.id) {dest : PortId}
    (hd : dest ≠ id) : (hub.update id f).find? dest = hub.find? dest := by
  have sameId (m : Hub.Member Receiver) : (if m.id = id then f m else m).id = m.id := by
    split
    · exact hf m
    · rfl
  simp only [Hub.find?, Hub.update, List.find?_map, Function.comp_def, sameId]
  cases hm : hub.members.find? fun m => m.id == dest with
  | none => rfl
  | some m =>
    have found : m.id = dest := by simpa using List.find?_some hm
    exact congrArg some (if_neg (by rw [found]; exact hd))

end

/-- Whether an endpoint has started matters to the others only: it hears nothing that it sends. -/
theorem route_start {hub started : Hub Receiver} {endpoint : Hub.Endpoint Receiver}
    {id dest : PortId} (hid : endpoint.id = some id) (hs : hub.start endpoint = .ok started)
    (hd : dest ≠ id) : started.route endpoint dest = hub.route endpoint dest := by
  simp only [Hub.start, hid] at hs
  cases hs
  simp only [Hub.route, hid, Hub.recipients]
  have sameId (m : Hub.Member Receiver) : { m with started := true }.id = m.id := rfl
  rw [members_update hub sameId, find?_update hub sameId hd]

theorem packets_raised (host : Host) (s : Datagram.Socket) (dest : PortId) (bytes : List UInt8) :
    s.raised.packets host dest bytes = s.packets host dest bytes := by
  unfold Datagram.Socket.raised Datagram.Socket.start
  split
  · rfl
  · split
    · rfl
    · split <;> rfl

theorem hear_revive {k : Receiver} {bytes : List UInt8} {result : Except BusError Unit}
    (h : hear k bytes n = some (result, m)) :
    hear k bytes (n.revive g gw) = some (result, m.revive g gw) := by
  cases k with
  | listener l =>
    have listeners : (n.revive g gw).listeners = n.listeners := by rw [revive_eq]
    simp only [hear, listeners] at h ⊢
    cases hl : n.listeners[l]? with
    | none =>
      simp only [hl] at h ⊢
      cases h
      rfl
    | some listener =>
      simp only [hl] at h ⊢
      cases h
      rw [revive_write]
  | gateway k =>
    simp only [hear, gateway_revive] at h ⊢
    cases hk : n.gateways[k]? with
    | none =>
      simp only [hk] at h ⊢
      cases h
      rfl
    | some gv =>
      have ingress : (if g = k then { gv with running := true } else gv).ingress = gv.ingress := by
        split <;> rfl
      simp only [hk, Option.map_some, ingress] at h ⊢
      split at h
      · next empty =>
        cases h
        rw [if_pos empty]
      · next full =>
        rw [if_neg full]
        cases hq : gv.ingress.offer (.ofBytes bytes) with
        | accepted q =>
          simp only [hq] at h ⊢
          cases h
          rw [revive_modifyGateway n g gw k fun _ => rfl]
        | closed =>
          simp only [hq] at h ⊢
          cases h
          rfl
        | full => simp only [hq] at h; cases h

theorem deliver_revive {dest : PortId} {bytes : List UInt8} {ks : List Receiver}
    {result : Except BusError Unit} (h : Hub.deliver hear dest bytes ks n = some (result, m)) :
    Hub.deliver hear dest bytes ks (n.revive g gw) = some (result, m.revive g gw) := by
  induction ks generalizing n with
  | nil => cases h; rfl
  | cons k ks ih =>
    simp only [Hub.deliver, Option.bind_eq_bind, Option.bind_eq_some_iff] at h ⊢
    obtain ⟨⟨r, n'⟩, hk, h⟩ := h
    refine ⟨_, hear_revive hk, ?_⟩
    cases r with
    | ok u => exact ih h
    | error e =>
      simp only at h ⊢
      split at h
      · next hb => rw [if_pos hb]; exact ih h
      · next hb => cases h; rw [if_neg hb]; rfl

theorem transfer_revive (bound : gw.Bound) {hop : PortId} (hh : hop ≠ gw.id) {bytes : List UInt8}
    {result : Except BusError Unit} (h : n.transfer gw.link hop bytes = some (result, m)) :
    (n.revive g gw).transfer gw.link hop bytes = some (result, m.revive g gw) := by
  cases hl : gw.link with
  | member hub endpoint faults =>
    have hid := bound.link hub endpoint faults hl
    have route : ((n.revive g gw).hub hub).route endpoint hop = (n.hub hub).route endpoint hop := by
      rw [revive_eq, Network.hub]
      simp only [hl, startHubs]
      cases hs : (n.hubs.getD hub .empty).start endpoint with
      | error e => rfl
      | ok started =>
        by_cases hi : hub < n.hubs.length
        · simpa [Network.hub, hi] using route_start hid hs hh
        · simp [Network.hub, List.set_eq_of_length_le (Nat.le_of_not_lt hi)]
    rw [hl] at h
    simp only [transfer, route] at h ⊢
    cases hr : (n.hub hub).route endpoint hop with
    | error e =>
      simp only [hr] at h ⊢
      cases h
      rfl
    | ok hooks =>
      simp only [hr] at h ⊢
      exact deliver_revive h
  | datagram s =>
    rw [hl] at h
    have host : (n.revive g gw).host = n.host := by rw [revive_eq]
    simp only [transfer, host] at h ⊢
    have socket : (n.revive g gw).sockets[s]? = (n.sockets[s]?).map Datagram.Socket.raised := by
      rw [revive_eq]
      simp only [hl, startSockets]
      cases hs : n.sockets[s]? with
      | none => simp [hs]
      | some socket =>
        cases ht : socket.start <;> simp [hs, ht, Datagram.Socket.raised, Except.toOption]
    rw [socket]
    cases hs : n.sockets[s]? with
    | none =>
      simp only [hs] at h ⊢
      cases h
      rfl
    | some socket =>
      simp only [hs, Option.map_some, packets_raised] at h ⊢
      cases hp : socket.packets n.host hop bytes with
      | error e =>
        simp only [hp] at h ⊢
        cases h
        rfl
      | ok packets =>
        simp only [hp] at h ⊢
        cases h
        rw [revive_carry]

theorem transmit_revive (hg : n.gateways[g]? = some gw) (bound : gw.Bound) {hop : PortId}
    (hh : hop ≠ gw.id) {f : Frame} {relayed : Bool} (h : n.transmit g hop f relayed = some m) :
    (n.revive g gw).transmit g hop f relayed = some (m.revive g gw) := by
  simp only [transmit, hg, Option.bind_eq_bind, Option.bind_some, Option.bind_eq_some_iff] at h
  obtain ⟨⟨result, k⟩, ht, h⟩ := h
  simp only [transmit, gateway_revive, hg, Option.map_some, if_true, Option.bind_eq_bind,
    Option.bind_some, transfer_revive bound hh ht]
  cases result with
  | error e =>
    cases h
    rw [revive_record, revive_write]
    rfl
  | ok u =>
    cases h
    cases relayed with
    | true =>
      simp only [if_true]
      rw [revive_record, revive_record, revive_write]
      rfl
    | false =>
      simp only [Bool.false_eq_true, if_false]
      rw [revive_record, revive_write]
      rfl

end Network

/-! ## Ports -/

namespace Registry

variable {κ : Type} {r s : Registry κ} {p : Handle} {st : PortState}

theorem port?_setState (r : Registry κ) (p h : Handle) (st : PortState) :
    (r.setState p st).port? h =
      (r.port? h).map fun q => if p = h then { q with state := st } else q := by
  rw [setState, port?_modify]
  split <;> simp

theorem frames_setState (r : Registry κ) (p h : Handle) (st : PortState) :
    (r.setState p st).frames h = r.frames h := by
  rw [frames, frames, port?_setState]
  cases r.port? h with
  | none => rfl
  | some q =>
    simp only [Option.map_some, Option.getD_some]
    split <;> rfl

/-- Nothing is refused at a queue for the state of a port. -/
theorem enqueue_setState (r : Registry κ) (p h : Handle) (st : PortState) (f : Frame) :
    (r.setState p st).enqueue h f =
      match r.enqueue h f with
      | .accepted s => .accepted (s.setState p st)
      | .closed => .closed
      | .full => .full := by
  unfold enqueue
  rw [port?_setState]
  cases hq : r.port? h with
  | none => rfl
  | some q =>
    have queue : (if p = h then { q with state := st } else q).queue = q.queue := by
      split <;> rfl
    simp only [Option.map_some, queue]
    cases q.queue.offer f with
    | accepted queue =>
      have ports := Network.modify_comm r.ports p h (F := fun q => { q with state := st })
        (G := fun q => { q with queue := queue }) fun _ => rfl
      exact congrArg (fun ports => Offer.accepted { r with ports := ports }) ports
    | closed => rfl
    | full => rfl

theorem enqueueCopy_setState {h : Handle} {f : Frame} {result : Except BusError Unit}
    (e : r.enqueueCopy h f = some (result, s)) (p : Handle) (st : PortState) :
    (r.setState p st).enqueueCopy h f = some (result, s.setState p st) := by
  simp only [enqueueCopy, enqueue_setState] at e ⊢
  cases hr : r.enqueue h f.duplicate with
  | accepted r' =>
    simp only [hr] at e ⊢
    cases e
    rfl
  | closed =>
    simp only [hr] at e ⊢
    cases e
    rfl
  | full => simp only [hr] at e; cases e

theorem setState_of_connected (h : r.isConnected p = true) : r.setState p .conn = r := by
  have ports : (r.ports.modify p fun q => { q with state := .conn }) = r.ports := by
    apply List.ext_getElem?
    intro i
    rw [List.getElem?_modify]
    split
    · next hi =>
      subst hi
      simp only [isConnected, port?] at h
      cases hq : r.ports[p]? with
      | none => rfl
      | some q =>
        have state : q.state = .conn := by simpa [hq, Port.isConnected] using h
        simp [← state]
    · simp
  exact congrArg (fun ports => { r with ports := ports }) ports

end Registry

/-! ## Errands -/

/-- An errand as a gateway gets it: its hop is another gateway, and a broadcast makes ports copy. -/
def Errand.Fits (id : PortId) : Errand → Prop
  | .transmit hop _ _ => hop ≠ id
  | .deliver _ _ => True
  | .spread left _ _ => ∀ k ∈ left, k.2 = .copy

namespace Network

variable {n m : Network} {g : Nat} {gw : Gateway}

theorem advance_revive (hg : n.gateways[g]? = some gw) (bound : gw.Bound) {e : Errand}
    (fits : e.Fits gw.id) {next : Option Errand} (h : n.advance g gw e = some (next, m)) :
    (n.revive g gw).advance g gw e = some (next, m.revive g gw) := by
  have node : (n.revive g gw).node gw.node = (n.node gw.node).setState gw.port .conn := by
    rw [node_revive, if_pos rfl]
  cases e with
  | transmit hop f relayed =>
    obtain ⟨k, hk, e⟩ := Option.map_eq_some_iff.1 h
    cases e
    simp only [advance, transmit_revive hg bound fits hk, Option.map_some]
  | deliver target inner =>
    simp only [advance, node, Registry.enqueue_setState] at h ⊢
    cases hr : (n.node gw.node).enqueue target inner with
    | accepted r =>
      simp only [hr] at h ⊢
      cases h
      rw [revive_record, revive_setNode]
    | closed =>
      simp only [hr] at h ⊢
      cases h
      rw [revive_record]
    | full => simp only [hr] at h; cases h
  | spread left inner accepted =>
    cases left with
    | nil =>
      cases h
      simp only [advance, revive_record]
    | cons k left =>
      obtain ⟨⟨result, r⟩, hr, e⟩ := Option.map_eq_some_iff.1 h
      cases e
      have copy : k.2 = .copy := fits k List.mem_cons_self
      rw [copy] at hr
      have hr' : Reaction.run .copy k.1 inner ((n.node gw.node).setState gw.port .conn) =
          some (result, r.setState gw.port .conn) :=
        Registry.enqueueCopy_setState hr gw.port .conn
      simp only [advance, node, copy, hr', Option.map_some, revive_setNode]

theorem direct_revive (connected : (n.node gw.node).isConnected gw.port = true) (route : Addresses)
    (inner : Frame) : (n.revive g gw).direct g gw route inner =
      ((n.direct g gw route inner).1, (n.direct g gw route inner).2.revive g gw) := by
  have node : (n.revive g gw).node gw.node = n.node gw.node := by
    rw [node_revive, if_pos rfl, Registry.setState_of_connected connected]
  simp only [direct, node, connected, if_true]
  split
  · rfl
  · cases (n.node gw.node).resolve gw.port route.dest with
    | ok target => rfl
    | error e =>
      simp only
      cases Gateway.relay gw.id (n.node gw.node) route ⟨e, inner⟩ <;> simp [revive_record]

/-- The judgement on a frame is that of the running gateway, for a frame from the ingress queue as
long as the port is connected. -/
theorem judge_revive (side : Side)
    (connected : side = .down → (n.node gw.node).isConnected gw.port = true) (f : Frame) :
    (n.revive g gw).judge g gw side f =
      ((n.judge g gw side f).1, (n.judge g gw side f).2.revive g gw) := by
  cases side with
  | up =>
    simp only [judge]
    cases Gateway.departure gw.id f <;> simp [revive_record]
  | down =>
    simp only [judge]
    cases Gateway.arrival f with
    | integrityFailure => simp [revive_record]
    | malformed => simp [revive_record]
    | opened route inner =>
      simp only
      have counted : ((n.record g (.downlink f.length)).node gw.node).isConnected gw.port = true :=
        connected rfl
      rw [← revive_record, direct_revive counted]

/-- With the port disconnected every frame that can be opened is undeliverable. -/
theorem judge_of_disconnected (closed : (n.node gw.node).isConnected gw.port = false) {f : Frame}
    {route : Addresses} {inner : Frame} (opened : Gateway.arrival f = .opened route inner) :
    n.judge g gw .down f = (none, (n.record g (.downlink f.length)).record g .undeliverable) := by
  have node : (n.record g (.downlink f.length)).node gw.node = n.node gw.node := rfl
  simp only [judge, opened, direct, node, closed]
  split
  · rfl
  · by_cases reserved : route.dest.isReserved
    · simp [Registry.resolve, reserved, Gateway.relay]
    · simp [Registry.resolve, reserved, closed, Gateway.relay]

/-- A frame from the ingress queue that is not undeliverable then is one that cannot be opened, and
is dropped for that. -/
theorem judge_disconnected (closed : (n.node gw.node).isConnected gw.port = false) (f : Frame) :
    (n.revive g gw).judge g gw .down f =
        ((n.judge g gw .down f).1, (n.judge g gw .down f).2.revive g gw) ∨
      n.judge g gw .down f = (none, (n.record g (.downlink f.length)).record g .undeliverable) := by
  cases arrived : Gateway.arrival f with
  | integrityFailure => exact .inl (by simp [judge, arrived, revive_record])
  | malformed => exact .inl (by simp [judge, arrived, revive_record])
  | opened route inner => exact .inr (judge_of_disconnected closed arrived)

end Network

end FrameBus
