import FrameBus.Proofs.Frame.Wire
import FrameBus.Proofs.Network.Marks
import FrameBus.Proofs.Registry.Ready

/-!
# Nodes on one hub

A mesh is any number of nodes on one hub: each has one started gateway, and any number of sessions,
at ports that take every frame (`Mesh`). What is queued anywhere, what the workers have in their
hands and what was counted is open. Nothing that happens changes a mesh (`mesh_of_blank`), and on a
mesh it is certain what becomes of a frame: what a gateway transmits comes to the gateways that it
is for.
-/

namespace FrameBus

/-- A started gateway of a node, as a member of a hub. -/
structure Gateway.Serves (hub : Nat) (r : Registry Reaction) (gw : Gateway) : Prop where
  id_ok : gw.id.isReserved = false
  running : gw.running = true
  link : ∃ endpoint faults, gw.link = .member hub endpoint faults ∧ endpoint.id = some gw.id
  isOpen : gw.ingress.isClosed = false
  unbounded : gw.ingress.capacity = none
  port : gw.port ∈ r.registered
  id : r.idOf gw.port = gw.id

/-- A started session of a node. -/
structure Session.Serves (r : Registry Reaction) (ss : Session) : Prop where
  id_ok : ss.id.isReserved = false
  running : ss.running = true
  port : ss.port ∈ r.registered
  id : r.idOf ss.port = ss.id

namespace Network

structure Mesh (hub : Nat) (n : Network) : Prop where
  node : ∀ i, (n.node i).Ready
  gateway : ∀ (g : Nat) (gw : Gateway), n.gateways[g]? = some gw → gw.Serves hub (n.node gw.node)
  session : ∀ (s : Nat) (ss : Session), n.sessions[s]? = some ss → ss.Serves (n.node ss.node)
  /-- a node has one gateway -/
  served : ∀ i < n.nodes.length, ∃ (g : Nat) (gw : Gateway), n.gateways[g]? = some gw ∧ gw.node = i
  alone : ∀ (g g' : Nat) (gw gw' : Gateway), n.gateways[g]? = some gw →
    n.gateways[g']? = some gw' → gw.node = gw'.node → g = g'
  /-- the ports of a node are its gateway's and its sessions' -/
  owned : ∀ i, ∀ h ∈ (n.node i).registered,
    (∃ (g : Nat) (gw : Gateway), n.gateways[g]? = some gw ∧ gw.node = i ∧ gw.port = h) ∨
      ∃ (s : Nat) (ss : Session), n.sessions[s]? = some ss ∧ ss.node = i ∧ ss.port = h
  /-- each has a port of its own -/
  apart : ∀ (s : Nat) (ss : Session), n.sessions[s]? = some ss →
    (∀ (g : Nat) (gw : Gateway), n.gateways[g]? = some gw → gw.node = ss.node →
      gw.port ≠ ss.port) ∧
    ∀ (s' : Nat) (ss' : Session), n.sessions[s']? = some ss' → ss'.node = ss.node →
      ss'.port = ss.port → s' = s
  /-- the members of the hub are the gateways, under distinct ids -/
  members : ∀ x, x ∈ (n.hub hub).members ↔
    ∃ (g : Nat) (gw : Gateway), n.gateways[g]? = some gw ∧ x = ⟨gw.id, some (.gateway g), true⟩
  ids : (n.hub hub).ids.Nodup

variable {hub : Nat} {n m : Network}

/-! ## What is kept -/

theorem serves_gateway_of_blank {r s : Registry Reaction} (hr : s.blank = r.blank) {gw gv : Gateway}
    (hb : gv.blank = gw.blank) (h : gw.Serves hub r) : gv.Serves hub s := by
  obtain ⟨-, id, port⟩ := Gateway.parts_of_blank hb
  have link : gv.blank.link = gw.blank.link := congrArg _ hb
  have running : gv.blank.running = gw.blank.running := congrArg _ hb
  have ingress : gv.ingress.blank = gw.ingress.blank := congrArg Gateway.ingress hb
  change gv.link = gw.link at link
  refine ⟨id ▸ h.id_ok, running.trans h.running, ?_, ?_, ?_, ?_, ?_⟩
  · rw [link, id]
    exact h.link
  · rw [← Queue.isClosed_blank, ingress, Queue.isClosed_blank, h.isOpen]
  · rw [← Queue.capacity_blank, ingress, Queue.capacity_blank, h.unbounded]
  · rw [port, Registry.registered_of_blank hr]
    exact h.port
  · rw [port, Registry.idOf_of_blank hr, id, h.id]

theorem serves_session_of_blank {r s : Registry Reaction} (hr : s.blank = r.blank) {ss st : Session}
    (hb : st.blank = ss.blank) (h : ss.Serves r) : st.Serves s := by
  obtain ⟨-, id, port⟩ := Session.parts_of_blank hb
  have running : st.blank.running = ss.blank.running := congrArg _ hb
  refine ⟨id ▸ h.id_ok, running.trans h.running, ?_, ?_⟩
  · rw [port, Registry.registered_of_blank hr]
    exact h.port
  · rw [port, Registry.idOf_of_blank hr, id, h.id]

theorem mesh_of_blank (hb : m.blank = n.blank) (hm : Mesh hub n) : Mesh hub m := by
  have forth {g : Nat} {gw : Gateway} (hg : n.gateways[g]? = some gw) :
      ∃ gv, m.gateways[g]? = some gv ∧ gv.blank = gw.blank := gateway_of_blank hb.symm hg
  have back {g : Nat} {gw : Gateway} (hg : m.gateways[g]? = some gw) :
      ∃ gv, n.gateways[g]? = some gv ∧ gv.blank = gw.blank := gateway_of_blank hb hg
  have node (i : Nat) := node_of_blank hb i
  have same {gv gw : Gateway} (h : gv.blank = gw.blank) := Gateway.parts_of_blank h
  have sameSession {st ss : Session} (h : st.blank = ss.blank) := Session.parts_of_blank h
  constructor
  case node => exact fun i => Registry.ready_of_blank (node i) (hm.node i)
  case gateway =>
    intro g gw hg
    obtain ⟨gv, hv, e⟩ := back hg
    have h := hm.gateway g gv hv
    rw [(same e).1] at h
    exact serves_gateway_of_blank (node _) e.symm h
  case session =>
    intro s ss hs
    obtain ⟨st, ht, e⟩ := session_of_blank hb hs
    have h := hm.session s st ht
    rw [(sameSession e).1] at h
    exact serves_session_of_blank (node _) e.symm h
  case served =>
    intro i hi
    rw [length_nodes_of_blank hb] at hi
    obtain ⟨g, gw, hg, h⟩ := hm.served i hi
    obtain ⟨gv, hv, e⟩ := forth hg
    exact ⟨g, gv, hv, (same e).1.trans h⟩
  case alone =>
    intro g g' gw gw' hg hg' h
    obtain ⟨gv, hv, e⟩ := back hg
    obtain ⟨gv', hv', e'⟩ := back hg'
    exact hm.alone g g' gv gv' hv hv' (by rw [(same e).1, (same e').1, h])
  case owned =>
    intro i h hh
    rw [Registry.registered_of_blank (node i)] at hh
    rcases hm.owned i h hh with ⟨g, gw, hg, hi, hp⟩ | ⟨s, ss, hs, hi, hp⟩
    · obtain ⟨gv, hv, e⟩ := forth hg
      exact .inl ⟨g, gv, hv, (same e).1.trans hi, (same e).2.2.trans hp⟩
    · obtain ⟨st, ht, e⟩ := session_of_blank hb.symm hs
      exact .inr ⟨s, st, ht, (sameSession e).1.trans hi, (sameSession e).2.2.trans hp⟩
  case apart =>
    intro s ss hs
    obtain ⟨st, ht, e⟩ := session_of_blank hb hs
    obtain ⟨hgs, hss⟩ := hm.apart s st ht
    refine ⟨fun g gw hg hn => ?_, fun s' ss' hs' hn hp => ?_⟩
    · obtain ⟨gv, hv, e'⟩ := back hg
      have := hgs g gv hv (by rw [(same e').1, hn, (sameSession e).1])
      rwa [(same e').2.2, (sameSession e).2.2] at this
    · obtain ⟨st', ht', e'⟩ := session_of_blank hb hs'
      exact hss s' st' ht' (by rw [(sameSession e').1, hn, (sameSession e).1])
        (by rw [(sameSession e').2.2, hp, (sameSession e).2.2])
  case members =>
    intro x
    rw [hub_of_blank hb, hm.members x]
    constructor
    · rintro ⟨g, gw, hg, rfl⟩
      obtain ⟨gv, hv, e⟩ := forth hg
      exact ⟨g, gv, hv, by rw [(same e).2.1]⟩
    · rintro ⟨g, gw, hg, rfl⟩
      obtain ⟨gv, hv, e⟩ := back hg
      exact ⟨g, gv, hv, by rw [(same e).2.1]⟩
  case ids =>
    rw [hub_of_blank hb]
    exact hm.ids

namespace Mesh

theorem copies (hm : Mesh hub n) : Copies n := by
  intro i h hh p hp k hk
  obtain ⟨q, hq, _, hcopy, _⟩ := (hm.node i).port h hh
  obtain rfl := Option.some.inj (hp.symm.trans hq)
  exact Option.some.inj (hk.symm.trans hcopy)

end Mesh

/-! ## Who looks at a queue -/

/-- A port that a worker looks at is its gateway's, or its session's. -/
theorem source_eq_port {mv : Move} {i : Nat} {h : Handle} (e : n.source mv = .port i h) :
    (∃ g gw, mv = .uplink g ∧ n.gateways[g]? = some gw ∧ gw.node = i ∧ gw.port = h) ∨
      ∃ s ss, mv = .session s ∧ n.sessions[s]? = some ss ∧ ss.node = i ∧ ss.port = h := by
  cases mv with
  | uplink g =>
    cases hg : n.gateways[g]? with
    | none => simp [source, hg] at e
    | some gw =>
      simp only [source, hg, Option.map_some, Option.getD_some, Place.port.injEq] at e
      exact .inl ⟨g, gw, rfl, hg, e⟩
  | downlink g => cases e
  | session s =>
    cases hs : n.sessions[s]? with
    | none => simp [source, hs] at e
    | some ss =>
      simp only [source, hs, Option.map_some, Option.getD_some, Place.port.injEq] at e
      exact .inr ⟨s, ss, rfl, hs, e⟩
  | socket s => cases e

theorem source_eq_ingress {mv : Move} {g : Nat} (e : n.source mv = .ingress g) :
    mv = .downlink g := by
  cases mv with
  | uplink k => cases hk : n.gateways[k]? <;> simp [source, hk] at e
  | downlink k => rw [Place.ingress.inj e]
  | session s => cases hs : n.sessions[s]? <;> simp [source, hs] at e
  | socket s => cases e

theorem source_uplink (n : Network) (g : Nat) :
    n.source (.uplink g) = .hand (.uplink g) ∨
      ∃ gw, n.gateways[g]? = some gw ∧ n.source (.uplink g) = .port gw.node gw.port := by
  cases hg : n.gateways[g]? with
  | none => exact .inl (by simp [source, hg])
  | some gw => exact .inr ⟨gw, rfl, by simp [source, hg]⟩

namespace Mesh

/-- No two workers look at the same queue. -/
theorem source_inj (hm : Mesh hub n) (mv mv' : Move) (h : n.source mv = n.source mv') :
    mv = mv' := by
  cases e : n.source mv with
  | hand k =>
    rw [Marked.eq_of_source_eq_hand e, Marked.eq_of_source_eq_hand (h.symm.trans e)]
  | ingress g => rw [source_eq_ingress e, source_eq_ingress (h.symm.trans e)]
  | port i k =>
    rcases source_eq_port e with ⟨g, gw, rfl, hg, hn, hp⟩ | ⟨s, ss, rfl, hs, hn, hp⟩
    · rcases source_eq_port (h.symm.trans e) with ⟨g', gw', rfl, hg', hn', hp'⟩ |
        ⟨s', ss', rfl, hs', hn', hp'⟩
      · rw [hm.alone g g' gw gw' hg hg' (hn.trans hn'.symm)]
      · exact absurd (hp.trans hp'.symm) ((hm.apart s' ss' hs').1 g gw hg (hn.trans hn'.symm))
    · rcases source_eq_port (h.symm.trans e) with ⟨g', gw', rfl, hg', hn', hp'⟩ |
        ⟨s', ss', rfl, hs', hn', hp'⟩
      · exact absurd (hp'.trans hp.symm) ((hm.apart s ss hs).1 g' gw' hg' (hn'.trans hn.symm))
      · rw [(hm.apart s' ss' hs').2 s ss hs (hn.trans hn'.symm) (hp.trans hp'.symm)]

/-- A worker of a gateway does not look at a session's port. -/
theorem source_ne_port (hm : Mesh hub n) {s : Nat} {ss : Session} (hs : n.sessions[s]? = some ss)
    {mv : Move} (hmv : mv.passesOn = true) : n.source mv ≠ .port ss.node ss.port := by
  intro e
  rcases source_eq_port e with ⟨g, gw, rfl, hg, hn, hp⟩ | ⟨k, c, rfl, -⟩
  · exact (hm.apart s ss hs).1 g gw hg hn hp
  · cases hmv

/-- Gateways are known by their ids. -/
theorem gateway_of_id (hm : Mesh hub n) {g g' : Nat} {gw gw' : Gateway}
    (hg : n.gateways[g]? = some gw) (hg' : n.gateways[g']? = some gw') (h : gw.id = gw'.id) :
    g = g' := by
  have mem := (hm.members _).2 ⟨g, gw, hg, rfl⟩
  have mem' := (hm.members _).2 ⟨g', gw', hg', rfl⟩
  have same := List.inj_on_of_nodup_map hm.ids mem mem' h
  have hooks := congrArg Hub.Member.hook same
  simpa using hooks

/-! ## The hub -/

/-- The one gateway that has an id hears a frame for it. -/
theorem route_unicast (hm : Mesh hub n) {g : Nat} {gw : Gateway} (hg : n.gateways[g]? = some gw)
    {endpoint : Hub.Endpoint Receiver} {id : PortId} (he : endpoint.id = some id) :
    (n.hub hub).route endpoint gw.id = .ok [.gateway g] := by
  have mem := (hm.members _).2 ⟨g, gw, hg, rfl⟩
  have found : (n.hub hub).find? gw.id = some ⟨gw.id, some (.gateway g), true⟩ := by
    cases e : (n.hub hub).find? gw.id with
    | none => simpa using List.find?_eq_none.1 e _ mem
    | some x =>
      have hx : x ∈ (n.hub hub).members := List.mem_of_find?_eq_some e
      have id : x.id = gw.id := by simpa using List.find?_some e
      rw [List.inj_on_of_nodup_map hm.ids hx mem id]
  have single := PortId.isBroadcast_eq_false (hm.gateway g gw hg).id_ok
  simp [Hub.route, he, Hub.recipients, single, found, Hub.Member.live?]

/-- The gateways of members, in the members' order. -/
theorem gateways_of_members {l : List (Hub.Member Receiver)}
    (hl : ∀ x ∈ l, ∃ (g : Nat) (gw : Gateway), n.gateways[g]? = some gw ∧
      x = ⟨gw.id, some (.gateway g), true⟩) (hn : (l.map Hub.Member.id).Nodup) :
    ∃ ks : List Nat, l.filterMap Hub.Member.live? = ks.map .gateway ∧ ks.Nodup ∧
      ∀ k, k ∈ ks ↔ ∃ gw, n.gateways[k]? = some gw ∧ ⟨gw.id, some (.gateway k), true⟩ ∈ l := by
  induction l with
  | nil => exact ⟨[], rfl, .nil, by simp⟩
  | cons x l ih =>
    obtain ⟨g, gw, hg, rfl⟩ := hl x List.mem_cons_self
    obtain ⟨hx, hn⟩ := List.nodup_cons.1 hn
    obtain ⟨ks, hk, nodup, mem⟩ := ih (fun x hx => hl x (List.mem_cons_of_mem _ hx)) hn
    refine ⟨g :: ks, by simp [Hub.Member.live?, hk], List.nodup_cons.2 ⟨fun h => ?_, nodup⟩,
      fun k => ?_⟩
    · obtain ⟨gw', hg', h⟩ := (mem g).1 h
      obtain rfl := Option.some.inj (hg.symm.trans hg')
      exact hx (List.mem_map.2 ⟨_, h, rfl⟩)
    · rw [List.mem_cons, mem]
      constructor
      · rintro (rfl | ⟨gw', hg', h⟩)
        · exact ⟨gw, hg, List.mem_cons_self⟩
        · exact ⟨gw', hg', List.mem_cons_of_mem _ h⟩
      · rintro ⟨gw', hg', h⟩
        rcases List.mem_cons.1 h with h | h
        · have hooks := congrArg Hub.Member.hook h
          exact .inl (by simpa using hooks)
        · exact .inr ⟨gw', hg', h⟩

/-- Every gateway but the sender hears a broadcast, each once. -/
theorem route_broadcast (hm : Mesh hub n) {g : Nat} {gw : Gateway} (hg : n.gateways[g]? = some gw)
    {endpoint : Hub.Endpoint Receiver} (he : endpoint.id = some gw.id) :
    ∃ ks : List Nat, (n.hub hub).route endpoint .broadcast = .ok (ks.map .gateway) ∧ ks.Nodup ∧
      ∀ k, k ∈ ks ↔ k ≠ g ∧ (n.gateways[k]?).isSome := by
  obtain ⟨ks, hk, nodup, mem⟩ := gateways_of_members
    (l := (n.hub hub).members.filter fun x => x.id != gw.id) (n := n)
    (fun x hx => (hm.members x).1 (List.mem_of_mem_filter hx))
    (hm.ids.sublist (List.filter_sublist.map _))
  refine ⟨ks, ?_, nodup, fun k => ?_⟩
  · have all : PortId.broadcast.isBroadcast = true := rfl
    simp only [Hub.route, he, Hub.recipients, all, if_true, hk]
  · rw [mem]
    constructor
    · rintro ⟨gw', hg', h⟩
      refine ⟨fun hk => ?_, by simp [hg']⟩
      subst hk
      obtain rfl := Option.some.inj (hg.symm.trans hg')
      simpa using List.of_mem_filter h
    · rintro ⟨hk, hs⟩
      obtain ⟨gw', hg'⟩ := Option.isSome_iff_exists.1 hs
      refine ⟨gw', hg', List.mem_filter.2 ⟨(hm.members _).2 ⟨k, gw', hg', rfl⟩, ?_⟩⟩
      have : gw'.id ≠ gw.id := fun h => hk (hm.gateway_of_id hg' hg h)
      simpa using this

end Mesh

/-! ## Such a network -/

/-- A started gateway on its node's first port. -/
def gatewayOf (node : Nat) (id : PortId) : Gateway where
  node
  id
  port := 0
  link := .member 0 { id := some id, hook := some (.gateway node) } {}
  ingress := .new {}
  running := true
  uplink := .polling
  downlink := .polling

/-- The two domains with a session in each, and the backbone between them. -/
def twoDomains : Network where
  host := ⟨.ok, fun _ _ => .ok (), {}⟩
  nodes := [.station .controllerRoute [.ofParts 0 1 2], .station .chipRoute [],
    .station .appRoute [], .station (.ofParts 1 5 1) [.ofParts 1 5 7]]
  hubs := [⟨[⟨.controllerRoute, some (.gateway 0), true⟩, ⟨.chipRoute, some (.gateway 1), true⟩,
    ⟨.appRoute, some (.gateway 2), true⟩, ⟨.ofParts 1 5 1, some (.gateway 3), true⟩]⟩]
  gateways := [gatewayOf 0 .controllerRoute, gatewayOf 1 .chipRoute, gatewayOf 2 .appRoute,
    gatewayOf 3 (.ofParts 1 5 1)]
  sessions := [{ node := 0, id := .ofParts 0 1 2, port := 1, running := true, worker := .polling },
    { node := 3, id := .ofParts 1 5 7, port := 1, running := true, worker := .polling }]

theorem gateway_twoDomains {g : Nat} {gw : Gateway} (hg : twoDomains.gateways[g]? = some gw) :
    gw.node = g ∧ gw.port = 0 := by
  match g with
  | 0 | 1 | 2 | 3 => cases hg; exact ⟨rfl, rfl⟩
  | g + 4 => cases hg

theorem session_twoDomains {s : Nat} {ss : Session} (hs : twoDomains.sessions[s]? = some ss) :
    ss.port = 1 ∧ ss.node = 3 * s := by
  match s with
  | 0 | 1 => cases hs; exact ⟨rfl, rfl⟩
  | s + 2 => cases hs

theorem mesh_twoDomains : Mesh 0 twoDomains := by
  constructor
  case node =>
    intro i
    match i with
    | 0 => exact Registry.ready_station (by decide)
    | 1 => exact Registry.ready_station (by decide)
    | 2 => exact Registry.ready_station (by decide)
    | 3 => exact Registry.ready_station (by decide)
    | i + 4 => exact ⟨.nil, fun h hh => by cases hh⟩
  case gateway =>
    intro g gw hg
    match g with
    | 0 | 1 | 2 | 3 =>
      cases hg
      exact ⟨by decide, rfl, ⟨_, _, rfl, rfl⟩, rfl, rfl, by decide, by decide⟩
    | g + 4 => cases hg
  case session =>
    intro s ss hs
    match s with
    | 0 | 1 =>
      cases hs
      exact ⟨by decide, rfl, by decide, by decide⟩
    | s + 2 => cases hs
  case served =>
    intro i hi
    match i with
    | 0 => exact ⟨0, _, rfl, rfl⟩
    | 1 => exact ⟨1, _, rfl, rfl⟩
    | 2 => exact ⟨2, _, rfl, rfl⟩
    | 3 => exact ⟨3, _, rfl, rfl⟩
    | i + 4 => exact absurd hi (Nat.not_lt.2 (Nat.le_add_left 4 i))
  case alone =>
    intro g g' gw gw' hg hg' h
    rw [← (gateway_twoDomains hg).1, h, (gateway_twoDomains hg').1]
  case owned =>
    intro i h hh
    match i with
    | 0 =>
      have hh : h ∈ [0, 1] := hh
      simp only [List.mem_cons, List.not_mem_nil, or_false] at hh
      rcases hh with rfl | rfl
      · exact .inl ⟨0, _, rfl, rfl, rfl⟩
      · exact .inr ⟨0, _, rfl, rfl, rfl⟩
    | 1 =>
      obtain rfl : h = 0 := List.mem_singleton.1 hh
      exact .inl ⟨1, _, rfl, rfl, rfl⟩
    | 2 =>
      obtain rfl : h = 0 := List.mem_singleton.1 hh
      exact .inl ⟨2, _, rfl, rfl, rfl⟩
    | 3 =>
      have hh : h ∈ [0, 1] := hh
      simp only [List.mem_cons, List.not_mem_nil, or_false] at hh
      rcases hh with rfl | rfl
      · exact .inl ⟨3, _, rfl, rfl, rfl⟩
      · exact .inr ⟨1, _, rfl, rfl, rfl⟩
    | i + 4 => cases hh
  case apart =>
    intro s ss hs
    obtain ⟨port, node⟩ := session_twoDomains hs
    refine ⟨fun g gw hg _ => ?_, fun s' ss' hs' hn _ => ?_⟩
    · rw [(gateway_twoDomains hg).2, port]
      decide
    · have := (session_twoDomains hs').2
      omega
  case members =>
    intro x
    constructor
    · intro hx
      have hx : x ∈ [_, _, _, _] := hx
      simp only [List.mem_cons, List.not_mem_nil, or_false] at hx
      rcases hx with rfl | rfl | rfl | rfl
      · exact ⟨0, _, rfl, rfl⟩
      · exact ⟨1, _, rfl, rfl⟩
      · exact ⟨2, _, rfl, rfl⟩
      · exact ⟨3, _, rfl, rfl⟩
    · rintro ⟨g, gw, hg, rfl⟩
      show _ ∈ [_, _, _, _]
      match g with
      | 0 | 1 | 2 | 3 => cases hg; simp [gatewayOf]
      | g + 4 => cases hg
  case ids => decide

end Network

end FrameBus
