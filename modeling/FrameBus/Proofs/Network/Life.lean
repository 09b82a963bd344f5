import FrameBus.Network.Lifecycle
import FrameBus.Proofs.Network.Marks
import FrameBus.Proofs.Registry.Later

/-!
# Networks that go on

Gateways join hubs under their own ids, with ports of their own (`Wired`). Whatever is done on such
a network, short of taking frames, keeps it one, and leaves every gateway in its place and what is
queued anywhere in front of what comes later (`Later`). This holds of what the workers do, and of
the whole life of ports, sessions, listeners and gateways on the hubs (`Life`), in any order. A
start and a stop are several parts of it, with the moves of the workers between them.
-/

namespace FrameBus

def Link.OnHub (link : Link) : Prop := ∃ hub endpoint faults, link = .member hub endpoint faults

/-- A place where frames wait. -/
def Place.IsQueue : Place → Prop
  | .hand _ => False
  | _ => True

namespace Network

structure Wired (n : Network) : Prop where
  gateway : ∀ {g : Nat} {gw : Gateway}, n.gateways[g]? = some gw → gw.id.isReserved = false ∧
    (∃ p, (n.node gw.node).port? gw.port = some p ∧ p.id = gw.id) ∧ gw.link.OnHub
  /-- a gateway hears under its own id -/
  member : ∀ {h g : Nat} {x : Hub.Member Receiver}, x ∈ (n.hub h).members →
    x.hook = some (.gateway g) → ∃ gw, n.gateways[g]? = some gw ∧ gw.id = x.id

/-- One network after another: ports and gateways are where they were, under their ids. -/
structure Keeps (n m : Network) : Prop where
  port : ∀ {i : Nat} {h : Handle} {p : Port Reaction}, (n.node i).port? h = some p →
    ∃ q, (m.node i).port? h = some q ∧ q.id = p.id
  gateway : ∀ {g : Nat} {gw : Gateway}, n.gateways[g]? = some gw →
    ∃ gv : Gateway, m.gateways[g]? = some gv ∧ gv.node = gw.node ∧ gv.id = gw.id ∧ gv.port = gw.port
  wired : n.Wired → m.Wired

/-- One network after another, no frame taken. -/
structure Later (n m : Network) : Prop extends Keeps n m where
  frames : ∀ {p : Place}, p.IsQueue → n.frames p <+: m.frames p

variable {n m k : Network}

theorem Later.refl (n : Network) : Later n n where
  port h := ⟨_, h, rfl⟩
  gateway h := ⟨_, h, rfl, rfl, rfl⟩
  wired := id
  frames _ := List.prefix_rfl

theorem Later.trans (h : Later n m) (h' : Later m k) : Later n k where
  port hp := by
    obtain ⟨q, hq, id⟩ := h.port hp
    obtain ⟨q', hq', id'⟩ := h'.port hq
    exact ⟨q', hq', id'.trans id⟩
  gateway hg := by
    obtain ⟨gv, hv, node, id, port⟩ := h.gateway hg
    obtain ⟨gu, hu, node', id', port'⟩ := h'.gateway hv
    exact ⟨gu, hu, node'.trans node, id'.trans id, port'.trans port⟩
  wired := h'.wired ∘ h.wired
  frames hp := (h.frames hp).trans (h'.frames hp)

/-! ## Networks that differ in their frames -/

theorem keeps_of_blank (h : m.blank = n.blank) : Keeps n m where
  port := by
    intro i k p hp
    obtain ⟨q, hq, e⟩ := Registry.port?_of_blank (node_of_blank h i) hp
    have id : q.blank.id = p.blank.id := congrArg Port.id e
    exact ⟨q, hq, id⟩
  gateway := by
    intro g gw hg
    obtain ⟨gv, hv, e⟩ := gateway_of_blank h.symm hg
    obtain ⟨node, id, port⟩ := Gateway.parts_of_blank e
    exact ⟨gv, hv, node, id, port⟩
  wired := by
    intro w
    refine ⟨fun {g gw} hg => ?_, fun {j g x} hx hook => ?_⟩
    · obtain ⟨gv, hv, e⟩ := gateway_of_blank h hg
      obtain ⟨node, id, port⟩ := Gateway.parts_of_blank e
      have link : gv.blank.link = gw.blank.link := congrArg _ e
      change gv.link = gw.link at link
      obtain ⟨id_ok, ⟨p, hp, own⟩, onHub⟩ := w.gateway hv
      obtain ⟨q, hq, e'⟩ := Registry.port?_of_blank (node_of_blank h gv.node) hp
      have same : q.blank.id = p.blank.id := congrArg Port.id e'
      exact ⟨id ▸ id_ok, ⟨q, by rw [← node, ← port, hq], same.trans (own.trans id)⟩, link ▸ onHub⟩
    · rw [hub_of_blank h] at hx
      obtain ⟨gw, hg, id⟩ := w.member hx hook
      obtain ⟨gv, hv, e⟩ := gateway_of_blank h.symm hg
      exact ⟨gv, hv, (Gateway.parts_of_blank e).2.1.trans id⟩

theorem later_of_extends (h : Extends n m) : Later n m := by
  obtain ⟨out, h⟩ := h
  exact ⟨keeps_of_blank h.blank, fun {p} _ => ⟨arrivals out p, (h.frames p).symm⟩⟩

/-! ## Networks that differ in their nodes, their hubs and by new gateways -/

theorem later_of_parts {more : List Gateway} (gateways : m.gateways = n.gateways ++ more)
    (nodes : ∀ i, (n.node i).Later (m.node i))
    (own : ∀ gw ∈ more, gw.id.isReserved = false ∧
      (∃ p, (m.node gw.node).port? gw.port = some p ∧ p.id = gw.id) ∧ gw.link.OnHub)
    (hubs : ∀ {h g : Nat} {x : Hub.Member Receiver}, x ∈ (m.hub h).members →
      x.hook = some (.gateway g) → (∃ y ∈ (n.hub h).members, y.id = x.id ∧ y.hook = x.hook) ∨
        ∃ gw, m.gateways[g]? = some gw ∧ gw.id = x.id) : Later n m := by
  have old {g : Nat} {gw : Gateway} (hg : n.gateways[g]? = some gw) :
      m.gateways[g]? = some gw := by
    rw [gateways, List.getElem?_append_left (List.getElem?_eq_some_iff.1 hg).1, hg]
  refine ⟨⟨?port, ?gateway, ?wired⟩, ?frames⟩
  case port =>
    intro i h p hp
    obtain ⟨q, hq, id, -⟩ := nodes i h p hp
    exact ⟨q, hq, id⟩
  case gateway => exact fun hg => ⟨_, old hg, rfl, rfl, rfl⟩
  case wired =>
    intro w
    refine ⟨fun {g gw} hg => ?_, fun {h g x} hx hook => ?_⟩
    · rw [gateways, List.getElem?_append] at hg
      split at hg
      · obtain ⟨id_ok, ⟨p, hp, id⟩, onHub⟩ := w.gateway hg
        obtain ⟨q, hq, same, -⟩ := nodes _ _ p hp
        exact ⟨id_ok, ⟨q, hq, same.trans id⟩, onHub⟩
      · exact own gw (List.mem_of_getElem? hg)
    · rcases hubs hx hook with ⟨y, hy, id, same⟩ | new
      · obtain ⟨gw, hg, e⟩ := w.member hy (same.trans hook)
        exact ⟨gw, old hg, e.trans id⟩
      · exact new
  case frames =>
    intro p hp
    cases p with
    | port i h => exact (nodes i).frames h
    | ingress g =>
      cases hg : n.gateways[g]? with
      | none => simp [Network.frames, hg]
      | some gw => simp [Network.frames, hg, old hg]
    | hand mv => cases hp

/-- No gateway is new, and none comes to hear on a hub. -/
theorem later_of_same_gateways (gateways : m.gateways = n.gateways)
    (nodes : ∀ i, (n.node i).Later (m.node i))
    (hubs : ∀ {h g : Nat} {x : Hub.Member Receiver}, x ∈ (m.hub h).members →
      x.hook = some (.gateway g) → ∃ y ∈ (n.hub h).members, y.id = x.id ∧ y.hook = x.hook) :
    Later n m :=
  later_of_parts (by simp [gateways]) nodes (List.forall_mem_nil _)
    fun hx hook => .inl (hubs hx hook)

/-- Only what nodes, gateways and hubs do not read has changed. -/
theorem later_of_same_parts (gateways : m.gateways = n.gateways) (nodes : m.nodes = n.nodes)
    (hubs : m.hubs = n.hubs) : Later n m := by
  refine later_of_same_gateways gateways (fun i => ?_) fun {h g x} hx _ => ⟨x, ?_, rfl, rfl⟩
  · have same : m.node i = n.node i := by rw [node, nodes, node]
    exact same ▸ .refl _
  · rwa [hub, hubs, ← hub] at hx

theorem node_later (i : Nat) {r : Registry Reaction} (h : (n.node i).Later r) (j : Nat) :
    (n.node j).Later ((n.setNode i r).node j) := by
  rw [node_setNode]
  split
  · next hj => exact hj.1 ▸ h
  · exact .refl _

theorem later_setNode (i : Nat) {r : Registry Reaction} (h : (n.node i).Later r) :
    Later n (n.setNode i r) :=
  later_of_same_gateways rfl (node_later i h) fun {_ _ x} hx _ => ⟨x, hx, rfl, rfl⟩

theorem hub_setHub (n : Network) (h : Nat) (hub : Hub Receiver) (k : Nat) :
    (n.setHub h hub).hub k = if h = k ∧ h < n.hubs.length then hub else n.hub k := by
  simp only [Network.hub, setHub, List.getD_eq_getElem?_getD, List.getElem?_set]
  by_cases hk : h = k
  · subst hk
    by_cases hl : h < n.hubs.length
    · simp [hl]
    · simp [hl]
  · simp [hk]

/-- No gateway comes to hear on a hub. -/
theorem later_setHub (h : Nat) {hub : Hub Receiver}
    (members : ∀ {g : Nat} {x : Hub.Member Receiver}, x ∈ hub.members →
      x.hook = some (.gateway g) → ∃ y ∈ (n.hub h).members, y.id = x.id ∧ y.hook = x.hook) :
    Later n (n.setHub h hub) := by
  refine later_of_same_gateways rfl (fun _ => .refl _) fun {k g x} hx hook => ?_
  rw [hub_setHub] at hx
  split at hx
  · next hk => exact hk.1 ▸ members hx hook
  · exact ⟨x, hx, rfl, rfl⟩

/-- A gateway changes, but not in where it is. -/
theorem later_modifyGateway {g : Nat} {F : Gateway → Gateway}
    (own : ∀ gw, (F gw).node = gw.node ∧ (F gw).id = gw.id ∧ (F gw).port = gw.port)
    (link : ∀ gw, n.gateways[g]? = some gw → gw.link.OnHub → (F gw).link.OnHub)
    (waits : ∀ gw, gw.ingress.toList <+: (F gw).ingress.toList) :
    Later n (n.modifyGateway g F) := by
  refine ⟨⟨?port, ?gateway, ?wired⟩, ?frames⟩
  case port => exact fun hp => ⟨_, hp, rfl⟩
  case gateway =>
    intro j gw hg
    rw [getElem?_modifyGateway, hg]
    split
    · exact ⟨F gw, rfl, own gw⟩
    · exact ⟨gw, rfl, rfl, rfl, rfl⟩
  case wired =>
    intro w
    refine ⟨fun {j gw} hg => ?_, fun {h j x} hx hook => ?_⟩
    · rw [getElem?_modifyGateway] at hg
      split at hg
      · next hj =>
        obtain ⟨gv, hv, rfl⟩ := Option.map_eq_some_iff.1 hg
        obtain ⟨node, id, port⟩ := own gv
        obtain ⟨id_ok, ⟨p, hp, same⟩, onHub⟩ := w.gateway hv
        refine ⟨id ▸ id_ok, ⟨p, ?_, same.trans id.symm⟩, link gv (hj ▸ hv) onHub⟩
        rw [node, port]
        exact hp
      · exact w.gateway hg
    · obtain ⟨gw, hg, id⟩ := w.member hx hook
      rw [getElem?_modifyGateway, hg]
      split
      · exact ⟨F gw, rfl, (own gw).2.1.trans id⟩
      · exact ⟨gw, rfl, id⟩
  case frames =>
    intro p hp
    cases hg : n.gateways[g]? with
    | none => simp [modifyGateway_eq_self hg]
    | some gw =>
      rw [frames_modifyGateway hg]
      split
      · next e => rw [e, (frames_of_gateway hg).1]; exact waits gw
      · split
        · next e => rw [e] at hp; cases hp
        · split
          · next e => rw [e] at hp; cases hp
          · exact List.prefix_rfl

/-! ## Links -/

/-- A link starts or stops to hear. -/
theorem later_setStarted (h : Nat) (id : PortId) (started : Bool) :
    Later n (n.setHub h ((n.hub h).update id fun y => { y with started })) := by
  refine later_setHub h fun {g x} hx hook => ?_
  obtain ⟨y, hy, id, ⟨rfl, -⟩ | ⟨-, rfl⟩⟩ := Hub.mem_update (f := fun y => { y with started })
    (fun _ => rfl) hx
  · exact ⟨x, hy, rfl, rfl⟩
  · exact ⟨y, hy, rfl, rfl⟩

theorem later_modifySocket (s : Nat) (F : Datagram.Socket → Datagram.Socket) :
    Later n (n.modifySocket s F) :=
  later_of_same_parts rfl rfl rfl

theorem later_startLink (n : Network) (link : Link) : Later n (n.startLink link).2 := by
  cases link with
  | member h endpoint faults =>
    obtain ⟨_ | id, hook⟩ := endpoint
    · exact .refl n
    · exact later_setStarted h id true
  | datagram s =>
    simp only [startLink]
    split
    · exact .refl n
    · split
      · exact .refl n
      · exact later_modifySocket s _

theorem later_stopLink (n : Network) (link : Link) : Later n (n.stopLink link).2 := by
  cases link with
  | member h endpoint faults =>
    obtain ⟨_ | id, hook⟩ := endpoint
    · exact later_setHub h fun {g x} hx _ => ⟨x, hx, rfl, rfl⟩
    · exact later_setStarted h id false
  | datagram s => exact later_modifySocket s _

theorem later_exitLink (n : Network) (link : Link) : Later n (n.exitLink link).2 := by
  cases link with
  | member h endpoint faults =>
    exact later_setHub h fun {g x} hx _ => ⟨x, Hub.mem_exit hx, rfl, rfl⟩
  | datagram s => exact later_modifySocket s _

theorem onHub_exitLink (n : Network) {link : Link} (h : link.OnHub) :
    (n.exitLink link).1.OnHub := by
  obtain ⟨hub, endpoint, faults, rfl⟩ := h
  exact ⟨_, _, _, rfl⟩

/-! ## Gateways -/

theorem later_destroyed (r : Registry Reaction) (id : PortId) :
    r.Later ((r.destroyPort id).toOption.getD r) := by
  cases h : r.destroyPort id with
  | ok s => exact Registry.later_destroyPort h
  | error e => exact .refl r

/-- A member joins a hub, at the end of it. -/
def join (n : Network) (h : Nat) (x : Hub.Member Receiver) : Network :=
  n.setHub h ⟨(n.hub h).members ++ [x]⟩

/-- A member that has joined leaves again. -/
theorem later_exitLink_join {h i : Nat} {y : Hub.Member Receiver} (hook : Option Receiver)
    (faults : Faults) {r : Registry Reaction} (hr : (n.node i).Later r) :
    Later n (((n.join h y).setNode i r).exitLink (.member h ⟨some y.id, hook⟩ faults)).2 := by
  refine later_of_same_gateways rfl (node_later i hr) fun {k g x} hx _ => ⟨x, ?_, rfl, rfl⟩
  have joined (j : Nat) : ((n.join h y).setNode i r).hub j = (n.join h y).hub j := rfl
  have length : ((n.join h y).setNode i r).hubs.length = n.hubs.length := by
    simp [setNode, join, setHub]
  simp only [exitLink, Hub.exit, hub_setHub, joined, length] at hx
  by_cases hk : h = k ∧ h < n.hubs.length
  · rw [if_pos hk] at hx
    obtain ⟨hx, other⟩ := List.mem_filter.1 hx
    rw [join, hub_setHub, if_pos ⟨rfl, hk.2⟩] at hx
    rcases List.mem_append.1 hx with hx | hx
    · exact hk.1 ▸ hx
    · rw [List.mem_singleton.1 hx] at other
      simp at other
  · rwa [if_neg hk, join, hub_setHub, if_neg hk] at hx

/-- A member that has joined hears for a gateway that has its id. -/
theorem later_hookLink_join {h : Nat} {y : Hub.Member Receiver} (hook : Option Receiver)
    (faults : Faults) {gw : Gateway} (id : gw.id = y.id) (id_ok : gw.id.isReserved = false)
    (own : ∃ p, (n.node gw.node).port? gw.port = some p ∧ p.id = gw.id) (onHub : gw.link.OnHub) :
    Later n { ((n.join h y).hookLink (.member h ⟨some y.id, hook⟩ faults)
      (.gateway n.gateways.length)).2 with gateways := n.gateways ++ [gw] } := by
  refine later_of_parts rfl (fun _ => .refl _) (fun gw hgw => ?_)
    fun {k g x} hx at_g => ?_
  · obtain rfl := List.mem_singleton.1 hgw
    exact ⟨id_ok, own, onHub⟩
  · have length : (n.join h y).hubs.length = n.hubs.length := by simp [join, setHub]
    have hx : x ∈ (((n.join h y).hookLink (.member h ⟨some y.id, hook⟩ faults)
      (.gateway n.gateways.length)).2.hub k).members := hx
    simp only [hookLink, Hub.setHook, hub_setHub, length] at hx
    by_cases hk : h = k ∧ h < n.hubs.length
    · rw [if_pos hk] at hx
      obtain ⟨z, hz, -, ⟨rfl, other⟩ | ⟨same, rfl⟩⟩ :=
        Hub.mem_update (f := fun z => { z with hook := some (Receiver.gateway n.gateways.length) })
          (fun _ => rfl) hx
      · rw [join, hub_setHub, if_pos ⟨rfl, hk.2⟩] at hz
        rcases List.mem_append.1 hz with hz | hz
        · exact .inl ⟨x, hk.1 ▸ hz, rfl, rfl⟩
        · exact absurd (congrArg Hub.Member.id (List.mem_singleton.1 hz)) other
      · obtain rfl := Receiver.gateway.inj (Option.some.inj at_g)
        exact .inr ⟨gw, List.getElem?_concat_length, id.trans same.symm⟩
    · rw [if_neg hk, join, hub_setHub, if_neg hk] at hx
      exact .inl ⟨x, hx, rfl, rfl⟩

/-- A gateway is made on a hub, or nothing is left of it. -/
theorem later_createGateway (n : Network) {i : Nat} (hi : i < n.nodes.length) (id : PortId)
    (h : Nat) (endpoint : Hub.Endpoint Receiver) (faults : Faults) (ingress : QueueConfig) :
    Later n (n.createGateway i id (.member h endpoint faults) ingress).2 := by
  unfold createGateway
  split
  · exact .refl n
  · next id_ok =>
    split
    · exact .refl n
    · next port r hr =>
      have ported : Later n (n.setNode i (r.setReaction port .copy)) :=
        later_setNode i ((Registry.later_createPort hr).trans
          (Registry.later_of_life (.setReaction r port .copy)))
      have own : ∃ p, ((n.setNode i (r.setReaction port .copy)).node i).port? port = some p ∧
          p.id = id := by
        obtain ⟨p, hp, same⟩ := Registry.port?_of_createPort hr
        rw [node_setNode, if_pos ⟨rfl, hi⟩, Registry.setReaction, Registry.port?_modify, if_pos rfl,
          hp]
        exact ⟨_, rfl, same⟩
      generalize n.setNode i (r.setReaction port .copy) = n₁ at ported own ⊢
      refine ported.trans ?_
      simp only [initLink]
      cases hh : (n₁.hub h).init endpoint id with
      | error e => exact (later_setNode i (later_destroyed _ id)).trans (later_exitLink _ _)
      | ok joined =>
        obtain ⟨hub, endpoint'⟩ := joined
        obtain ⟨rfl, rfl⟩ := Hub.eq_of_init hh
        cases faults.init with
        | true =>
          exact later_exitLink_join (y := ⟨id, endpoint.hook, false⟩) endpoint.hook faults
            (later_destroyed (n₁.node i) id)
        | false =>
          exact later_hookLink_join (y := ⟨id, endpoint.hook, false⟩) endpoint.hook faults rfl
            (by simpa using id_ok) own ⟨_, _, _, rfl⟩

/-- A gateway leaves its link, and its ingress queue is closed. -/
def leave (n : Network) (g : Nat) (gw : Gateway) : Network :=
  let (link, n) := n.exitLink gw.link
  n.modifyGateway g fun gw => { gw with link, ingress := gw.ingress.close, live := false }

/-! ## All that may happen -/

/-- What happens on a network of hubs, but for the frames that are taken from queues. -/
inductive Life : Network → Network → Prop
  | traffic {n m : Network} : n.Traffic m → Life n m
  | listenerSends {n m : Network} (l : Nat) (dest : PortId) (bytes : List UInt8)
      (result : Except BusError Unit) :
      n.listenerSend l dest bytes = some (result, m) → Life n m
  | node {n : Network} (i : Nat) {r : Registry Reaction} :
      (n.node i).Life r → Life n (n.setNode i r)
  | createGateway (n : Network) {i : Nat} (id : PortId) (h : Nat)
      (endpoint : Hub.Endpoint Receiver) (faults : Faults) (ingress : QueueConfig) :
      i < n.nodes.length → Life n (n.createGateway i id (.member h endpoint faults) ingress).2
  | setRunning (n : Network) (g : Nat) (running : Bool) :
      Life n (n.modifyGateway g fun gw => { gw with running })
  | startLink (n : Network) (gw : Gateway) : Life n (n.startLink gw.link).2
  | stopLink (n : Network) (gw : Gateway) : Life n (n.stopLink gw.link).2
  | leave {n : Network} {g : Nat} {gw : Gateway} :
      n.gateways[g]? = some gw → Life n (n.leave g gw)
  | createListener (n : Network) (h : Nat) (id : PortId) : Life n (n.createListener h id).2.2
  | exitListener (n : Network) (l : Nat) : Life n (n.exitListener l)
  | setSessions (n : Network) (sessions : List Session) : Life n { n with sessions }
  | newNode (n : Network) (config : QueueConfig) :
      Life n { n with nodes := n.nodes ++ [.new config] }
  | newHub (n : Network) : Life n { n with hubs := n.hubs ++ [.empty] }

theorem later_traffic (h : n.Traffic m) : Later n m := by
  cases h with
  | event s dest event payload result h => exact later_of_extends (extends_sendEvent h)
  | broadcastEvent s event payload result h =>
    unfold broadcastEvent at h
    split at h
    · cases h
      exact .refl n
    · split at h
      · cases h
      · cases h
        exact .refl n
      · next o ho =>
        cases h
        exact later_setNode s.node (Registry.later_broadcast ho)
  | frame i sender dest f r h =>
    obtain ⟨target, ha⟩ := Registry.adds_send h
    exact later_setNode i (Registry.later_of_adds ha)
  | broadcast i sender f o h => exact later_setNode i (Registry.later_broadcast h)
  | bytes g bytes result h => exact later_of_extends (extends_hear h)

theorem later_leave {g : Nat} {gw : Gateway} (hg : n.gateways[g]? = some gw) :
    Later n (n.leave g gw) := by
  have here : (n.exitLink gw.link).2.gateways = n.gateways := by
    cases gw.link <;> rfl
  refine (later_exitLink n gw.link).trans (later_modifyGateway (fun _ => ⟨rfl, rfl, rfl⟩)
    (fun gv hv onHub => ?_) fun gv => ?_)
  · rw [here, hg] at hv
    exact onHub_exitLink n (Option.some.inj hv ▸ onHub)
  · simp

theorem later_createListener (n : Network) (h : Nat) (id : PortId) :
    Later n (n.createListener h id).2.2 := by
  have appended (m : Network) (l : Listener) :
      Later m { m with listeners := m.listeners ++ [l] } := later_of_same_parts rfl rfl rfl
  simp only [createListener]
  split
  · exact appended n _
  · next hub endpoint hi =>
    obtain ⟨rfl, -⟩ := Hub.eq_of_init hi
    have joined : Later n (n.join h ⟨id, some (.listener n.listeners.length), false⟩) :=
      later_setHub h fun {g x} hx hook => by
        rcases List.mem_append.1 hx with hx | hx
        · exact ⟨x, hx, rfl, rfl⟩
        · rw [List.mem_singleton.1 hx] at hook
          cases hook
    exact (joined.trans (later_startLink _ _)).trans (appended _ _)

theorem later_of_life (h : Life n m) : Later n m := by
  cases h with
  | traffic h => exact later_traffic h
  | listenerSends l dest bytes result h =>
    obtain ⟨listener, -, h⟩ := Option.bind_eq_some_iff.1 h
    exact later_of_extends (extends_transfer h)
  | node i h => exact later_setNode i (Registry.later_of_life h)
  | createGateway id h endpoint faults ingress hi =>
    exact later_createGateway n hi id h endpoint faults ingress
  | setRunning g running =>
    exact later_modifyGateway (fun _ => ⟨rfl, rfl, rfl⟩) (fun _ _ h => h) fun _ => List.prefix_rfl
  | startLink gw => exact later_startLink n gw.link
  | stopLink gw => exact later_stopLink n gw.link
  | leave hg => exact later_leave hg
  | createListener h id => exact later_createListener n h id
  | exitListener l =>
    unfold exitListener
    split
    · exact .refl n
    · next listener _ =>
      have left : Later n (n.setHub listener.hub ((n.hub listener.hub).exit listener.endpoint).1) :=
        later_setHub _ fun {g x} hx _ => ⟨x, Hub.mem_exit hx, rfl, rfl⟩
      exact left.trans (later_of_same_parts rfl rfl rfl)
  | setSessions sessions => exact later_of_same_parts rfl rfl rfl
  | newNode config =>
    refine later_of_same_gateways rfl (fun i => ?_) fun {_ _ x} hx _ => ⟨x, hx, rfl, rfl⟩
    by_cases hi : i < n.nodes.length
    · have same : ({ n with nodes := n.nodes ++ [.new config] } : Network).node i = n.node i := by
        simp only [node, List.getD_eq_getElem?_getD, List.getElem?_append_left hi]
      exact same ▸ .refl _
    · rw [node_eq_new hi]
      exact fun h p hp => by cases hp
  | newHub =>
    refine later_of_same_gateways rfl (fun _ => .refl _) fun {h g x} hx _ => ⟨x, ?_, rfl, rfl⟩
    have hx : x ∈ ((n.hubs ++ [(Hub.empty : Hub Receiver)])[h]?.getD Hub.empty).members := by
      simpa only [Network.hub, List.getD_eq_getElem?_getD] using hx
    by_cases hh : h < n.hubs.length
    · rw [List.getElem?_append_left hh] at hx
      simpa only [Network.hub, List.getD_eq_getElem?_getD] using hx
    · rw [List.getElem?_append_right (Nat.le_of_not_lt hh)] at hx
      cases hd : h - n.hubs.length <;> rw [hd] at hx <;> cases hx

/-- Every network that is built from nothing is wired. -/
theorem wired_of_built {host : Host} (h : Relation.ReflTransGen Life { host } n) : n.Wired := by
  induction h with
  | refl =>
    constructor
    · intro g gw hg
      cases hg
    · intro h g x hx _
      cases hx
  | tail _ last ih => exact (later_of_life last).wired ih

end Network

end FrameBus
