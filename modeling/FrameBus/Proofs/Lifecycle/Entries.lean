import FrameBus.Proofs.Lifecycle.Operations

/-!
# Owners that come and go

A drop strikes an owner off the roster of its node (`drop_spec`). A creation adds an owner under an
id that is free, which stands there without running (`Added`), or it fails, and then nothing is left
of it (`Undone`): the lists are what they were, and every port that was there is as it was.
-/

namespace FrameBus

/-- A gateway that was dropped, with what has become of its link. -/
def Gateway.gone (gw : Gateway) (link : Link) : Gateway :=
  { gw with link, ingress := gw.ingress.close, live := false }

def Session.gone (s : Session) : Session := { s with live := false }

theorem Gateway.outline_gone (gw : Gateway) (link : Link) :
    (gw.gone link).outline = gw.outline.gone := by
  simp [outline, gone, Outline.gone]

namespace Network

variable {n m k : Network} {i : Nat} {o : Owner} {h : Handle} {x : Outline} {id : PortId}

/-! ## Drops -/

/-- The port of a live owner is the one that is destroyed under its id. -/
theorem destroyed_of_live (he : (n.roster i).Exact) (hx : n.outline? i o = some x)
    (live : x.live = true) :
    ∃ t, (n.node i).destroyPort x.id = .ok t ∧ (n.node i).roll.Strikes x.port t.roll ∧
      t.sessions = (n.node i).sessions ∧
      ∀ j, t.isConnected j = if x.port = j then false else (n.node i).isConnected j := by
  have id : x.id ∈ (n.node i).ids := by
    rw [← Registry.ids_roll]
    exact he.mem_ids.2 ⟨o, x, hx, live, rfl⟩
  obtain ⟨t, ht⟩ := Registry.destroyPort_isOk id
  obtain ⟨h, own, strikes, sessions, connected⟩ := Registry.roll_destroyPort ht
  obtain ⟨o', y, hy, live', rfl⟩ :=
    (he.registered h).1 (strikes.registered.mem_iff.1 List.mem_cons_self)
  have same : y.id = x.id := by
    rw [← own, ← Registry.idOf_roll]
    exact (he.idOf hy).symm
  obtain rfl := he.sole_id hy hx live' live same
  obtain rfl := Option.some.inj (hy.symm.trans hx)
  exact ⟨t, ht, strikes, sessions, connected⟩

/-- An owner was dropped. -/
structure Dropped (i : Nat) (o : Owner) (x : Outline) (n m : Network) : Prop where
  nodes : m.nodes.length = n.nodes.length
  leaves : (n.roster i).Leaves o x (m.roster i)
  spares : Spares i o x.port n m
  stands : m.Stands i o x.port false

def drop (n : Network) : Owner → Network
  | .gateway g => n.dropGateway g
  | .session s => n.dropSession s

/-- A drop begins with a stop, if the owner runs. -/
theorem stopped_first (hi : i < n.nodes.length) (he : (n.roster i).Exact)
    (hx : n.outline? i o = some x) {runs : Bool} (st : n.Stands i o x.port runs) :
    (n.stop o).2.nodes.length = n.nodes.length ∧ (n.stop o).2.roster i = n.roster i ∧
      Spares i o x.port n (n.stop o).2 ∧ (n.stop o).2.Stands i o x.port false := by
  cases runs with
  | false =>
    rw [stop_of_stopped st.running]
    exact ⟨rfl, rfl, .refl n, st⟩
  | true =>
    have halt := stop_spec hi he hx st.running
    exact ⟨halt.nodes, halt.roster, halt.spares, halt.stands⟩

/-- An owner is no more; of a gateway the link may have changed. -/
def retire (n : Network) (link : Gateway → Link) (o : Owner) : Network :=
  n.alter (fun gw => gw.gone (link gw)) Session.gone o

theorem outline?_retire (link : Gateway → Link) (hx : n.outline? i o = some x) :
    (n.retire link o).outline? i = Function.update (n.outline? i) o (some x.gone) := by
  have self : (n.retire link o).outline? i o = some x.gone := by
    rw [retire, outline?_alter_self (f := Outline.gone) (F := fun gw => gw.gone (link gw))
      (G := Session.gone) (fun gw => ⟨rfl, gw.outline_gone (link gw)⟩) fun ss => ⟨rfl, rfl⟩, hx]
    rfl
  funext o'
  rw [Function.update_apply]
  split
  · next e => rw [e, self]
  · next e => exact outline?_alter_of_ne e

/-- An owner that is no more has its flag and its workers as they were. -/
theorem hands_retire (n : Network) (link : Gateway → Link) (o : Owner) :
    (n.retire link o).running? o = n.running? o ∧
      ∀ mv ∈ o.moves, (n.retire link o).worker? mv = n.worker? mv := by
  cases o with
  | gateway g =>
    have read {β : Type} (r : Gateway → β) (same : ∀ gw, r (gw.gone (link gw)) = r gw) :
        ((n.retire link (.gateway g)).gateways[g]?).map r = (n.gateways[g]?).map r := by
      simp only [retire, alter, getElem?_modifyGateway, if_true, Option.map_map,
        Function.comp_def, same]
    refine ⟨read Gateway.running fun _ => rfl, fun mv hmv => ?_⟩
    rcases List.mem_pair.1 hmv with rfl | rfl
    · exact read Gateway.uplink fun _ => rfl
    · exact read Gateway.downlink fun _ => rfl
  | session s =>
    have read {β : Type} (r : Session → β) (same : ∀ ss, r ss.gone = r ss) :
        ((n.retire link (.session s)).sessions[s]?).map r = (n.sessions[s]?).map r := by
      simp only [retire, alter, getElem?_modifySession, if_true, Option.map_map,
        Function.comp_def, same]
    refine ⟨read Session.running fun _ => rfl, fun mv hmv => ?_⟩
    obtain rfl := List.mem_singleton.1 hmv
    exact read Session.worker fun _ => rfl

/-- What is left of a stopped owner after its drop. -/
theorem dropped_of_struck {r : Registry Reaction} (link : Gateway → Link) (hi : i < n.nodes.length)
    (hx : n.outline? i o = some x) (stopped : n.Stands i o x.port false)
    (strikes : (n.node i).roll.Strikes x.port r.roll)
    (claimed : (o.claims x.id ++ r.sessions).Perm (n.node i).sessions)
    (connected : ∀ j, r.isConnected j = if x.port = j then false else (n.node i).isConnected j) :
    Dropped i o x n ((n.retire link o).setNode i r) := by
  have length : (n.retire link o).nodes.length = n.nodes.length := by cases o <;> rfl
  have node : ((n.retire link o).setNode i r).node i = r := by
    rw [node_setNode, if_pos ⟨rfl, length ▸ hi⟩]
  have roll : (((n.retire link o).setNode i r).roster i).toRoll = r.roll :=
    congrArg Registry.roll node
  have others : Spares i o x.port n (n.retire link o) := spares_alter n _ _
  obtain ⟨running, workers⟩ := hands_retire n link o
  have hands (mv : Move) : ((n.retire link o).setNode i r).worker? mv =
      (n.retire link o).worker? mv := by cases mv <;> rfl
  refine ⟨?_, ⟨roll ▸ strikes, ?_, outline?_retire link hx⟩,
    ⟨others.running, fun o' ne mv hmv => ?_, fun j ne => ?_⟩,
    running.trans stopped.running, ?_, by simp, fun _ mv hmv => ?_⟩
  · rw [setNode, List.length_set, length]
  · rw [roll]
    exact claimed
  · rw [hands, others.workers o' ne mv hmv]
  · rw [node, connected, if_neg (Ne.symm ne)]
  · rw [node, connected, if_pos rfl]
  · rw [hands, workers mv hmv]
    exact stopped.rest rfl mv hmv

theorem Dropped.after {k : Network} (nodes : k.nodes.length = n.nodes.length)
    (roster : k.roster i = n.roster i) (spares : Spares i o x.port n k) (h : Dropped i o x k m) :
    Dropped i o x n m :=
  ⟨h.nodes.trans nodes, roster ▸ h.leaves, spares.trans h.spares, h.stands⟩

/-- What an owner takes along from a registry when it is dropped. -/
def strip (o : Owner) (id : PortId) (r : Registry Reaction) : Registry Reaction :=
  match o with
  | .gateway _ => r.without id
  | .session _ => ((r.without id).releaseSession id).2

/-- A drop stops the owner, retires it and strips the registry, whatever becomes of the links. -/
theorem eq_drop (hx : n.outline? i o = some x) :
    ∃ hubs sockets link, n.drop o = (({ (n.stop o).2 with hubs, sockets } : Network).retire
      link o).setNode i (strip o x.id ((n.stop o).2.node i)) := by
  cases o with
  | gateway g =>
    obtain ⟨gw, hg, rfl, rfl⟩ := outline?_gateway.1 hx
    obtain ⟨hubs, sockets, left⟩ := eq_exitLink (n.stopGateway g).2 gw.link
    refine ⟨hubs, sockets, fun _ => ((n.stopGateway g).2.exitLink gw.link).1, ?_⟩
    simp only [drop, dropGateway, hg, left]
    rfl
  | session s =>
    obtain ⟨ss, hs, rfl, rfl⟩ := outline?_session.1 hx
    refine ⟨(n.stopSession s).2.hubs, (n.stopSession s).2.sockets, Gateway.link, ?_⟩
    simp only [drop, dropSession, hs]
    rfl

/-- The port of a live owner is destroyed and its claim given up. -/
theorem stripped_of_live (he : (n.roster i).Exact) (hx : n.outline? i o = some x)
    (live : x.live = true) :
    (n.node i).roll.Strikes x.port (strip o x.id (n.node i)).roll ∧
      (o.claims x.id ++ (strip o x.id (n.node i)).sessions).Perm (n.node i).sessions ∧
      ∀ j, (strip o x.id (n.node i)).isConnected j =
        if x.port = j then false else (n.node i).isConnected j := by
  obtain ⟨t, ht, strikes, sessions, connected⟩ := destroyed_of_live he hx live
  have without : (n.node i).without x.id = t := by
    rw [Registry.without, ht]
    rfl
  simp only [strip, without]
  cases o with
  | gateway g => exact ⟨strikes, .of_eq sessions, connected⟩
  | session s =>
    have claim : x.id ∈ t.sessions := by
      rw [sessions]
      exact (he.claimed x.id).2 ⟨.session s, x, hx, live, List.mem_singleton_self x.id⟩
    obtain ⟨claimed, released, lost⟩ := Registry.perm_releaseSession claim
    rw [released]
    exact ⟨⟨strikes.ports, strikes.registered⟩, sessions ▸ lost, connected⟩

theorem drop_spec (hi : i < n.nodes.length) (he : (n.roster i).Exact)
    (hx : n.outline? i o = some x) (live : x.live = true) {runs : Bool}
    (st : n.Stands i o x.port runs) : Dropped i o x n (n.drop o) := by
  obtain ⟨nodes, same, spares, stopped⟩ := stopped_first hi he hx st
  have hx₁ : (n.stop o).2.outline? i o = some x := (congrArg (·.owner? o) same).trans hx
  obtain ⟨strikes, claimed, connected⟩ := stripped_of_live (same ▸ he) hx₁ live
  obtain ⟨hubs, sockets, link, e⟩ := eq_drop hx
  have links := roster_links (i := i) (n.stop o).2 hubs sockets
  have hx₂ : ({ (n.stop o).2 with hubs, sockets } : Network).outline? i o = some x :=
    (congrArg (·.owner? o) links).trans hx₁
  have struck := dropped_of_struck (n := { (n.stop o).2 with hubs, sockets }) link (nodes ▸ hi) hx₂
    (stopped.linked hubs sockets) strikes claimed connected
  rw [e]
  refine Dropped.after nodes same spares ?_
  exact struck.after (k := { (n.stop o).2 with hubs, sockets }) rfl links
    (spares_links _ hubs sockets)

/-! ## Creations -/

/-- An owner was made, and does not run yet. -/
structure Added (i : Nat) (o : Owner) (id : PortId) (n m : Network) : Prop where
  nodes : m.nodes.length = n.nodes.length
  free : id ∉ (n.node i).ids
  new : n.outline? i o = none
  roster : m.roster i = (n.roster i).add o id
  spares : Spares i o (n.node i).ports.length n m
  stands : m.Stands i o (n.node i).ports.length false

/-- Nothing is left of an owner that could not be made. -/
structure Undone (i : Nat) (n m : Network) : Prop where
  nodes : m.nodes.length = n.nodes.length
  registered : (m.node i).registered = (n.node i).registered
  claimed : (m.node i).sessions = (n.node i).sessions
  ports : ∃ more, (m.node i).ports = (n.node i).ports ++ more
  gateways : m.gateways = n.gateways
  sessions : m.sessions = n.sessions

theorem Undone.refl (n : Network) (i : Nat) : Undone i n n :=
  ⟨rfl, rfl, rfl, ⟨[], by simp⟩, rfl, rfl⟩

theorem getElem?_concat {α : Type} (l : List α) (a : α) (k : Nat) :
    (l ++ [a])[k]? = if k = l.length then some a else l[k]? := by
  rw [List.getElem?_append]
  split
  · next lt => rw [if_neg (Nat.ne_of_lt lt)]
  · split
    · next e => simp [e]
    · next ge ne => rw [List.getElem?_eq_none (by simp; omega), List.getElem?_eq_none (by omega)]

theorem enlist_gateway (n : Network) (gw : Gateway) (h : Handle) :
    ({ n with gateways := n.gateways ++ [gw] } : Network).outline? gw.node =
        Function.update (n.outline? gw.node) (.gateway n.gateways.length) (some gw.outline) ∧
      Spares gw.node (.gateway n.gateways.length) h n
        { n with gateways := n.gateways ++ [gw] } := by
  have other {k : Nat} (ne : Owner.gateway k ≠ .gateway n.gateways.length) :
      (n.gateways ++ [gw])[k]? = n.gateways[k]? := by
    rw [getElem?_concat, if_neg fun e => ne (by rw [e])]
  refine ⟨?_, fun o' ne => ?_, fun o' ne mv hmv => ?_, fun _ _ => rfl⟩
  · funext o'
    rw [Function.update_apply]
    split
    · next e => simp [e, outline?]
    · next ne =>
      cases o' with
      | gateway k => simp only [outline?, other ne]
      | session s => rfl
  · cases o' with
    | gateway k => simp only [running?, other ne]
    | session s => rfl
  · cases o' with
    | gateway k => rcases List.mem_pair.1 hmv with rfl | rfl <;> simp only [worker?, other ne]
    | session s =>
      obtain rfl := List.mem_singleton.1 hmv
      rfl

theorem enlist_session (n : Network) (ss : Session) (h : Handle) :
    ({ n with sessions := n.sessions ++ [ss] } : Network).outline? ss.node =
        Function.update (n.outline? ss.node) (.session n.sessions.length) (some ss.outline) ∧
      Spares ss.node (.session n.sessions.length) h n
        { n with sessions := n.sessions ++ [ss] } := by
  have other {k : Nat} (ne : Owner.session k ≠ .session n.sessions.length) :
      (n.sessions ++ [ss])[k]? = n.sessions[k]? := by
    rw [getElem?_concat, if_neg fun e => ne (by rw [e])]
  refine ⟨?_, fun o' ne => ?_, fun o' ne mv hmv => ?_, fun _ _ => rfl⟩
  · funext o'
    rw [Function.update_apply]
    split
    · next e => simp [e, outline?]
    · next ne =>
      cases o' with
      | gateway k => rfl
      | session s => simp only [outline?, other ne]
  · cases o' with
    | gateway k => rfl
    | session s => simp only [running?, other ne]
  · cases o' with
    | gateway k => rcases List.mem_pair.1 hmv with rfl | rfl <;> rfl
    | session s =>
      obtain rfl := List.mem_singleton.1 hmv
      simp only [worker?, other ne]

/-- A registry with a new port for an owner, and what the owner claims. -/
def lodge (r : Registry Reaction) (id : PortId) (claims : List PortId) : Registry Reaction :=
  { r with ports := r.ports ++ [⟨id, .init, .new r.config, some .copy⟩]
           registered := r.registered ++ [r.ports.length]
           sessions := r.sessions ++ claims }

theorem isConnected_lodge (r : Registry Reaction) (id : PortId) (claims : List PortId)
    (j : Handle) : (lodge r id claims).isConnected j =
      if j = r.ports.length then false else r.isConnected j := by
  simp only [Registry.isConnected, Registry.port?, lodge, getElem?_concat]
  split <;> rfl

/-- An owner is enlisted behind its new port. -/
theorem added_of_enlisted (hi : i < n.nodes.length) (free : id ∉ (n.node i).ids)
    (new : n.outline? i o = none)
    (nodes : m.nodes = (n.setNode i (lodge (n.node i) id (o.claims id))).nodes)
    (owners : m.outline? i =
      Function.update (n.outline? i) o (some ⟨id, (n.node i).ports.length, true, false⟩))
    (spares : Spares i o (n.node i).ports.length
      (n.setNode i (lodge (n.node i) id (o.claims id))) m)
    (running : m.running? o = some false) (ended : ∀ mv ∈ o.moves, m.worker? mv = some .ended) :
    Added i o id n m := by
  have node : m.node i = lodge (n.node i) id (o.claims id) := by
    rw [Network.node, nodes, ← Network.node, node_setNode, if_pos ⟨rfl, hi⟩]
  have roll : (m.node i).roll = ((n.roster i).add o id).toRoll := by
    rw [node]
    simp [lodge, Registry.roll, roster, Roster.add, Roll.enrol, Port.entry]
  have length := length_ports_roster n i
  have all : m.roster i = (n.roster i).add o id := by
    rw [roster, roll, owners]
    simp only [Roster.add, length]
    rfl
  refine ⟨by rw [nodes, setNode, List.length_set], free, new, all,
    ⟨spares.running, fun o' ne mv hmv => ?_, fun j ne => ?_⟩, running, ?_, by simp,
    fun _ mv hmv => by simp [ended mv hmv]⟩
  · rw [spares.workers o' ne mv hmv]
    cases mv <;> rfl
  · rw [node, isConnected_lodge, if_neg ne]
  · rw [node, isConnected_lodge, if_pos rfl]

theorem Added.linked (h : Added i o id n m) (hubs : List (Hub Receiver))
    (sockets : List Datagram.Socket) : Added i o id n { m with hubs, sockets } where
  nodes := h.nodes
  free := h.free
  new := h.new
  roster := (roster_links m hubs sockets).trans h.roster
  spares := h.spares.trans (spares_links m hubs sockets)
  stands := h.stands.linked hubs sockets

theorem outline?_of_length (h : o = .gateway n.gateways.length ∨ o = .session n.sessions.length) :
    n.outline? i o = none := by
  rcases h with rfl | rfl <;> simp [outline?]

/-- A gateway that is made, before its link is bound. -/
theorem added_gateway (hi : i < n.nodes.length) (free : id ∉ (n.node i).ids) (link : Link)
    (ingress : QueueConfig) :
    Added i (.gateway n.gateways.length) id n { n.setNode i (lodge (n.node i) id []) with
      gateways := n.gateways ++
        [{ node := i, id, port := (n.node i).ports.length, link, ingress := .new ingress }] } := by
  obtain ⟨owners, spares⟩ := enlist_gateway (n.setNode i (lodge (n.node i) id []))
    { node := i, id, port := (n.node i).ports.length, link, ingress := .new ingress }
    (n.node i).ports.length
  refine added_of_enlisted hi free (outline?_of_length (.inl rfl)) rfl ?_ spares ?_ fun mv hmv => ?_
  · refine owners.trans ?_
    simp [Gateway.outline]
    rfl
  · simp [running?]
  · rcases List.mem_pair.1 hmv with rfl | rfl <;> simp [worker?]

theorem added_session (hi : i < n.nodes.length) (free : id ∉ (n.node i).ids) :
    Added i (.session n.sessions.length) id n { n.setNode i (lodge (n.node i) id [id]) with
      sessions := n.sessions ++ [{ node := i, id, port := (n.node i).ports.length }] } := by
  obtain ⟨owners, spares⟩ := enlist_session (n.setNode i (lodge (n.node i) id [id]))
    { node := i, id, port := (n.node i).ports.length } (n.node i).ports.length
  refine added_of_enlisted hi free (outline?_of_length (.inr rfl)) rfl owners spares ?_
    fun mv hmv => ?_
  · simp [running?]
  · obtain rfl := List.mem_singleton.1 hmv
    simp [worker?]

theorem known_of_exact (he : (n.roster i).Exact) :
    ∀ j ∈ (n.node i).registered, j < (n.node i).ports.length :=
  length_ports_roster n i ▸ he.lt_of_registered

theorem Undone.linked (h : Undone i n m) (hubs : List (Hub Receiver))
    (sockets : List Datagram.Socket) : Undone i n { m with hubs, sockets } :=
  ⟨h.nodes, h.registered, h.claimed, h.ports, h.gateways, h.sessions⟩

/-- A port that was made for a gateway is destroyed again. -/
theorem undone_of_destroyed (hi : i < n.nodes.length)
    (known : ∀ j ∈ (n.node i).registered, j < (n.node i).ports.length)
    {port : Handle} {r : Registry Reaction} (hr : (n.node i).createPort id = .ok (port, r)) :
    Undone i n (n.setNode i (((r.setReaction port .copy).destroyPort id).toOption.getD
      (r.setReaction port .copy))) := by
  obtain ⟨t, ht, registered, claimed, ports⟩ :=
    Registry.undone_createPort hr .copy known
  obtain ⟨more, ports⟩ : ∃ more, t.ports = (n.node i).ports ++ more := ⟨_, ports⟩
  have node : (n.setNode i t).node i = t := by rw [node_setNode, if_pos ⟨rfl, hi⟩]
  rw [ht]
  refine ⟨by rw [setNode, List.length_set], ?_, ?_, ⟨more, ?_⟩, rfl, rfl⟩
  · exact (congrArg Registry.registered node).trans registered
  · exact (congrArg Registry.sessions node).trans claimed
  · exact (congrArg Registry.ports node).trans ports

/-- A gateway is made, or nothing is left of it. -/
theorem createGateway_spec (hi : i < n.nodes.length)
    (known : ∀ j ∈ (n.node i).registered, j < (n.node i).ports.length) (id : PortId) (link : Link)
    (ingress : QueueConfig) :
    match n.createGateway i id link ingress with
    | (.ok g, m) => g = n.gateways.length ∧ Added i (.gateway g) id n m
    | (.error _, m) => Undone i n m := by
  unfold createGateway
  by_cases single : id.isReserved = true
  · rw [if_pos single]
    exact .refl n i
  · rw [if_neg single]
    cases hr : (n.node i).createPort id with
    | error e => exact .refl n i
    | ok made =>
      obtain ⟨port, r⟩ := made
      have undone := undone_of_destroyed hi known hr
      obtain ⟨-, free, rfl, -⟩ := Registry.eq_of_createPort hr
      have admitted : r.setReaction (n.node i).ports.length .copy = lodge (n.node i) id [] := by
        rw [Registry.eq_of_setReaction hr, lodge, List.append_nil]
      rw [admitted] at undone
      simp only [admitted]
      obtain ⟨hubs, sockets, linked⟩ := eq_initLink (n.setNode i (lodge (n.node i) id [])) link id
      rcases h : (n.setNode i (lodge (n.node i) id [])).initLink link id with ⟨result, link', m⟩
      rw [h] at linked
      subst linked
      cases result with
      | error e =>
        have node : ({ n.setNode i (lodge (n.node i) id []) with hubs, sockets } : Network).node i =
            lodge (n.node i) id [] := by
          show (n.setNode i (lodge (n.node i) id [])).node i = _
          rw [node_setNode, if_pos ⟨rfl, hi⟩]
        let undo := ((lodge (n.node i) id []).destroyPort id).toOption.getD
          (lodge (n.node i) id [])
        obtain ⟨hubs', sockets', left⟩ := eq_exitLink
          (({ n.setNode i (lodge (n.node i) id []) with hubs, sockets } : Network).setNode i undo)
          link'
        simp only [node]
        rw [left]
        rw [← setNode_setNode n i (lodge (n.node i) id [])] at undone
        exact undone.linked hubs' sockets'
      | ok u =>
        obtain ⟨hubs', sockets', hooked⟩ := eq_hookLink
          ({ n.setNode i (lodge (n.node i) id []) with hubs, sockets } : Network) link'
          (.gateway (n.setNode i (lodge (n.node i) id [])).gateways.length)
        refine ⟨rfl, ?_⟩
        have added := added_gateway hi free (({ n.setNode i (lodge (n.node i) id []) with
          hubs, sockets } : Network).hookLink link' (.gateway n.gateways.length)).1 ingress
        simp only [hooked]
        exact added.linked hubs' sockets'

/-- A session is made, or nothing is left of it. -/
theorem createSession_spec (hi : i < n.nodes.length) (id : PortId) :
    match n.createSession i id with
    | (.ok s, m) => s = n.sessions.length ∧ Added i (.session s) id n m
    | (.error _, m) => Undone i n m := by
  unfold createSession
  by_cases single : id.isReserved = true
  · rw [if_pos single]
    exact .refl n i
  · rw [if_neg single]
    cases hc : (n.node i).claimSession id with
    | error e => exact .refl n i
    | ok r =>
      have released := Registry.undone_claimSession hc
      obtain ⟨-, rfl⟩ := Registry.eq_of_claimSession hc
      dsimp only
      cases hr : Registry.createPort
          { n.node i with sessions := (n.node i).sessions ++ [id] } id with
      | error e =>
        rw [released, setNode_self]
        exact .refl n i
      | ok made =>
        obtain ⟨port, r⟩ := made
        obtain ⟨-, free, rfl, -⟩ := Registry.eq_of_createPort hr
        have admitted : r.setReaction (n.node i).ports.length .copy = lodge (n.node i) id [id] :=
          Registry.eq_of_setReaction hr .copy
        simp only [admitted]
        exact ⟨rfl, added_session hi free⟩

end Network

end FrameBus
