import FrameBus.Proofs.Lifecycle.Runs
import FrameBus.Proofs.Link.Table
import FrameBus.Proofs.Network.Life

/-!
# Members of a hub

Where every gateway of a node is made on a new endpoint of one hub, the members of the hub are the
live gateways (`Attached`). Starts and stops leave the members and the links as they are (`Tied`); a
creation joins the hub or leaves it as it was, and a drop takes out just the gateway's own id.
-/

namespace FrameBus

/-- A link whatever its operations answer. -/
def Link.faultless : Link → Link
  | .member h endpoint _ => .member h endpoint {}
  | .datagram s => .datagram s

theorem Link.eq_of_faultless {link : Link} {h : Nat} {e : Hub.Endpoint Receiver}
    (same : link.faultless = .member h e {}) : ∃ faults, link = .member h e faults := by
  cases link with
  | member h' e' faults =>
    cases same
    exact ⟨faults, rfl⟩
  | datagram s => cases same

/-- A gateway is only made on a new endpoint of the hub. -/
def Call.OnHub (h : Nat) : Call → Prop
  | .createGateway _ link _ => ∃ faults, link = .member h {} faults
  | _ => True

namespace Network

variable {n m k : Network} {i : Nat} {o : Owner} {x : Outline} {id : PortId}

/-! ## Starts and stops -/

/-- One network after another: hubs have the members, and gateways the links, that they had. -/
structure Tied (n m : Network) : Prop where
  members : ∀ h, (m.hub h).ids = (n.hub h).ids
  hubs : m.hubs.length = n.hubs.length
  links : m.links = n.links

theorem Tied.refl (n : Network) : Tied n n := ⟨fun _ => rfl, rfl, rfl⟩

theorem Tied.trans (t : Tied n m) (t' : Tied m k) : Tied n k :=
  ⟨fun h => (t'.members h).trans (t.members h), t'.hubs.trans t.hubs, t'.links.trans t.links⟩

theorem tied_of_same (hubs : m.hubs = n.hubs) (links : m.links = n.links) : Tied n m :=
  ⟨fun h => by rw [hub, hubs, hub], by rw [hubs], links⟩

theorem tied_of_runs (h : Relation.ReflTransGen (MovesOf o) n m) : Tied n m := by
  induction h with
  | refl => exact .refl n
  | tail _ last ih =>
    obtain ⟨mv, -, h⟩ := last
    have made := made_of_move h
    exact ih.trans (tied_of_same made.hubs made.links)

theorem tied_setHub {h : Nat} {hub : Hub Receiver} (ids : hub.ids = (n.hub h).ids) :
    Tied n (n.setHub h hub) := by
  refine ⟨fun j => ?_, by simp [setHub], rfl⟩
  rw [hub_setHub]
  split
  · next e => rw [ids, e.1]
  · rfl

theorem tied_startLink (n : Network) (link : Link) : Tied n (n.startLink link).2 := by
  cases link with
  | member h endpoint faults =>
    simp only [startLink]
    split
    · exact .refl n
    · next started => exact tied_setHub (Hub.ids_start started)
  | datagram s =>
    simp only [startLink]
    split
    · exact .refl n
    · split
      · exact .refl n
      · exact tied_of_same rfl rfl

theorem tied_stopLink (n : Network) (link : Link) : Tied n (n.stopLink link).2 := by
  cases link with
  | member h endpoint faults => exact tied_setHub (Hub.ids_stop _ _)
  | datagram s => exact tied_of_same rfl rfl

theorem tied_setPortState (n : Network) (i : Nat) (h : Handle) (s : PortState) :
    Tied n (n.setPortState i h s) := tied_of_same rfl rfl

theorem tied_setRunning (n : Network) (o : Owner) (b : Bool) : Tied n (n.setRunning o b) := by
  cases o with
  | gateway g => exact tied_of_same rfl (map_modify_of_same fun _ => rfl)
  | session s => exact tied_of_same rfl rfl

theorem tied_haltGateway (n : Network) (g : Nat) (gw : Gateway) : Tied n (n.haltGateway g gw) :=
  have parted := (tied_setRunning n (.gateway g) false).trans
    (tied_setPortState _ gw.node gw.port .disconn)
  parted.trans (tied_of_runs (runs_joinGateway g 64 _))

theorem tied_startReceiver (n : Network) (link : Link) (refusal : Option String) :
    Tied n (n.startReceiver link refusal).2 := by
  rcases startReceiver_cases n link refusal with e | e
  · exact e ▸ tied_startLink n link
  · rw [e]
    exact .refl n

theorem tied_haltSession (n : Network) (s : Nat) (ss : Session) : Tied n (n.haltSession s ss) :=
  have parted := (tied_setRunning n (.session s) false).trans
    (tied_setPortState _ ss.node ss.port .disconn)
  parted.trans (tied_of_runs (runs_joinSession s 64 _))

/-- A gateway that changes keeps its link. -/
theorem tied_modifyGateway (n : Network) (g : Nat) {F : Gateway → Gateway}
    (same : ∀ gw, (F gw).link = gw.link) : Tied n (n.modifyGateway g F) :=
  tied_of_same rfl (map_modify_of_same same)

theorem tied_launchGateway (n : Network) (g : Nat) (gw : Gateway) (threads : Threads) :
    Tied n (n.launchGateway g gw threads).2 := by
  unfold launchGateway spawnWorkers
  cases threads.uplink with
  | some fault => exact tied_modifyGateway n g fun _ => rfl
  | none =>
    have connected := (tied_modifyGateway n g (F := fun gw => { gw with uplink := .polling })
      fun _ => rfl).trans (tied_setPortState _ gw.node gw.port .conn)
    cases threads.downlink with
    | some fault => exact connected.trans (tied_modifyGateway _ g fun _ => rfl)
    | none =>
      have both := connected.trans (tied_modifyGateway _ g
        (F := fun gw => { gw with downlink := .polling }) fun _ => rfl)
      exact both.trans (tied_startReceiver _ gw.link threads.receiver)

theorem tied_start (n : Network) (threads : Threads) (o : Owner) :
    Tied n (n.start threads o).2 := by
  cases o with
  | gateway g =>
    simp only [start, startGateway]
    split
    · exact .refl n
    · next gw _ =>
      split
      · exact .refl n
      · have launched := (tied_setRunning n (.gateway g) true).trans
          (tied_launchGateway _ g gw threads)
        have joined (k : Network) : Tied k (joinGateway g 64 k) :=
          tied_of_runs (runs_joinGateway g 64 k)
        split
        · next n₁ e =>
          obtain rfl : _ = n₁ := congrArg Prod.snd e
          exact launched
        · next why n₁ e =>
          obtain rfl : _ = n₁ := congrArg Prod.snd e
          exact (launched.trans (joined _)).trans (tied_haltGateway _ g gw)
  | session s =>
    simp only [start, startSession]
    split
    · exact .refl n
    · next ss _ =>
      split
      · exact .refl n
      · split
        · exact tied_of_same rfl rfl
        · next fault _ =>
          cases fault with
          | refused reason => exact tied_of_same rfl rfl
          | lost =>
            have lost : Tied n ((n.setRunning (.session s) true).modifySession s
                fun ss => { ss with worker := .ended }) := tied_of_same rfl rfl
            exact lost.trans (tied_haltSession _ s ss)

theorem tied_stop (n : Network) (o : Owner) : Tied n (n.stop o).2 := by
  cases o with
  | gateway g =>
    simp only [stop, stopGateway]
    split
    · exact .refl n
    · next gw _ =>
      split
      · exact .refl n
      · exact (tied_stopLink n gw.link).trans (tied_haltGateway _ g gw)
  | session s =>
    simp only [stop, stopSession]
    split
    · exact .refl n
    · next ss _ =>
      split
      · exact .refl n
      · exact tied_haltSession n s ss

/-! ## Creations and drops -/

/-- A member that has just joined leaves again. -/
theorem filter_of_joined {ids : List PortId} (free : id ∉ ids) :
    (ids ++ [id]).filter (fun c => c != id) = ids := by
  rw [List.filter_append, List.filter_eq_self.2]
  · simp
  · intro c hc
    simpa using fun e : c = id => free (e ▸ hc)

/-- A new endpoint joins its hub under an id that no member has, or it does not. -/
theorem initLink_new (n : Network) (h : Nat) (faults : Faults) (id : PortId) :
    (∃ e, n.initLink (.member h {} faults) id = (.error e, .member h {} faults, n)) ∨
      id ∉ (n.hub h).ids ∧ n.initLink (.member h {} faults) id =
        (refused faults.init "init refused", .member h ⟨some id, none⟩ faults,
          n.join h ⟨id, none, false⟩) := by
  simp only [initLink]
  cases hh : (n.hub h).init {} id with
  | error e => exact .inl ⟨e, rfl⟩
  | ok joined =>
    obtain ⟨hub, endpoint⟩ := joined
    have free := Hub.not_mem_of_init hh
    obtain ⟨rfl, rfl⟩ := Hub.eq_of_init hh
    exact .inr ⟨free, rfl⟩

theorem ids_join (n : Network) {h : Nat} (lt : h < n.hubs.length) (y : Hub.Member Receiver) :
    ((n.join h y).hub h).ids = (n.hub h).ids ++ [y.id] := by
  rw [join, hub_setHub, if_pos ⟨rfl, lt⟩]
  simp [Hub.ids]

/-- What has just joined a hub leaves it again. -/
theorem tied_exit_join (n : Network) (i h : Nat) (r : Registry Reaction) (faults : Faults)
    (free : id ∉ (n.hub h).ids) :
    Tied n (((n.join h ⟨id, none, false⟩).setNode i r).exitLink
      (.member h ⟨some id, none⟩ faults)).2 := by
  refine ⟨fun j => ?_, by simp [exitLink, setHub, join, setNode], rfl⟩
  have joined (j : Nat) : ((n.join h ⟨id, none, false⟩).setNode i r).hub j =
      (n.join h ⟨id, none, false⟩).hub j := rfl
  have length : ((n.join h ⟨id, none, false⟩).setNode i r).hubs.length = n.hubs.length := by
    simp [setNode, join, setHub]
  simp only [exitLink, hub_setHub, joined, length]
  by_cases hj : h = j ∧ h < n.hubs.length
  · obtain ⟨rfl, lt⟩ := hj
    rw [if_pos ⟨rfl, lt⟩, Hub.ids_exit rfl, ids_join n lt, filter_of_joined free]
  · rw [if_neg hj, join, hub_setHub, if_neg hj]

theorem tied_exit_new (n : Network) (i h : Nat) (r : Registry Reaction) (faults : Faults) :
    Tied n ((n.setNode i r).exitLink (.member h {} faults)).2 :=
  have placed : Tied n (n.setNode i r) := tied_of_same rfl rfl
  placed.trans (tied_setHub rfl)

theorem tied_hookLink (n : Network) (link : Link) (r : Receiver) :
    Tied n (n.hookLink link r).2 := by
  cases link with
  | member h endpoint faults => exact tied_setHub (Hub.ids_setHook _ _ _)
  | datagram s => exact tied_of_same rfl rfl

/-- A gateway joins the hub that it is made on, or the hub is as it was. -/
theorem members_createGateway (n : Network) (i : Nat) (id : PortId) {h : Nat}
    (lt : h < n.hubs.length) (faults : Faults) (ingress : QueueConfig) :
    match n.createGateway i id (.member h {} faults) ingress with
    | (.ok _, m) => (m.hub h).ids = (n.hub h).ids ++ [id] ∧ id ∉ (n.hub h).ids ∧
        m.hubs.length = n.hubs.length ∧
        ∃ hook, m.links = n.links ++ [.member h ⟨some id, hook⟩ faults]
    | (.error _, m) => Tied n m := by
  unfold createGateway
  by_cases single : id.isReserved = true
  · rw [if_pos single]
    exact .refl n
  · rw [if_neg single]
    cases (n.node i).createPort id with
    | error e => exact .refl n
    | ok made =>
      obtain ⟨port, r⟩ := made
      have ported : Tied n (n.setNode i (r.setReaction port .copy)) := tied_of_same rfl rfl
      have lt : h < (n.setNode i (r.setReaction port .copy)).hubs.length := lt
      dsimp only
      generalize n.setNode i (r.setReaction port .copy) = n₁ at ported lt ⊢
      rcases initLink_new n₁ h faults id with ⟨e, fails⟩ | ⟨free, joins⟩
      · rw [fails]
        exact ported.trans (tied_exit_new n₁ i h _ faults)
      · rw [joins]
        cases faults.init with
        | true => exact ported.trans (tied_exit_join n₁ i h _ faults free)
        | false =>
          have hooked := tied_hookLink (n₁.join h ⟨id, none, false⟩)
            (.member h ⟨some id, none⟩ faults) (.gateway n₁.gateways.length)
          refine ⟨?_, ported.members h ▸ free, ?_, some (.gateway n₁.gateways.length), ?_⟩
          · exact (hooked.members h).trans ((ids_join n₁ lt _).trans
              (congrArg (· ++ [id]) (ported.members h)))
          · have joined : (n₁.join h ⟨id, none, false⟩).hubs.length = n₁.hubs.length := by
              simp [join, setHub]
            exact hooked.hubs.trans (joined.trans ported.hubs)
          · show List.map Gateway.link (n₁.gateways ++ [_]) = _
            rw [List.map_append]
            exact congrArg (· ++ [_]) ported.links

/-- A gateway that is dropped leaves the hub under its id. -/
theorem members_drop {h g : Nat} {gw : Gateway} {hook : Option Receiver} {faults : Faults}
    (lt : h < n.hubs.length) (hg : n.gateways[g]? = some gw)
    (link : gw.link = .member h ⟨some gw.id, hook⟩ faults) :
    ((n.drop (.gateway g)).hub h).ids = (n.hub h).ids.filter (fun c => c != gw.id) ∧
      (n.drop (.gateway g)).hubs.length = n.hubs.length ∧
      ∀ k, k ≠ g → (n.drop (.gateway g)).links[k]? = n.links[k]? := by
  have stopped : Tied n (n.stopGateway g).2 := tied_stop n (.gateway g)
  have lt₁ : h < (n.stopGateway g).2.hubs.length := stopped.hubs ▸ lt
  simp only [drop, dropGateway, hg, link, exitLink]
  refine ⟨?_, (by simp [setNode, modifyGateway, setHub] : _ = _).trans stopped.hubs, fun k ne => ?_⟩
  · show Hub.ids (((n.stopGateway g).2.setHub h _).hub h) = _
    rw [hub_setHub, if_pos ⟨rfl, lt₁⟩, Hub.ids_exit rfl, stopped.members]
  · rw [← stopped.links]
    simp only [links, setNode, modifyGateway, setHub, List.getElem?_map, List.getElem?_modify,
      if_neg (Ne.symm ne)]
    cases (n.stopGateway g).2.gateways[k]? <;> rfl

theorem tied_dropSession (n : Network) (s : Nat) : Tied n (n.dropSession s) := by
  unfold dropSession
  split
  · exact .refl n
  · exact (tied_stop n (.session s)).trans (tied_of_same rfl rfl)

theorem tied_createSession (n : Network) (i : Nat) (id : PortId) :
    Tied n (n.createSession i id).2 := by
  unfold createSession
  split
  · exact .refl n
  · split
    · exact .refl n
    · split
      · exact tied_of_same rfl rfl
      · exact tied_of_same rfl rfl

/-! ## Lives on one hub -/

/-- The members of a hub are the live gateways of a node, which are linked to it. -/
structure Attached (n : Network) (i h : Nat) : Prop where
  lt : h < n.hubs.length
  links : ∀ g x, n.outline? i (.gateway g) = some x → x.live = true →
    ∃ hook, (n.links[g]?).map Link.faultless = some (.member h ⟨some x.id, hook⟩ {})
  members : ∀ id, id ∈ (n.hub h).ids ↔
    ∃ g x, n.outline? i (.gateway g) = some x ∧ x.live = true ∧ x.id = id
  once : (n.hub h).ids.Nodup

/-- What goes on beside a node leaves a hub and those who are linked to it alone, but for what the
links answer. -/
structure BesideHub (i h : Nat) (n m : Network) : Prop extends Beside i n m where
  lt : h < n.hubs.length → h < m.hubs.length
  members : (m.hub h).ids = (n.hub h).ids
  links : ∀ g x, n.outline? i (.gateway g) = some x →
    (m.links[g]?).map Link.faultless = (n.links[g]?).map Link.faultless

variable {h : Nat}

theorem attached_of_same (same : ∀ g, m.outline? i (.gateway g) = n.outline? i (.gateway g))
    (lt : h < m.hubs.length) (members : (m.hub h).ids = (n.hub h).ids)
    (links : ∀ g x, n.outline? i (.gateway g) = some x →
      (m.links[g]?).map Link.faultless = (n.links[g]?).map Link.faultless)
    (ha : n.Attached i h) : m.Attached i h := by
  refine ⟨lt, fun g x hx live => ?_, fun id => ?_, members ▸ ha.once⟩
  · rw [same] at hx
    rw [links g x hx]
    exact ha.links g x hx live
  · rw [members, ha.members]
    simp only [same]

theorem attached_of_tied (same : ∀ g, m.outline? i (.gateway g) = n.outline? i (.gateway g))
    (t : Tied n m) (ha : n.Attached i h) : m.Attached i h :=
  attached_of_same same (t.hubs ▸ ha.lt) (t.members h) (fun _ _ _ => by rw [t.links]) ha

theorem attached_of_createGateway (ht : n.Tidy i) (ha : n.Attached i h) (id : PortId)
    (faults : Faults) (ingress : QueueConfig) :
    (n.createGateway i id (.member h {} faults) ingress).2.Attached i h := by
  have made := createGateway_spec ht.lt (known_of_exact ht.exact) id (.member h {} faults) ingress
  have members := members_createGateway n i id ha.lt faults ingress
  rcases e : n.createGateway i id (.member h {} faults) ingress with ⟨result, m⟩
  rw [e] at made members
  cases result with
  | error e =>
    exact attached_of_tied (fun g => congrFun (outline?_of_undone made) (.gateway g)) members ha
  | ok g =>
    obtain ⟨rfl, added⟩ := made
    obtain ⟨ids, free, hubs, hook, links⟩ := members
    have owners (k : Nat) : m.outline? i (.gateway k) = if k = n.gateways.length then
        some ⟨id, (n.roster i).ports.length, true, false⟩ else n.outline? i (.gateway k) := by
      have e : m.outline? i (.gateway k) = ((n.roster i).add (.gateway n.gateways.length) id).owner?
        (.gateway k) := congrArg (·.owner? (.gateway k)) added.roster
      rw [e, Roster.owner?_add]
      simp only [Owner.gateway.injEq]
      rfl
    have length : n.links.length = n.gateways.length := List.length_map _
    refine ⟨hubs ▸ ha.lt, fun k x hx live => ?_, fun c => ?_, ?_⟩
    · rw [owners] at hx
      rw [links, getElem?_concat, length]
      split at hx
      · next e =>
        cases hx
        exact ⟨hook, by rw [if_pos e]; rfl⟩
      · next ne =>
        rw [if_neg ne]
        exact ha.links k x hx live
    · rw [ids, List.mem_append, List.mem_singleton, ha.members]
      constructor
      · rintro (⟨k, x, hx, live, rfl⟩ | rfl)
        · have ne : k ≠ n.gateways.length := by
            rintro rfl
            rw [added.new] at hx
            cases hx
          exact ⟨k, x, by rw [owners, if_neg ne, hx], live, rfl⟩
        · exact ⟨_, _, by rw [owners, if_pos rfl], rfl, rfl⟩
      · rintro ⟨k, x, hx, live, rfl⟩
        rw [owners] at hx
        split at hx
        · cases hx
          exact .inr rfl
        · exact .inl ⟨k, x, hx, live, rfl⟩
    · rw [ids]
      exact (List.perm_append_singleton id _).nodup_iff.2 (List.nodup_cons.2 ⟨free, ha.once⟩)

theorem attached_of_dropGateway (ht : n.Tidy i) (ha : n.Attached i h) {g : Nat}
    (hx : n.outline? i (.gateway g) = some x) (live : x.live = true) :
    (n.drop (.gateway g)).Attached i h := by
  obtain ⟨runs, st, -⟩ := ht.steady _ x hx
  have gone := drop_spec ht.lt ht.exact hx live st
  obtain ⟨gw, hg, node, rfl⟩ := outline?_gateway.1 hx
  obtain ⟨hook, link⟩ := ha.links g _ hx live
  obtain ⟨faults, link⟩ : ∃ faults, gw.link = .member h ⟨some gw.id, hook⟩ faults :=
    Link.eq_of_faultless (by simpa [Network.links, hg, Gateway.outline] using link)
  obtain ⟨ids, hubs, others⟩ := members_drop ha.lt hg link
  have owners (o : Owner) : (n.drop (.gateway g)).outline? i o =
      if o = .gateway g then some gw.outline.gone else n.outline? i o :=
    (congrFun gone.leaves.owner? o).trans (Function.update_apply ..)
  refine ⟨hubs ▸ ha.lt, fun k x hx live => ?_, fun c => ?_, ?_⟩
  · rw [owners] at hx
    split at hx
    · cases hx
      cases live
    · next ne =>
      have e := others k fun e => ne (by rw [e])
      exact e ▸ ha.links k x hx live
  · rw [ids, List.mem_filter, ha.members]
    constructor
    · rintro ⟨⟨k, y, hy, live', rfl⟩, other⟩
      have ne : Owner.gateway k ≠ .gateway g := by
        rintro e
        rw [e, hx] at hy
        cases hy
        simp [Gateway.outline] at other
      exact ⟨k, y, by rw [owners, if_neg ne, hy], live', rfl⟩
    · rintro ⟨k, y, hy, live', rfl⟩
      rw [owners] at hy
      split at hy
      · cases hy
        cases live'
      · next ne =>
        refine ⟨⟨k, y, hy, live', rfl⟩, ?_⟩
        simpa using fun e : y.id = gw.id => ne (ht.exact.sole_id hy hx live' live e)
  · exact ids ▸ ha.once.filter _

theorem roster_start (threads : Threads) (ht : n.Tidy i) (hx : n.outline? i o = some x) :
    (n.start threads o).2.roster i = n.roster i := by
  obtain ⟨runs, st, -⟩ := ht.steady o x hx
  cases runs with
  | true => rw [start_of_running threads st.running]
  | false =>
    obtain ⟨-, launched, halted⟩ := start_spec threads ht.lt ht.exact hx st.running
    by_cases agrees : n.startAnswer threads o = .ok ()
    · exact (launched agrees).roster
    · rcases halted agrees with same | halt
      · rw [same]
      · exact halt.roster

theorem roster_stop (ht : n.Tidy i) (hx : n.outline? i o = some x) :
    (n.stop o).2.roster i = n.roster i := by
  obtain ⟨runs, st, -⟩ := ht.steady o x hx
  exact (stopped_first ht.lt ht.exact hx st).2.1

/-- Sessions come and go without the gateways. -/
theorem outline?_gateway_of_createSession (ht : n.Tidy i) (id : PortId) (g : Nat) :
    (n.createSession i id).2.outline? i (.gateway g) = n.outline? i (.gateway g) := by
  have made := createSession_spec ht.lt id
  rcases e : n.createSession i id with ⟨result, m⟩
  rw [e] at made
  cases result with
  | error e => exact congrFun (outline?_of_undone made) (.gateway g)
  | ok s =>
    have owner : m.outline? i (.gateway g) = ((n.roster i).add (.session s) id).owner?
        (.gateway g) := congrArg (·.owner? (.gateway g)) made.2.roster
    rw [owner, Roster.owner?_add, if_neg (by simp)]
    rfl

theorem attached_of_call (ht : n.Tidy i) (ha : n.Attached i h) {c : Call}
    {result : Except BusError Unit} (may : c.OnHub h) (admits : n.Admits i c)
    (e : n.perform i c = (result, m)) : m.Attached i h := by
  obtain rfl : (n.perform i c).2 = m := congrArg Prod.snd e
  cases c with
  | createGateway id link ingress =>
    obtain ⟨faults, rfl⟩ := may
    exact attached_of_createGateway ht ha id faults ingress
  | createSession id =>
    exact attached_of_tied (outline?_gateway_of_createSession ht id) (tied_createSession n i id) ha
  | start o threads =>
    obtain ⟨x, hx, -⟩ := admits
    have same := congrArg Roster.owner? (roster_start threads ht hx)
    exact attached_of_tied (fun g => congrFun same (.gateway g)) (tied_start n threads o) ha
  | stop o =>
    obtain ⟨x, hx, -⟩ := admits
    have same := congrArg Roster.owner? (roster_stop ht hx)
    exact attached_of_tied (fun g => congrFun same (.gateway g)) (tied_stop n o) ha
  | drop o =>
    obtain ⟨x, hx, live⟩ := admits
    cases o with
    | gateway g => exact attached_of_dropGateway ht ha hx live
    | session s =>
      obtain ⟨runs, st, -⟩ := ht.steady _ x hx
      have gone := drop_spec ht.lt ht.exact hx live st
      have same (g : Nat) : (n.drop (.session s)).outline? i (.gateway g) =
          n.outline? i (.gateway g) :=
        (congrFun gone.leaves.owner? (.gateway g)).trans (Function.update_of_ne (by simp) ..)
      exact attached_of_tied same (tied_dropSession n s) ha

theorem attached_of_step (ht : n.Tidy i) (ha : n.Attached i h)
    (hs : Step i (Call.OnHub h) (BesideHub i h) n m) : m.Attached i h := by
  cases hs with
  | call c may admits answers => exact attached_of_call ht ha may admits answers
  | move hx hmv moves =>
    have made := made_of_move moves
    have same := blank_of_own_move (copiesAt_of_exact ht.exact) hx hmv moves
    exact attached_of_tied (fun g => outline?_of_blank same (.gateway g))
      (tied_of_same made.hubs made.links) ha
  | beside b =>
    exact attached_of_same (fun g => congrFun b.owners (.gateway g)) (b.lt ha.lt) b.members b.links
      ha

theorem attached_of_run (hf : Fresh n i) (lt : h < n.hubs.length) (empty : n.hub h = .empty)
    (hr : Relation.ReflTransGen (Step i (Call.OnHub h) (BesideHub i h)) n m) :
    m.Attached i h := by
  induction hr with
  | refl =>
    refine ⟨lt, fun g x hx => ?_, fun id => ?_, ?_⟩
    · rw [hf.owners] at hx
      cases hx
    · simp [empty, Hub.empty, Hub.ids, hf.owners]
    · simp [empty, Hub.empty, Hub.ids]
  | tail before last ih =>
    exact attached_of_step (tidy_of_run (fun _ _ b => b.toBeside) hf before) ih last

end Network

end FrameBus
