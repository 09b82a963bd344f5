import FrameBus.Proofs.Lifecycle.Waiting

/-!
# Starts and stops

What a start and a stop of one owner come to, whatever its link answers. A stop halts the owner
(`Halted`): the flag is cleared, the port disconnected, and the workers are waited for
(`stop_spec`). A start sets the owner to work (`Launched`), or it lacks a thread or its link
refuses, and it is halted again (`start_spec`). Both spare every other owner.
-/

namespace FrameBus.Network

variable {n m k : Network} {i : Nat} {o : Owner} {h : Handle} {x : Outline}

/-! ## Links -/

theorem eq_startLink (n : Network) (link : Link) :
    ∃ hubs sockets, (n.startLink link).2 = { n with hubs, sockets } := by
  cases link with
  | member h endpoint faults =>
    simp only [startLink]
    split
    · exact ⟨_, _, rfl⟩
    · exact ⟨_, _, rfl⟩
  | datagram s =>
    simp only [startLink]
    split
    · exact ⟨_, _, rfl⟩
    · split
      · exact ⟨_, _, rfl⟩
      · exact ⟨_, _, rfl⟩

theorem eq_stopLink (n : Network) (link : Link) :
    ∃ hubs sockets, (n.stopLink link).2 = { n with hubs, sockets } := by
  cases link <;> exact ⟨_, _, rfl⟩

theorem eq_exitLink (n : Network) (link : Link) :
    ∃ hubs sockets, (n.exitLink link).2 = { n with hubs, sockets } := by
  cases link <;> exact ⟨_, _, rfl⟩

theorem eq_hookLink (n : Network) (link : Link) (r : Receiver) :
    ∃ hubs sockets, (n.hookLink link r).2 = { n with hubs, sockets } := by
  cases link <;> exact ⟨_, _, rfl⟩

theorem eq_initLink (n : Network) (link : Link) (id : PortId) :
    ∃ hubs sockets, (n.initLink link id).2.2 = { n with hubs, sockets } := by
  cases link with
  | member h endpoint faults =>
    simp only [initLink]
    split
    · exact ⟨_, _, rfl⟩
    · exact ⟨_, _, rfl⟩
  | datagram s =>
    simp only [initLink]
    split
    · exact ⟨_, _, rfl⟩
    · split
      · exact ⟨_, _, rfl⟩
      · exact ⟨_, _, rfl⟩

/-- The links are not on the roster, and nobody stands on them. -/
theorem spares_links (n : Network) (hubs : List (Hub Receiver)) (sockets : List Datagram.Socket) :
    Spares i o h n { n with hubs, sockets } where
  running o' _ := by cases o' <;> rfl
  workers _ _ mv _ := by cases mv <;> rfl
  connected _ _ := rfl

theorem roster_links (n : Network) (hubs : List (Hub Receiver)) (sockets : List Datagram.Socket) :
    ({ n with hubs, sockets } : Network).roster i = n.roster i := by
  have owners : ({ n with hubs, sockets } : Network).outline? i = n.outline? i := by
    funext o
    cases o <;> rfl
  rw [roster, owners]
  rfl

theorem Stands.linked {runs : Bool} (st : n.Stands i o h runs) (hubs : List (Hub Receiver))
    (sockets : List Datagram.Socket) : Stands { n with hubs, sockets } i o h runs :=
  st.of_same (by cases o <;> rfl) rfl fun mv _ => by cases mv <;> rfl

theorem answer_of_links (hubs : n.hubs = m.hubs) (sockets : n.sockets = m.sockets) (link : Link) :
    (n.startLink link).1 = (m.startLink link).1 := by
  cases link with
  | member h endpoint faults =>
    have hub : n.hub h = m.hub h := by rw [Network.hub, hubs, Network.hub]
    simp only [startLink, hub]
    split <;> rfl
  | datagram s =>
    simp only [startLink, sockets]
    split
    · rfl
    · split <;> rfl

/-! ## Changes of one owner -/

/-- An owner changes, in what the two kinds of owners have of it. -/
def alter (n : Network) (F : Gateway → Gateway) (G : Session → Session) : Owner → Network
  | .gateway g => n.modifyGateway g F
  | .session s => n.modifySession s G

def setRunning (n : Network) (o : Owner) (running : Bool) : Network :=
  n.alter (fun gw => { gw with running }) (fun ss => { ss with running }) o

/-- The workers of an owner begin. -/
def launch (n : Network) (o : Owner) : Network :=
  n.alter (fun gw => { gw with running := true, uplink := .polling, downlink := .polling })
    (fun ss => { ss with running := true, worker := .polling }) o

section

variable {F : Gateway → Gateway} {G : Session → Session}

theorem spares_alter (n : Network) (F : Gateway → Gateway) (G : Session → Session) :
    Spares i o h n (n.alter F G o) := by
  refine ⟨fun o' ne => ?_, fun o' ne mv hmv => ?_, fun j _ => ?_⟩
  · cases o with
    | gateway g =>
      cases o' with
      | session s => rfl
      | gateway k =>
        have other : ¬ g = k := fun e => ne (by rw [e])
        simp only [running?, alter, getElem?_modifyGateway, if_neg other]
    | session s =>
      cases o' with
      | gateway g => rfl
      | session k =>
        have other : ¬ s = k := fun e => ne (by rw [e])
        simp only [running?, alter, getElem?_modifySession, if_neg other]
  · cases o with
    | gateway g =>
      cases o' with
      | session s =>
        obtain rfl := List.mem_singleton.1 hmv
        rfl
      | gateway k =>
        have other : ¬ g = k := fun e => ne (by rw [e])
        rcases List.mem_pair.1 hmv with rfl | rfl <;>
          simp only [worker?, alter, getElem?_modifyGateway, if_neg other]
    | session s =>
      cases o' with
      | gateway g => rcases List.mem_pair.1 hmv with rfl | rfl <;> rfl
      | session k =>
        have other : ¬ s = k := fun e => ne (by rw [e])
        obtain rfl := List.mem_singleton.1 hmv
        simp only [worker?, alter, getElem?_modifySession, if_neg other]
  · cases o <;> rfl

theorem outline?_alter_of_ne {o' : Owner} (ne : o' ≠ o) :
    (n.alter F G o).outline? i o' = n.outline? i o' := by
  cases o with
  | gateway g =>
    cases o' with
    | session s => rfl
    | gateway k =>
      have other : ¬ g = k := fun e => ne (by rw [e])
      simp only [outline?, alter, getElem?_modifyGateway, if_neg other]
  | session s =>
    cases o' with
    | gateway g => rfl
    | session k =>
      have other : ¬ s = k := fun e => ne (by rw [e])
      simp only [outline?, alter, getElem?_modifySession, if_neg other]

/-- The outline of the owner that changes. -/
theorem outline?_alter_self {f : Outline → Outline}
    (gateway : ∀ gw, (F gw).node = gw.node ∧ (F gw).outline = f gw.outline)
    (session : ∀ ss, (G ss).node = ss.node ∧ (G ss).outline = f ss.outline) :
    (n.alter F G o).outline? i o = (n.outline? i o).map f := by
  cases o with
  | gateway g =>
    simp only [outline?, alter, getElem?_modifyGateway, if_true]
    cases n.gateways[g]? with
    | none => rfl
    | some gw =>
      by_cases e : gw.node = i <;> simp [Option.filter, gateway, e]
  | session s =>
    simp only [outline?, alter, getElem?_modifySession, if_true]
    cases n.sessions[s]? with
    | none => rfl
    | some ss =>
      by_cases e : ss.node = i <;> simp [Option.filter, session, e]

/-- An owner changes, but not in its outline. -/
theorem roster_alter (gateway : ∀ gw, (F gw).node = gw.node ∧ (F gw).outline = gw.outline)
    (session : ∀ ss, (G ss).node = ss.node ∧ (G ss).outline = ss.outline) :
    (n.alter F G o).roster i = n.roster i := by
  have roll : ((n.alter F G o).node i).roll = (n.node i).roll := by cases o <;> rfl
  have owners : (n.alter F G o).outline? i = n.outline? i := by
    funext o'
    by_cases e : o' = o
    · subst e
      rw [outline?_alter_self (f := id) gateway session, Option.map_id_fun, id]
    · exact outline?_alter_of_ne e
  rw [roster, roll, owners, roster]

end

theorem roster_setRunning (n : Network) (o : Owner) (running : Bool) :
    (n.setRunning o running).roster i = n.roster i :=
  roster_alter (fun _ => ⟨rfl, rfl⟩) fun _ => ⟨rfl, rfl⟩

theorem roster_launch (n : Network) (o : Owner) : (n.launch o).roster i = n.roster i :=
  roster_alter (fun _ => ⟨rfl, rfl⟩) fun _ => ⟨rfl, rfl⟩

theorem modifyGateway_modifyGateway (n : Network) (g : Nat) (F F' : Gateway → Gateway) :
    (n.modifyGateway g F).modifyGateway g F' = n.modifyGateway g (F' ∘ F) := by
  simp only [modifyGateway, List.modify_modify_eq]

theorem modifyGateway_setPortState (n : Network) (g : Nat) (F : Gateway → Gateway) (s : PortState) :
    (n.setPortState i h s).modifyGateway g F = (n.modifyGateway g F).setPortState i h s := rfl

theorem modifySession_modifySession (n : Network) (s : Nat) (G G' : Session → Session) :
    (n.modifySession s G).modifySession s G' = n.modifySession s (G' ∘ G) := by
  simp only [modifySession, List.modify_modify_eq]

/-- A session that comes back to what it was. -/
theorem modifySession_of_same {s : Nat} {ss : Session} {G : Session → Session}
    (hs : n.sessions[s]? = some ss) (same : G ss = ss) : n.modifySession s G = n := by
  have sessions : n.sessions.modify s G = n.sessions := by
    refine List.ext_getElem? fun k => ?_
    by_cases e : s = k
    · subst e
      simp [hs, same]
    · simp [e]
  rw [modifySession, sessions]

theorem running?_setRunning (hx : n.outline? i o = some x) (b : Bool) :
    (n.setRunning o b).running? o = some b := by
  cases o with
  | gateway g =>
    obtain ⟨gw, hg, -⟩ := outline?_gateway.1 hx
    simp [setRunning, alter, running?, getElem?_modifyGateway, hg]
  | session s =>
    obtain ⟨ss, hs, -⟩ := outline?_session.1 hx
    simp [setRunning, alter, running?, getElem?_modifySession, hs]

theorem launched (hx : n.outline? i o = some x) : (n.launch o).running? o = some true ∧
    ∀ mv ∈ o.moves, (n.launch o).worker? mv = some .polling := by
  cases o with
  | gateway g =>
    obtain ⟨gw, hg, -⟩ := outline?_gateway.1 hx
    refine ⟨by simp [launch, alter, running?, getElem?_modifyGateway, hg], fun mv hmv => ?_⟩
    rcases List.mem_pair.1 hmv with rfl | rfl <;>
      simp [launch, alter, worker?, getElem?_modifyGateway, hg]
  | session s =>
    obtain ⟨ss, hs, -⟩ := outline?_session.1 hx
    refine ⟨by simp [launch, alter, running?, getElem?_modifySession, hs], fun mv hmv => ?_⟩
    obtain rfl := List.mem_singleton.1 hmv
    simp [launch, alter, worker?, getElem?_modifySession, hs]

/-! ## States of ports -/

theorem spares_setPortState (n : Network) (s : PortState) :
    Spares i o h n (n.setPortState i h s) where
  running _ _ := rfl
  workers _ _ mv _ := by cases mv <;> rfl
  connected j ne := by
    rw [setPortState, node_setNode]
    split
    · rw [Registry.setState, Registry.isConnected, Registry.port?_modify, if_neg (Ne.symm ne)]
      rfl
    · rfl

theorem isConnected_setPortState (hi : i < n.nodes.length) (he : (n.roster i).Exact)
    (hx : n.outline? i o = some x) (s : PortState) :
    ((n.setPortState i x.port s).node i).isConnected x.port = (s == .conn) := by
  have known : x.port < (n.node i).ports.length := length_ports_roster n i ▸ he.known hx
  rw [setPortState, node_setNode, if_pos ⟨rfl, hi⟩, Registry.setState, Registry.isConnected,
    Registry.port?_modify, if_pos rfl, Registry.port?, List.getElem?_eq_getElem known]
  rfl

/-! ## Starts and stops -/

/-- An owner was halted, whatever its workers did meanwhile. -/
structure Halted (i : Nat) (o : Owner) (x : Outline) (n m : Network) : Prop where
  nodes : m.nodes.length = n.nodes.length
  roster : m.roster i = n.roster i
  spares : Spares i o x.port n m
  stands : m.Stands i o x.port false
  settled : m.Settled o

theorem Halted.after {k : Network} (nodes : k.nodes.length = n.nodes.length)
    (roster : k.roster i = n.roster i) (spares : Spares i o x.port n k) (h : Halted i o x k m) :
    Halted i o x n m :=
  ⟨h.nodes.trans nodes, h.roster.trans roster, spares.trans h.spares, h.stands, h.settled⟩

/-- The flag of an owner is cleared, and its port disconnected. -/
def part (n : Network) (i : Nat) (o : Owner) (h : Handle) : Network :=
  (n.setRunning o false).setPortState i h .disconn

theorem roster_part (n : Network) (i : Nat) (o : Owner) (h : Handle) :
    (n.part i o h).roster i = n.roster i :=
  (roster_setPortState _ _ _ _).trans (roster_setRunning n o false)

theorem halted (hi : i < n.nodes.length) (he : (n.roster i).Exact) (hx : n.outline? i o = some x)
    (h : Awaited o (n.part i o x.port) m) : Halted i o x n m := by
  have cleared : (n.setRunning o false).roster i = n.roster i := roster_setRunning n o false
  have parted : (n.part i o x.port).roster i = n.roster i := roster_part n i o x.port
  have hx₁ : (n.setRunning o false).outline? i o = some x :=
    (congrArg (·.owner? o) cleared).trans hx
  have hx₂ : (n.part i o x.port).outline? i o = some x := hx₁
  obtain ⟨same, spares⟩ := blank_of_runs (copiesAt_of_exact (parted ▸ he)) hx₂ h.runs
  have length : (n.setRunning o false).nodes.length = n.nodes.length := by cases o <;> rfl
  have idle : (n.part i o x.port).running? o = some false := running?_setRunning hx false
  have settled := h.settled idle
  refine ⟨?_, (roster_of_blank same i).trans parted, ?_, ⟨(running?_of_blank same o).trans idle, ?_,
    by simp, fun _ _ hmv => settled.rest hmv⟩, settled⟩
  · rw [length_nodes_of_blank same, part, setPortState, setNode, List.length_set, length]
  · exact ((spares_alter n _ _).trans (spares_setPortState _ _)).trans (spares x.port)
  · rw [Registry.isConnected_of_blank (node_of_blank same i), part,
      isConnected_setPortState (length ▸ hi) (cleared ▸ he) hx₁]
    rfl

def start (n : Network) (threads : Threads) : Owner → Except BusError Unit × Network
  | .gateway g => n.startGateway g threads
  | .session s => n.startSession s threads

def stop (n : Network) : Owner → Except BusError Unit × Network
  | .gateway g => n.stopGateway g
  | .session s => n.stopSession s

theorem start_of_running (threads : Threads) (h : n.running? o = some true) :
    n.start threads o = (.error .alreadyRunning, n) := by
  cases o with
  | gateway g =>
    obtain ⟨gw, hg, runs⟩ := Option.map_eq_some_iff.1 h
    simp [start, startGateway, hg, runs]
  | session s =>
    obtain ⟨ss, hs, runs⟩ := Option.map_eq_some_iff.1 h
    simp [start, startSession, hs, runs]

theorem stop_of_stopped (h : n.running? o = some false) : n.stop o = (.error .notRunning, n) := by
  cases o with
  | gateway g =>
    obtain ⟨gw, hg, runs⟩ := Option.map_eq_some_iff.1 h
    simp [stop, stopGateway, hg, runs]
  | session s =>
    obtain ⟨ss, hs, runs⟩ := Option.map_eq_some_iff.1 h
    simp [stop, stopSession, hs, runs]

/-- A stop halts the owner, whatever becomes of the links. -/
theorem awaited_stop (hx : n.outline? i o = some x) (runs : n.running? o = some true) :
    ∃ hubs sockets,
      Awaited o (({ n with hubs, sockets } : Network).part i o x.port) (n.stop o).2 := by
  cases o with
  | gateway g =>
    obtain ⟨gw, hg, rfl, rfl⟩ := outline?_gateway.1 hx
    have runs : gw.running = true := by simpa [running?, hg] using runs
    obtain ⟨hubs, sockets, stopped⟩ := eq_stopLink n gw.link
    have e : (n.stop (.gateway g)).2 = ({ n with hubs, sockets } : Network).haltGateway g gw := by
      simp [stop, stopGateway, hg, runs, stopped]
    exact ⟨hubs, sockets, e ▸ awaited_gateway _ g⟩
  | session s =>
    obtain ⟨ss, hs, rfl, rfl⟩ := outline?_session.1 hx
    have runs : ss.running = true := by simpa [running?, hs] using runs
    have e : (n.stop (.session s)).2 = joinSession s 64 (n.part ss.node (.session s) ss.port) := by
      simp [stop, stopSession, haltSession, hs, runs, part, setRunning, alter]
    exact ⟨n.hubs, n.sockets, e ▸ awaited_session _ s⟩

/-- What is left of a worker's start when its thread was asked for. -/
def ready (worker : String) : Option ThreadFault → Except BusError Unit
  | none => .ok ()
  | some fault => .error (fault.failure worker)

/-- What the host answers to the threads of an owner's start. -/
def threadAnswer (threads : Threads) : Owner → Except BusError Unit
  | .gateway _ => (ready "uplink" threads.uplink).bind fun _ => ready "downlink" threads.downlink
  | .session _ => ready "event" threads.worker

/-- What the host and the link of an owner answer to a start; a session has no link. -/
def startAnswer (n : Network) (threads : Threads) : Owner → Except BusError Unit
  | .gateway g => match n.gateways[g]? with
    | none => .error .notRunning
    | some gw => (threadAnswer threads (.gateway g)).bind fun _ =>
        (n.startReceiver gw.link threads.receiver).1
  | .session s => threadAnswer threads (.session s)

/-! ## On the way to a start -/

/-- Changes of an owner in its flag and its workers alone. -/
structure Modest (F : Gateway → Gateway) (G : Session → Session) : Prop where
  gateway : ∀ gw, (F gw).node = gw.node ∧ (F gw).outline = gw.outline
  session : ∀ ss, (G ss).node = ss.node ∧ (G ss).outline = ss.outline

/-- One network after another: something was done to an owner, to its port or to the links. -/
inductive Prepares (i : Nat) (o : Owner) (h : Handle) : Network → Network → Prop
  | owner {n : Network} {F : Gateway → Gateway} {G : Session → Session} :
      Modest F G → Prepares i o h n (n.alter F G o)
  | port {n : Network} (s : PortState) : Prepares i o h n (n.setPortState i h s)
  | links {n : Network} (hubs : List (Hub Receiver)) (sockets : List Datagram.Socket) :
      Prepares i o h n { n with hubs, sockets }

theorem prepares_gateway {g : Nat} {F : Gateway → Gateway}
    (modest : ∀ gw, (F gw).node = gw.node ∧ (F gw).outline = gw.outline) :
    Prepares i (.gateway g) h n (n.modifyGateway g F) :=
  .owner (G := id) ⟨modest, fun _ => ⟨rfl, rfl⟩⟩

theorem prepares_session {s : Nat} {G : Session → Session}
    (modest : ∀ ss, (G ss).node = ss.node ∧ (G ss).outline = ss.outline) :
    Prepares i (.session s) h n (n.modifySession s G) :=
  .owner (F := id) ⟨fun _ => ⟨rfl, rfl⟩, modest⟩

theorem nodes_of_prepared (t : Relation.ReflTransGen (Prepares i o h) n m) :
    m.nodes.length = n.nodes.length := by
  induction t with
  | refl => rfl
  | tail _ last ih =>
    cases last with
    | owner => cases o <;> exact ih
    | port => rw [setPortState, setNode, List.length_set, ih]
    | links => exact ih

theorem roster_of_prepared (t : Relation.ReflTransGen (Prepares i o h) n m) :
    m.roster i = n.roster i := by
  induction t with
  | refl => rfl
  | tail _ last ih =>
    cases last with
    | owner modest => exact (roster_alter modest.gateway modest.session).trans ih
    | port => exact (roster_setPortState _ _ _ _).trans ih
    | links => exact (roster_links _ _ _).trans ih

theorem spares_of_prepared (t : Relation.ReflTransGen (Prepares i o h) n m) : Spares i o h n m := by
  induction t with
  | refl => exact .refl n
  | tail _ last ih =>
    cases last with
    | owner => exact ih.trans (spares_alter _ _ _)
    | port s => exact ih.trans (spares_setPortState _ s)
    | links hubs sockets => exact ih.trans (spares_links _ hubs sockets)

/-- The link of a gateway is started as any link, or its receiver has no thread. -/
theorem startReceiver_cases (n : Network) (link : Link) (refusal : Option String) :
    n.startReceiver link refusal = n.startLink link ∨ (n.startReceiver link refusal).2 = n := by
  cases link with
  | member hub endpoint faults => exact .inl rfl
  | datagram s =>
    cases refusal with
    | none => exact .inl rfl
    | some reason => exact .inr rfl

theorem answer_of_receiver (hubs : n.hubs = m.hubs) (sockets : n.sockets = m.sockets) (link : Link)
    (refusal : Option String) :
    (n.startReceiver link refusal).1 = (m.startReceiver link refusal).1 := by
  have same := answer_of_links hubs sockets link
  cases link with
  | member hub endpoint faults => exact same
  | datagram s =>
    cases refusal with
    | none => exact same
    | some reason => simp only [startReceiver, same]

theorem eq_startReceiver (n : Network) (link : Link) (refusal : Option String) :
    ∃ hubs sockets, (n.startReceiver link refusal).2 = { n with hubs, sockets } := by
  rcases startReceiver_cases n link refusal with e | e
  · exact e ▸ eq_startLink n link
  · exact ⟨n.hubs, n.sockets, e⟩

/-- What is done for the start of a gateway until it is decided. -/
theorem prepared_launchGateway (n : Network) (g : Nat) (gw : Gateway) (threads : Threads) :
    Relation.ReflTransGen (Prepares gw.node (.gateway g) gw.port) n
      (n.launchGateway g gw threads).2 := by
  unfold launchGateway spawnWorkers
  cases threads.uplink with
  | some fault => exact .single (prepares_gateway fun _ => ⟨rfl, rfl⟩)
  | none =>
    have uplink : Prepares gw.node (.gateway g) gw.port n _ :=
      prepares_gateway (F := fun gw => { gw with uplink := .polling }) fun _ => ⟨rfl, rfl⟩
    have connected := (Relation.ReflTransGen.single uplink).tail (.port .conn)
    cases threads.downlink with
    | some fault => exact connected.tail (prepares_gateway fun _ => ⟨rfl, rfl⟩)
    | none =>
      have downlink := connected.tail
        (prepares_gateway (F := fun gw => { gw with downlink := .polling }) fun _ => ⟨rfl, rfl⟩)
      obtain ⟨hubs, sockets, e⟩ := eq_startReceiver _ gw.link threads.receiver
      exact e ▸ downlink.tail (.links hubs sockets)

theorem threadAnswer_gateway_eq_ok {threads : Threads} {g : Nat} :
    threadAnswer threads (.gateway g) = .ok () ↔
      threads.uplink = none ∧ threads.downlink = none := by
  unfold threadAnswer
  cases threads.uplink with
  | some fault => simp [ready, Except.bind]
  | none => cases threads.downlink <;> simp [ready, Except.bind]

/-- Both workers have their threads: they are launched, and the link starts. -/
theorem launchGateway_of_ready (n : Network) (g : Nat) (gw : Gateway) {threads : Threads}
    (ready : threadAnswer threads (.gateway g) = .ok ()) :
    (n.setRunning (.gateway g) true).launchGateway g gw threads =
      ((n.launch (.gateway g)).setPortState gw.node gw.port .conn).startReceiver gw.link
        threads.receiver := by
  obtain ⟨uplink, downlink⟩ := threadAnswer_gateway_eq_ok.1 ready
  simp only [launchGateway, spawnWorkers, uplink, downlink, setRunning, launch, alter,
    modifyGateway_setPortState, modifyGateway_modifyGateway]
  rfl

theorem launchGateway_of_fault (n : Network) (g : Nat) (gw : Gateway) {threads : Threads}
    {e : BusError} (fault : threadAnswer threads (.gateway g) = .error e) :
    (n.launchGateway g gw threads).1 = .error e := by
  unfold threadAnswer at fault
  unfold launchGateway spawnWorkers
  cases uplink : threads.uplink with
  | some _ => rw [uplink] at fault; cases fault; rfl
  | none =>
    cases downlink : threads.downlink with
    | some _ => rw [uplink, downlink] at fault; cases fault; rfl
    | none => rw [uplink, downlink] at fault; cases fault

/-- A gateway is launched if its workers have their threads and its link starts. -/
theorem launchGateway_spec {g : Nat} {gw : Gateway} (hg : n.gateways[g]? = some gw)
    (threads : Threads) :
    ((n.setRunning (.gateway g) true).launchGateway g gw threads).1 =
        n.startAnswer threads (.gateway g) ∧
      (n.startAnswer threads (.gateway g) = .ok () → ∃ hubs sockets,
        ((n.setRunning (.gateway g) true).launchGateway g gw threads).2 =
          { (n.launch (.gateway g)).setPortState gw.node gw.port .conn with hubs, sockets }) := by
  simp only [startAnswer, hg]
  cases answer : threadAnswer threads (.gateway g) with
  | error e => exact ⟨launchGateway_of_fault _ g gw answer, fun ok => by cases ok⟩
  | ok u =>
    let begun := (n.launch (.gateway g)).setPortState gw.node gw.port .conn
    have same := answer_of_receiver (n := begun) (m := n) rfl rfl gw.link threads.receiver
    rw [launchGateway_of_ready n g gw answer]
    exact ⟨same, fun _ => eq_startReceiver begun gw.link threads.receiver⟩

/-! ## What a start comes to -/

theorem startSession_spec {s : Nat} {ss : Session} (hs : n.sessions[s]? = some ss)
    (idle : ss.running = false) (threads : Threads) :
    (n.startSession s threads).1 = threadAnswer threads (.session s) ∧
      (threadAnswer threads (.session s) = .ok () → (n.startSession s threads).2 =
        (n.launch (.session s)).setPortState ss.node ss.port .conn) ∧
      (threadAnswer threads (.session s) ≠ .ok () → (n.startSession s threads).2 = n ∨
        ∃ begun, Relation.ReflTransGen (Prepares ss.node (.session s) ss.port) n begun ∧
          Awaited (.session s) (begun.part ss.node (.session s) ss.port)
            (n.startSession s threads).2) := by
  simp only [startSession, hs, idle, Bool.false_eq_true, if_false, threadAnswer]
  cases threads.worker with
  | none =>
    refine ⟨rfl, fun _ => ?_, fun refused => absurd rfl refused⟩
    rw [modifySession_modifySession]
    rfl
  | some fault =>
    refine ⟨rfl, fun ok => (by cases ok), fun _ => ?_⟩
    cases fault with
    | refused reason =>
      refine .inl ?_
      simp only [modifySession_modifySession]
      exact modifySession_of_same hs (by cases ss; cases idle; rfl)
    | lost =>
      let begun := (n.setRunning (.session s) true).modifySession s
        fun ss => { ss with worker := .ended }
      have flagged : Prepares ss.node (.session s) ss.port n (n.setRunning (.session s) true) :=
        prepares_session fun _ => ⟨rfl, rfl⟩
      have way := (Relation.ReflTransGen.single flagged).tail
        (prepares_session (G := fun ss => { ss with worker := .ended }) fun _ => ⟨rfl, rfl⟩)
      exact .inr ⟨begun, way, awaited_session (begun.part ss.node (.session s) ss.port) s⟩

/-- A start sets the owner to work if its threads and its link agree. If not, what it has done on
its way is followed by moves of the workers, and the owner is halted; a session without a thread is
left as it is. -/
theorem start_of_idle (threads : Threads) (hx : n.outline? i o = some x)
    (idle : n.running? o = some false) :
    (n.start threads o).1 = n.startAnswer threads o ∧
      (n.startAnswer threads o = .ok () → ∃ hubs sockets, (n.start threads o).2 =
        { (n.launch o).setPortState i x.port .conn with hubs, sockets }) ∧
      (n.startAnswer threads o ≠ .ok () → (n.start threads o).2 = n ∨
        ∃ begun ran, Relation.ReflTransGen (Prepares i o x.port) n begun ∧
          Relation.ReflTransGen (MovesOf o) begun ran ∧
          Awaited o (ran.part i o x.port) (n.start threads o).2) := by
  cases o with
  | gateway g =>
    obtain ⟨gw, hg, rfl, rfl⟩ := outline?_gateway.1 hx
    have idle : gw.running = false := by simpa [running?, hg] using idle
    have way := prepared_launchGateway (n.setRunning (.gateway g) true) g gw threads
    obtain ⟨answer, begun⟩ := launchGateway_spec hg threads
    rw [← answer] at begun ⊢
    rcases h : (n.setRunning (.gateway g) true).launchGateway g gw threads with ⟨result, n₁⟩
    rw [h] at way begun
    have launches : (n.modifyGateway g fun gw => { gw with running := true }).launchGateway g gw
        threads = (result, n₁) := h
    cases result with
    | ok u =>
      have e : n.start threads (.gateway g) = (.ok (), n₁) := by
        simp only [start, startGateway, hg, idle, launches, Bool.false_eq_true, if_false]
      rw [e]
      exact ⟨rfl, begun, fun refused => absurd rfl refused⟩
    | error why =>
      have e : n.start threads (.gateway g) =
          (.error why, (joinGateway g 64 n₁).haltGateway g gw) := by
        simp only [start, startGateway, hg, idle, launches, Bool.false_eq_true, if_false]
      have flagged : Prepares gw.node (.gateway g) gw.port n (n.setRunning (.gateway g) true) :=
        prepares_gateway fun _ => ⟨rfl, rfl⟩
      rw [e]
      exact ⟨rfl, by simp, fun _ => .inr ⟨n₁, _, way.head flagged, runs_joinGateway g 64 n₁,
        awaited_gateway _ g⟩⟩
  | session s =>
    obtain ⟨ss, hs, rfl, rfl⟩ := outline?_session.1 hx
    have idle : ss.running = false := by simpa [running?, hs] using idle
    obtain ⟨answer, launches, refuses⟩ := startSession_spec hs idle threads
    refine ⟨answer, fun ok => ⟨n.hubs, n.sockets, launches ok⟩, fun refused => ?_⟩
    refine (refuses refused).imp_right ?_
    rintro ⟨begun, way, waited⟩
    exact ⟨begun, begun, way, .refl, waited⟩

/-- An owner whose workers were launched and whose port is connected. -/
structure Launched (i : Nat) (o : Owner) (x : Outline) (n m : Network) : Prop where
  nodes : m.nodes.length = n.nodes.length
  roster : m.roster i = n.roster i
  spares : Spares i o x.port n m
  stands : m.Stands i o x.port true

theorem launched_connected (hi : i < n.nodes.length) (he : (n.roster i).Exact)
    (hx : n.outline? i o = some x) :
    Launched i o x n ((n.launch o).setPortState i x.port .conn) := by
  have begun : (n.launch o).roster i = n.roster i := roster_launch n o
  have hx' : (n.launch o).outline? i o = some x := (congrArg (·.owner? o) begun).trans hx
  have length : (n.launch o).nodes.length = n.nodes.length := by cases o <;> rfl
  obtain ⟨running, workers⟩ := launched hx
  refine ⟨?_, (roster_setPortState _ _ _ _).trans begun,
    (spares_alter n _ _).trans (spares_setPortState _ _), running, ?_, fun _ mv hmv => ?_, by simp⟩
  · rw [setPortState, setNode, List.length_set, length]
  · exact isConnected_setPortState (length ▸ hi) (begun ▸ he) hx' .conn
  · have polling : ((n.launch o).setPortState i x.port .conn).worker? mv = some .polling :=
      (by cases mv <;> rfl : _ = (n.launch o).worker? mv).trans (workers mv hmv)
    simp [polling]

theorem Launched.linked (h : Launched i o x n m) (hubs : List (Hub Receiver))
    (sockets : List Datagram.Socket) : Launched i o x n { m with hubs, sockets } where
  nodes := h.nodes
  roster := (roster_links m hubs sockets).trans h.roster
  spares := h.spares.trans (spares_links m hubs sockets)
  stands := h.stands.linked hubs sockets

/-- A start does what the host and the link answer: the owner is at work, or it is halted again,
unless nothing was done at all. -/
theorem start_spec (threads : Threads) (hi : i < n.nodes.length) (he : (n.roster i).Exact)
    (hx : n.outline? i o = some x) (idle : n.running? o = some false) :
    (n.start threads o).1 = n.startAnswer threads o ∧
      (n.startAnswer threads o = .ok () → Launched i o x n (n.start threads o).2) ∧
      (n.startAnswer threads o ≠ .ok () →
        (n.start threads o).2 = n ∨ Halted i o x n (n.start threads o).2) := by
  obtain ⟨answer, agrees, refuses⟩ := start_of_idle threads hx idle
  refine ⟨answer, fun ok => ?_, fun refused => (refuses refused).imp_right ?_⟩
  · obtain ⟨hubs, sockets, e⟩ := agrees ok
    exact e ▸ (launched_connected hi he hx).linked hubs sockets
  · rintro ⟨begun, ran, way, runs, waited⟩
    have started := roster_of_prepared way
    have hx₁ : begun.outline? i o = some x := (congrArg (·.owner? o) started).trans hx
    have he₁ : (begun.roster i).Exact := started ▸ he
    obtain ⟨same, spares⟩ := blank_of_runs (copiesAt_of_exact he₁) hx₁ runs
    have same' := roster_of_blank same i
    have hx₂ : ran.outline? i o = some x := (congrArg (·.owner? o) same').trans hx₁
    have length := (length_nodes_of_blank same).trans (nodes_of_prepared way)
    have halt := halted (length ▸ hi) (same' ▸ he₁) hx₂ waited
    exact halt.after length (same'.trans started) ((spares_of_prepared way).trans (spares _))

/-- A stop halts the owner, also when the link complains. -/
theorem stop_spec (hi : i < n.nodes.length) (he : (n.roster i).Exact)
    (hx : n.outline? i o = some x) (runs : n.running? o = some true) :
    Halted i o x n (n.stop o).2 := by
  obtain ⟨hubs, sockets, waited⟩ := awaited_stop hx runs
  have same := roster_links (i := i) n hubs sockets
  have hx' : ({ n with hubs, sockets } : Network).outline? i o = some x :=
    (congrArg (·.owner? o) same).trans hx
  have halt := halted (n := { n with hubs, sockets }) hi (same ▸ he) hx' waited
  exact halt.after (k := { n with hubs, sockets }) rfl same (spares_links n hubs sockets)

end FrameBus.Network
