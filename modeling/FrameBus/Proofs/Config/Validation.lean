import FrameBus.CommandLine.Gateway
import FrameBus.Daemon
import Mathlib.Data.List.Nodup

/-!
# What validation promises

A configuration passes if and only if it is `Valid`, and the walk over the peers stops at the first
of them that is at fault (`checkPeers_walk`). What passes is enough for the daemon: the gateway's id
names a single port, so neither the registry nor the socket can turn it down, and only the host is
left to refuse the address (`createStation_spec`). What does not pass reaches no host at all.
-/

namespace FrameBus

/-- One port is registered, under an id and in a state. -/
def Registry.Only {κ : Type} (r : Registry κ) (id : PortId) (s : PortState) : Prop :=
  r.ids = [id] ∧ ∃ h p, r.find? id = some h ∧ r.port? h = some p ∧ p.state = s

namespace Config

/-! ## Peers -/

/-- What stands at a place of a list of peers is an id that names no single port, the gateway's own
id, or one that stands before. -/
def Faulty (gateway : PortId) (ids : List PortId) (i : Nat) : Prop :=
  ∃ id, ids[i]? = some id ∧ (id.isReserved = true ∨ id = gateway ∨ id ∈ ids.take i)

/-- What is said about an id at fault. -/
def blame (gateway : PortId) (i : Nat) (id : PortId) : Flaw :=
  if id.isReserved then .peerReserved i id
  else if id = gateway then .peerIsGateway i id
  else .peerTwice i id

/-- A flaw that names the first place at fault, and its id. -/
structure Blames (gateway : PortId) (ids : List PortId) (i : Nat) (flaw : Flaw) : Prop where
  faulty : Faulty gateway ids i
  first : ∀ j < i, ¬ Faulty gateway ids j
  named : ∃ id, ids[i]? = some id ∧ flaw = blame gateway i id
  /-- the place is in the text -/
  said : ∃ rest, flaw.message = "Peer " ++ Numeral.decimal i ++ rest

variable {gateway : PortId} {ids : List PortId}

theorem message_blame (gateway : PortId) (i : Nat) (id : PortId) :
    ∃ rest, (blame gateway i id).message = "Peer " ++ Numeral.decimal i ++ rest := by
  unfold blame
  split
  · exact ⟨" has reserved id " ++ id.render, by simp only [Flaw.message, String.append_assoc]⟩
  · split
    · exact ⟨" has the gateway's own id " ++ id.render, by
        simp only [Flaw.message, String.append_assoc]⟩
    · exact ⟨" duplicates id " ++ id.render, by simp only [Flaw.message, String.append_assoc]⟩

theorem not_faulty_iff : (∀ i, ¬ Faulty gateway ids i) ↔
    ids.Nodup ∧ (∀ id ∈ ids, id.isReserved = false) ∧ gateway ∉ ids := by
  constructor
  · intro sound
    have at_place {id : PortId} (mem : id ∈ ids) : id.isReserved = false ∧ id ≠ gateway := by
      obtain ⟨i, hi⟩ := List.mem_iff_getElem?.1 mem
      constructor
      · by_contra reserved
        exact sound i ⟨id, hi, .inl (by simpa using reserved)⟩
      · intro own
        exact sound i ⟨id, hi, .inr (.inl own)⟩
    refine ⟨?_, fun id mem => (at_place mem).1, fun mem => (at_place mem).2 rfl⟩
    rw [List.nodup_iff_getElem?_ne_getElem?]
    intro i j before inside same
    have known : ids[j]? = some ids[j] := List.getElem?_eq_getElem inside
    have earlier : ids[j] ∈ ids.take j :=
      List.mem_take_iff_getElem.2 ⟨i, by omega, by
        rw [known, List.getElem?_eq_getElem (by omega)] at same
        exact Option.some.inj same⟩
    exact sound j ⟨ids[j], known, .inr (.inr earlier)⟩
  · rintro ⟨distinct, single, others⟩ i ⟨id, hi, reserved | own | twice⟩
    · rw [single id (List.mem_of_getElem? hi)] at reserved
      cases reserved
    · exact others (own ▸ List.mem_of_getElem? hi)
    · obtain ⟨j, hj, same⟩ := List.mem_take_iff_getElem.1 twice
      obtain ⟨inside, rfl⟩ := List.getElem?_eq_some_iff.1 hi
      have := (List.Nodup.getElem_inj_iff distinct).1 same
      omega

/-- What a walk over the peers from a place on comes to. -/
inductive Walked (gateway : PortId) (ids : List PortId) (k : Nat) : Except Flaw Unit → Prop
  | passed (sound : ∀ i, k ≤ i → ¬ Faulty gateway ids i) : Walked gateway ids k (.ok ())
  | stopped {i : Nat} {id : PortId} (after : k ≤ i) (here : ids[i]? = some id)
      (faulty : Faulty gateway ids i) (first : ∀ j, k ≤ j → j < i → ¬ Faulty gateway ids j) :
      Walked gateway ids k (.error (blame gateway i id))

/-- A walk may begin one peer earlier if that peer is not at fault. -/
theorem Walked.earlier {k : Nat} {result : Except Flaw Unit}
    (walk : Walked gateway ids (k + 1) result) (sound : ¬ Faulty gateway ids k) :
    Walked gateway ids k result := by
  have pass {i : Nat} (from_k : k ≤ i) (rest : k + 1 ≤ i → ¬ Faulty gateway ids i) :
      ¬ Faulty gateway ids i := by
    rcases Nat.eq_or_lt_of_le from_k with rfl | lt
    · exact sound
    · exact rest lt
  cases walk with
  | passed rest => exact .passed fun i hi => pass hi (rest i)
  | stopped after here faulty first =>
    exact .stopped (by omega) here faulty fun j hj lt => pass hj fun h => first j h lt

theorem Walked.at_once {k : Nat} {id : PortId} (here : ids[k]? = some id)
    (faulty : Faulty gateway ids k) : Walked gateway ids k (.error (blame gateway k id)) :=
  .stopped (Nat.le_refl k) here faulty fun _ hj lt => absurd lt (by omega)

/-- The ids that were seen are those of the peers that are done, the latest first. -/
theorem checkPeers_walk (gateway : PortId) (rest : List Peer) : ∀ done : List Peer,
    Walked gateway ((done ++ rest).map Peer.id) done.length
      (checkPeers gateway done.length (done.map Peer.id).reverse rest) := by
  induction rest with
  | nil =>
    intro done
    refine .passed ?_
    rintro i beyond ⟨id, hi, -⟩
    rw [List.append_nil, List.getElem?_eq_none (by simpa using beyond)] at hi
    cases hi
  | cons p rest ih =>
    intro done
    have here : ((done ++ p :: rest).map Peer.id)[done.length]? = some p.id := by simp
    have before : ((done ++ p :: rest).map Peer.id).take done.length = done.map Peer.id := by simp
    have stops (fault : p.id.isReserved = true ∨ p.id = gateway ∨ p.id ∈ done.map Peer.id) :
        Walked gateway ((done ++ p :: rest).map Peer.id) done.length
          (.error (blame gateway done.length p.id)) :=
      .at_once here ⟨p.id, here, before ▸ fault⟩
    unfold checkPeers
    by_cases reserved : p.id.isReserved = true
    · rw [if_pos reserved]
      simpa only [blame, if_pos reserved] using stops (.inl reserved)
    rw [if_neg reserved]
    by_cases own : p.id = gateway
    · rw [if_pos own]
      simpa only [blame, if_neg reserved, if_pos own] using stops (.inr (.inl own))
    rw [if_neg own]
    by_cases twice : p.id ∈ done.map Peer.id
    · rw [if_pos (by simpa using twice)]
      simpa only [blame, if_neg reserved, if_neg own] using stops (.inr (.inr twice))
    · rw [if_neg (by simpa using twice)]
      -- the peer joins those that were seen
      have walk := ih (done ++ [p])
      simp only [List.length_append, List.length_singleton, List.map_append, List.map_singleton,
        List.reverse_append, List.reverse_singleton, List.append_assoc, List.singleton_append]
        at walk
      refine (List.map_append ▸ walk).earlier ?_
      rintro ⟨id, hi, fault⟩
      obtain rfl : p.id = id := Option.some.inj (here.symm.trans hi)
      rw [before] at fault
      exact fault.elim reserved fun fault => fault.elim own twice

/-! ## Configurations -/

def peerIds (c : Config) : List PortId := c.udp.peers.map Peer.id

/-- Nothing is at fault but the peers may be. -/
structure Sound (c : Config) : Prop where
  single : c.gateway.id.isReserved = false
  routes : c.gateway.id.isRoute = true ∨ c.gateway.id.isBackbone = true
  polls : c.gateway.pollIntervalMs ≠ 0
  holds : c.queue.capacity ≠ some 0

structure Valid (c : Config) : Prop extends Sound c where
  linked : c.udp.peers ≠ []
  distinct : c.peerIds.Nodup
  named : ∀ id ∈ c.peerIds, id.isReserved = false
  others : c.gateway.id ∉ c.peerIds

variable {c : Config}

theorem Sound.validate_eq (sound : c.Sound) : c.validate =
    if c.udp.peers.isEmpty then .error .noPeers else checkPeers c.gateway.id 0 [] c.udp.peers := by
  have routes : ¬ ((!c.gateway.id.isRoute && !c.gateway.id.isBackbone) = true) := by
    rcases sound.routes with h | h <;> simp [h]
  have single : ¬ c.gateway.id.isReserved = true := by simp [sound.single]
  rw [validate, if_neg single, if_neg routes, if_neg sound.polls, if_neg sound.holds]

theorem sound_of_validate (passed : c.validate = .ok ()) : c.Sound := by
  simp only [validate] at passed
  split at passed
  · cases passed
  next single =>
  split at passed
  · cases passed
  next routes =>
  split at passed
  · cases passed
  next polls =>
  split at passed
  · cases passed
  next holds =>
  refine ⟨by simpa using single, ?_, polls, holds⟩
  by_contra none
  exact routes (by simpa using none)

theorem Sound.walked (sound : c.Sound) (linked : c.udp.peers ≠ []) :
    Walked c.gateway.id c.peerIds 0 c.validate := by
  rw [sound.validate_eq, if_neg (by simpa using linked)]
  exact checkPeers_walk c.gateway.id c.udp.peers []

theorem Sound.of_no_peers (sound : c.Sound) (none : c.udp.peers = []) :
    c.validate = .error .noPeers := by
  rw [sound.validate_eq, none]
  rfl

theorem validate_eq_ok_iff : c.validate = .ok () ↔ c.Valid := by
  constructor
  · intro passed
    have sound := sound_of_validate passed
    have linked : c.udp.peers ≠ [] := by
      intro none
      rw [sound.of_no_peers none] at passed
      cases passed
    have walk := sound.walked linked
    rw [passed] at walk
    cases walk with
    | passed rest =>
      obtain ⟨distinct, named, others⟩ := not_faulty_iff.1 fun i => rest i (Nat.zero_le i)
      exact { sound with linked, distinct, named, others }
  · intro valid
    have none := not_faulty_iff.2 ⟨valid.distinct, valid.named, valid.others⟩
    have walk := valid.toSound.walked valid.linked
    generalize c.validate = result at walk
    cases walk with
    | passed => rfl
    | stopped _ _ faulty => exact absurd faulty (none _)

/-- Where nothing else is at fault, the flaw is of the first peer that is. -/
theorem Sound.blames (sound : c.Sound) (linked : c.udp.peers ≠ []) {flaw : Flaw}
    (refused : c.validate = .error flaw) : ∃ i, Blames c.gateway.id c.peerIds i flaw := by
  have walk := sound.walked linked
  rw [refused] at walk
  cases walk with
  | @stopped i id _ here faulty first =>
    exact ⟨i, faulty, fun j => first j (Nat.zero_le j), ⟨id, here, rfl⟩, message_blame _ i id⟩

example : validate { gateway := { id := .appRoute }
                     udp := { peers := [⟨.chipRoute, .v4 ⟨10, 0, 0, 1⟩ 7600⟩,
                       ⟨.controllerRoute, .v4 ⟨10, 0, 0, 2⟩ 7600⟩,
                       ⟨.chipRoute, .v4 ⟨10, 0, 0, 3⟩ 7600⟩] } } =
    .error (.peerTwice 2 .chipRoute) := by decide

end Config

/-! ## The daemon -/

/-- The first port of a registry. -/
theorem Registry.only_of_createPort {κ : Type} (queue : QueueConfig) {id : PortId}
    (single : id.isReserved = false) (k : κ) : ∃ r : Registry κ,
      (Registry.new queue).createPort id = .ok (0, r) ∧ (r.setReaction 0 k).Only id .init := by
  let made : Registry κ := ⟨queue, [⟨id, .init, .new queue, none⟩], [0], []⟩
  have created : (Registry.new queue).createPort id = .ok (0, made) := by
    rw [Registry.createPort, if_neg (by simp [single])]
    rfl
  have found : (made.setReaction 0 k).find? id = some 0 :=
    List.find?_cons_of_pos (beq_self_eq_true id)
  exact ⟨made, created, rfl, 0, _, found, rfl, rfl⟩

namespace Network

variable {n : Network} {id : PortId} {socket : Datagram.Socket}

theorem initLink_datagram {s : Nat} (known : n.sockets[s]? = some socket)
    (single : id.isReserved = false) : n.initLink (.datagram s) id =
      (.ok (), .datagram s, n.modifySocket s fun _ => { socket with id := some id }) := by
  have bound : socket.init id = .ok { socket with id := some id } := if_neg (by simp [single])
  simp only [initLink, known, bound]

/-- A gateway on a node without ports, over a socket. -/
theorem createGateway_datagram {i s : Nat} {queue : QueueConfig}
    (known : n.sockets[s]? = some socket) (single : id.isReserved = false)
    (node : n.nodes[i]? = some (.new queue)) (ingress : QueueConfig) :
    match n.createGateway i id (.datagram s) ingress with
    | (.ok _, m) => (m.node i).Only id .init
    | (.error _, _) => False := by
  obtain ⟨r, created, only⟩ := Registry.only_of_createPort queue single Reaction.copy
  have empty : n.node i = .new queue := by rw [Network.node, List.getD_eq_getElem?_getD, node]; rfl
  have linked := initLink_datagram (n := n.setNode i (r.setReaction 0 .copy)) known single
  have here : (n.setNode i (r.setReaction 0 .copy)).node i = r.setReaction 0 .copy := by
    have inside := (List.getElem?_eq_some_iff.1 node).1
    simp [Network.node, setNode, inside]
  rw [← here] at only
  unfold createGateway
  simp only [single, empty, created, linked]
  exact only

/-- A station is made unless the host refuses the address. -/
theorem createStation_spec (n : Network) (single : id.isReserved = false)
    (queue ingress : QueueConfig) (udp : Datagram.Config) :
    match n.host.bind udp.bind with
    | .error e => n.createStation id queue ingress udp = (.error (.io e), n)
    | .ok a => ∃ station m, n.createStation id queue ingress udp = (.ok station, m) ∧
        station.address = a ∧ (m.node station.node).Only id .init := by
  unfold createStation Datagram.Socket.create
  cases n.host.bind udp.bind with
  | error e => rfl
  | ok a =>
    let m : Network := { n with
      nodes := n.nodes ++ [.new queue]
      sockets := n.sockets ++ [{ address := a, peers := udp.peers }] }
    have made := createGateway_datagram (n := m) List.getElem?_concat_length single
      List.getElem?_concat_length ingress
    dsimp only
    rcases e : m.createGateway n.nodes.length id (.datagram n.sockets.length) ingress with
      ⟨_ | g, m'⟩
    · rw [e] at made
      exact made.elim
    · rw [e] at made
      exact ⟨⟨n.nodes.length, g, a⟩, m', rfl, rfl, made⟩

end Network

/-- A daemon on a registry of its own, or the host's refusal of the address. -/
inductive Daemon.Created (n : Network) (c : Config) : Except Failure Daemon × Network → Prop
  | ready {s : Network.Station} {m : Network} (bound : n.host.bind c.udp.bind = .ok s.address)
      (only : (m.node s.node).Only c.gateway.id .init) : Created n c (.ok ⟨c, s⟩, m)
  | refused {e : IoError} (unbound : n.host.bind c.udp.bind = .error e) :
      Created n c (.error (.bus (.io e)), n)

theorem Daemon.created_of_valid {c : Config} (valid : c.Valid) (n : Network) :
    Created n c (create n c) := by
  have station := n.createStation_spec valid.single c.queue c.queue c.udp
  unfold create
  rw [Config.validate_eq_ok_iff.2 valid]
  split at station
  · next e unbound =>
    rw [station]
    exact .refused unbound
  · next a bound =>
    obtain ⟨station, m, made, rfl, only⟩ := station
    rw [made]
    exact .ready bound only

theorem Daemon.create_of_flaw {c : Config} {flaw : Config.Flaw} (flawed : c.validate = .error flaw)
    (n : Network) : create n c = (.error (.config (.invalid flaw)), n) := by
  rw [create, flawed]

/-! ## Where configurations come from -/

theorem Config.validate_of_toml {text : String} {c : Config} (read : ofToml text = .ok c) :
    c.validate = .ok () := by
  unfold ofToml at read
  split at read
  · cases read
  · split at read
    · cases read
    · split at read
      · cases read
      · next valid =>
        cases read
        exact valid

theorem Config.validate_of_file {readFile : String → Except IoError String} {path : String}
    {c : Config} (read : ofFile readFile path = .ok c) : c.validate = .ok () := by
  unfold ofFile at read
  split at read
  · cases read
  · exact validate_of_toml read

open CommandLine.Gateway in
theorem Config.validate_of_options {o : Options} {readFile : String → Except IoError String}
    {c : Config} (built : o.toConfig readFile = .ok c) : c.validate = .ok () := by
  unfold Options.toConfig at built
  split at built
  · exact validate_of_file built
  · split at built
    · cases built
    · split at built
      · cases built
      · dsimp only at built
        split at built
        · cases built
        · next valid =>
          cases built
          exact valid

/-! ## The promise -/

/-- What holds of a configuration: when it passes, what is said where only peers are at fault, what
a daemon comes of it, and that nothing reads or builds it unless it passes. -/
structure Config.Judged (c : Config) : Prop where
  passes : c.validate = .ok () ↔ c.Valid
  noPeers : c.Sound → c.udp.peers = [] → c.validate = .error .noPeers
  blames : c.Sound → c.udp.peers ≠ [] → ∀ flaw, c.validate = .error flaw →
    ∃ i, Blames c.gateway.id c.peerIds i flaw
  enough : c.validate = .ok () → ∀ n, Daemon.Created n c (Daemon.create n c)
  refused : ∀ flaw, c.validate = .error flaw →
    ∀ n, Daemon.create n c = (.error (.config (.invalid flaw)), n)
  ofToml : ∀ text, Config.ofToml text = .ok c → c.validate = .ok ()
  ofOptions : ∀ (o : CommandLine.Gateway.Options) (readFile : String → Except IoError String),
    o.toConfig readFile = .ok c → c.validate = .ok ()

/-- Validation is exact, and it is enough for the daemon. -/
theorem Config.validation_exact (c : Config) : c.Judged where
  passes := validate_eq_ok_iff
  noPeers := Sound.of_no_peers
  blames := fun sound linked _ flawed => sound.blames linked flawed
  enough := fun passed => Daemon.created_of_valid (validate_eq_ok_iff.1 passed)
  refused := fun _ => Daemon.create_of_flaw
  ofToml := fun _ => validate_of_toml
  ofOptions := fun _ _ => validate_of_options

end FrameBus
