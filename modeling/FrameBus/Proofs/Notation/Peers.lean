import FrameBus.CommandLine.Gateway
import FrameBus.Probe.Basic
import FrameBus.Proofs.Config.Validation
import FrameBus.Proofs.Notation.Addresses
import FrameBus.Proofs.Notation.Grammar

/-!
# Peers that are read back

An entry for a peer is cut at its first `=`, which is in no text of an id and in no blank; what is
left of the two parts without the blanks around them is an id in one of its forms and an address
(`Peer.read_written`).

The daemon and the probe take entries from their command lines. They refuse the same ones, with the
same text, and go on with the same peers for the others (`Peer.taken_alike`), which stand in the
table of the link of each one's gateway (`Probe.joins_of_create`, `Daemon.joins_of_create`).
-/

namespace FrameBus

namespace Text

/-- A text is cut at its first separator. -/
theorem cut?_append {sep : Char} {cs : List Char} (h : sep ∉ cs) (rest : List Char) :
    cut? sep (cs ++ sep :: rest) = some (cs, rest) := by
  induction cs with
  | nil => simp [cut?]
  | cons c cs ih =>
    simp only [List.mem_cons, not_or] at h
    rw [List.cons_append, cut?, if_neg (Ne.symm h.1), ih h.2]
    rfl

end Text

open Numeral

/-! ## Forms of an id -/

namespace Numeral

/-- Digits, with zeros in front up to a width. -/
theorem number_padLeft {radix : Nat} (hr : 1 < radix) (hr' : radix ≤ 16) (n width : Nat) :
    Number radix (padLeft '0' width (digits radix n)) n := by
  have some : padLeft '0' width (digits radix n) ≠ [] := by simp [padLeft]
  have read := readDigits_padLeft hr hr' (Nat.le_refl n) width
  exact .plain ((readDigits_zero_iff (by omega) hr' some).1 read).1

end Numeral

namespace PortId

variable {id : PortId} {cs : List Char} {n : Nat}

theorem raw_le (id : PortId) : id.raw.toNat ≤ 65535 := by
  have lt := id.raw.toNat_lt
  omega

theorem written_parts (id : PortId) : Written id.render.toList id.raw.toNat :=
  readTrimmed_iff.1 (readTrimmed_render id)

theorem written_hexadecimal (id : PortId) {x : Char} (mark : x = 'x' ∨ x = 'X') (width : Nat) :
    Written ('0' :: x :: padLeft '0' width (digits 16 id.raw.toNat)) id.raw.toNat :=
  .hexadecimal mark (number_padLeft (by decide) (by decide) _ width) id.raw_le

theorem written_decimal (id : PortId) (width : Nat) :
    Written (padLeft '0' width (digits 10 id.raw.toNat)) id.raw.toNat :=
  .decimal (number_padLeft (by decide) (by decide) _ width) id.raw_le

theorem Written.equals_not_mem (h : Written cs n) : '=' ∉ cs := by
  have other : ∀ c ∈ cs, c ≠ '=' := h.forall_mem
    (List.forall_iff_forall_mem.1 (by decide)) (List.forall_iff_forall_mem.1 (by decide))
  exact fun mem => other _ mem rfl

end PortId

/-! ## Addresses -/

namespace SocketAddress

/-- The text of an address ends in its port. -/
theorem exists_renderChars (a : SocketAddress) :
    ∃ front, a.renderChars = front ++ digits 10 a.port.toNat := by
  cases a with
  | v4 ip port => exact ⟨ip.render ++ [':'], by simp [renderChars, SocketAddress.port]⟩
  | v6 ip scope port =>
    exact ⟨'[' :: (ip.render ++ (scopeText scope ++ [']', ':'])), by
      simp [renderChars, scopeText, SocketAddress.port]⟩

/-- The text of an address begins and ends with something to see. -/
theorem trim_renderChars (a : SocketAddress) : Text.trim a.renderChars = a.renderChars := by
  apply Text.trim_of_ends
  · cases a with
    | v4 ip port =>
      rw [renderChars, render_v4, List.append_assoc]
      exact stops_append (digits_ne_nil _ _) (fun _ => isBlank_digit) _
    | v6 ip scope port => exact stops_cons.2 (by decide)
  · obtain ⟨front, whole⟩ := a.exists_renderChars
    rw [whole, List.reverse_append]
    exact stops_append (by simp) (fun c mem => isBlank_digit (List.mem_reverse.1 mem)) _

end SocketAddress

/-! ## Entries -/

namespace Peer

variable {id : PortId} {text before behind before' behind' : List Char}

theorem equals_not_mem_blank {cs : List Char} (blank : ∀ c ∈ cs, Text.isBlank c = true) :
    '=' ∉ cs :=
  fun mem => absurd (blank _ mem) (by decide)

/-- An entry is read, whatever form the id has and whatever blanks are around both parts. -/
theorem read_written (written : PortId.Written text id.raw.toNat) (address : SocketAddress)
    (blank : ∀ cs ∈ [before, behind, before', behind'], ∀ c ∈ cs, Text.isBlank c = true) :
    read (String.ofList (before ++ text ++ behind ++ '=' ::
      (before' ++ address.renderChars ++ behind'))) = .ok ⟨id, address⟩ := by
  simp only [List.forall_mem_cons, List.not_mem_nil, false_imp_iff, implies_true, and_true] at blank
  obtain ⟨blank_before, blank_behind, blank_before', blank_behind'⟩ := blank
  have no_equals : '=' ∉ before ++ text ++ behind := by
    simp only [List.mem_append, not_or]
    exact ⟨⟨equals_not_mem_blank blank_before, written.equals_not_mem⟩,
      equals_not_mem_blank blank_behind⟩
  have trimmed := Text.trim_around written.ne_nil written.seen blank_before blank_behind
  have reads : PortId.read (before ++ text ++ behind) = .ok id := by
    rw [PortId.read, trimmed, PortId.readTrimmed_iff]
    exact written
  have address_reads :
      SocketAddress.read? (Text.trim (before' ++ address.renderChars ++ behind')) =
        some address := by
    rw [Text.trim_append blank_before' blank_behind', address.trim_renderChars,
      SocketAddress.read?_render]
  rw [read, String.toList_ofList, Text.cut?_append no_equals]
  simp only [reads, address_reads]

/-- The plainest entry for a peer. -/
def entry (p : Peer) : String := String.ofList (p.id.render.toList ++ '=' :: p.address.renderChars)

theorem read_entry (p : Peer) : read p.entry = .ok p := by
  have reads := read_written p.id.written_parts p.address
    (fun cs mem c hc => by simp_all : ∀ cs ∈ [[], [], [], []], ∀ c ∈ cs, Text.isBlank c = true)
  simpa [entry] using reads

end Peer

/-! ## The table of a gateway -/

namespace Network

variable {n m : Network} {g : Nat} {ps : List Peer}

/-- The link of a gateway is a socket with this table of peers. -/
def Joins (n : Network) (g : Nat) (ps : List Peer) : Prop :=
  ∃ gw s socket, n.gateways[g]? = some gw ∧ gw.link = .datagram s ∧ n.sockets[s]? = some socket ∧
    socket.peers = ps

theorem Joins.of_same (h : n.Joins g ps) (gateways : m.gateways = n.gateways)
    (sockets : m.sockets = n.sockets) : m.Joins g ps := by
  rw [Joins, gateways, sockets]
  exact h

theorem Joins.modifyGateway (h : n.Joins g ps) (g' : Nat) {F : Gateway → Gateway}
    (links : ∀ gw, (F gw).link = gw.link) : (n.modifyGateway g' F).Joins g ps := by
  obtain ⟨gw, s, socket, here, link, bound, table⟩ := h
  by_cases own : g' = g
  · subst own
    refine ⟨F gw, s, socket, ?_, (links gw).trans link, bound, table⟩
    rw [Network.modifyGateway, List.getElem?_modify_eq, here]
    rfl
  · exact ⟨gw, s, socket, (List.getElem?_modify_ne F _ own).trans here, link, bound, table⟩

theorem Joins.modifySocket (h : n.Joins g ps) {s : Nat} {F : Datagram.Socket → Datagram.Socket}
    (tables : ∀ socket, n.sockets[s]? = some socket → (F socket).peers = socket.peers) :
    (n.modifySocket s F).Joins g ps := by
  obtain ⟨gw, t, socket, here, link, bound, table⟩ := h
  by_cases own : s = t
  · subst own
    refine ⟨gw, s, F socket, here, link, ?_, (tables socket bound).trans table⟩
    rw [Network.modifySocket, List.getElem?_modify_eq, bound]
    rfl
  · refine ⟨gw, t, socket, here, link, ?_, table⟩
    exact (List.getElem?_modify_ne F _ own).trans bound

theorem peers_of_start {socket started : Datagram.Socket} (e : socket.start = .ok started) :
    started.peers = socket.peers := by
  unfold Datagram.Socket.start at e
  split_ifs at e
  cases e
  rfl

theorem Joins.startLink (h : n.Joins g ps) (link : Link) : (n.startLink link).2.Joins g ps := by
  unfold Network.startLink
  split
  · split
    · exact h
    · exact h.of_same rfl rfl
  · split
    · exact h
    · next s socket known =>
      split
      · exact h
      · next started e =>
        refine h.modifySocket fun other same => ?_
        cases known.symm.trans same
        exact peers_of_start e

theorem Joins.startReceiver (h : n.Joins g ps) (link : Link) (refusal : Option String) :
    (n.startReceiver link refusal).2.Joins g ps := by
  unfold Network.startReceiver
  split
  · exact h
  · exact h.startLink link

theorem Joins.launchGateway (h : n.Joins g ps) (g' : Nat) (gw : Gateway) (threads : Threads) :
    (n.launchGateway g' gw threads).2.Joins g ps := by
  unfold Network.launchGateway spawnWorkers
  cases threads.uplink with
  | some fault =>
    exact h.modifyGateway g' (F := fun gw => { gw with uplink := fault.outcome gw.uplink })
      fun _ => rfl
  | none =>
    have polls := h.modifyGateway g' (F := fun gw => { gw with uplink := .polling }) fun _ => rfl
    have connected : ((n.modifyGateway g' fun gw => { gw with uplink := .polling }).setPortState
        gw.node gw.port .conn).Joins g ps := polls.of_same rfl rfl
    cases threads.downlink with
    | some fault =>
      exact connected.modifyGateway g'
        (F := fun gw => { gw with downlink := fault.outcome gw.downlink }) fun _ => rfl
    | none =>
      have poll := connected.modifyGateway g' (F := fun gw => { gw with downlink := .polling })
        fun _ => rfl
      exact poll.startReceiver gw.link threads.receiver

/-- A gateway that starts keeps its table. -/
theorem Joins.startGateway (h : n.Joins g ps) {g' : Nat} {threads : Threads}
    (started : n.startGateway g' threads = (.ok (), m)) : m.Joins g ps := by
  unfold Network.startGateway at started
  split at started
  · cases started
  next gw _ =>
    split at started
    · cases started
    · have launch := (h.modifyGateway g' (F := fun gw => { gw with running := true })
        fun _ => rfl).launchGateway g' gw threads
      dsimp only at started
      split at started
      · next launched =>
        rw [launched] at launch
        cases started
        exact launch
      · cases started

theorem Joins.createSession (h : n.Joins g ps) (i : Nat) (id : PortId) :
    (n.createSession i id).2.Joins g ps := by
  unfold Network.createSession
  split
  · exact h
  · split
    · exact h
    · split <;> exact h.of_same rfl rfl

theorem joins_of_createGateway {s i : Nat} {socket : Datagram.Socket} {id : PortId}
    {ingress : QueueConfig} (known : n.sockets[s]? = some socket)
    (made : n.createGateway i id (.datagram s) ingress = (.ok g, m)) : m.Joins g socket.peers := by
  unfold createGateway at made
  split at made
  · cases made
  next single =>
    split at made
    · cases made
    · next r _ =>
      rw [initLink_datagram (n := n.setNode i _) known (by simpa using single)] at made
      cases made
      refine ⟨_, s, { socket with id := some id, hooked := true }, List.getElem?_concat_length, rfl,
        ?_, rfl⟩
      simp [modifySocket, setNode, known]

theorem joins_of_createStation {id : PortId} {queue ingress : QueueConfig} {udp : Datagram.Config}
    {station : Station} (made : n.createStation id queue ingress udp = (.ok station, m)) :
    m.Joins station.gateway udp.peers := by
  unfold createStation Datagram.Socket.create at made
  cases bound : n.host.bind udp.bind with
  | error e => rw [bound] at made; cases made
  | ok a =>
    simp only [bound] at made
    split at made
    · cases made
    · next created =>
      cases made
      exact joins_of_createGateway List.getElem?_concat_length created

end Network

theorem Probe.joins_of_create {n m : Network} {id : PortId} {gateway : Option PortId}
    {bind : SocketAddress} {entries : List String} {ps : List Peer} {p : Probe}
    (read : entries.mapM Peer.read = .ok ps)
    (made : create n id gateway bind entries = (.ok p, m)) : m.Joins p.station.gateway ps := by
  simp only [create, read] at made
  split at made
  · cases made
  next station n' created =>
    have joins := Network.joins_of_createStation created
    split at made
    · cases made
    · next started =>
      have joins := joins.startGateway started
      split at made
      · cases made
      · next session _ createdSession =>
        have kept := joins.createSession station.node id
        rw [createdSession] at kept
        cases made
        exact kept

/-- Once its peers are read, a probe fails for the bus's reasons only. -/
theorem Probe.bus_of_create {n m : Network} {id : PortId} {gateway : Option PortId}
    {bind : SocketAddress} {entries : List String} {ps : List Peer} {e : OpenError}
    (read : entries.mapM Peer.read = .ok ps)
    (made : create n id gateway bind entries = (.error e, m)) : ∃ failure, e = .bus failure := by
  simp only [create, read] at made
  split at made
  · cases made
    exact ⟨_, rfl⟩
  · split at made
    · cases made
      exact ⟨_, rfl⟩
    · split at made
      · cases made
        exact ⟨_, rfl⟩
      · cases made

theorem Daemon.joins_of_create {n m : Network} {c : Config} {d : Daemon}
    (made : create n c = (.ok d, m)) : m.Joins d.station.gateway c.udp.peers := by
  unfold create at made
  split at made
  · cases made
  · split at made
    · cases made
    · next created =>
      cases made
      exact Network.joins_of_createStation created

namespace Peer

/-! ## The two programs -/

open CommandLine.Gateway (Options)

/-- Entries that are read, and the peers that they say. -/
abbrev Say (entries : List String) (ps : List Peer) : Prop :=
  List.Forall₂ (fun entry p => read entry = .ok p) entries ps

/-- The first entry that is not read, and why. -/
def Fails (entries : List String) (e : ReadError) : Prop :=
  ∃ front bad rest ps, entries = front ++ bad :: rest ∧ Say front ps ∧ read bad = .error e

theorem say_entries (ps : List Peer) : Say (ps.map entry) ps := by
  induction ps with
  | nil => exact .nil
  | cons p ps ih => exact .cons p.read_entry ih

theorem mapM_of_say {entries : List String} {ps : List Peer} (say : Say entries ps) :
    entries.mapM read = .ok ps := by
  induction say with
  | nil => rfl
  | cons first _ ih =>
    rw [List.mapM_cons, first, ih]
    rfl

theorem mapM_of_fails {entries : List String} {e : ReadError} (fails : Fails entries e) :
    entries.mapM read = .error e := by
  obtain ⟨front, bad, rest, ps, rfl, say, wrong⟩ := fails
  rw [List.mapM_append, mapM_of_say say, List.mapM_cons, wrong]
  rfl

/-- Entries are all read, or there is a first one that is not. -/
theorem say_or_fails (entries : List String) :
    (∃ ps, Say entries ps) ∨ ∃ e, Fails entries e := by
  induction entries with
  | nil => exact .inl ⟨[], .nil⟩
  | cons entry entries ih =>
    cases first : read entry with
    | error e => exact .inr ⟨e, [], entry, entries, [], rfl, .nil, first⟩
    | ok p =>
      rcases ih with ⟨ps, say⟩ | ⟨e, front, bad, rest, ps, rfl, say, wrong⟩
      · exact .inl ⟨p :: ps, .cons first say⟩
      · exact .inr ⟨e, entry :: front, bad, rest, p :: ps, rfl, .cons first say, wrong⟩

/-- The daemon looks at nothing but what the entries say. -/
theorem toConfig_congr {o : Options} {entries others : List String}
    (same : entries.mapM read = others.mapM read) (readFile : String → Except IoError String) :
    { o with peers := entries }.toConfig readFile =
      { o with peers := others }.toConfig readFile := by
  simp only [Options.toConfig, same]

/-- The probe looks at nothing but what the entries say. -/
theorem create_congr {entries others : List String} (same : entries.mapM read = others.mapM read)
    (n : Network) (id : PortId) (gateway : Option PortId) (bind : SocketAddress) :
    Probe.create n id gateway bind entries = Probe.create n id gateway bind others := by
  simp only [Probe.create, same]

/-- A daemon and a probe go on with the peers that entries say. -/
structure Taken (daemon : List String → Except Config.Failure Config)
    (probe : List String → Except Probe.OpenError Probe × Network) (n : Network)
    (entries : List String) (ps : List Peer) : Prop where
  /-- as with the plainest entries for them -/
  plainest : daemon entries = daemon (ps.map entry) ∧ probe entries = probe (ps.map entry)
  /-- the daemon's configuration has these peers, and is looked at next -/
  validated : ∃ c : Config, c.udp.peers = ps ∧
    daemon entries = (c.validate.mapError .invalid).map fun _ => c
  /-- of the entries the probe says nothing -/
  bus : ∀ e m, probe entries = (.error e, m) → ∃ failure, e = .bus failure
  /-- each program's gateway is on a link with these peers -/
  joins : (∀ c d m, daemon entries = .ok c → Daemon.create n c = (.ok d, m) →
      m.Joins d.station.gateway ps) ∧
    ∀ p m, probe entries = (.ok p, m) → m.Joins p.station.gateway ps

/-- What becomes of entries on the command lines of a daemon, which has no file and the id of its
gateway, and of a probe. Both end at the first entry that is not read, and say the same of it; or
both go on with the same peers. -/
def Alike (daemon : List String → Except Config.Failure Config)
    (probe : List String → Except Probe.OpenError Probe × Network) (n : Network)
    (entries : List String) : Prop :=
  (∃ e, Fails entries e ∧ daemon entries = .error (.invalid (.peerEntry e)) ∧
    probe entries = (.error (.peer e), n) ∧
    (Config.Failure.invalid (.peerEntry e)).message =
      "Invalid configuration: " ++ (Probe.OpenError.peer e).message) ∨
  ∃ ps, Say entries ps ∧ Taken daemon probe n entries ps

/-- With the id of its gateway, a daemon looks at a configuration that has the peers. -/
theorem toConfig_of_say (o : Options) (served : PortId)
    (readFile : String → Except IoError String) {entries : List String} {ps : List Peer}
    (say : Say entries ps) :
    ∃ c : Config, c.udp.peers = ps ∧
      { o with config := none, id := some served, peers := entries }.toConfig readFile =
        (c.validate.mapError .invalid).map fun _ => c := by
  simp only [Options.toConfig, mapM_of_say say]
  refine ⟨{ gateway := { id := served, priority := o.priority }
            queue := { kind := o.queue, capacity := o.queueCapacity }
            udp := { bind := o.bind, peers := ps } }, rfl, ?_⟩
  split <;> simp_all [Except.mapError, Except.map]

theorem peers_of_toConfig {o : Options} {served : PortId} {entries : List String} {ps : List Peer}
    {readFile : String → Except IoError String} {c : Config} (say : Say entries ps)
    (built : { o with config := none, id := some served, peers := entries }.toConfig readFile =
      .ok c) : c.udp.peers = ps := by
  obtain ⟨c', peers, validated⟩ := toConfig_of_say o served readFile say
  rw [built] at validated
  cases passed : c'.validate with
  | error flaw =>
    rw [passed] at validated
    cases validated
  | ok u =>
    rw [passed] at validated
    cases validated
    exact peers

/-- Whatever is entered, both programs take it alike. -/
theorem taken_alike (o : Options) (served : PortId) (readFile : String → Except IoError String)
    (n : Network) (id : PortId) (gateway : Option PortId) (bind : SocketAddress)
    (entries : List String) :
    Alike (fun peers => { o with config := none, id := some served, peers }.toConfig readFile)
      (Probe.create n id gateway bind) n entries := by
  rcases say_or_fails entries with ⟨ps, say⟩ | ⟨e, fails⟩
  · have same : entries.mapM read = (ps.map entry).mapM read :=
      (mapM_of_say say).trans (mapM_of_say (say_entries ps)).symm
    exact .inr ⟨ps, say, {
      plainest := ⟨toConfig_congr (o := { o with config := none, id := some served }) same readFile,
        create_congr same n id gateway bind⟩
      validated := toConfig_of_say o served readFile say
      bus := fun e m => Probe.bus_of_create (mapM_of_say say)
      joins := ⟨fun c d m taken made => peers_of_toConfig say taken ▸ Daemon.joins_of_create made,
        fun p m => Probe.joins_of_create (mapM_of_say say)⟩ }⟩
  · refine .inl ⟨e, fails, ?_, ?_, rfl⟩
    · simp only [Options.toConfig, mapM_of_fails fails]
    · simp only [Probe.create, mapM_of_fails fails]

/-! ## The promise -/

/-- What holds of entries for peers. -/
structure Legible : Prop where
  /-- an id in one of its forms and an address are read, with blanks around both or without -/
  reads : ∀ (id : PortId) (address : SocketAddress)
    (text before behind before' behind' : List Char),
    PortId.Written text id.raw.toNat →
    (∀ cs ∈ [before, behind, before', behind'], ∀ c ∈ cs, Text.isBlank c = true) →
    read (String.ofList (before ++ text ++ behind ++ '=' ::
      (before' ++ address.render.toList ++ behind'))) = .ok ⟨id, address⟩
  /-- among the forms are those of three parts, of hexadecimal digits and of decimal digits -/
  forms : ∀ (id : PortId) (width : Nat), PortId.Written id.render.toList id.raw.toNat ∧
    (∀ x, x = 'x' ∨ x = 'X' →
      PortId.Written ('0' :: x :: padLeft '0' width (digits 16 id.raw.toNat)) id.raw.toNat) ∧
    PortId.Written (padLeft '0' width (digits 10 id.raw.toNat)) id.raw.toNat
  /-- the daemon and the probe take all entries alike -/
  alike : ∀ (o : Options) (served : PortId) (readFile : String → Except IoError String)
    (n : Network) (id : PortId) (gateway : Option PortId) (bind : SocketAddress)
    (entries : List String),
    Alike (fun peers => { o with config := none, id := some served, peers }.toConfig readFile)
      (Probe.create n id gateway bind) n entries

/-- Entries for peers are read back, and both programs read the same. -/
theorem entries_legible : Legible where
  reads := fun _ address _ _ _ _ _ written blank => by
    rw [SocketAddress.render, String.toList_ofList]
    exact read_written written address blank
  forms := fun id width => ⟨id.written_parts, fun _ mark => id.written_hexadecimal mark width,
    id.written_decimal width⟩
  alike := taken_alike

/-- An id in four hexadecimal digits and an address with a scope, with blanks around them. -/
theorem entries_legible_scoped :
    read "\t0X0105\u3000=  [fe80::1:0:0:7%3]:7600\u0085" =
      .ok ⟨.ofParts 0 2 5, .v6 ⟨[0xFE80, 0, 0, 0, 1, 0, 0, 7], rfl⟩ 3 7600⟩ := by
  have written := ((entries_legible.forms (.ofParts 0 2 5) 4).2.1 'X' (.inr rfl))
  have blanks : ∀ cs ∈ [['\t'], ['\u3000'], [' ', ' '], ['\u0085']], ∀ c ∈ cs,
      Text.isBlank c = true := by
    simp only [List.forall_mem_cons, List.not_mem_nil, false_implies, implies_true, and_true]
    decide
  exact entries_legible.reads (.ofParts 0 2 5) (.v6 ⟨[0xFE80, 0, 0, 0, 1, 0, 0, 7], rfl⟩ 3 7600) _
    ['\t'] ['\u3000'] [' ', ' '] ['\u0085'] written blanks

end Peer

end FrameBus
