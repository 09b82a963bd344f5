import FrameBus.Config.Toml
import FrameBus.Proofs.Notation.Addresses
import FrameBus.Proofs.Notation.Ports

/-!
# Configurations as values

A record is read from a table whose entries are its fields, each with a value that fits
(`Value.toRecord_table`). So every part of a configuration is read from the values that say it, and
the whole from those of its parts (`Config.ofValue_toValue`).
-/

namespace FrameBus

namespace Value

/-! ## Records -/

theorem toRecord_table {α : Type} {format : Format} {names : List String}
    {check : String → Value → Except DecodeError Unit}
    {build : List (String × Value) → Except DecodeError α} {entries : List (String × Value)} {a : α}
    (known : ∀ e ∈ entries, e.1 ∈ names) (fits : ∀ e ∈ entries, check e.1 e.2 = .ok ())
    (built : build entries = .ok a) :
    toRecord format names check build (.table entries) = .ok a := by
  have all : (entries.filter fun e => names.contains e.1) = entries := by
    rw [List.filter_eq_self]
    exact fun e he => by simpa using known e he
  have checked : (forIn entries PUnit.unit fun e _ => do
      check e.1 e.2
      pure (ForInStep.yield PUnit.unit)) = (.ok PUnit.unit : Except DecodeError PUnit) := by
    clear known built all
    induction entries with
    | nil => rfl
    | cons e es ih =>
      rw [List.forIn_cons, fits e List.mem_cons_self]
      exact ih fun e he => fits e (List.mem_cons_of_mem _ he)
  simp only [toRecord, fields, all]
  change (forIn entries PUnit.unit fun e _ => do
    check e.1 e.2
    pure (ForInStep.yield PUnit.unit)) >>= (fun _ => build entries >>= fun a =>
      if true = true then pure a else .error .mismatch) = _
  rw [checked, built]
  rfl

/-! ## Values -/

theorem toPortId_render (id : PortId) : toPortId (.text id.render) = .ok id := by
  simp only [toPortId, PortId.read_render]

theorem toNat_int {limit n : Nat} (h : n ≤ limit) : toNat limit (.int n) = .ok n := by
  simp [toNat, h]

theorem toQueueKind_name (kind : QueueKind) : toQueueKind .toml (.text kind.name) = .ok kind := by
  cases kind <;> rfl

end Value

namespace Config

open Value

/-! ## Parts of a configuration -/

theorem toAddress_render (a : SocketAddress) : toAddress (.text a.render) = .ok a := by
  have chars : a.render.toList = a.renderChars := String.toList_ofList
  simp only [toAddress, chars, SocketAddress.read?_render]

/-- The values of a gateway's settings. -/
def settingsValues (g : GatewaySettings) : List (String × Value) :=
  [("id", .text g.id.render), ("priority", .int g.priority),
    ("poll_interval_ms", .int g.pollIntervalMs), ("stats_interval_secs", .int g.statsIntervalSecs),
    ("log_level", .text g.logLevel)]

def queueValues (q : QueueConfig) : List (String × Value) :=
  ("kind", .text q.kind.name) :: q.capacity.toList.map fun (n : Nat) => ("capacity", .int n)

def peerValues (p : Peer) : List (String × Value) :=
  [("id", .text p.id.render), ("addr", .text p.address.render)]

def datagramValues (u : Datagram.Config) : List (String × Value) :=
  [("bind", .text u.bind.render), ("read_timeout_ms", .int u.readTimeoutMs),
    ("peers", .list (u.peers.map fun p => .table (peerValues p)))]

def values (c : Config) : List (String × Value) :=
  [("gateway", .table (settingsValues c.gateway)), ("queue", .table (queueValues c.queue)),
    ("udp", .table (datagramValues c.udp))]

/-- The priority is a byte, and the other numbers are integers of TOML. -/
structure Sized (c : Config) : Prop where
  priority : c.gateway.priority ≤ 255
  pollIntervalMs : c.gateway.pollIntervalMs < 0x8000000000000000
  statsIntervalSecs : c.gateway.statsIntervalSecs < 0x8000000000000000
  capacity : ∀ n ∈ c.queue.capacity, n < 0x8000000000000000
  readTimeoutMs : c.udp.readTimeoutMs < 0x8000000000000000

theorem toNat_of_lt {n : Nat} (h : n < 0x8000000000000000) : toNat sizeLimit (.int n) = .ok n :=
  toNat_int (by simp only [sizeLimit]; omega)

variable {c : Config}

theorem toSettings_values (h : c.Sized) :
    toSettings (.table (settingsValues c.gateway)) = .ok c.gateway := by
  have poll := toNat_of_lt h.pollIntervalMs
  have stats := toNat_of_lt h.statsIntervalSecs
  have priority := toNat_int h.priority
  refine toRecord_table ?_ ?_ ?_
  · simp [settingsValues]
  · simp [settingsValues, toPortId_render, toText, poll, stats, priority, Except.map]
  · simp only [settingsValues, required, fieldOr, List.lookup_cons]
    simp [toPortId_render, toText, poll, stats, priority]
    rfl

theorem toQueueConfig_values {q : QueueConfig} (fits : ∀ n ∈ q.capacity, n < 0x8000000000000000) :
    toQueueConfig .toml (.table (queueValues q)) = .ok q := by
  obtain ⟨name, capacity⟩ := q
  have kind := toQueueKind_name name
  cases capacity with
  | none =>
    refine toRecord_table ?_ ?_ ?_
    · simp [queueValues]
    · simp [queueValues, kind, Except.map]
    · simp [queueValues, fieldOr, List.lookup_cons, kind]
      rfl
  | some n =>
    have bound : toCapacity (.int n) = .ok (some n) := by
      simp [toCapacity, toNat_of_lt (fits n rfl), Except.map]
    refine toRecord_table ?_ ?_ ?_
    · simp [queueValues]
    · simp [queueValues, kind, bound, Except.map]
    · simp [queueValues, fieldOr, List.lookup_cons, kind, bound]
      rfl

theorem toPeer_values (p : Peer) : toPeer (.table (peerValues p)) = .ok p := by
  refine toRecord_table ?_ ?_ ?_
  · simp [peerValues]
  · simp [peerValues, toPortId_render, toAddress_render, Except.map]
  · simp [peerValues, required, List.lookup_cons, toPortId_render, toAddress_render]
    rfl

theorem toPeers_values (peers : List Peer) :
    toPeers (.list (peers.map fun p => .table (peerValues p))) = .ok peers := by
  simp only [toPeers]
  induction peers with
  | nil => rfl
  | cons p peers ih =>
    rw [List.map_cons, List.mapM_cons, toPeer_values, ih]
    rfl

theorem toDatagram_values (h : c.Sized) :
    toDatagram (.table (datagramValues c.udp)) = .ok c.udp := by
  have timeout := toNat_of_lt h.readTimeoutMs
  have peers := toPeers_values c.udp.peers
  refine toRecord_table ?_ ?_ ?_
  · simp [datagramValues]
  · simp [datagramValues, toAddress_render, timeout, peers, Except.map]
  · simp [datagramValues, fieldOr, List.lookup_cons, toAddress_render, timeout, peers]
    rfl

/-- A configuration is read from the values that say it. -/
theorem ofValue_values (h : c.Sized) : ofValue (.table c.values) = .ok c := by
  have gateway := toSettings_values h
  have queue := toQueueConfig_values h.capacity
  have udp := toDatagram_values h
  refine toRecord_table ?_ ?_ ?_
  · simp [values]
  · simp [values, gateway, queue, udp, Except.map]
  · simp [values, required, fieldOr, List.lookup_cons, gateway, queue, udp]
    rfl

end Config

end FrameBus
