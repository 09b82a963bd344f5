import FrameBus.Proofs.Config.Records
import FrameBus.Proofs.Toml.Documents
import Mathlib.Tactic.SplitIfs

/-!
# Configurations that are read back

A valid configuration is read from the text that is written for it, equal in every field
(`Config.ofToml_toToml`), if its numbers are some that TOML has. The text is that of a document with
three tables, the last of which holds the peers as an array of tables.
-/

namespace FrameBus.Config

open Toml Writer

variable {c : Config}

/-! ## Entries -/

def textField (name s : String) : Field := ⟨name, text s, .text s⟩

def numberField (name : String) (n : Nat) : Field := ⟨name, Numeral.decimal n, .int n⟩

def settingsFields (g : GatewaySettings) : List Field :=
  [textField "id" g.id.render, numberField "priority" g.priority,
    numberField "poll_interval_ms" g.pollIntervalMs,
    numberField "stats_interval_secs" g.statsIntervalSecs, textField "log_level" g.logLevel]

def queueFields (q : QueueConfig) : List Field :=
  textField "kind" q.kind.name :: q.capacity.toList.map (numberField "capacity")

def datagramFields (u : Datagram.Config) : List Field :=
  [textField "bind" u.bind.render, numberField "read_timeout_ms" u.readTimeoutMs]

def peerFields (p : Peer) : List Field :=
  [textField "id" p.id.render, textField "addr" p.address.render]

theorem reads_textField (name : String) (bare : Reader.Bare name) (s : String) :
    (textField name s).Reads := ⟨bare, Reader.spells_text s⟩

theorem reads_numberField (name : String) (bare : Reader.Bare name) {n : Nat}
    (h : n < 0x8000000000000000) : (numberField name n).Reads :=
  ⟨bare, Reader.spells_decimal (Nat.le_of_lt_succ h)⟩

theorem allRead_settings (h : c.Sized) : Field.AllRead (settingsFields c.gateway) := by
  have priority : c.gateway.priority < 0x8000000000000000 :=
    Nat.lt_of_le_of_lt h.priority (by decide)
  refine ⟨?_, by simp [settingsFields, textField, numberField]⟩
  simp only [settingsFields, List.forall_mem_cons]
  exact ⟨reads_textField _ (by decide) _, reads_numberField _ (by decide) priority,
    reads_numberField _ (by decide) h.pollIntervalMs,
    reads_numberField _ (by decide) h.statsIntervalSecs, reads_textField _ (by decide) _,
    fun _ h => nomatch h⟩

theorem allRead_queue {q : QueueConfig} (fits : ∀ n ∈ q.capacity, n < 0x8000000000000000) :
    Field.AllRead (queueFields q) := by
  obtain ⟨kind, capacity⟩ := q
  have name := reads_textField "kind" (by decide) kind.name
  cases capacity with
  | none => exact ⟨by simpa [queueFields] using name, by simp [queueFields]⟩
  | some n =>
    have bound := reads_numberField "capacity" (by decide) (fits n rfl)
    exact ⟨by simpa [queueFields] using ⟨name, bound⟩,
      by simp [queueFields, textField, numberField]⟩

theorem allRead_datagram (h : c.Sized) : Field.AllRead (datagramFields c.udp) := by
  refine ⟨?_, by simp [datagramFields, textField, numberField]⟩
  simp only [datagramFields, List.forall_mem_cons]
  exact ⟨reads_textField _ (by decide) _, reads_numberField _ (by decide) h.readTimeoutMs,
    fun _ h => nomatch h⟩

theorem allRead_peer (p : Peer) : Field.AllRead (peerFields p) := by
  refine ⟨?_, by simp [peerFields, textField]⟩
  simp only [peerFields, List.forall_mem_cons]
  exact ⟨reads_textField _ (by decide) _, reads_textField _ (by decide) _, fun _ h => nomatch h⟩

/-! ## Lines -/

/-- The lines of a configuration with peers. -/
def allLines (c : Config) : List String :=
  (("[" ++ "gateway" ++ "]") :: (settingsFields c.gateway).map Field.line) ++
    ([""] ++ ("[" ++ "queue" ++ "]") :: (queueFields c.queue).map Field.line) ++
    ([""] ++ ("[" ++ "udp" ++ "]") :: (datagramFields c.udp).map Field.line) ++
    (c.udp.peers.map peerFields).flatMap (Field.itemLines "udp" "peers")

theorem number?_of_lt {n : Nat} (h : n < 0x8000000000000000) :
    number? n = some (Numeral.decimal n) := if_pos h

theorem toLines_eq (h : c.Sized) (peers : c.udp.peers ≠ []) : c.toLines = some c.allLines := by
  have items : (c.udp.peers.map peerFields).flatMap (Field.itemLines "udp" "peers") =
      c.udp.peers.flatMap Peer.lines := by
    rw [List.flatMap_map]
    rfl
  have some_peers : c.udp.peers.isEmpty = false := by simpa using peers
  have poll := number?_of_lt h.pollIntervalMs
  have stats := number?_of_lt h.statsIntervalSecs
  have timeout := number?_of_lt h.readTimeoutMs
  have fits := h.capacity
  obtain ⟨gateway, ⟨kind, capacity⟩, udp⟩ := c
  cases capacity with
  | none =>
    simp [toLines, allLines, poll, stats, timeout, some_peers, items]
    rfl
  | some n =>
    simp [toLines, allLines, poll, stats, timeout, some_peers, items, number?_of_lt (fits n rfl)]
    rfl

/-! ## The document -/

/-- The tables before the one with the peers. -/
def firstTables (c : Config) : Entries :=
  [("gateway", .table false false ((settingsFields c.gateway).map Field.node)),
    ("queue", .table false false ((queueFields c.queue).map Field.node))]

/-- A document that says a configuration. -/
def document (c : Config) : Entries :=
  Draft.nested c.firstTables ((datagramFields c.udp).map Field.node) "udp" "peers"
    ((c.udp.peers.map peerFields).map (List.map Field.node))

theorem passes_allLines (h : c.Sized) (peers : c.udp.peers ≠ []) :
    ∃ d, Reader.Passes {} c.allLines d ∧ d.finish = some c.document := by
  have gateway : Reader.Passes {} _
      ⟨[], (settingsFields c.gateway).map Field.node, ["gateway"], false⟩ :=
    Field.passes_table "gateway" (allRead_settings h) (by decide) rfl rfl
  have queue := Field.passes_table "queue" (allRead_queue h.capacity) (by decide)
    (Draft.finish_table [] "gateway" ((settingsFields c.gateway).map Field.node) rfl) rfl
  have udp := Field.passes_table "udp" (allRead_datagram h) (by decide)
    (Draft.finish_table (c.firstTables.take 1) "queue" ((queueFields c.queue).map Field.node) rfl)
    rfl
  have items (fs : List Field) (hfs : fs ∈ c.udp.peers.map peerFields) : Field.AllRead fs := by
    obtain ⟨p, -, rfl⟩ := List.mem_map.1 hfs
    exact allRead_peer p
  obtain ⟨d, array, finished⟩ := Field.passes_array (a := "udp") (b := "peers")
    (d := ⟨c.firstTables, (datagramFields c.udp).map Field.node, ["udp"], false⟩) items
    (by simpa using peers) (by decide) (by decide) (Draft.finish_table _ _ _ rfl) rfl rfl
  exact ⟨d, (((gateway.append ((Reader.passes_blank _).append queue)).append
    ((Reader.passes_blank _).append udp)).append array), finished⟩

theorem values_document (c : Config) : entriesToValues c.document = c.values := by
  have queue : (queueFields c.queue).map Field.pair = queueValues c.queue := by
    rw [queueFields, queueValues, List.map_cons, List.map_map]
    rfl
  have peers : ((c.udp.peers.map peerFields).map fun fs => Value.table (fs.map Field.pair)) =
      c.udp.peers.map fun p => .table (peerValues p) := by
    rw [List.map_map]
    rfl
  simp only [document, Draft.nested, firstTables, entriesToValues_append, entriesToValues,
    Node.toValue, Field.entriesToValues_node, Field.tablesToValues_node, queue, peers]
  rfl

theorem peers_ne_nil (valid : c.validate = .ok ()) : c.udp.peers ≠ [] := by
  intro none
  unfold validate at valid
  simp only [none, List.isEmpty_nil, if_true] at valid
  split_ifs at valid

/-- A valid configuration is read from what is written for it. -/
theorem ofToml_toToml (valid : c.validate = .ok ()) (h : c.Sized) :
    ∃ text, c.toToml = .ok text ∧ ofToml text = .ok c := by
  have peers := peers_ne_nil valid
  obtain ⟨d, passes, finished⟩ := passes_allLines h peers
  have read := read?_of_passes passes finished rfl (by decide)
  refine ⟨_, by rw [toToml, toLines_eq h peers], ?_⟩
  rw [ofToml, read, values_document]
  simp only [ofValue_values h, valid]

/-- A configuration with quotes, line ends and a control character in a text, and with addresses of
both versions. -/
def oddConfig : Config where
  gateway := { id := .ofParts 1 0 1, logLevel := "\"\"\"\x27\x27\x27\r\n\\\x07\u00e9\n" }
  queue := { kind := .single, capacity := some 7 }
  udp :=
    { bind := .v6 ⟨[0, 0, 0, 0, 0, 0xFFFF, 0x7F00, 1], rfl⟩ 0 7600
      peers := [⟨.ofParts 1 0 2, .v6 ⟨[0xFE80, 0, 0, 0, 1, 0, 0, 2], rfl⟩ 3 7601⟩,
        ⟨.ofParts 1 2 1, .v4 ⟨10, 0, 0, 1⟩ 7602⟩] }

theorem ofToml_toToml_odd : oddConfig.validate = .ok () ∧ oddConfig.Sized ∧
    ∃ text, oddConfig.toToml = .ok text ∧ ofToml text = .ok oddConfig := by
  have valid : oddConfig.validate = .ok () := by decide
  have sized : oddConfig.Sized := by constructor <;> decide
  exact ⟨valid, sized, ofToml_toToml valid sized⟩

end FrameBus.Config
