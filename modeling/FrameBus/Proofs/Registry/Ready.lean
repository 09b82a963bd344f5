import FrameBus.Proofs.Registry.Adds
import Mathlib.Data.List.Nodup

/-!
# Nodes that are ready

A node is ready when every port that is registered there is connected, copies what is broadcast and
has an open queue without a bound. At such a node a send comes to its target at once, or has none,
and a broadcast gives a copy to every port but the sender's.
-/

namespace FrameBus.Registry

structure Ready (r : Registry Reaction) : Prop where
  /-- no id is registered twice -/
  ids : r.ids.Nodup
  port : ∀ h ∈ r.registered, ∃ p, r.port? h = some p ∧ p.state = .conn ∧ p.reaction = some .copy ∧
    p.queue.isClosed = false ∧ p.queue.capacity = none

/-- The ports under other ids. -/
def others (r : Registry Reaction) (id : PortId) : List Handle :=
  r.registered.filter fun h => r.idOf h != id

/-- The connected ports under other ids that react to a broadcast. -/
def hearers (r : Registry Reaction) (id : PortId) : List Handle :=
  (r.others id).filter fun h => r.isConnected h && ((r.port? h).bind Port.reaction).isSome

variable {r s : Registry Reaction}

theorem mem_others {id : PortId} {h : Handle} :
    h ∈ r.others id ↔ h ∈ r.registered ∧ r.idOf h ≠ id := by
  simp [others]

theorem others_of_blank (hb : s.blank = r.blank) (id : PortId) : s.others id = r.others id := by
  simp only [others, registered_of_blank hb, idOf_of_blank hb]

theorem ready_of_blank (hb : s.blank = r.blank) (hr : r.Ready) : s.Ready := by
  refine ⟨ids_of_blank hb ▸ hr.ids, fun h hh => ?_⟩
  rw [registered_of_blank hb] at hh
  obtain ⟨p, hp, hs, hk, hc, hn⟩ := hr.port h hh
  obtain ⟨q, hq, e⟩ := port?_of_blank hb hp
  have state : q.blank.state = p.blank.state := congrArg Port.state e
  have reaction : q.blank.reaction = p.blank.reaction := congrArg Port.reaction e
  have queue : q.queue.blank = p.queue.blank := congrArg Port.queue e
  refine ⟨q, hq, state.trans hs, reaction.trans hk, ?_, ?_⟩
  · rw [← Queue.isClosed_blank, queue, Queue.isClosed_blank, hc]
  · rw [← Queue.capacity_blank, queue, Queue.capacity_blank, hn]

namespace Ready

theorem isConnected (hr : r.Ready) {h : Handle} (hh : h ∈ r.registered) :
    r.isConnected h = true := by
  obtain ⟨p, hp, hs, _⟩ := hr.port h hh
  simp [Registry.isConnected, hp, Port.isConnected, hs]

theorem takes (hr : r.Ready) {h : Handle} (hh : h ∈ r.registered) : r.Takes h := by
  obtain ⟨p, hp, _, _, hc, hn⟩ := hr.port h hh
  exact ⟨p, hp, hc, hn⟩

/-- Everyone hears. -/
theorem hearers (hr : r.Ready) (id : PortId) : r.hearers id = r.others id := by
  apply List.filter_eq_self.2
  intro h hh
  have registered := (mem_others.1 hh).1
  obtain ⟨p, hp, _, hk, _⟩ := hr.port h registered
  simp [hr.isConnected registered, hp, hk]

theorem nodup_others (hr : r.Ready) (id : PortId) : (r.others id).Nodup :=
  (List.Nodup.of_map r.idOf hr.ids).filter _

/-- Two ports have two ids. -/
theorem eq_of_idOf_eq (hr : r.Ready) {h k : Handle} (hh : h ∈ r.registered) (hk : k ∈ r.registered)
    (e : r.idOf h = r.idOf k) : h = k :=
  List.inj_on_of_nodup_map hr.ids hh hk e

/-- The others are all ports but the one. -/
theorem mem_others_iff (hr : r.Ready) {h k : Handle} (hh : h ∈ r.registered)
    (hk : k ∈ r.registered) : h ∈ r.others (r.idOf k) ↔ h ≠ k := by
  rw [mem_others]
  constructor
  · rintro ⟨-, hne⟩ rfl
    exact hne rfl
  · exact fun hne => ⟨hh, fun e => hne (hr.eq_of_idOf_eq hh hk e)⟩

/-- A port is found under its id. -/
theorem find? (hr : r.Ready) {h : Handle} (hh : h ∈ r.registered) :
    r.find? (r.idOf h) = some h := by
  cases e : r.find? (r.idOf h) with
  | none =>
    have := List.find?_eq_none.1 e h hh
    simp at this
  | some k =>
    have hk : k ∈ r.registered := List.mem_of_find?_eq_some e
    have same : r.idOf k = r.idOf h := by simpa using List.find?_some e
    rw [hr.eq_of_idOf_eq hk hh same]

theorem recipients (hr : r.Ready) (id : PortId) :
    r.recipients id = (r.others id).map fun h => (h, .copy) := by
  have each : r.recipients id = r.registered.filterMap fun h =>
      if r.idOf h != id then some (h, .copy) else none := by
    apply List.filterMap_congr
    intro h hh
    obtain ⟨p, hp, hs, hk, _⟩ := hr.port h hh
    simp [hp, Port.isConnected, hs, hk, idOf]
  rw [each, others]
  induction r.registered with
  | nil => rfl
  | cons h l ih =>
    simp only [List.filterMap_cons, List.filter_cons]
    split <;> simp_all

end Ready

theorem find?_eq_none {id : PortId} (h : ∀ k ∈ r.registered, r.idOf k ≠ id) : r.find? id = none :=
  List.find?_eq_none.2 fun k hk => by simpa using h k hk

/-! ## Sends -/

/-- A frame goes to the port of its destination, if that is registered. -/
theorem send_to_port (hr : r.Ready) {sender h : Handle} {f : Frame} (hs : sender ∈ r.registered)
    (hh : h ∈ r.registered) (hd : (r.idOf h).isReserved = false) :
    ∃ s, r.send sender (r.idOf h) f = .sent s ∧ Adds r s [(h, f)] := by
  have target : r.target? (r.idOf sender) (r.idOf h) = some h := by
    rw [target?, hr.find? hh]
    rfl
  refine send_of_takes ?_ (hr.takes hh) f
  simp [resolve, hd, hr.isConnected hs, target, hr.isConnected hh]

/-- Else it goes to the port of the next hop. -/
theorem send_to_hop (hr : r.Ready) {sender h : Handle} {dest : PortId} {f : Frame}
    (hs : sender ∈ r.registered) (hd : dest.isReserved = false) (hn : r.find? dest = none)
    (hop : Route.nextHop? (r.idOf sender) dest = some (r.idOf h)) (hh : h ∈ r.registered)
    (hne : r.idOf h ≠ r.idOf sender) :
    ∃ s, r.send sender dest f = .sent s ∧ Adds r s [(h, f)] := by
  have target : r.target? (r.idOf sender) dest = some h := by
    have other : (some (r.idOf h)).filter (fun hop => hop != r.idOf sender) = some (r.idOf h) :=
      Option.filter_some_pos (by simpa using hne)
    rw [target?, hn, hop, other]
    exact hr.find? hh
  refine send_of_takes ?_ (hr.takes hh) f
  simp [resolve, hd, hr.isConnected hs, target, hr.isConnected hh]

/-- Without either it is handed back. -/
theorem send_unreachable (hr : r.Ready) {sender : Handle} {dest hop : PortId} {f : Frame}
    (hs : sender ∈ r.registered) (hd : dest.isReserved = false) (hn : r.find? dest = none)
    (hhop : Route.nextHop? (r.idOf sender) dest = some hop) (hno : r.find? hop = none) :
    r.send sender dest f = .returned ⟨.unreachable dest, f⟩ := by
  have target : r.target? (r.idOf sender) dest = none := by
    rw [target?, hn, hhop]
    by_cases h : hop = r.idOf sender <;> simp [h, hno]
  simp [send, resolve, hd, hr.isConnected hs, target]

/-- A broadcast gives every other port a copy. -/
theorem broadcast_ready (hr : r.Ready) {sender : Handle} (hs : sender ∈ r.registered) (f : Frame) :
    ∃ o, r.broadcast Reaction.run sender f = some (.ok o) ∧
      o.accepted = (r.others (r.idOf sender)).length ∧
      Adds r o.after ((r.others (r.idOf sender)).map fun h => (h, f.duplicate)) := by
  have copies : ∀ k ∈ r.recipients (r.idOf sender), k.2 = .copy := by
    intro k hk
    rw [hr.recipients] at hk
    obtain ⟨h, _, rfl⟩ := List.mem_map.1 hk
    rfl
  have takes : ∀ k ∈ r.recipients (r.idOf sender), r.Takes k.1 := by
    intro k hk
    rw [hr.recipients] at hk
    obtain ⟨h, hh, rfl⟩ := List.mem_map.1 hk
    exact hr.takes (List.mem_of_mem_filter hh)
  obtain ⟨o, ho, hn, ha⟩ := runAll_of_takes (f := f) copies takes
  rw [hr.recipients, List.length_map] at hn
  rw [hr.recipients, List.map_map] at ha
  exact ⟨o, by simp only [broadcast, hr.isConnected hs, if_true, ho, Option.map_some], hn, ha⟩

/-! ## Such a node -/

/-- A node with a gateway and sessions that are all started. -/
def station (gateway : PortId) (sessions : List PortId) : Registry Reaction where
  config := {}
  ports := (gateway :: sessions).map fun id => ⟨id, .conn, .new {}, some .copy⟩
  registered := List.range (gateway :: sessions).length
  sessions

theorem ready_station {gateway : PortId} {sessions : List PortId}
    (h : (gateway :: sessions).Nodup) : (station gateway sessions).Ready := by
  have port {k : Nat} (hk : k < (gateway :: sessions).length) :
      (station gateway sessions).port? k =
        some ⟨(gateway :: sessions)[k], .conn, .new {}, some .copy⟩ := by
    simp only [port?, station, List.getElem?_map, List.getElem?_eq_getElem hk, Option.map_some]
  constructor
  · have ids : (station gateway sessions).ids = gateway :: sessions := by
      apply List.ext_getElem (by simp [ids, station])
      intro k _ hk
      simp only [ids, station, List.getElem_map, List.getElem_range]
      show (station gateway sessions).idOf k = _
      rw [idOf, port hk]
      rfl
    rw [ids]
    exact h
  · exact fun k hk => ⟨_, port (by simpa [station] using hk), rfl, rfl, rfl, rfl⟩

end FrameBus.Registry
