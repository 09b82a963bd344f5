import FrameBus.Proofs.Registry.Courses

/-!
# Where sends go

A destination is served by the port that is registered under its id. Only if there is none, it is
served by the port of the next hop from the sender, unless that hop is the sender itself
(`Registry.Serves`); so a destination has one target at most (`serves_unique`).

In a registry that came about by calls, and with room at the target, a send has two ends. Its frame
is added at the end of the target's queue, and nothing else changes (`Gains`). Or it comes back as
it was, with the first reason that applies (`Fault`), and nothing changes at all. Between the two
the states of the ports decide (`send_picks_one_target`).
-/

namespace FrameBus.Registry

variable {κ : Type} {r s : Registry κ} {p q : Port κ} {sender h k : Handle} {id dest : PortId}
  {f : Frame} {e : BusError}

/-! ## Targets -/

/-- A port is registered under an id. -/
def Holds (r : Registry κ) (id : PortId) (h : Handle) : Prop := h ∈ r.registered ∧ r.idOf h = id

/-- A port is the target for a destination. -/
inductive Serves (r : Registry κ) (sender dest : PortId) (h : Handle) : Prop
  | own : r.Holds dest h → Serves r sender dest h
  | hop {hop : PortId} : dest ∉ r.ids → Route.nextHop? sender dest = some hop → hop ≠ sender →
      r.Holds hop h → Serves r sender dest h

theorem Holds.mem (holds : r.Holds id h) : id ∈ r.ids :=
  List.mem_map.2 ⟨h, holds.1, holds.2⟩

theorem Holds.unique (ids : r.ids.Nodup) (left : r.Holds id h) (right : r.Holds id k) : h = k :=
  List.inj_on_of_nodup_map ids left.1 right.1 (left.2.trans right.2.symm)

theorem find?_eq_some_iff (ids : r.ids.Nodup) : r.find? id = some h ↔ r.Holds id h := by
  refine ⟨mem_registered_of_find?, fun holds => ?_⟩
  cases found : r.find? id with
  | none => exact absurd holds.mem (find?_eq_none_iff.1 found)
  | some k => rw [Holds.unique ids (mem_registered_of_find? found) holds]

theorem target?_eq_some_iff (ids : r.ids.Nodup) {from_ : PortId} :
    r.target? from_ dest = some h ↔ r.Serves from_ dest h := by
  unfold target?
  rw [Option.or_eq_some_iff, find?_eq_some_iff ids, find?_eq_none_iff, Option.bind_eq_some_iff]
  constructor
  · rintro (own | ⟨free, hop, taken, found⟩)
    · exact .own own
    · obtain ⟨next, other⟩ := Option.filter_eq_some_iff.1 taken
      exact .hop free next (by simpa using other) ((find?_eq_some_iff ids).1 found)
  · rintro (own | ⟨free, next, other, found⟩)
    · exact .inl own
    · refine .inr ⟨free, _, Option.filter_eq_some_iff.2 ⟨next, by simpa using other⟩, ?_⟩
      exact (find?_eq_some_iff ids).2 found

theorem serves_unique (ids : r.ids.Nodup) {from_ : PortId} (left : r.Serves from_ dest h)
    (right : r.Serves from_ dest k) : h = k := by
  have same := (target?_eq_some_iff ids).2 left
  rw [(target?_eq_some_iff ids).2 right] at same
  exact (Option.some.inj same).symm

theorem Serves.mem {from_ : PortId} (serves : r.Serves from_ dest h) : h ∈ r.registered := by
  cases serves with
  | own holds => exact holds.1
  | hop _ _ _ holds => exact holds.1

/-! ## Ends of a send -/

/-- A send from a port is handed back for this reason, and for none that comes before it. -/
inductive Fault (r : Registry κ) (p : Port κ) (dest : PortId) : BusError → Prop
  | reserved : dest.isReserved = true → Fault r p dest (.invalidPortId dest)
  | sender : dest.isReserved = false → p.state ≠ .conn → Fault r p dest (.notConnected p.id)
  | unserved : dest.isReserved = false → p.state = .conn → (∀ h, ¬ r.Serves p.id dest h) →
      Fault r p dest (.unreachable dest)
  | target {h : Handle} {q : Port κ} : dest.isReserved = false → p.state = .conn →
      r.Serves p.id dest h → r.port? h = some q → q.state ≠ .conn →
      Fault r p dest (.notConnected q.id)

/-- Destination, sender and target are all as a send needs them. -/
structure Served (r : Registry κ) (p : Port κ) (dest : PortId) (h : Handle) (q : Port κ) :
    Prop where
  single : dest.isReserved = false
  sender : p.state = .conn
  serves : r.Serves p.id dest h
  port : r.port? h = some q
  target : q.state = .conn

/-- One registry after another: a frame is added at the end of a port's queue, and nothing else
changes. -/
structure Gains (r : Registry κ) (h : Handle) (q : Port κ) (f : Frame) (s : Registry κ) : Prop where
  port : s.port? h = some { q with queue := q.queue.add f }
  frames : s.frames h = r.frames h ++ [f]
  others : ∀ k, k ≠ h → s.port? k = r.port? k
  registered : s.registered = r.registered
  sessions : s.sessions = r.sessions
  config : s.config = r.config

theorem isConnected_of_port? (hp : r.port? h = some p) :
    r.isConnected h = true ↔ p.state = .conn := by
  simp [isConnected, hp, Port.isConnected]

theorem idOf_eq (hp : r.port? h = some p) : r.idOf h = p.id := by
  simp [idOf, hp]

theorem resolve_of_served (ids : r.ids.Nodup) (hp : r.port? sender = some p)
    (served : r.Served p dest h q) : r.resolve sender dest = .ok h := by
  have connected := (isConnected_of_port? hp).2 served.sender
  have target := (target?_eq_some_iff ids).2 served.serves
  have reached := (isConnected_of_port? served.port).2 served.target
  simp [resolve, idOf_eq hp, served.single, connected, target, reached]

theorem resolve_of_fault (ids : r.ids.Nodup) (hp : r.port? sender = some p)
    (fault : r.Fault p dest e) : r.resolve sender dest = .error e := by
  have connected := isConnected_of_port? hp
  unfold resolve
  rw [idOf_eq hp]
  cases fault with
  | reserved reserved => simp [reserved]
  | sender single idle => simp [single, connected, idle]
  | unserved single joined unserved =>
    have target : r.target? p.id dest = none := by
      rw [Option.eq_none_iff_forall_ne_some]
      exact fun h target => unserved h ((target?_eq_some_iff ids).1 target)
    simp [single, connected.2 joined, target]
  | target single joined serves port deaf =>
    have target := (target?_eq_some_iff ids).2 serves
    simp [single, connected.2 joined, target, isConnected_of_port? port, deaf, idOf_eq port]

/-- A send has a target to which its frame can go, or a reason for which it cannot. -/
theorem served_or_fault (known : ∀ h ∈ r.registered, h < r.ports.length) (p : Port κ)
    (dest : PortId) : (∃ h q, r.Served p dest h q) ∨ ∃ e, r.Fault p dest e := by
  by_cases reserved : dest.isReserved = true
  · exact .inr ⟨_, .reserved reserved⟩
  have single : dest.isReserved = false := by simpa using reserved
  by_cases joined : p.state = .conn
  · by_cases served : ∃ h, r.Serves p.id dest h
    · obtain ⟨h, serves⟩ := served
      have lt : h < r.ports.length := known h serves.mem
      have port : r.port? h = some r.ports[h] := List.getElem?_eq_getElem lt
      by_cases reached : r.ports[h].state = .conn
      · exact .inl ⟨h, _, single, joined, serves, port, reached⟩
      · exact .inr ⟨_, .target single joined serves port reached⟩
    · exact .inr ⟨_, .unserved single joined (not_exists.1 served)⟩
  · exact .inr ⟨_, .sender single joined⟩

/-- An open queue with room takes the frame. -/
theorem gains_of_room (port : r.port? h = some q) (opened : q.queue.isClosed = false)
    (room : q.queue.isFull = false) (f : Frame) :
    ∃ s, r.enqueue h f = .accepted s ∧ Gains r h q f s := by
  have taken : q.queue.offer f = .accepted (q.queue.add f) := by
    simp [Queue.offer, opened, room]
  have put : r.enqueue h f = .accepted (r.modify h fun p => { p with queue := q.queue.add f }) := by
    simp only [enqueue, port, taken]
  refine ⟨_, put, ?_, ?_, fun k other => port?_modify_of_ne other _, rfl, rfl, rfl⟩
  · rw [port?_modify_self, port, Option.map_some]
  · rw [frames_setQueue port, if_pos rfl, Queue.toList_add, frames, port]
    rfl

/-! ## Sends -/

/-- What a send does, by the states of the ports when it is called. -/
structure OneTarget (r : Registry κ) (sender : Handle) (p : Port κ) (dest : PortId) (f : Frame) :
    Prop where
  target : ∀ h k, r.Serves p.id dest h → r.Serves p.id dest k → h = k
  sent : (∃ s, r.answer (.send sender dest f) = (.done, s)) ↔ ∃ h q, r.Served p dest h q
  gains : ∀ s, r.answer (.send sender dest f) = (.done, s) →
    ∃ h q, r.Served p dest h q ∧ Gains r h q f s
  failed : ∀ reply s, r.answer (.send sender dest f) = (reply, s) → reply ≠ .done →
    s = r ∧ ∃ e, reply = .handedBack ⟨e, f⟩ ∧ r.Fault p dest e ∧ e ≠ .queueClosed
  /-- and the reason is one only -/
  reason : ∀ e, r.Fault p dest e → r.answer (.send sender dest f) = (.handedBack ⟨e, f⟩, r)

theorem Fault.ne_queueClosed (fault : r.Fault p dest e) : e ≠ .queueClosed := by
  cases fault <;> nofun

theorem answer_of_fault (ids : r.ids.Nodup) (hp : r.port? sender = some p)
    (fault : r.Fault p dest e) (f : Frame) :
    r.answer (.send sender dest f) = (.handedBack ⟨e, f⟩, r) := by
  simp only [answer, send, resolve_of_fault ids hp fault]

theorem answer_of_served (ids : r.ids.Nodup) (hp : r.port? sender = some p)
    (served : r.Served p dest h q) (opened : q.queue.isClosed = false)
    (room : q.queue.isFull = false) (f : Frame) :
    ∃ s, r.answer (.send sender dest f) = (.done, s) ∧ Gains r h q f s := by
  obtain ⟨s, put, gains⟩ := gains_of_room served.port opened room f
  refine ⟨s, ?_, gains⟩
  simp only [answer, send, resolve_of_served ids hp served, deliver, put]

theorem send_picks_one_target {config : QueueConfig} {log : List (Event κ)}
    (course : Course (new config) log r) (hp : r.port? sender = some p) (dest : PortId) (f : Frame)
    (room : ∀ h q, r.Serves p.id dest h → r.port? h = some q → q.queue.isFull = false) :
    OneTarget r sender p dest f := by
  have kept : Kept (made log) r := (kept_new config).calls (calls_of_course course)
  have good {h : Handle} {q : Port κ} (served : r.Served p dest h q) :
      ∃ s, r.answer (.send sender dest f) = (.done, s) ∧ Gains r h q f s := by
    obtain ⟨q', port, opened⟩ := kept.opened served.serves.mem
    obtain rfl : q' = q := Option.some.inj (port.symm.trans served.port)
    exact answer_of_served kept.ids hp served opened (room h q' served.serves port) f
  have bad {e : BusError} (fault : r.Fault p dest e) :
      r.answer (.send sender dest f) = (.handedBack ⟨e, f⟩, r) :=
    answer_of_fault kept.ids hp fault f
  refine ⟨fun h k => serves_unique kept.ids, ⟨fun ⟨s, done⟩ => ?_, fun ⟨h, q, served⟩ => ?_⟩,
    fun s done => ?_, fun reply s answer undone => ?_, fun e => bad⟩
  · rcases served_or_fault kept.known p dest with served | ⟨e, fault⟩
    · exact served
    · cases (bad fault).symm.trans done
  · obtain ⟨s, done, -⟩ := good served
    exact ⟨s, done⟩
  · rcases served_or_fault kept.known p dest with ⟨h, q, served⟩ | ⟨e, fault⟩
    · obtain ⟨t, done', gains⟩ := good served
      cases done'.symm.trans done
      exact ⟨h, q, served, gains⟩
    · cases (bad fault).symm.trans done
  · rcases served_or_fault kept.known p dest with ⟨h, q, served⟩ | ⟨e, fault⟩
    · obtain ⟨t, done, -⟩ := good served
      cases done.symm.trans answer
      exact absurd rfl undone
    · cases (bad fault).symm.trans answer
      exact ⟨rfl, e, rfl, fault, fault.ne_queueClosed⟩

/-- A port was destroyed and got back its connection. It sends by way of the route of its channel,
where a frame waits and there is room for one more. -/
theorem send_from_destroyed_port :
    let channel := PortId.ofParts 1 2 1
    let dest := PortId.ofParts 0 0 9
    let f := Frame.ofBytes [7]
    ∃ (log : List (Event Reaction)) (r : Registry Reaction) (p : Port Reaction),
      Course (new ⟨.single, some 2⟩) log r ∧ r.port? 0 = some p ∧ p.state = .conn ∧
        r.ids = [channel] ∧ r.ClosedAt 0 ∧ (r.frames 1).length = 1 ∧ OneTarget r 0 p dest f ∧
        ∃ s, r.answer (.send 0 dest f) = (.done, s) ∧ s.frames 1 = r.frames 1 ++ [f] := by
  intro channel dest f
  let calls : List (Call Reaction) :=
    [.createPort (.ofParts 1 2 5), .createPort channel, .setState 0 .conn, .setState 1 .conn,
      .send 0 channel (.ofBytes []), .destroyPort (.ofParts 1 2 5), .setState 0 .conn]
  let r : Registry Reaction := (callAll (new ⟨.single, some 2⟩) [] calls).2
  have course : Course (new ⟨.single, some 2⟩) _ r := course_callAll (.start _) calls
  have sender : (r.port? 0).map (fun p => (p.id, p.state, p.queue.isClosed)) =
      some (.ofParts 1 2 5, .conn, true) := by decide +kernel
  have target : (r.port? 1).map Port.state = some .conn := by decide +kernel
  obtain ⟨p, port, sender⟩ := Option.map_eq_some_iff.1 sender
  obtain ⟨q, at_q, reached⟩ := Option.map_eq_some_iff.1 target
  simp only [Prod.mk.injEq] at sender
  obtain ⟨own, joined, closed⟩ := sender
  have room : ∀ q ∈ r.ports, q.queue.isFull = false := by decide +kernel
  have one := send_picks_one_target course port dest f fun h q _ at_h =>
    room q (List.mem_of_getElem? at_h)
  have serves : r.Serves p.id dest 1 := by
    rw [own]
    have next : Route.nextHop? (.ofParts 1 2 5) dest = some channel := by decide +kernel
    exact .hop (by decide +kernel) next (by decide +kernel) ⟨by decide +kernel, by decide +kernel⟩
  obtain ⟨s, done⟩ := one.sent.2 ⟨1, q, by decide +kernel, joined, serves, at_q, reached⟩
  obtain ⟨h, q', served, gains⟩ := one.gains s done
  obtain rfl := one.target h 1 served.serves serves
  exact ⟨_, r, p, course, port, joined, by decide +kernel, ⟨p, port, closed⟩, by decide +kernel,
    one, s, done, gains.frames⟩

end FrameBus.Registry
