import FrameBus.Proofs.Stop.Steps

/-!
# Crews that cannot go on

Each of the four threads of a gateway on a socket waits for one thing only (`work_eq_none_iff`,
`hearken_eq_none_iff`, `call_eq_none_iff`):

    a worker       the lock of the link, on an errand to transmit; room at a port, to deliver
    the receiver   room in the ingress queue
    the caller     the receiver's end, then the end of both workers

With room at the ports there is one way only in which all of them wait before the stop has returned
(`stuck_iff`): the caller has the lock and waits for the receiver, the receiver waits for room in
the ingress queue, and each worker that has not ended waits for the lock.
-/

namespace FrameBus

/-! ## Workers -/

namespace Network

variable {n : Network} {g s : Nat} {gw : Gateway}

/-- A datagram is sent, or fails, at once. -/
theorem transmit_ne_none (hg : n.gateways[g]? = some gw) (hl : gw.link = .datagram s) (hop : PortId)
    (f : Frame) (relayed : Bool) : n.transmit g hop f relayed ≠ none := by
  have sent : ∃ result m, n.transfer gw.link hop f.window = some (result, m) := by
    rw [hl, transfer]
    cases n.sockets[s]? with
    | none => exact ⟨_, _, rfl⟩
    | some socket =>
      cases hp : socket.packets n.host hop f.window with
      | error e => exact ⟨_, _, by simp only [hp]; rfl⟩
      | ok packets => exact ⟨_, _, by simp only [hp]; rfl⟩
  obtain ⟨result, m, sent⟩ := sent
  simp only [transmit, hg, Option.bind_eq_bind, Option.bind_some, sent]
  cases result <;> simp

theorem advance_ne_none (hg : n.gateways[g]? = some gw) (hl : gw.link = .datagram s)
    (room : (n.node gw.node).Roomy) {e : Errand} (fits : e.Fits gw.id) :
    n.advance g gw e ≠ none := by
  cases e with
  | transmit hop f relayed =>
    simp only [advance, ne_eq, Option.map_eq_none_iff]
    exact transmit_ne_none hg hl hop f relayed
  | deliver target inner =>
    have free := Registry.enqueue_ne_full room target inner
    simp only [advance]
    cases hr : (n.node gw.node).enqueue target inner with
    | accepted r => simp
    | closed => simp
    | full => exact absurd hr free
  | spread left inner accepted =>
    cases left with
    | nil => simp [advance]
    | cons k left =>
      simp only [advance, ne_eq, Option.map_eq_none_iff, fits k List.mem_cons_self]
      exact Registry.enqueueCopy_ne_none room k.1 inner

/-- A worker that has not ended can go on, once it has the lock where it needs it. -/
theorem work_eq_none_iff (hg : n.gateways[g]? = some gw) (hl : gw.link = .datagram s)
    (room : (n.node gw.node).Roomy) (side : Side) {st : Stand} (fits : st.Fits gw.id) :
    n.work g gw side st = none ↔ st = .ended := by
  refine ⟨fun h => ?_, fun h => by rw [h]; rfl⟩
  cases st with
  | ended => rfl
  | checking => cases h
  | waiting =>
    simp only [work] at h
    split at h <;> cases h
  | holding f => cases h
  | busy f e => exact absurd (Option.map_eq_none_iff.1 h) (advance_ne_none hg hl room fits)

/-! ## The receiver and the caller -/

theorem hear_eq_none_iff (hg : n.gateways[g]? = some gw) {bytes : List UInt8} :
    hear (.gateway g) bytes n = none ↔
      bytes ≠ [] ∧ gw.ingress.isClosed = false ∧ gw.ingress.isFull = true := by
  cases bytes with
  | nil => simp [hear, hg]
  | cons b bytes =>
    cases hc : gw.ingress.isClosed <;> cases hf : gw.ingress.isFull <;>
      simp [hear, hg, Queue.offer, hc, hf]

/-- With room a datagram is queued at once. -/
theorem hear_of_room (hg : n.gateways[g]? = some gw) {bytes : List UInt8} (hb : bytes ≠ [])
    (opened : gw.ingress.isClosed = false) (room : gw.ingress.isFull = false) :
    hear (.gateway g) bytes n = some (.ok (), n.modifyGateway g fun gv =>
      { gv with ingress := gw.ingress.add (.ofBytes bytes) }) := by
  have notEmpty : bytes.isEmpty = false := by simpa using hb
  simp only [hear, hg, notEmpty, Queue.offer, opened, room]
  rfl

theorem hearken_eq_none_iff (hg : n.gateways[g]? = some gw) {r : Receiving} :
    n.hearken g s r = none ↔ r = .ended ∨ ∃ bytes, r = .pushing bytes ∧ bytes ≠ [] ∧
      gw.ingress.isClosed = false ∧ gw.ingress.isFull = true := by
  cases r with
  | ended => simp [hearken]
  | checking => simp [hearken]
  | reading =>
    simp only [hearken]
    split <;> simp
  | pushing bytes =>
    simp only [hearken, Option.map_eq_none_iff, hear_eq_none_iff hg]
    simp

end Network

namespace Crew

variable {g s : Nat} {gw : Gateway} {c : Crew}

theorem call_eq_none_iff : c.call g gw = none ↔ c.caller = .returned ∨
    (c.caller = .joining ∧ c.receiver ≠ .ended) ∨
    (c.caller = .disconnected ∧ ∃ side, c.stand side ≠ .ended) := by
  have both : (∃ side, c.stand side ≠ .ended) ↔ ¬ (c.up = .ended ∧ c.down = .ended) := by
    constructor
    · rintro ⟨side, h⟩ ⟨up, down⟩
      cases side
      · exact h up
      · exact h down
    · intro h
      by_cases up : c.up = .ended
      · exact ⟨.down, fun down => h ⟨up, down⟩⟩
      · exact ⟨.up, up⟩
  rw [both]
  cases hc : c.caller <;> simp [call, hc]

/-! ## All of them -/

/-- The stop has not returned, no thread can make a step, and no port is the reason. -/
structure Stuck (g : Nat) (c : Crew) : Prop where
  waits : c.caller ≠ .returned
  room : ∀ gw, c.net.gateways[g]? = some gw → (c.net.node gw.node).Roomy
  still : ∀ ts d, ¬ Moves g c ts d

/-- The caller has the lock and waits for the receiver, which waits for room in the ingress queue;
the workers wait for the lock, if they have not ended. -/
structure Jammed (gw : Gateway) (c : Crew) : Prop where
  caller : c.caller = .joining
  receiver : ∃ bytes, c.receiver = .pushing bytes ∧ bytes ≠ []
  queue : gw.ingress.isClosed = false ∧ gw.ingress.isFull = true
  workers : ∀ side, c.stand side = .ended ∨ (c.stand side).needsLink = true
  room : (c.net.node gw.node).Roomy

theorem still_iff (hg : c.net.gateways[g]? = some gw) (hl : gw.link = .datagram s) :
    (∀ ts d, ¬ Moves g c ts d) ↔ c.call g gw = none ∧ c.net.hearken g s c.receiver = none ∧
      ∀ side, (c.caller = .joining ∧ (c.stand side).needsLink = true) ∨
        c.net.work g gw side (c.stand side) = none := by
  constructor
  · intro still
    refine ⟨?_, ?_, fun side => ?_⟩
    · cases hc : c.call g gw with
      | none => rfl
      | some d => exact absurd (.call hg hc) (still _ _)
    · cases hr : c.net.hearken g s c.receiver with
      | none => rfl
      | some next => exact absurd (.hearken hg hl hr) (still _ _)
    · cases hw : c.net.work g gw side (c.stand side) with
      | none => exact .inr rfl
      | some next =>
        by_cases blocked : c.caller = .joining ∧ (c.stand side).needsLink = true
        · exact .inl blocked
        · exact absurd (.work side hg blocked hw) (still _ _)
  · rintro ⟨call, hearken, work⟩ ts d moves
    cases moves with
    | work side hg' free hw =>
      obtain rfl := Option.some.inj (hg.symm.trans hg')
      rcases work side with blocked | none
      · exact free blocked
      · rw [none] at hw
        cases hw
    | call hg' hc =>
      obtain rfl := Option.some.inj (hg.symm.trans hg')
      rw [call] at hc
      cases hc
    | hearken hg' hl' hr =>
      obtain rfl := Option.some.inj (hg.symm.trans hg')
      obtain rfl : s = _ := by simpa using hl.symm.trans hl'
      rw [hearken] at hr
      cases hr

theorem stuck_iff (h : Manned g gw c) (hl : gw.link = .datagram s) : Stuck g c ↔ Jammed gw c := by
  constructor
  · rintro ⟨waits, room, still⟩
    have room := room gw h.gateway
    obtain ⟨call, hearken, work⟩ := (still_iff h.gateway hl).1 still
    have ended (side : Side) (free : c.caller ≠ .joining) : c.stand side = .ended := by
      rcases work side with ⟨joining, -⟩ | none
      · exact absurd joining free
      · exact (Network.work_eq_none_iff h.gateway hl room side (h.fits side)).1 none
    rcases call_eq_none_iff.1 call with returned | ⟨joining, live⟩ | ⟨disconnected, side, live⟩
    · exact absurd returned waits
    · rcases (Network.hearken_eq_none_iff h.gateway).1 hearken with
        gone | ⟨bytes, pushing, filled, queue⟩
      · exact absurd gone live
      · refine ⟨joining, ⟨bytes, pushing, filled⟩, queue, fun side => ?_, room⟩
        rcases work side with ⟨-, needs⟩ | none
        · exact .inr needs
        · exact .inl ((Network.work_eq_none_iff h.gateway hl room side (h.fits side)).1 none)
    · -- a worker that the caller waits for can end, as nobody has the lock
      exact absurd (ended side (by rw [disconnected]; decide)) live
  · rintro ⟨joining, ⟨bytes, pushing, filled⟩, queue, workers, room⟩
    refine ⟨by rw [joining]; decide, fun gv hg => ?_,
      (still_iff h.gateway hl).2 ⟨?_, ?_, fun side => ?_⟩⟩
    · obtain rfl := Option.some.inj (h.gateway.symm.trans hg)
      exact room
    · exact call_eq_none_iff.2 (.inr (.inl ⟨joining, by simp [pushing]⟩))
    · exact (Network.hearken_eq_none_iff h.gateway).2 (.inr ⟨bytes, pushing, filled, queue⟩)
    · rcases workers side with ended | needs
      · exact .inr (by rw [ended]; rfl)
      · exact .inl ⟨joining, needs⟩

end Crew

end FrameBus
