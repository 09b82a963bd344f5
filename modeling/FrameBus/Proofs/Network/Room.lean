import FrameBus.Proofs.Network.Moves

/-!
# Networks with room for every frame

Where no queue has a bound (`Unbounded`), nobody waits for room: a worker that holds a frame hands
it over at once (`move_of_holding`), if a broadcast at its node makes the ports copy.
-/

namespace FrameBus

namespace Registry

variable {r s : Registry Reaction}

/-- No port of the node has a bounded queue. -/
def Unbounded (r : Registry Reaction) : Prop :=
  ∀ h p, r.port? h = some p → p.queue.capacity = none

theorem Unbounded.roomy (hu : r.Unbounded) : r.Roomy :=
  fun h p hp => Queue.isFull_of_unbounded (hu h p hp)

theorem unbounded_of_blank (hb : s.blank = r.blank) (hu : r.Unbounded) : s.Unbounded := by
  intro h p hp
  obtain ⟨q, hq, e⟩ := port?_of_blank hb.symm hp
  have same : q.queue.blank = p.queue.blank := congrArg Port.queue e
  rw [← Queue.capacity_blank, ← same, Queue.capacity_blank, hu h q hq]

theorem send_ne_waiting (room : r.Roomy) (sender : Handle) (dest : PortId) (f : Frame)
    (target : Handle) (g : Frame) : r.send sender dest f ≠ .waiting target g := by
  unfold send
  split
  · next h _ =>
    have free := enqueue_ne_full room h f
    unfold deliver
    split
    · simp
    · simp
    · next full => exact absurd full free
  · simp

/-- Ports that copy, and take any number of copies, never hold up a broadcast. -/
theorem runAll_ne_none {f : Frame} {ks : List (Handle × Reaction)} (hu : r.Unbounded)
    (copies : ∀ k ∈ ks, k.2 = .copy) : runAll Reaction.run f ks r ≠ none := by
  induction ks generalizing r with
  | nil => simp [runAll]
  | cons k ks ih =>
    have first : Reaction.run k.2 k.1 f r = r.enqueueCopy k.1 f := by
      rw [copies k List.mem_cons_self]
      rfl
    obtain ⟨⟨result, s⟩, e⟩ := Option.ne_none_iff_exists'.1 (enqueueCopy_ne_none hu.roomy k.1 f)
    obtain ⟨out, adds⟩ := adds_enqueueCopy e
    obtain ⟨o, ho⟩ := Option.ne_none_iff_exists'.1
      (ih (unbounded_of_blank adds.blank hu) fun k hk => copies k (List.mem_cons_of_mem _ hk))
    simp [runAll, first, e, ho]

end Registry

namespace Network

variable {n m : Network} {g : Nat} {gw : Gateway} {f : Frame}

/-- No queue of the network has a bound. -/
structure Unbounded (n : Network) : Prop where
  ports : ∀ i, (n.node i).Unbounded
  ingress : ∀ (g : Nat) (gw : Gateway), n.gateways[g]? = some gw → gw.ingress.capacity = none

theorem unbounded_of_extends (h : Extends n m) (hu : n.Unbounded) : m.Unbounded := by
  obtain ⟨out, adds⟩ := h
  refine ⟨fun i => Registry.unbounded_of_blank (node_of_blank adds.blank i) (hu.ports i),
    fun g gw hg => ?_⟩
  obtain ⟨gv, hv, same⟩ := gateway_of_blank adds.blank hg
  have ingress : gv.ingress.blank = gw.ingress.blank := congrArg Gateway.ingress same
  rw [← Queue.capacity_blank, ← ingress, Queue.capacity_blank, hu.ingress g gv hv]

/-! ## Links -/

theorem hear_of_unbounded (hu : n.Unbounded) (k : Receiver) (bytes : List UInt8) :
    ∃ result m, hear k bytes n = some (result, m) := by
  cases k with
  | listener l =>
    simp only [hear]
    split <;> exact ⟨_, _, rfl⟩
  | gateway g =>
    simp only [hear]
    split
    · exact ⟨_, _, rfl⟩
    · next gw hg =>
      have room := Queue.isFull_of_unbounded (hu.ingress g gw hg)
      split
      · exact ⟨_, _, rfl⟩
      · cases hc : gw.ingress.isClosed <;> simp [Queue.offer, hc, room]

theorem deliver_of_unbounded (hu : n.Unbounded) (dest : PortId) (bytes : List UInt8)
    (ks : List Receiver) : ∃ result m, Hub.deliver hear dest bytes ks n = some (result, m) := by
  induction ks generalizing n with
  | nil => exact ⟨_, _, rfl⟩
  | cons k ks ih =>
    obtain ⟨heard, n₁, first⟩ := hear_of_unbounded hu k bytes
    obtain ⟨result, m, rest⟩ := ih (unbounded_of_extends (extends_hear first) hu)
    simp only [Hub.deliver, first, Option.bind_eq_bind, Option.bind_some]
    split
    · split
      · exact ⟨_, _, rest⟩
      · exact ⟨_, _, rfl⟩
    · exact ⟨_, _, rest⟩

theorem transfer_of_unbounded (hu : n.Unbounded) (link : Link) (dest : PortId)
    (bytes : List UInt8) : ∃ result m, n.transfer link dest bytes = some (result, m) := by
  cases link with
  | member h endpoint faults =>
    simp only [transfer]
    split
    · exact ⟨_, _, rfl⟩
    · exact deliver_of_unbounded hu dest bytes _
  | datagram s =>
    simp only [transfer]
    split
    · exact ⟨_, _, rfl⟩
    · split <;> exact ⟨_, _, rfl⟩

theorem transmit_of_unbounded (hu : n.Unbounded) (hg : n.gateways[g]? = some gw) (hop : PortId)
    (f : Frame) (relayed : Bool) : ∃ m, n.transmit g hop f relayed = some m := by
  obtain ⟨result, m, sent⟩ := transfer_of_unbounded hu gw.link hop f.window
  simp only [transmit, hg, Option.bind_eq_bind, Option.bind_some, sent]
  split <;> exact ⟨_, rfl⟩

/-! ## Workers -/

theorem handleUplink_of_unbounded (hu : n.Unbounded) (hg : n.gateways[g]? = some gw) (f : Frame) :
    ∃ m, n.handleUplink g f = some m := by
  simp only [handleUplink, hg, Option.bind_eq_bind, Option.bind_some]
  split
  · exact ⟨_, rfl⟩
  · exact ⟨_, rfl⟩
  · exact transmit_of_unbounded hu hg _ _ _

theorem handleUnicast_of_unbounded (hu : n.Unbounded) {gv : Gateway}
    (hg : n.gateways[g]? = some gv) (gw : Gateway) (route : Addresses) (f : Frame) :
    ∃ m, n.handleUnicast g gw route f = some m := by
  simp only [handleUnicast]
  split
  · exact ⟨_, rfl⟩
  · next waits =>
    exact absurd waits (Registry.send_ne_waiting (hu.ports gw.node).roomy _ _ _ _ _)
  · split
    · exact ⟨_, rfl⟩
    · exact ⟨_, rfl⟩
    · exact transmit_of_unbounded hu hg _ _ _

theorem broadcast_of_unbounded (hu : n.Unbounded) {i : Nat} (hc : n.CopiesAt i) (sender : Handle)
    (f : Frame) : ∃ answer, (n.node i).broadcast Reaction.run sender f = some answer := by
  unfold Registry.broadcast
  split
  · obtain ⟨o, ran⟩ := Option.ne_none_iff_exists'.1
      (Registry.runAll_ne_none (f := f) (hu.ports i) (hc.recipients _))
    exact ⟨_, by rw [ran]; rfl⟩
  · exact ⟨_, rfl⟩

theorem handleDownlink_of_unbounded (hu : n.Unbounded) (hg : n.gateways[g]? = some gw)
    (hc : n.CopiesAt gw.node) (f : Frame) : ∃ m, n.handleDownlink g f = some m := by
  simp only [handleDownlink, hg, Option.bind_eq_bind, Option.bind_some]
  split
  · exact ⟨_, rfl⟩
  · exact ⟨_, rfl⟩
  · have counted := extends_record n g (.downlink f.length)
    have hu' := unbounded_of_extends counted hu
    split
    · obtain ⟨answer, spread⟩ := broadcast_of_unbounded hu' (i := gw.node) hc gw.port _
      rw [spread]
      cases answer <;> exact ⟨_, rfl⟩
    · have hg' : (n.record g (.downlink f.length)).gateways[g]? =
          some { gw with counters := gw.counters.record (.downlink f.length) } := by
        rw [record, getElem?_modifyGateway, if_pos rfl, hg]
        rfl
      exact handleUnicast_of_unbounded hu' hg' _ _ _

/-! ## Sessions -/

theorem sendEvent_of_unbounded (hu : n.Unbounded) (s : Sender) (dest : PortId) (event : UInt32)
    (payload : List UInt8) : ∃ result m, n.sendEvent s dest event payload = some (result, m) := by
  unfold sendEvent
  split
  · exact ⟨_, _, rfl⟩
  · split
    · exact ⟨_, _, rfl⟩
    · split
      · exact ⟨_, _, rfl⟩
      · split
        · exact ⟨_, _, rfl⟩
        · exact ⟨_, _, rfl⟩
        · next waits =>
          exact absurd waits (Registry.send_ne_waiting (hu.ports s.node).roomy _ _ _ _ _)

theorem broadcastEvent_of_unbounded (hu : n.Unbounded) {s : Sender} (hc : n.CopiesAt s.node)
    (event : UInt32) (payload : List UInt8) :
    ∃ result m, n.broadcastEvent s event payload = some (result, m) := by
  unfold broadcastEvent
  split
  · exact ⟨_, _, rfl⟩
  · next f _ =>
    obtain ⟨answer, spread⟩ := broadcast_of_unbounded hu hc s.port f
    rw [spread]
    cases answer <;> exact ⟨_, _, rfl⟩

theorem respond_of_unbounded (hu : n.Unbounded) {s : Sender} (hc : n.CopiesAt s.node)
    (r : Response) (what : EventTable.Received) :
    ∃ deed m, n.respond s r what = some (deed, m) := by
  have sends (dest : PortId) (event : UInt32) (payload : List UInt8) : ∃ deed m,
      (n.sendEvent s dest event payload).map (fun r => (Deed.sent r.1, r.2)) = some (deed, m) := by
    obtain ⟨result, m, sent⟩ := sendEvent_of_unbounded hu s dest event payload
    exact ⟨_, _, by rw [sent]; rfl⟩
  cases r with
  | log => exact ⟨_, _, rfl⟩
  | echo event => exact sends what.source event what.payload
  | reverse event => exact sends what.source event what.payload.reverse
  | forward event dest => exact sends dest event what.payload
  | countdown event =>
    simp only [respond]
    split
    · exact ⟨_, _, rfl⟩
    · split
      · exact ⟨_, _, rfl⟩
      · exact sends what.source event _
  | broadcast event =>
    obtain ⟨result, m, sent⟩ := broadcastEvent_of_unbounded hu hc event what.payload
    exact ⟨_, _, by rw [respond, sent]; rfl⟩

theorem handleEvent_of_unbounded (hu : n.Unbounded) {i : Nat} {s : Session}
    (hs : n.sessions[i]? = some s) (hc : n.CopiesAt s.node) (f : Frame) :
    ∃ m, n.handleEvent i f = some m := by
  simp only [handleEvent, hs, Option.bind_eq_bind, Option.bind_some]
  split
  · exact ⟨_, rfl⟩
  · next r what _ =>
    obtain ⟨deed, m, answered⟩ := respond_of_unbounded hu (s := .ofSession s) hc r what
    exact ⟨_, by rw [answered]; rfl⟩

/-- A worker hands over the frame that it holds. -/
theorem move_of_holding (hu : n.Unbounded) {mv : Move} (hc : n.CopiesFor mv)
    (holding : n.worker? mv = some (.holding f)) : ∃ m, n.move mv = some m := by
  cases mv with
  | uplink g =>
    obtain ⟨gw, hg, hw⟩ := Option.map_eq_some_iff.1 holding
    obtain ⟨m, handled⟩ := handleUplink_of_unbounded hu hg f
    exact ⟨_, by simp only [move, moveUplink, hg, hw, handled, Option.bind_eq_bind,
      Option.bind_some]; rfl⟩
  | downlink g =>
    obtain ⟨gw, hg, hw⟩ := Option.map_eq_some_iff.1 holding
    obtain ⟨m, handled⟩ := handleDownlink_of_unbounded hu hg (hc gw hg) f
    exact ⟨_, by simp only [move, moveDownlink, hg, hw, handled, Option.bind_eq_bind,
      Option.bind_some]; rfl⟩
  | session s =>
    obtain ⟨ss, hs, hw⟩ := Option.map_eq_some_iff.1 holding
    obtain ⟨m, handled⟩ := handleEvent_of_unbounded hu hs (hc ss hs) f
    exact ⟨_, by simp only [move, moveSession, hs, hw, handled, Option.bind_eq_bind,
      Option.bind_some]; rfl⟩
  | socket s => cases holding

end Network

end FrameBus
