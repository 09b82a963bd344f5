import FrameBus.Proofs.Registry.Adds

/-!
# What calls do to a registry

A call on a registry puts a frame at a port, takes one, or does neither (`Registry.Change`). A call
of the last kind leaves all frames where they are and opens no queue again (`still_of_change`); one
that puts a frame finds the queue open (`adds_of_deliver`), and with a closed queue the frame is
handed back (`deliver_of_closedAt`).
-/

namespace FrameBus

namespace Registry

variable {κ : Type} {r s : Registry κ}

/-- Takes a port out of the order. -/
def unregister (r : Registry κ) (i : Nat) : Registry κ :=
  { r with registered := swapRemove r.registered i }

def closeQueue (r : Registry κ) (h : Handle) : Registry κ :=
  r.modify h fun p => { p with queue := p.queue.close }

/-- What calls do to a registry, other than to put frames at ports and to take them. -/
inductive Change : Registry κ → Registry κ → Prop
  | createPort {r s : Registry κ} (id : PortId) (h : Handle) :
      r.createPort id = .ok (h, s) → Change r s
  | unregister (r : Registry κ) (i : Nat) : Change r (r.unregister i)
  | setState (r : Registry κ) (h : Handle) (state : PortState) : Change r (r.setState h state)
  | closeQueue (r : Registry κ) (h : Handle) : Change r (r.closeQueue h)
  | setReaction (r : Registry κ) (h : Handle) (k : κ) : Change r (r.setReaction h k)
  | claimSession {r s : Registry κ} (id : PortId) : r.claimSession id = .ok s → Change r s
  | releaseSession (r : Registry κ) (id : PortId) : Change r (r.releaseSession id).2

/-- A port is destroyed in three parts, between which others may move. -/
theorem changes_of_destroyPort {id : PortId} (e : r.destroyPort id = .ok s) :
    ∃ i h, r.registered[i]? = some h ∧ r.idOf h = id ∧
      s = ((r.unregister i).setState h .exit).closeQueue h := by
  unfold destroyPort at e
  split at e
  · cases e
  · next i hi =>
    cases e
    obtain ⟨lt, own, -⟩ := List.findIdx?_eq_some_iff_getElem.1 hi
    refine ⟨i, r.registered[i], List.getElem?_eq_getElem lt, by simpa using own, ?_⟩
    simp only [unregister, setState, closeQueue, modify, List.getD_eq_getElem?_getD,
      List.getElem?_eq_getElem lt, Option.getD_some, List.modify_modify_eq]
    rfl

/-- The queue of a port is closed. -/
def ClosedAt (r : Registry κ) (h : Handle) : Prop :=
  ∃ p, r.port? h = some p ∧ p.queue.isClosed = true

/-- One registry after another: the same frames wait, and no queue is open again. -/
structure Still (r s : Registry κ) : Prop where
  frames : ∀ h, s.frames h = r.frames h
  closed : ∀ h, r.ClosedAt h → s.ClosedAt h
  ports : r.ports.length ≤ s.ports.length

theorem still_of_ports (h : s.ports = r.ports) : Still r s where
  frames k := by simp only [Registry.frames, port?, h]
  closed k := by simp only [ClosedAt, port?, h]; exact id
  ports := Nat.le_of_eq (by rw [h])

theorem still_modify (h : Handle) {F : Port κ → Port κ}
    (waits : ∀ p, (F p).queue.toList = p.queue.toList)
    (closed : ∀ p, p.queue.isClosed = true → (F p).queue.isClosed = true) :
    Still r (r.modify h F) where
  frames k := by
    rw [Registry.frames, Registry.frames, port?_modify]
    split
    · cases r.port? k <;> simp [waits]
    · rfl
  closed k := by
    rintro ⟨p, hp, hc⟩
    rw [ClosedAt, port?_modify, hp]
    split
    · exact ⟨F p, rfl, closed p hc⟩
    · exact ⟨p, rfl, hc⟩
  ports := by simp [modify]

theorem still_createPort {id : PortId} {h : Handle} (e : r.createPort id = .ok (h, s)) :
    Still r s ∧ h = r.ports.length := by
  unfold createPort at e
  split at e
  · cases e
  · split at e
    · cases e
    · cases e
      refine ⟨⟨fun k => ?_, fun k => ?_, by simp⟩, rfl⟩
      · simp only [Registry.frames, port?, List.getElem?_append]
        split
        · rfl
        · next beyond =>
          rw [List.getElem?_eq_none (Nat.le_of_not_lt beyond)]
          cases h : k - r.ports.length <;> simp
      · rintro ⟨p, hp, hc⟩
        obtain ⟨lt, -⟩ := List.getElem?_eq_some_iff.1 hp
        exact ⟨p, (List.getElem?_append_left lt).trans hp, hc⟩

theorem still_of_change (h : Change r s) : Still r s := by
  cases h with
  | createPort id h e => exact (still_createPort e).1
  | unregister i => exact still_of_ports rfl
  | setState h state => exact still_modify h (fun _ => rfl) fun _ => id
  | closeQueue h => exact still_modify h (fun _ => Queue.toList_close _) fun _ _ =>
      Queue.isClosed_close _
  | setReaction h k => exact still_modify h (fun _ => rfl) fun _ => id
  | claimSession id e =>
    unfold claimSession at e
    split at e
    · cases e
    · split at e
      · cases e
      · cases e
        exact still_of_ports rfl
  | releaseSession id =>
    unfold releaseSession
    split
    · exact still_of_ports rfl
    · exact still_of_ports rfl

/-! ## Frames that come and go -/

theorem closedAt_of_blank (hb : s.blank = r.blank) {h : Handle} (hc : r.ClosedAt h) :
    s.ClosedAt h := by
  obtain ⟨p, hp, closed⟩ := hc
  obtain ⟨q, hq, e⟩ := port?_of_blank hb hp
  have same : q.queue.blank = p.queue.blank := congrArg Port.queue e
  exact ⟨q, hq, by rw [← Queue.isClosed_blank, same, Queue.isClosed_blank, closed]⟩

theorem length_ports_of_blank (hb : s.blank = r.blank) : s.ports.length = r.ports.length := by
  have ports : s.ports.map Port.blank = r.ports.map Port.blank := congrArg Registry.ports hb
  simpa using congrArg List.length ports

/-- The second part of a send that ends well puts the frame in an open queue. -/
theorem adds_of_deliver {h : Handle} {f : Frame} (e : r.deliver h f = .sent s) :
    Adds r s [(h, f)] ∧ ¬ r.ClosedAt h := by
  unfold deliver at e
  split at e
  · next s' he =>
    cases e
    refine ⟨adds_enqueue he, ?_⟩
    rintro ⟨p, hp, closed⟩
    simp [enqueue, hp, Queue.offer, closed] at he
  · cases e
  · cases e

theorem returned_of_deliver {h : Handle} {f : Frame} {why : Rejected}
    (e : r.deliver h f = .returned why) : why = ⟨.queueClosed, f⟩ := by
  unfold deliver at e
  split at e <;> cases e
  rfl

/-- A send to a port with a closed queue does not wait. -/
theorem deliver_of_closedAt {h : Handle} (hc : r.ClosedAt h) (f : Frame) :
    r.deliver h f = .returned ⟨.queueClosed, f⟩ := by
  obtain ⟨p, hp, closed⟩ := hc
  simp [deliver, enqueue, hp, Queue.offer, closed]

theorem item_of_receive {h : Handle} {f : Frame} (e : r.receive h = (.item f, s)) :
    s.blank = r.blank ∧ r.frames h = f :: s.frames h ∧ ∀ k, h ≠ k → s.frames k = r.frames k := by
  rcases receive_spec r h with ⟨g, t, hr, blank, head, others⟩ | ⟨answer, t, hr, other⟩
  · cases hr.symm.trans e
    exact ⟨blank, head, others⟩
  · cases hr.symm.trans e
    exact absurd rfl (other f)

theorem closedAt_closeQueue {h : Handle} (lt : h < r.ports.length) :
    (r.closeQueue h).ClosedAt h := by
  refine ⟨{ r.ports[h] with queue := r.ports[h].queue.close }, ?_, Queue.isClosed_close _⟩
  rw [closeQueue, port?_modify, if_pos rfl, port?, List.getElem?_eq_getElem lt]
  rfl

theorem lt_of_resolve {sender h : Handle} {dest : PortId} (e : r.resolve sender dest = .ok h) :
    h < r.ports.length := by
  have connected := isConnected_of_resolve e
  apply Decidable.byContradiction
  intro beyond
  rw [isConnected, port?, List.getElem?_eq_none (Nat.le_of_not_lt beyond)] at connected
  cases connected

end Registry

end FrameBus
