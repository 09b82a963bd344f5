import FrameBus.Proofs.Registry.Adds

/-!
# Registries that go on

Whatever is done at a node, short of taking frames, leaves every port that was ever made in its
place and under its id, and what waits there in front of what comes later (`Registry.Later`). This
holds of sends and of broadcasts with any reactions, and of everything that is done with ports and
sessions (`Registry.Life`): a port that is destroyed keeps its frames. A broadcast that waits at a
full queue has put what it put, frame by frame.
-/

namespace FrameBus.Registry

section

variable {κ : Type} {r s t : Registry κ}

/-- One registry after another, no frame taken. -/
def Later (r s : Registry κ) : Prop :=
  ∀ h p, r.port? h = some p →
    ∃ q, s.port? h = some q ∧ q.id = p.id ∧ p.queue.toList <+: q.queue.toList

theorem Later.refl (r : Registry κ) : Later r r := fun _ p hp => ⟨p, hp, rfl, List.prefix_rfl⟩

theorem Later.trans (h : Later r s) (h' : Later s t) : Later r t := by
  intro k p hp
  obtain ⟨q, hq, id, waits⟩ := h k p hp
  obtain ⟨q', hq', id', waits'⟩ := h' k q hq
  exact ⟨q', hq', id'.trans id, waits.trans waits'⟩

theorem Later.frames (hl : Later r s) (h : Handle) : r.frames h <+: s.frames h := by
  cases hp : r.port? h with
  | none => simp [Registry.frames, hp]
  | some p =>
    obtain ⟨q, hq, -, waits⟩ := hl h p hp
    simpa [Registry.frames, hp, hq] using waits

theorem later_of_ports (h : s.ports = r.ports) : Later r s := by
  intro k p hp
  exact ⟨p, by rwa [port?, h], rfl, List.prefix_rfl⟩

theorem later_modify {h : Handle} {F : Port κ → Port κ} (id : ∀ p, (F p).id = p.id)
    (waits : ∀ p, p.queue.toList <+: (F p).queue.toList) : Later r (r.modify h F) := by
  intro k p hp
  rw [port?_modify, hp]
  split
  · exact ⟨F p, rfl, id p, waits p⟩
  · exact ⟨p, rfl, rfl, List.prefix_rfl⟩

theorem later_of_adds {out : List (Handle × Frame)} (ha : Adds r s out) : Later r s := by
  intro k p hp
  obtain ⟨q, hq, e⟩ := port?_of_blank ha.blank hp
  have id : q.blank.id = p.blank.id := congrArg Port.id e
  have waits := ha.frames k
  rw [frames, frames, hp, hq] at waits
  exact ⟨q, hq, id, arrivals out k, waits.symm⟩

theorem later_createPort {id : PortId} {h : Handle} (e : r.createPort id = .ok (h, s)) :
    Later r s := by
  unfold createPort at e
  split at e
  · cases e
  · split at e
    · cases e
    · cases e
      intro k p hp
      obtain ⟨hk, -⟩ := List.getElem?_eq_some_iff.1 hp
      exact ⟨p, (List.getElem?_append_left hk).trans hp, rfl, List.prefix_rfl⟩

theorem port?_of_createPort {id : PortId} {h : Handle} (e : r.createPort id = .ok (h, s)) :
    ∃ p, s.port? h = some p ∧ p.id = id := by
  unfold createPort at e
  split at e
  · cases e
  · split at e
    · cases e
    · cases e
      exact ⟨⟨id, .init, .new r.config, none⟩, by simp [port?], rfl⟩

theorem later_destroyPort {id : PortId} (e : r.destroyPort id = .ok s) : Later r s := by
  unfold destroyPort at e
  split at e
  · cases e
  · next i _ =>
    cases e
    have closed : Later r (r.modify (r.registered.getD i 0) fun p =>
        { p with state := .exit, queue := p.queue.close }) :=
      later_modify (fun _ => rfl) fun p => by simp
    exact closed.trans (later_of_ports rfl)

/-- What is done with the ports and the sessions of a node, but for the frames that are taken. -/
inductive Life : Registry κ → Registry κ → Prop
  | createPort {r s : Registry κ} (id : PortId) (h : Handle) :
      r.createPort id = .ok (h, s) → Life r s
  | destroyPort {r s : Registry κ} (id : PortId) : r.destroyPort id = .ok s → Life r s
  | setState (r : Registry κ) (h : Handle) (state : PortState) : Life r (r.setState h state)
  | setReaction (r : Registry κ) (h : Handle) (k : κ) : Life r (r.setReaction h k)
  | claimSession {r s : Registry κ} (id : PortId) : r.claimSession id = .ok s → Life r s
  | releaseSession (r : Registry κ) (id : PortId) : Life r (r.releaseSession id).2
  | enqueue {r s : Registry κ} (h : Handle) (f : Frame) : r.enqueue h f = .accepted s → Life r s

theorem later_of_life (h : Life r s) : Later r s := by
  cases h with
  | createPort id h e => exact later_createPort e
  | destroyPort id e => exact later_destroyPort e
  | setState h state => exact later_modify (fun _ => rfl) fun _ => List.prefix_rfl
  | setReaction h k => exact later_modify (fun _ => rfl) fun _ => List.prefix_rfl
  | claimSession id e =>
    unfold claimSession at e
    split at e
    · cases e
    · split at e
      · cases e
      · cases e
        exact later_of_ports rfl
  | releaseSession id =>
    unfold releaseSession
    split
    · exact .refl r
    · exact later_of_ports rfl
  | enqueue h f e => exact later_of_adds (adds_enqueue e)

end

variable {r s : Registry Reaction}

theorem later_run {k : Reaction} {h : Handle} {f : Frame} {result : Except BusError Unit}
    (e : Reaction.run k h f r = some (result, s)) : Later r s := by
  cases k with
  | copy =>
    obtain ⟨out, ha⟩ := adds_enqueueCopy e
    exact later_of_adds ha
  | send dest =>
    simp only [Reaction.run] at e
    split at e
    · next hs =>
      cases e
      obtain ⟨target, ha⟩ := adds_send hs
      exact later_of_adds ha
    · cases e
      exact .refl r
    · cases e
  | refuse =>
    cases e
    exact .refl r
  | destroy id =>
    simp only [Reaction.run] at e
    split at e
    · next hd =>
      cases e
      exact later_destroyPort hd
    · cases e
      exact .refl r
  | ignore =>
    cases e
    exact .refl r

theorem later_runAll {f : Frame} {ks : List (Handle × Reaction)} {o : Outcome Reaction}
    (e : runAll Reaction.run f ks r = some o) : Later r o.after := by
  induction ks generalizing r o with
  | nil =>
    cases e
    exact .refl r
  | cons k ks ih =>
    simp only [runAll, Option.bind_eq_bind, Option.bind_eq_some_iff] at e
    obtain ⟨⟨result, s⟩, hk, o', ho, e⟩ := e
    cases e
    have rest : Later s o'.after := ih ho
    exact (later_run hk).trans rest

/-- A broadcast, whatever the ports do about it. -/
theorem later_broadcast {sender : Handle} {f : Frame} {o : Outcome Reaction}
    (e : r.broadcast Reaction.run sender f = some (.ok o)) : Later r o.after := by
  unfold broadcast at e
  split at e
  · obtain ⟨o', ho, e⟩ := Option.map_eq_some_iff.1 e
    cases e
    exact later_runAll ho
  · cases e

end FrameBus.Registry
