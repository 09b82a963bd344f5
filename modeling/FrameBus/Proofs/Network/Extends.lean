import FrameBus.Proofs.Network.Places

/-!
# What workers and senders add

Whatever a gateway does with a frame, and whatever a session sends, adds frames at places and takes
none away (`Extends`). This holds of every network in which a broadcast makes the ports copy
(`Copies`), wherever the frames come from and whatever is in them.
-/

namespace FrameBus.Network

/-- A broadcast makes every registered port keep a copy, or does nothing there. -/
def Copies (n : Network) : Prop :=
  ∀ i, ∀ h ∈ (n.node i).registered, ∀ p, (n.node i).port? h = some p →
    ∀ k, p.reaction = some k → k = .copy

/-- A broadcast at one node makes every port that is registered there keep a copy. -/
def CopiesAt (n : Network) (i : Nat) : Prop :=
  ∀ h ∈ (n.node i).registered, ∀ p, (n.node i).port? h = some p →
    ∀ k, p.reaction = some k → k = .copy

variable {n m : Network}

theorem Copies.copiesAt (hc : Copies n) (i : Nat) : n.CopiesAt i := hc i

theorem copiesAt_of_blank {i : Nat} (hb : (m.node i).blank = (n.node i).blank)
    (hc : n.CopiesAt i) : m.CopiesAt i := by
  intro h hh p hp k hk
  rw [Registry.registered_of_blank hb] at hh
  obtain ⟨q, hq, e⟩ := Registry.port?_of_blank hb.symm hp
  have reaction : q.blank.reaction = p.blank.reaction := congrArg Port.reaction e
  exact hc h hh q hq k (reaction.trans hk)

theorem copies_of_blank (hb : m.blank = n.blank) (hc : Copies n) : Copies m :=
  fun i => copiesAt_of_blank (node_of_blank hb i) (hc.copiesAt i)

theorem CopiesAt.recipients {i : Nat} (hc : n.CopiesAt i) (sender : PortId) :
    ∀ k ∈ (n.node i).recipients sender, k.2 = .copy := by
  intro k hk
  obtain ⟨h, hh, e⟩ := List.mem_filterMap.1 hk
  split at e
  · next p hp =>
    split at e
    · obtain ⟨k', hk', rfl⟩ := Option.map_eq_some_iff.1 e
      exact hc h hh p hp k' hk'
    · cases e
  · cases e

/-! ## Gateways -/

theorem extends_write (n : Network) (h : Happening) : Extends n (n.write h) := ⟨[], adds_write n h⟩

theorem extends_record (n : Network) (g : Nat) (t : Tally) : Extends n (n.record g t) :=
  ⟨[], adds_record n g t⟩

theorem extends_transmit {g : Nat} {hop : PortId} {f : Frame} {relayed : Bool}
    (h : n.transmit g hop f relayed = some m) : Extends n m := by
  simp only [transmit, Option.bind_eq_bind, Option.bind_eq_some_iff] at h
  obtain ⟨gw, _, ⟨result, n₁⟩, ht, h⟩ := h
  have sent : Extends n (n₁.write (.transmitted gw.id hop f.window result)) :=
    (extends_transfer ht).trans (extends_write _ _)
  split at h
  · cases h
    exact sent.trans (extends_record _ _ _)
  · cases h
    have counted := sent.trans (extends_record _ g (.uplink f.length))
    cases relayed with
    | true => exact counted.trans (extends_record _ _ _)
    | false => exact counted

theorem extends_handleUplink {g : Nat} {f : Frame} (h : n.handleUplink g f = some m) :
    Extends n m := by
  simp only [handleUplink, Option.bind_eq_bind, Option.bind_eq_some_iff] at h
  obtain ⟨gw, _, h⟩ := h
  split at h
  · cases h; exact extends_record _ _ _
  · cases h; exact extends_record _ _ _
  · exact extends_transmit h

theorem extends_handleUnicast {g : Nat} {gw : Gateway} {route : Addresses} {f : Frame}
    (h : n.handleUnicast g gw route f = some m) : Extends n m := by
  simp only [handleUnicast] at h
  split at h
  · next r hr =>
    cases h
    obtain ⟨target, ha⟩ := Registry.adds_send hr
    exact .trans ⟨_, adds_setNode ha⟩ (extends_record _ _ _)
  · cases h
  · split at h
    · cases h; exact extends_record _ _ _
    · cases h; exact extends_record _ _ _
    · exact extends_transmit h

theorem extends_broadcast {i : Nat} (hc : n.CopiesAt i) {h : Handle} {f : Frame}
    {o : Registry.Outcome Reaction}
    (e : (n.node i).broadcast Reaction.run h f = some (.ok o)) :
    Extends n (n.setNode i o.after) := by
  unfold Registry.broadcast at e
  split at e
  · obtain ⟨o', ho, e⟩ := Option.map_eq_some_iff.1 e
    cases e
    obtain ⟨out, ha⟩ := Registry.adds_runAll (hc.recipients _) ho
    exact ⟨_, adds_setNode ha⟩
  · cases e

theorem extends_handleDownlink {g : Nat} {f : Frame}
    (hc : ∀ gw, n.gateways[g]? = some gw → n.CopiesAt gw.node)
    (h : n.handleDownlink g f = some m) : Extends n m := by
  simp only [handleDownlink, Option.bind_eq_bind, Option.bind_eq_some_iff] at h
  obtain ⟨gw, hg, h⟩ := h
  split at h
  · cases h; exact extends_record _ _ _
  · cases h; exact extends_record _ _ _
  · next route inner _ =>
    have counted := extends_record n g (.downlink f.length)
    have hc' : (n.record g (.downlink f.length)).CopiesAt gw.node := hc gw hg
    split at h
    · obtain ⟨result, hr, h⟩ := Option.bind_eq_some_iff.1 h
      split at h
      · next o _ =>
        cases h
        exact (counted.trans (extends_broadcast hc' hr)).trans (extends_record _ _ _)
      · cases h
        exact counted.trans (extends_record _ _ _)
    · exact counted.trans (extends_handleUnicast h)

/-! ## Sessions -/

/-- What an event to one session comes to at its node. -/
theorem sent_of_sendEvent {s : Sender} {dest : PortId} {event : UInt32} {payload : List UInt8}
    {result : Except BusError Unit} (h : n.sendEvent s dest event payload = some (result, m)) :
    m = n ∨ ∃ f r, (n.node s.node).send s.port dest f = .sent r ∧ m = n.setNode s.node r := by
  unfold sendEvent at h
  split at h
  · cases h; exact .inl rfl
  · split at h
    · cases h; exact .inl rfl
    · split at h
      · cases h; exact .inl rfl
      · split at h
        · next r hr => cases h; exact .inr ⟨_, r, hr, rfl⟩
        · cases h; exact .inl rfl
        · cases h

/-- What an event to all sessions comes to at its node. -/
theorem sent_of_broadcastEvent {s : Sender} {event : UInt32} {payload : List UInt8}
    {result : Except BusError Nat} (h : n.broadcastEvent s event payload = some (result, m)) :
    m = n ∨ ∃ f o, (n.node s.node).broadcast Reaction.run s.port f = some (.ok o) ∧
      m = n.setNode s.node o.after := by
  unfold broadcastEvent at h
  split at h
  · cases h; exact .inl rfl
  · next f _ =>
    split at h
    · cases h
    · cases h; exact .inl rfl
    · next o ho => cases h; exact .inr ⟨f, o, ho, rfl⟩

/-- A handler's response is nothing, or an event to one session or to all. -/
theorem sent_of_respond {s : Sender} {r : Response} {what : EventTable.Received} {deed : Deed}
    (h : n.respond s r what = some (deed, m)) :
    m = n ∨ (∃ dest event payload result, n.sendEvent s dest event payload = some (result, m)) ∨
      ∃ event payload result, n.broadcastEvent s event payload = some (result, m) := by
  have sends {dest : PortId} {event : UInt32} {payload : List UInt8}
      (h : (n.sendEvent s dest event payload).map (fun r => (Deed.sent r.1, r.2)) =
        some (deed, m)) :
      ∃ dest event payload result, n.sendEvent s dest event payload = some (result, m) := by
    obtain ⟨⟨result, m'⟩, hs, e⟩ := Option.map_eq_some_iff.1 h
    cases e
    exact ⟨_, _, _, _, hs⟩
  cases r with
  | log => cases h; exact .inl rfl
  | echo event => exact .inr (.inl (sends h))
  | reverse event => exact .inr (.inl (sends h))
  | forward event dest => exact .inr (.inl (sends h))
  | countdown event =>
    simp only [respond] at h
    split at h
    · cases h; exact .inl rfl
    · split at h
      · cases h; exact .inl rfl
      · exact .inr (.inl (sends h))
  | broadcast event =>
    obtain ⟨⟨result, m'⟩, hs, e⟩ := Option.map_eq_some_iff.1 h
    cases e
    exact .inr (.inr ⟨_, _, _, hs⟩)

theorem extends_sendEvent {s : Sender} {dest : PortId} {event : UInt32} {payload : List UInt8}
    {result : Except BusError Unit} (h : n.sendEvent s dest event payload = some (result, m)) :
    Extends n m := by
  rcases sent_of_sendEvent h with rfl | ⟨f, r, hr, rfl⟩
  · exact .refl _
  · obtain ⟨target, ha⟩ := Registry.adds_send hr
    exact ⟨_, adds_setNode ha⟩

theorem extends_broadcastEvent {s : Sender} (hc : n.CopiesAt s.node) {event : UInt32}
    {payload : List UInt8} {result : Except BusError Nat}
    (h : n.broadcastEvent s event payload = some (result, m)) : Extends n m := by
  rcases sent_of_broadcastEvent h with rfl | ⟨f, o, ho, rfl⟩
  · exact .refl _
  · exact extends_broadcast hc ho

theorem extends_respond {s : Sender} (hc : n.CopiesAt s.node) {r : Response}
    {what : EventTable.Received} {deed : Deed} (h : n.respond s r what = some (deed, m)) :
    Extends n m := by
  rcases sent_of_respond h with rfl | ⟨_, _, _, _, hs⟩ | ⟨_, _, _, hs⟩
  · exact .refl _
  · exact extends_sendEvent hs
  · exact extends_broadcastEvent hc hs

theorem extends_handleEvent {i : Nat} {f : Frame}
    (hc : ∀ s, n.sessions[i]? = some s → n.CopiesAt s.node)
    (h : n.handleEvent i f = some m) : Extends n m := by
  simp only [handleEvent, Option.bind_eq_bind, Option.bind_eq_some_iff] at h
  obtain ⟨s, hs, h⟩ := h
  split at h
  · cases h; exact .refl _
  · obtain ⟨⟨deed, n₁⟩, hr, h⟩ := Option.bind_eq_some_iff.1 h
    cases h
    exact (extends_respond (hc s hs) hr).trans (extends_write _ _)

end FrameBus.Network
