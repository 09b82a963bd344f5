import FrameBus.Proofs.Network.Mesh
import FrameBus.Proofs.Stop.Revival

/-!
# Steps of a crew

What a step does to the network that the crew is in. A worker's step is one of five things
(`Network.Worked`); a worker, the receiver and the others change nothing but what is queued
(`Network.blank`), and the caller changes no frame (`Crew.Alike`). The crew stays one of a gateway
that has its own id and gets its errands from the frames of its queues (`Crew.Manned`), in every run
(`Crew.manned_of_run`).
-/

namespace FrameBus

open Network (Copies Extends)

/-- A worker is on no errand but its gateway's. -/
def Stand.Fits (id : PortId) : Stand → Prop
  | .busy _ e => e.Fits id
  | _ => True

/-! ## Steps of a worker -/

namespace Network

variable {n m : Network} {g : Nat} {gw : Gateway} {side : Side} {f : Frame} {e : Errand}
  {next : Option Errand}

theorem adds_direct (n : Network) (g : Nat) (gw : Gateway) (route : Addresses) (f : Frame) :
    Adds n (n.direct g gw route f).2 [] := by
  simp only [direct]
  split
  · split
    · exact .refl n
    · exact adds_record n g _
  · split
    · exact .refl n
    · split
      · exact adds_record n g _
      · exact adds_record n g _
      · exact .refl n

/-- To find out what becomes of a frame brings no frame anywhere. -/
theorem adds_judge (n : Network) (g : Nat) (gw : Gateway) (side : Side) (f : Frame) :
    Adds n (n.judge g gw side f).2 [] := by
  cases side with
  | up =>
    simp only [judge]
    split
    · exact adds_record n g _
    · exact adds_record n g _
    · exact .refl n
  | down =>
    simp only [judge]
    split
    · exact adds_record n g _
    · exact adds_record n g _
    · exact (adds_record n g _).trans (adds_direct _ g gw _ _)

theorem extends_judge (n : Network) (g : Nat) (gw : Gateway) (side : Side) (f : Frame) :
    Extends n (n.judge g gw side f).2 := ⟨_, adds_judge n g gw side f⟩

theorem extends_advance (fits : e.Fits gw.id) (h : n.advance g gw e = some (next, m)) :
    Extends n m := by
  cases e with
  | transmit hop datagram relayed =>
    obtain ⟨k, hk, e⟩ := Option.map_eq_some_iff.1 h
    cases e
    exact extends_transmit hk
  | deliver target inner =>
    simp only [advance] at h
    cases hr : (n.node gw.node).enqueue target inner with
    | accepted r =>
      simp only [hr] at h
      cases h
      exact .trans ⟨_, adds_setNode (Registry.adds_enqueue hr)⟩ (extends_record _ g _)
    | closed =>
      simp only [hr] at h
      cases h
      exact extends_record n g _
    | full => simp only [hr] at h; cases h
  | spread left inner accepted =>
    cases left with
    | nil =>
      cases h
      exact extends_record n g _
    | cons k left =>
      obtain ⟨⟨result, r⟩, hr, e⟩ := Option.map_eq_some_iff.1 h
      cases e
      rw [fits k List.mem_cons_self] at hr
      obtain ⟨out, ha⟩ := Registry.adds_enqueueCopy hr
      exact ⟨_, adds_setNode ha⟩

theorem hop_ne_of_departure {id hop : PortId} (hid : id.isReserved = false) {datagram : Frame}
    (h : Gateway.departure id f = .leaves hop datagram) : hop ≠ id := by
  obtain ⟨route, -, hh, -⟩ := Gateway.departure_eq_leaves h
  simp only [Gateway.departureHop?] at hh
  split at hh
  · cases hh
    rintro rfl
    cases hid
  · exact (Gateway.hop?_eq_some_iff.1 hh).2

theorem hop_ne_of_relay {id hop : PortId} {r : Registry Reaction} {route : Addresses}
    {why : Rejected} {datagram : Frame} (h : Gateway.relay id r route why = .leaves hop datagram) :
    hop ≠ id :=
  (Gateway.hop?_eq_some_iff.1 (Gateway.relay_eq_leaves h).1).2

theorem fits_direct (hc : Copies n) {route : Addresses}
    (h : (n.direct g gw route f).1 = some e) : e.Fits gw.id := by
  simp only [direct] at h
  split at h
  · split at h
    · cases h
      exact (hc.copiesAt gw.node).recipients _
    · cases h
  · split at h
    · cases h
      trivial
    · split at h
      · cases h
      · cases h
      · next hop datagram hr =>
        cases h
        exact hop_ne_of_relay hr

/-- The errand that a frame becomes is one that the gateway can have. -/
theorem fits_judge (hc : Copies n) (bound : gw.Bound) (h : (n.judge g gw side f).1 = some e) :
    e.Fits gw.id := by
  cases side with
  | up =>
    simp only [judge] at h
    split at h
    · cases h
    · cases h
    · next hop datagram hd =>
      cases h
      exact hop_ne_of_departure bound.id_ok hd
  | down =>
    simp only [judge] at h
    split at h
    · cases h
    · cases h
    · have counted : Copies (n.record g (.downlink f.length)) :=
        Network.copies_of_blank (adds_record n g _).blank hc
      exact fits_direct counted h

theorem fits_advance {e' : Errand} (fits : e.Fits gw.id)
    (h : n.advance g gw e = some (some e', m)) : e'.Fits gw.id := by
  cases e with
  | transmit hop datagram relayed =>
    obtain ⟨k, hk, e⟩ := Option.map_eq_some_iff.1 h
    cases e
  | deliver target inner =>
    simp only [advance] at h
    split at h <;> cases h
  | spread left inner accepted =>
    cases left with
    | nil => cases h
    | cons k left =>
      obtain ⟨⟨result, r⟩, hr, e⟩ := Option.map_eq_some_iff.1 h
      cases e
      exact fun k hk => fits k (List.mem_cons_of_mem _ hk)

/-- What a worker's step is: it looks at its flag, it finds no frame, or it takes the oldest one;
and a frame that it has it judges, or it goes on with its errand. -/
inductive Worked (n : Network) (g : Nat) (gw : Gateway) (side : Side) :
    Stand → Stand → Network → Prop
  | looks : Worked n g gw side .checking (if gw.running then .waiting else .ended) n
  | misses {s : Stand} : s = .ended ∨ s = .checking → Worked n g gw side .waiting s n
  | takes {m : Network} (f : Frame) :
      n.frames (n.source (side.move g)) = f :: m.frames (n.source (side.move g)) →
      (∀ p, p ≠ n.source (side.move g) → m.frames p = n.frames p) → m.blank = n.blank →
      Worked n g gw side .waiting (.holding f) m
  | judges (f : Frame) : Worked n g gw side (.holding f)
      (.after f (n.judge g gw side f).1) (n.judge g gw side f).2
  | advances (f : Frame) {e : Errand} {next : Option Errand} {m : Network} :
      n.advance g gw e = some (next, m) → Worked n g gw side (.busy f e) (.after f next) m

/-- A frame that is popped is the oldest of the worker's queue. -/
theorem pop_spec (hg : n.gateways[g]? = some gw) (h : n.pop g gw side = (.item f, m)) :
    n.frames (n.source (side.move g)) = f :: m.frames (n.source (side.move g)) ∧
      (∀ p, p ≠ n.source (side.move g) → m.frames p = n.frames p) ∧ m.blank = n.blank := by
  cases side with
  | up =>
    have source : n.source (Side.up.move g) = .port gw.node gw.port := by
      simp [Side.move, Network.source, hg]
    simp only [pop, Prod.mk.injEq] at h
    obtain ⟨item, rfl⟩ := h
    have poll : n.pollPort gw.node gw.port true =
        some (.holding f, n.setNode gw.node ((n.node gw.node).receive gw.port).2) := by
      simp only [pollPort, item]
    rcases pollPort_spec poll with ⟨e, _⟩ | ⟨f', e, queue, blank, others, _⟩
    · cases e
    · cases e
      rw [source]
      exact ⟨queue, others, blank⟩
  | down =>
    obtain ⟨hi, hu, hd⟩ := frames_of_gateway hg
    simp only [pop, Prod.mk.injEq] at h
    obtain ⟨item, rfl⟩ := h
    rcases Queue.poll_spec gw.ingress with ⟨f', q, hq, hl, hb⟩ | ⟨answer, hq, ha⟩
    · rw [hq] at item ⊢
      cases item
      refine ⟨?_, fun p hp => ?_, blank_modifyGateway fun gv hv => ?_⟩
      · show n.frames (.ingress g) = f :: Network.frames _ (.ingress g)
        rw [hi, hl, frames_modifyGateway hg, if_pos rfl]
      · rw [frames_modifyGateway hg, if_neg (show p ≠ .ingress g from hp)]
        split
        · next h => rw [h, hu]
        · split
          · next h => rw [h, hd]
          · rfl
      · obtain rfl := Option.some.inj (hg.symm.trans hv)
        simp [Gateway.blank, hb]
    · rw [hq] at item
      exact absurd item (ha f)

theorem worked_of_work (hg : n.gateways[g]? = some gw) {s t : Stand}
    (h : n.work g gw side s = some (t, m)) : Worked n g gw side s t m := by
  cases s with
  | ended => cases h
  | checking =>
    cases h
    exact .looks
  | waiting =>
    simp only [work] at h
    split at h
    · next f k hp =>
      cases h
      obtain ⟨queue, others, blank⟩ := pop_spec hg hp
      exact .takes f queue others blank
    · cases h
      exact .misses (.inl rfl)
    · cases h
      exact .misses (.inr rfl)
  | holding f =>
    cases h
    exact .judges f
  | busy f e =>
    obtain ⟨⟨next, k⟩, hk, e⟩ := Option.map_eq_some_iff.1 h
    cases e
    exact .advances f hk

theorem Worked.keeps {s t : Stand} (hc : Copies n) (bound : gw.Bound) (fits : s.Fits gw.id)
    (worked : Worked n g gw side s t m) : m.blank = n.blank ∧ t.Fits gw.id := by
  have after {f : Frame} {next : Option Errand} (h : ∀ e, next = some e → e.Fits gw.id) :
      (Stand.after f next).Fits gw.id := by
    cases next with
    | none => trivial
    | some e => exact h e rfl
  cases worked with
  | looks => exact ⟨rfl, by split <;> trivial⟩
  | misses hs => exact ⟨rfl, by rcases hs with rfl | rfl <;> trivial⟩
  | takes f queue others blank => exact ⟨blank, trivial⟩
  | judges f =>
    obtain ⟨out, grows⟩ := extends_judge n g gw side f
    exact ⟨grows.blank, after fun e he => fits_judge hc bound he⟩
  | advances f ha =>
    obtain ⟨out, grows⟩ := extends_advance fits ha
    exact ⟨grows.blank, after fun e he => fits_advance fits (he ▸ ha)⟩

/-! ## Steps of the receiver and of others -/

theorem extends_hearken {s : Nat} {r r' : Receiving}
    (h : n.hearken g s r = some (r', m)) : Extends n m := by
  cases r with
  | ended => cases h
  | checking =>
    cases h
    exact .refl n
  | reading =>
    simp only [hearken] at h
    split at h
    · cases h
      exact .refl n
    · cases h
      refine ⟨[], .of_same rfl fun p => ?_⟩
      cases p with
      | hand mv => cases mv <;> rfl
      | _ => rfl
  | pushing bytes =>
    obtain ⟨⟨result, k⟩, hk, e⟩ := Option.map_eq_some_iff.1 h
    cases e
    exact extends_hear hk

theorem frames_carry (n : Network) (packets : List Datagram.Packet) (p : Place) :
    (n.carry packets).frames p = n.frames p := by
  cases p with
  | hand mv => cases mv <;> rfl
  | _ => rfl

theorem blank_of_others (hc : Copies n) (ho : Crew.Others g n m) : m.blank = n.blank := by
  cases ho with
  | traffic ht =>
    obtain ⟨out, grows⟩ := extends_traffic hc ht
    exact grows.blank
  | move mv _ _ _ hm => exact (moved_of_move hc hm).same
  | datagrams packets => rfl

end Network

namespace Crew

/-! ## Steps of the caller -/

/-- Networks whose frames are the same, and who takes and who copies them. -/
structure Alike (n m : Network) : Prop where
  frames : ∀ p, m.frames p = n.frames p
  source : ∀ mv, m.source mv = n.source mv
  copies : Copies n → Copies m

theorem Alike.refl (n : Network) : Alike n n := ⟨fun _ => rfl, fun _ => rfl, id⟩

theorem alike_stopLink (n : Network) (link : Link) : Alike n (n.stopLink link).2 := by
  have same (m : Network) (nodes : m.nodes = n.nodes) (gateways : m.gateways = n.gateways)
      (sessions : m.sessions = n.sessions) : Alike n m := by
    refine ⟨fun p => ?_, fun mv => ?_, fun hc => ?_⟩
    · cases p with
      | port i h => simp only [Network.frames, Network.node, nodes]
      | ingress g => simp only [Network.frames, gateways]
      | hand mv => cases mv <;> simp only [Network.frames, Network.worker?, gateways, sessions]
    · cases mv <;> simp only [Network.source, gateways, sessions]
    · intro i
      simp only [Network.node, nodes]
      exact hc i
  cases link with
  | member hub endpoint faults => exact same _ rfl rfl rfl
  | datagram s => exact same _ rfl rfl rfl

theorem alike_clearGateway (n : Network) (g : Nat) : Alike n (n.clearGateway g) := by
  cases hg : n.gateways[g]? with
  | none =>
    rw [Network.clearGateway, Network.modifyGateway_eq_self hg]
    exact .refl n
  | some gw =>
    obtain ⟨hi, hu, hd⟩ := Network.frames_of_gateway hg
    refine ⟨fun p => ?_, fun mv => ?_, id⟩
    · rw [Network.clearGateway, Network.frames_modifyGateway hg]
      split
      · next h => rw [h, hi]
      · split
        · next h => rw [h, hu]
        · split
          · next h => rw [h, hd]
          · rfl
    · cases mv with
      | uplink k =>
        simp only [Network.source, Network.clearGateway, Network.getElem?_modifyGateway]
        split
        · cases n.gateways[k]? <;> rfl
        · rfl
      | _ => rfl

theorem alike_setPortState (n : Network) (i : Nat) (p : Handle) (st : PortState) :
    Alike n (n.setPortState i p st) := by
  refine ⟨fun q => ?_, fun mv => ?_, fun hc j => ?_⟩
  · cases q with
    | port j h =>
      show ((n.setPortState i p st).node j).frames h = (n.node j).frames h
      rw [Network.node_setPortState]
      split
      · rw [Registry.frames_setState]
      · rfl
    | ingress g => rfl
    | hand mv => cases mv <;> rfl
  · cases mv <;> rfl
  · rw [Network.node_setPortState]
    split
    · intro h hh q hq k hk
      rw [Registry.port?_setState] at hq
      obtain ⟨q', hq', rfl⟩ := Option.map_eq_some_iff.1 hq
      refine hc j h hh q' hq' k ?_
      split at hk <;> exact hk
    · exact hc j

/-! ## What every step keeps -/

/-- The crew of a gateway at ports that make copies of what is broadcast. -/
structure Manned (g : Nat) (gw : Gateway) (c : Crew) : Prop where
  gateway : c.net.gateways[g]? = some gw
  bound : gw.Bound
  copies : Copies c.net
  fits : ∀ side, (c.stand side).Fits gw.id

variable {g : Nat} {gw gv : Gateway} {c d : Crew} {ts : List Turn} {side : Side} {s : Stand}
  {n : Network}

theorem stand_put (c : Crew) (side : Side) (s : Stand) (n : Network) (k : Side) :
    (c.put side s n).stand k = if k = side then s else c.stand k := by
  cases side <;> cases k <;> rfl

theorem net_put (c : Crew) (side : Side) (s : Stand) (n : Network) : (c.put side s n).net = n := by
  cases side <;> rfl

theorem caller_put (c : Crew) (side : Side) (s : Stand) (n : Network) :
    (c.put side s n).caller = c.caller := by
  cases side <;> rfl

theorem fits_put (h : Manned g gw c) (fits : s.Fits gw.id) (k : Side) :
    ((c.put side s n).stand k).Fits gw.id := by
  rw [stand_put]
  split
  · exact fits
  · exact h.fits k

theorem manned_of_blank (h : Manned g gw c) (hb : d.net.blank = c.net.blank)
    (fits : ∀ side, (d.stand side).Fits gw.id) :
    ∃ gv, Manned g gv d ∧ gv.blank = gw.blank := by
  obtain ⟨gv, hv, e⟩ := Network.gateway_of_blank hb.symm h.gateway
  obtain ⟨-, id, -⟩ := Gateway.parts_of_blank e
  have link : gv.link = gw.link := show gv.blank.link = gw.blank.link from congrArg _ e
  refine ⟨gv, ⟨hv, ⟨id ▸ h.bound.id_ok, fun hub endpoint faults hl => ?_⟩,
    Network.copies_of_blank hb h.copies, fun side => id ▸ fits side⟩, e⟩
  rw [id]
  exact h.bound.link hub endpoint faults (link ▸ hl)

theorem manned_of_alike (h : Manned g gw c) (alike : Alike c.net n)
    (hv : n.gateways[g]? = some gv) (id : gv.id = gw.id) (link : gv.link = gw.link)
    (caller : Caller) : Manned g gv { c with caller := caller, net := n } := by
  refine ⟨hv, ⟨id ▸ h.bound.id_ok, fun hub endpoint faults hl => ?_⟩, alike.copies h.copies,
    fun side => id ▸ h.fits side⟩
  rw [id]
  exact h.bound.link hub endpoint faults (link ▸ hl)

theorem gateways_stopLink (n : Network) (link : Link) :
    (n.stopLink link).2.gateways = n.gateways := by
  cases link <;> rfl

theorem gateway_clearGateway (hg : n.gateways[g]? = some gw) :
    (n.clearGateway g).gateways[g]? = some { gw with running := false } := by
  show (n.modifyGateway g _).gateways[g]? = _
  rw [Network.getElem?_modifyGateway, if_pos rfl, hg]
  rfl

/-- What the caller does to the gateway in one step: it clears the flag, or nothing. -/
theorem manned_of_call (h : Manned g gw c) (hd : c.call g gw = some d) :
    ∃ gv, Manned g gv d ∧ (gv = gw ∨ gv = { gw with running := false }) := by
  have same (caller : Caller) : Manned g gw { c with caller := caller } :=
    manned_of_alike h (.refl c.net) h.gateway rfl rfl caller
  unfold call at hd
  cases hc : c.caller with
  | away =>
    simp only [hc] at hd
    cases hd
    exact ⟨gw, same _, .inl rfl⟩
  | calling =>
    simp only [hc] at hd
    cases hd
    exact ⟨gw, manned_of_alike h (alike_stopLink c.net gw.link)
      (by rw [gateways_stopLink, h.gateway]) rfl rfl _, .inl rfl⟩
  | joining =>
    simp only [hc] at hd
    split at hd <;> cases hd
    exact ⟨gw, same _, .inl rfl⟩
  | unlinked =>
    simp only [hc] at hd
    cases hd
    exact ⟨_, manned_of_alike h (alike_clearGateway c.net g) (gateway_clearGateway h.gateway) rfl
      rfl _, .inr rfl⟩
  | cleared =>
    simp only [hc] at hd
    cases hd
    exact ⟨gw, manned_of_alike h (alike_setPortState c.net gw.node gw.port .disconn) h.gateway rfl
      rfl _, .inl rfl⟩
  | disconnected =>
    simp only [hc] at hd
    split at hd <;> cases hd
    exact ⟨gw, same _, .inl rfl⟩
  | returned => simp only [hc] at hd; cases hd

theorem manned_of_step (h : Manned g gw c) (step : Step g c ts d) :
    ∃ gv, Manned g gv d ∧ gv.link = gw.link ∧ gv.ingress.capacity = gw.ingress.capacity := by
  have parts (h : ∃ gv, Manned g gv d ∧ gv.blank = gw.blank) :
      ∃ gv, Manned g gv d ∧ gv.link = gw.link ∧ gv.ingress.capacity = gw.ingress.capacity := by
    obtain ⟨gv, manned, e⟩ := h
    have link : gv.link = gw.link := show gv.blank.link = gw.blank.link from congrArg _ e
    have ingress : gv.ingress.blank = gw.ingress.blank := congrArg Gateway.ingress e
    refine ⟨gv, manned, link, ?_⟩
    rw [← Queue.capacity_blank, ingress, Queue.capacity_blank]
  cases step with
  | moves m =>
    cases m with
    | work side hg _ hw =>
      obtain rfl := Option.some.inj (h.gateway.symm.trans hg)
      obtain ⟨blank, fits⟩ :=
        (Network.worked_of_work h.gateway hw).keeps h.copies h.bound (h.fits side)
      exact parts (manned_of_blank h (by rw [net_put, blank]) (fits_put h fits))
    | call hg hc =>
      obtain rfl := Option.some.inj (h.gateway.symm.trans hg)
      obtain ⟨gv, manned, rfl | rfl⟩ := manned_of_call h hc
      · exact ⟨_, manned, rfl, rfl⟩
      · exact ⟨_, manned, rfl, rfl⟩
    | hearken hg _ hr =>
      obtain ⟨out, grows⟩ := Network.extends_hearken hr
      exact parts (manned_of_blank h grows.blank h.fits)
  | others ho => exact parts (manned_of_blank h (Network.blank_of_others h.copies ho) h.fits)

theorem manned_of_run (h : Manned g gw c) (run : Run g c ts d) :
    ∃ gv, Manned g gv d ∧ gv.link = gw.link ∧ gv.ingress.capacity = gw.ingress.capacity := by
  induction run with
  | refl => exact ⟨gw, h, rfl, rfl⟩
  | step _ step ih =>
    obtain ⟨gv, manned, link, capacity⟩ := ih
    obtain ⟨gu, manned', link', capacity'⟩ := manned_of_step manned step
    exact ⟨gu, manned', link'.trans link, capacity'.trans capacity⟩

end Crew

end FrameBus
