import FrameBus.Proofs.Network.Moves
import Mathlib.Logic.Relation

/-!
# What is touched when a frame is handled

The handling of a frame changes what is at the nodes, what is queued behind a link, the counters and
the log (`Touch`), and nothing else. So a move leaves every worker as it stands but the one whose
move it is, and that one does not end while its owner runs and its queue is open (`made_of_move`).
-/

namespace FrameBus

/-- A gateway but for what is queued and counted. -/
def Gateway.stripped (gw : Gateway) : Gateway := { gw with ingress := .new {}, counters := {} }

namespace Network

inductive Touch : Network → Network → Prop
  | node (n : Network) (i : Nat) (r : Registry Reaction) : Touch n (n.setNode i r)
  | ingress (n : Network) (g : Nat) (q : Queue Frame) :
      Touch n (n.modifyGateway g fun gw => { gw with ingress := q })
  | record (n : Network) (g : Nat) (t : Tally) : Touch n (n.record g t)
  | write (n : Network) (h : Happening) : Touch n (n.write h)
  | carry (n : Network) (packets : List Datagram.Packet) : Touch n (n.carry packets)

/-- One network after another, by such changes. -/
abbrev Touches : Network → Network → Prop := Relation.ReflTransGen Touch

variable {n m k : Network}

/-! ## Links -/

theorem touches_hear {r : Receiver} {bytes : List UInt8} {result : Except BusError Unit}
    (h : hear r bytes n = some (result, m)) : Touches n m := by
  unfold hear at h
  split at h
  · split at h
    · cases h; exact .refl
    · cases h; exact .single (.write n _)
  · split at h
    · cases h; exact .refl
    · split at h
      · cases h; exact .refl
      · split at h
        · cases h; exact .single (.ingress n _ _)
        · cases h; exact .refl
        · cases h

theorem touches_deliver {dest : PortId} {bytes : List UInt8} {ks : List Receiver}
    {result : Except BusError Unit} (h : Hub.deliver hear dest bytes ks n = some (result, m)) :
    Touches n m := by
  induction ks generalizing n with
  | nil => cases h; exact .refl
  | cons k ks ih =>
    simp only [Hub.deliver, Option.bind_eq_bind, Option.bind_eq_some_iff] at h
    obtain ⟨⟨heard, n₁⟩, hh, h⟩ := h
    have first := touches_hear hh
    split at h
    · split at h
      · exact first.trans (ih h)
      · cases h; exact first
    · exact first.trans (ih h)

theorem touches_transfer {link : Link} {dest : PortId} {bytes : List UInt8}
    {result : Except BusError Unit} (h : n.transfer link dest bytes = some (result, m)) :
    Touches n m := by
  unfold transfer at h
  split at h
  · split at h
    · cases h; exact .refl
    · exact touches_deliver h
  · split at h
    · cases h; exact .refl
    · split at h
      · cases h; exact .refl
      · cases h; exact .single (.carry n _)

theorem touches_transmit {g : Nat} {hop : PortId} {f : Frame} {relayed : Bool}
    (h : n.transmit g hop f relayed = some m) : Touches n m := by
  simp only [transmit, Option.bind_eq_bind, Option.bind_eq_some_iff] at h
  obtain ⟨gw, _, ⟨result, n₁⟩, ht, h⟩ := h
  have sent := (touches_transfer ht).tail (.write n₁ (.transmitted gw.id hop f.window result))
  split at h
  · cases h
    exact sent.tail (.record _ _ _)
  · cases h
    have counted := sent.tail (.record _ g (.uplink f.length))
    cases relayed with
    | true => exact counted.tail (.record _ _ _)
    | false => exact counted

/-! ## Workers -/

theorem touches_handleUplink {g : Nat} {f : Frame} (h : n.handleUplink g f = some m) :
    Touches n m := by
  simp only [handleUplink, Option.bind_eq_bind, Option.bind_eq_some_iff] at h
  obtain ⟨gw, _, h⟩ := h
  split at h
  · cases h; exact .single (.record _ _ _)
  · cases h; exact .single (.record _ _ _)
  · exact touches_transmit h

theorem touches_handleUnicast {g : Nat} {gw : Gateway} {route : Addresses} {f : Frame}
    (h : n.handleUnicast g gw route f = some m) : Touches n m := by
  simp only [handleUnicast] at h
  split at h
  · cases h; exact (Relation.ReflTransGen.single (.node _ _ _)).tail (.record _ _ _)
  · cases h
  · split at h
    · cases h; exact .single (.record _ _ _)
    · cases h; exact .single (.record _ _ _)
    · exact touches_transmit h

theorem touches_handleDownlink {g : Nat} {f : Frame} (h : n.handleDownlink g f = some m) :
    Touches n m := by
  simp only [handleDownlink, Option.bind_eq_bind, Option.bind_eq_some_iff] at h
  obtain ⟨gw, _, h⟩ := h
  split at h
  · cases h; exact .single (.record _ _ _)
  · cases h; exact .single (.record _ _ _)
  · have counted := Relation.ReflTransGen.single (Touch.record n g (.downlink f.length))
    split at h
    · obtain ⟨result, _, h⟩ := Option.bind_eq_some_iff.1 h
      split at h
      · cases h; exact (counted.tail (.node _ _ _)).tail (.record _ _ _)
      · cases h; exact counted.tail (.record _ _ _)
    · exact counted.trans (touches_handleUnicast h)

theorem touches_handleEvent {i : Nat} {f : Frame} (h : n.handleEvent i f = some m) :
    Touches n m := by
  simp only [handleEvent, Option.bind_eq_bind, Option.bind_eq_some_iff] at h
  obtain ⟨s, _, h⟩ := h
  split at h
  · cases h; exact .refl
  · obtain ⟨⟨deed, n₁⟩, hr, h⟩ := Option.bind_eq_some_iff.1 h
    cases h
    refine Relation.ReflTransGen.tail ?_ (.write n₁ _)
    rcases sent_of_respond hr with rfl | ⟨_, _, _, _, hs⟩ | ⟨_, _, _, hs⟩
    · exact .refl
    · rcases sent_of_sendEvent hs with rfl | ⟨_, _, _, rfl⟩
      · exact .refl
      · exact .single (.node _ _ _)
    · rcases sent_of_broadcastEvent hs with rfl | ⟨_, _, _, rfl⟩
      · exact .refl
      · exact .single (.node _ _ _)

/-! ## Owners of workers -/

theorem gateways_of_touches (h : Touches n m) :
    m.gateways.map Gateway.stripped = n.gateways.map Gateway.stripped := by
  induction h with
  | refl => rfl
  | tail _ touch ih =>
    rw [← ih]
    cases touch with
    | node i r => rfl
    | ingress g q => exact map_modify_of_same fun _ => rfl
    | record g t => exact map_modify_of_same fun _ => rfl
    | write h => rfl
    | carry packets => rfl

theorem sessions_of_touches (h : Touches n m) : m.sessions = n.sessions := by
  induction h with
  | refl => rfl
  | tail _ touch ih =>
    rw [← ih]
    cases touch <;> rfl

theorem hubs_of_touches (h : Touches n m) : m.hubs = n.hubs := by
  induction h with
  | refl => rfl
  | tail _ touch ih =>
    rw [← ih]
    cases touch <;> rfl

/-- The links of the gateways. -/
def links (n : Network) : List Link := n.gateways.map Gateway.link

theorem links_of_touches (h : Touches n m) : m.links = n.links := by
  have e := congrArg (List.map Gateway.link) (gateways_of_touches h)
  rwa [List.map_map, List.map_map] at e

/-- The flag that a worker looks at. -/
def runs? (n : Network) : Move → Option Bool
  | .uplink g => (n.gateways[g]?).map Gateway.running
  | .downlink g => (n.gateways[g]?).map Gateway.running
  | .session s => (n.sessions[s]?).map Session.running
  | .socket _ => none

/-- Who has a flag to look at is a worker. -/
theorem worker_of_runs? {mv : Move} {runs : Bool} (h : n.runs? mv = some runs) :
    ∃ w, n.worker? mv = some w := by
  cases mv with
  | uplink g =>
    obtain ⟨gw, hg, -⟩ := Option.map_eq_some_iff.1 h
    exact ⟨gw.uplink, by rw [worker?, hg]; rfl⟩
  | downlink g =>
    obtain ⟨gw, hg, -⟩ := Option.map_eq_some_iff.1 h
    exact ⟨gw.downlink, by rw [worker?, hg]; rfl⟩
  | session s =>
    obtain ⟨ss, hs, -⟩ := Option.map_eq_some_iff.1 h
    exact ⟨ss.worker, by rw [worker?, hs]; rfl⟩
  | socket s => cases h

theorem hand_of_touches (h : Touches n m) (mv : Move) :
    m.worker? mv = n.worker? mv ∧ m.runs? mv = n.runs? mv := by
  have gateways (g : Nat) : (m.gateways[g]?).map Gateway.stripped =
      (n.gateways[g]?).map Gateway.stripped := by
    rw [← List.getElem?_map, ← List.getElem?_map, gateways_of_touches h]
  have read {β : Type} (r : Gateway → β) (same : ∀ gw : Gateway, r gw.stripped = r gw) (g : Nat) :
      (m.gateways[g]?).map r = (n.gateways[g]?).map r := by
    have e := congrArg (Option.map r) (gateways g)
    simpa only [Option.map_map, Function.comp_def, same] using e
  cases mv with
  | uplink g => exact ⟨read Gateway.uplink (fun _ => rfl) g, read Gateway.running (fun _ => rfl) g⟩
  | downlink g =>
    exact ⟨read Gateway.downlink (fun _ => rfl) g, read Gateway.running (fun _ => rfl) g⟩
  | session s => simp only [worker?, runs?, sessions_of_touches h, and_self]
  | socket s => exact ⟨rfl, rfl⟩

/-! ## Moves -/

theorem worker?_setHand_of_ne {mv mv' : Move} (h : mv' ≠ mv) (w : Bool → Worker) :
    (n.setHand mv w).worker? mv' = n.worker? mv' := by
  cases mv with
  | socket s => rfl
  | session s =>
    cases mv' with
    | session k =>
      have other : ¬ s = k := fun e => h (by rw [e])
      simp only [worker?, setHand, getElem?_modifySession, if_neg other]
    | _ => rfl
  | uplink g =>
    cases mv' with
    | uplink k =>
      have other : ¬ g = k := fun e => h (by rw [e])
      simp only [worker?, setHand, getElem?_modifyGateway, if_neg other]
    | downlink k =>
      simp only [worker?, setHand, getElem?_modifyGateway]
      split <;> simp [Function.comp_def]
    | _ => rfl
  | downlink g =>
    cases mv' with
    | downlink k =>
      have other : ¬ g = k := fun e => h (by rw [e])
      simp only [worker?, setHand, getElem?_modifyGateway, if_neg other]
    | uplink k =>
      simp only [worker?, setHand, getElem?_modifyGateway]
      split <;> simp [Function.comp_def]
    | _ => rfl

theorem links_setHand (n : Network) (mv : Move) (w : Bool → Worker) :
    (n.setHand mv w).links = n.links := by
  cases mv with
  | uplink g => exact map_modify_of_same fun _ => rfl
  | downlink g => exact map_modify_of_same fun _ => rfl
  | session s => rfl
  | socket s => rfl

theorem runs?_setHand (n : Network) (mv mv' : Move) (w : Bool → Worker) :
    (n.setHand mv w).runs? mv' = n.runs? mv' := by
  cases mv <;> cases mv' <;>
    simp only [runs?, setHand, getElem?_modifyGateway, getElem?_modifySession] <;>
    first
    | rfl
    | split <;> simp [Function.comp_def]

theorem worker?_setHand_self (n : Network) (mv : Move) (w : Bool → Worker) :
    (n.setHand mv w).worker? mv = (n.runs? mv).map w := by
  cases mv with
  | uplink g =>
    simp only [worker?, setHand, getElem?_modifyGateway, if_true, runs?, Option.map_map]
    rfl
  | downlink g =>
    simp only [worker?, setHand, getElem?_modifyGateway, if_true, runs?, Option.map_map]
    rfl
  | session s =>
    simp only [worker?, setHand, getElem?_modifySession, if_true, runs?, Option.map_map]
    rfl
  | socket s => rfl

/-- How often a worker can move when its owner does not run: it takes a frame and handles it. -/
def movesLeft (n : Network) (mv : Move) : Nat :=
  match n.worker? mv with
  | some .polling => 2
  | some (.holding _) => 1
  | _ => 0

theorem movesLeft_le (n : Network) (mv : Move) : n.movesLeft mv ≤ 2 := by
  unfold movesLeft
  split <;> omega

/-- The queue that a worker looks at is open. -/
def OpenAt (n : Network) : Move → Prop
  | .uplink g => ∀ gw, n.gateways[g]? = some gw →
      ∃ p, (n.node gw.node).port? gw.port = some p ∧ p.queue.isClosed = false
  | .downlink g => ∀ gw, n.gateways[g]? = some gw → gw.ingress.isClosed = false
  | .session s => ∀ ss, n.sessions[s]? = some ss →
      ∃ p, (n.node ss.node).port? ss.port = some p ∧ p.queue.isClosed = false
  | .socket _ => True

theorem touches_pollPort {i : Nat} {h : Handle} {running : Bool} {w : Worker}
    (e : n.pollPort i h running = some (w, m)) : Touches n m ∧ w ≠ .polling ∧
      (running = true → (∃ p, (n.node i).port? h = some p ∧ p.queue.isClosed = false) →
        w ≠ .ended) := by
  unfold pollPort at e
  rcases Registry.receive_spec (n.node i) h with ⟨f, r, hr, -⟩ | ⟨answer, r, hr, none⟩
  · simp only [hr] at e
    cases e
    exact ⟨.single (.node n i r), by simp, by simp⟩
  · simp only [hr] at e
    cases answer with
    | item f => exact absurd rfl (none f)
    | closed =>
      cases e
      refine ⟨.refl, by simp, fun _ ⟨p, hp, isOpen⟩ => ?_⟩
      -- an open queue does not answer that it is closed
      simp only [Registry.receive, hp, Prod.mk.injEq] at hr
      rw [Queue.isClosed_of_poll (Prod.ext hr.1 rfl)] at isOpen
      cases isOpen
    | timedOut =>
      cases running with
      | true => cases e
      | false => cases e; exact ⟨.refl, by simp, by simp⟩

/-- What a move does to the workers, and what it leaves alone. -/
structure Made (n : Network) (mv : Move) (m : Network) : Prop where
  hubs : m.hubs = n.hubs
  links : m.links = n.links
  flags : ∀ mv', m.runs? mv' = n.runs? mv'
  others : ∀ mv', mv' ≠ mv → m.worker? mv' = n.worker? mv'
  before : n.worker? mv ≠ some .ended
  after : n.runs? mv = some true → n.OpenAt mv → m.worker? mv ≠ some .ended
  falls : n.runs? mv = some false → m.movesLeft mv < n.movesLeft mv

/-- A worker that polls goes on to handle a frame, or ends, and one that has a frame handles it. -/
def Follows (w : Bool → Worker) : Worker → Prop
  | .polling => w false ≠ .polling
  | .holding _ => w false = .ended
  | .ended => False

theorem made_setHand (mv : Move) {w : Bool → Worker} {v : Worker} (touches : Touches n k)
    (worker : n.worker? mv = some v) (follows : Follows w v)
    (after : n.runs? mv = some true → n.OpenAt mv → w true ≠ .ended) :
    Made n mv (k.setHand mv w) where
  hubs := (by cases mv <;> rfl : (k.setHand mv w).hubs = k.hubs).trans (hubs_of_touches touches)
  links := (links_setHand k mv w).trans (links_of_touches touches)
  flags mv' := by rw [runs?_setHand, (hand_of_touches touches mv').2]
  others mv' other := by rw [worker?_setHand_of_ne other, (hand_of_touches touches mv').1]
  before ended := by
    obtain rfl := Option.some.inj (worker.symm.trans ended)
    exact follows
  after runs isOpen := by
    rw [worker?_setHand_self, (hand_of_touches touches mv).2, runs]
    intro ended
    exact after runs isOpen (Option.some.inj ended)
  falls idle := by
    rw [movesLeft, movesLeft, worker?_setHand_self, (hand_of_touches touches mv).2, idle, worker]
    cases v with
    | ended => exact follows.elim
    | polling =>
      have goes : w false ≠ .polling := follows
      cases hw : w false <;> simp_all
    | holding f =>
      have done : w false = .ended := follows
      simp [done]

theorem made_uplink {g : Nat} (h : n.moveUplink g = some m) : Made n (.uplink g) m := by
  simp only [moveUplink, Option.bind_eq_bind, Option.bind_eq_some_iff] at h
  obtain ⟨gw, hg, h⟩ := h
  split at h
  · cases h
  · next hw =>
    obtain ⟨⟨w, k⟩, hp, h⟩ := Option.bind_eq_some_iff.1 h
    cases h
    obtain ⟨touches, goes, stays⟩ := touches_pollPort hp
    refine made_setHand (.uplink g) (w := fun _ => w) (v := .polling) touches
      (by simp [worker?, hg, hw]) goes fun runs isOpen => stays ?_ (isOpen gw hg)
    simpa [runs?, hg] using runs
  · next f hw =>
    obtain ⟨k, hk, h⟩ := Option.bind_eq_some_iff.1 h
    cases h
    exact made_setHand (.uplink g) (w := afterHandling) (v := .holding f)
      (touches_handleUplink hk) (by simp [worker?, hg, hw]) rfl fun _ _ => by simp [afterHandling]

theorem made_session {s : Nat} (h : n.moveSession s = some m) : Made n (.session s) m := by
  simp only [moveSession, Option.bind_eq_bind, Option.bind_eq_some_iff] at h
  obtain ⟨ss, hs, h⟩ := h
  split at h
  · cases h
  · next hw =>
    obtain ⟨⟨w, k⟩, hp, h⟩ := Option.bind_eq_some_iff.1 h
    cases h
    obtain ⟨touches, goes, stays⟩ := touches_pollPort hp
    refine made_setHand (.session s) (w := fun _ => w) (v := .polling) touches
      (by simp [worker?, hs, hw]) goes fun runs isOpen => stays ?_ (isOpen ss hs)
    simpa [runs?, hs] using runs
  · next f hw =>
    obtain ⟨k, hk, h⟩ := Option.bind_eq_some_iff.1 h
    cases h
    exact made_setHand (.session s) (w := afterHandling) (v := .holding f)
      (touches_handleEvent hk) (by simp [worker?, hs, hw]) rfl fun _ _ => by simp [afterHandling]

theorem made_downlink {g : Nat} (h : n.moveDownlink g = some m) : Made n (.downlink g) m := by
  simp only [moveDownlink, Option.bind_eq_bind, Option.bind_eq_some_iff] at h
  obtain ⟨gw, hg, h⟩ := h
  split at h
  · cases h
  · next hw =>
    have polling : n.worker? (.downlink g) = some .polling := by simp [worker?, hg, hw]
    rcases hq : gw.ingress.poll with ⟨popped, q⟩
    simp only [hq] at h
    cases popped with
    | item f =>
      cases h
      -- the queue and the hand change at once
      have parts : n.modifyGateway g (fun gw => { gw with ingress := q, downlink := .holding f }) =
          (n.modifyGateway g fun gw => { gw with ingress := q }).setHand (.downlink g)
            fun _ => .holding f := by
        simp only [modifyGateway, setHand, List.modify_modify_eq]
        rfl
      rw [parts]
      exact made_setHand (.downlink g) (.single (.ingress n g q)) polling (by simp [Follows])
        fun _ _ => by simp
    | closed =>
      cases h
      refine made_setHand (.downlink g) (w := fun _ => .ended) .refl polling (by simp [Follows])
        fun _ isOpen => ?_
      have shut := Queue.isClosed_of_poll hq
      rw [isOpen gw hg] at shut
      cases shut
    | timedOut =>
      simp only at h
      split at h
      · cases h
      · next idle =>
        cases h
        refine made_setHand (.downlink g) (w := fun _ => .ended) .refl polling (by simp [Follows])
          fun runs _ => ?_
        simp [runs?, hg, idle] at runs
  · next f hw =>
    obtain ⟨k, hk, h⟩ := Option.bind_eq_some_iff.1 h
    cases h
    exact made_setHand (.downlink g) (w := afterHandling) (v := .holding f)
      (touches_handleDownlink hk) (by simp [worker?, hg, hw]) rfl fun _ _ => by simp [afterHandling]

theorem made_socket {s : Nat} (h : n.moveSocket s = some m) : Made n (.socket s) m := by
  simp only [moveSocket, Option.bind_eq_bind, Option.bind_eq_some_iff] at h
  obtain ⟨socket, _, ⟨bytes, socket'⟩, _, h⟩ := h
  have same (mv : Move) : (n.modifySocket s fun _ => socket').worker? mv = n.worker? mv ∧
      (n.modifySocket s fun _ => socket').runs? mv = n.runs? mv := by
    cases mv <;> exact ⟨rfl, rfl⟩
  have made (touches : Touches (n.modifySocket s fun _ => socket') m) : Made n (.socket s) m :=
    ⟨(hubs_of_touches touches).trans rfl, (links_of_touches touches).trans rfl,
      fun mv => (hand_of_touches touches mv).2.trans (same mv).2,
      fun mv _ => (hand_of_touches touches mv).1.trans (same mv).1, by simp [worker?],
      by simp [worker?], by simp [runs?]⟩
  split at h
  · cases h
    exact made .refl
  · obtain ⟨g, _, h⟩ := Option.bind_eq_some_iff.1 h
    obtain ⟨⟨result, k⟩, hk, h⟩ := Option.bind_eq_some_iff.1 h
    cases h
    exact made (touches_hear hk)

theorem made_of_move {mv : Move} (h : n.move mv = some m) : Made n mv m := by
  cases mv with
  | uplink g => exact made_uplink h
  | downlink g => exact made_downlink h
  | session s => exact made_session h
  | socket s => exact made_socket h

end Network

end FrameBus
