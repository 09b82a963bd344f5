import FrameBus.Proofs.Network.Extends

/-!
# What a move does to the frames

A move of a worker is one of three things (`Moved`): the worker takes the oldest frame of its queue
into its hand, or it handles the frame that it has and its hand is empty afterwards, or it takes no
frame, and then no frame goes away.
-/

namespace FrameBus.Network

/-- The queue that a worker looks at; a socket's receiver has none here. -/
def source (n : Network) : Move → Place
  | .uplink g =>
    ((n.gateways[g]?).map fun gw => Place.port gw.node gw.port).getD (.hand (.uplink g))
  | .downlink g => .ingress g
  | .session s =>
    ((n.sessions[s]?).map fun ss => Place.port ss.node ss.port).getD (.hand (.session s))
  | .socket s => .hand (.socket s)

/-- A worker handles a frame. -/
def handling (n : Network) : Move → Frame → Option Network
  | .uplink g, f => n.handleUplink g f
  | .downlink g, f => n.handleDownlink g f
  | .session s, f => n.handleEvent s f
  | .socket _, _ => none

/-- What a move of a worker is. -/
inductive Moved (n : Network) (mv : Move) (m : Network) : Prop
  | rest (idle : n.frames (.hand mv) = []) (still : m.frames (.hand mv) = []) (grows : Extends n m)
  | take (f : Frame) (idle : n.frames (.hand mv) = []) (taken : m.frames (.hand mv) = [f])
      (queue : n.frames (n.source mv) = f :: m.frames (n.source mv)) (blank : m.blank = n.blank)
      (others : ∀ p, p ≠ .hand mv → p ≠ n.source mv → m.frames p = n.frames p)
  | handle (f : Frame) (k : Network) (busy : n.frames (.hand mv) = [f])
      (handled : n.handling mv f = some k) (grows : Extends n k) (blank : m.blank = k.blank)
      (hand : m.frames (.hand mv) = []) (others : ∀ p, p ≠ .hand mv → m.frames p = k.frames p)
      (log : m.log = k.log) (drops : m.drops = k.drops)

variable {n m : Network}

theorem Moved.same {mv : Move} (h : Moved n mv m) : m.blank = n.blank := by
  cases h with
  | rest idle still grows =>
    obtain ⟨out, grown⟩ := grows
    exact grown.blank
  | take f idle taken queue blank others => exact blank
  | handle f k busy handled grows blank hand others log drops =>
    obtain ⟨out, grown⟩ := grows
    exact blank.trans grown.blank

/-! ## Workers -/

theorem frames_setNode {i : Nat} (hi : i < n.nodes.length) (r : Registry Reaction) (p : Place) :
    (n.setNode i r).frames p =
      match p with
      | .port j h => if i = j then r.frames h else n.frames (.port j h)
      | p => n.frames p := by
  cases p with
  | port j h =>
    show ((n.setNode i r).node j).frames h = _
    rw [node_setNode]
    by_cases hj : i = j <;> simp [hj, hi, frames]
    subst hj
    simp [hi]
  | ingress g => rfl
  | hand m => cases m <;> rfl

/-- A worker that looks at a port takes the oldest frame there, or nothing. -/
theorem pollPort_spec {i : Nat} {h : Handle} {running : Bool} {w : Worker}
    (e : n.pollPort i h running = some (w, m)) :
    (w = .ended ∧ m = n) ∨
      ∃ f, w = .holding f ∧ n.frames (.port i h) = f :: m.frames (.port i h) ∧ m.blank = n.blank ∧
        (∀ p, p ≠ .port i h → m.frames p = n.frames p) ∧ m.gateways = n.gateways ∧
        m.sessions = n.sessions := by
  unfold pollPort at e
  rcases Registry.receive_spec (n.node i) h with ⟨f, s, hr, hb, hq, ho⟩ | ⟨answer, s, hr, ha⟩
  · simp only [hr] at e
    cases e
    have hi : i < n.nodes.length := by
      apply Decidable.byContradiction
      intro hi
      rw [node_eq_new hi] at hq
      cases hq
    refine .inr ⟨f, rfl, ?_, blank_setNode hb, fun p hp => ?_, rfl, rfl⟩
    · rw [frames_setNode hi]
      simpa [frames] using hq
    · rw [frames_setNode hi]
      cases p with
      | port j k =>
        by_cases hj : i = j
        · subst hj
          have hk : h ≠ k := fun hk => hp (by rw [hk])
          simpa [frames] using ho k hk
        · simp [hj]
      | _ => rfl
  · simp only [hr] at e
    cases answer with
    | item f => exact absurd rfl (ha f)
    | closed => cases e; exact .inl ⟨rfl, rfl⟩
    | timedOut =>
      cases running with
      | true => cases e
      | false => cases e; exact .inl ⟨rfl, rfl⟩

/-- Puts another worker in place, which may depend on whether its owner runs. -/
def setHand (n : Network) : Move → (Bool → Worker) → Network
  | .uplink g, w => n.modifyGateway g fun gw => { gw with uplink := w gw.running }
  | .downlink g, w => n.modifyGateway g fun gw => { gw with downlink := w gw.running }
  | .session s, w => n.modifySession s fun ss => { ss with worker := w ss.running }
  | .socket _, _ => n

theorem getElem?_modifySession (n : Network) (s k : Nat) (F : Session → Session) :
    (n.modifySession s F).sessions[k]? =
      if s = k then (n.sessions[k]?).map F else n.sessions[k]? := by
  simp only [modifySession, List.getElem?_modify]
  split <;> simp

theorem blank_modifySession (n : Network) (s : Nat) (F : Session → Session)
    (hF : ∀ ss, (F ss).blank = ss.blank) : (n.modifySession s F).blank = n.blank := by
  have sessions : (n.sessions.modify s F).map Session.blank = n.sessions.map Session.blank := by
    apply List.ext_getElem?
    intro k
    rw [List.getElem?_map, List.getElem?_map, List.getElem?_modify]
    cases n.sessions[k]? with
    | none => rfl
    | some ss => by_cases hk : s = k <;> simp [hk, hF]
  simp only [blank, modifySession, sessions]

theorem blank_setHand (n : Network) (mv : Move) (w : Bool → Worker) :
    (n.setHand mv w).blank = n.blank := by
  cases mv with
  | uplink g => exact blank_modifyGateway fun _ _ => rfl
  | downlink g => exact blank_modifyGateway fun _ _ => rfl
  | session s => exact blank_modifySession n s _ fun _ => rfl
  | socket s => rfl

theorem log_setHand (n : Network) (mv : Move) (w : Bool → Worker) :
    (n.setHand mv w).log = n.log := by
  cases mv <;> rfl

theorem drops_setHand (n : Network) (mv : Move) (w : Bool → Worker) :
    (n.setHand mv w).drops = n.drops := by
  cases mv with
  | uplink g => exact drops_modifyGateway fun _ => rfl
  | downlink g => exact drops_modifyGateway fun _ => rfl
  | session s => rfl
  | socket s => rfl

theorem frames_setHand_of_ne {mv : Move} {w : Bool → Worker} {p : Place} (hp : p ≠ .hand mv) :
    (n.setHand mv w).frames p = n.frames p := by
  cases mv with
  | uplink g =>
    cases hg : n.gateways[g]? with
    | none => rw [setHand, modifyGateway_eq_self hg]
    | some gw =>
      obtain ⟨hi, _, hd⟩ := frames_of_gateway hg
      rw [setHand, frames_modifyGateway hg]
      split
      · next h => rw [h, hi]
      · split
        · next h => rw [h, hd]
        · rfl
  | downlink g =>
    cases hg : n.gateways[g]? with
    | none => rw [setHand, modifyGateway_eq_self hg]
    | some gw =>
      obtain ⟨hi, hu, _⟩ := frames_of_gateway hg
      rw [setHand, frames_modifyGateway hg]
      split
      · next h => rw [h, hi]
      · split
        · next h => rw [h, hu]
        · rfl
  | session s =>
    cases p with
    | hand mv =>
      cases mv with
      | session k =>
        have hk : s ≠ k := fun hk => hp (by rw [hk])
        simp only [setHand, frames, worker?, getElem?_modifySession, if_neg hk]
      | _ => rfl
    | _ => rfl
  | socket s => rfl

theorem worker?_setHand (n : Network) (mv : Move) (w : Bool → Worker) :
    (n.setHand mv w).worker? mv = none ∧ n.worker? mv = none ∨
      (n.worker? mv).isSome ∧ ∃ b, (n.setHand mv w).worker? mv = some (w b) := by
  cases mv with
  | uplink g =>
    simp only [worker?, setHand, getElem?_modifyGateway, if_true]
    cases n.gateways[g]? with
    | none => exact .inl ⟨rfl, rfl⟩
    | some gw => exact .inr ⟨rfl, _, rfl⟩
  | downlink g =>
    simp only [worker?, setHand, getElem?_modifyGateway, if_true]
    cases n.gateways[g]? with
    | none => exact .inl ⟨rfl, rfl⟩
    | some gw => exact .inr ⟨rfl, _, rfl⟩
  | session s =>
    simp only [worker?, setHand, getElem?_modifySession, if_true]
    cases n.sessions[s]? with
    | none => exact .inl ⟨rfl, rfl⟩
    | some ss => exact .inr ⟨rfl, _, rfl⟩
  | socket s => exact .inl ⟨rfl, rfl⟩

theorem frames_setHand {mv : Move} (hm : (n.worker? mv).isSome) (f : Frame) :
    (n.setHand mv fun _ => .holding f).frames (.hand mv) = [f] := by
  rcases worker?_setHand n mv fun _ => .holding f with ⟨_, h⟩ | ⟨_, b, h⟩
  · rw [h] at hm
    cases hm
  · rw [frames, h]
    rfl

theorem frames_setHand_of_empty {mv : Move} {w : Bool → Worker} (hw : ∀ b, (w b).frames = []) :
    (n.setHand mv w).frames (.hand mv) = [] := by
  rcases worker?_setHand n mv w with ⟨h, _⟩ | ⟨_, b, h⟩
  · rw [frames, h]
    rfl
  · rw [frames, h]
    exact hw b

/-! ## The three kinds of moves -/

/-- A worker that looks at a port. -/
theorem moved_of_pollPort {mv : Move} {i : Nat} {h : Handle} {running : Bool} {w : Worker}
    {k : Network} (hm : (n.worker? mv) = some .polling) (src : n.source mv = .port i h)
    (hp : n.pollPort i h running = some (w, k)) : Moved n mv (k.setHand mv fun _ => w) := by
  have idle : n.frames (.hand mv) = [] := by rw [frames, hm]; rfl
  rcases pollPort_spec hp with ⟨rfl, rfl⟩ | ⟨f, rfl, hq, hb, ho, hg, hs⟩
  · have still : (k.setHand mv fun _ => .ended).frames (.hand mv) = [] :=
      frames_setHand_of_empty fun _ => rfl
    refine .rest idle still ⟨[], .of_same (blank_setHand _ _ _) fun p => ?_⟩
    by_cases hp : p = .hand mv
    · rw [hp, still, idle]
    · exact frames_setHand_of_ne hp
  · have same : k.worker? mv = n.worker? mv := by
      cases mv <;> simp only [worker?, hg, hs]
    have hne : Place.port i h ≠ .hand mv := by simp
    refine .take f idle (frames_setHand (by rw [same, hm]; rfl) f) ?_ ?_ fun p hp hsrc => ?_
    · rw [src, frames_setHand_of_ne hne, hq]
    · rw [blank_setHand, hb]
    · rw [frames_setHand_of_ne hp, ho p (src ▸ hsrc)]

/-- A worker that has a frame. -/
theorem moved_of_handling {mv : Move} {f : Frame} {k : Network}
    (hm : n.worker? mv = some (.holding f)) (hk : n.handling mv f = some k) (grows : Extends n k) :
    Moved n mv (k.setHand mv afterHandling) := by
  have empty : ∀ b, (afterHandling b).frames = [] := by
    intro b
    cases b <;> rfl
  exact .handle f k (by rw [frames, hm]; rfl) hk grows (blank_setHand _ _ _)
    (frames_setHand_of_empty empty) (fun p hp => frames_setHand_of_ne hp) (log_setHand _ _ _)
    (drops_setHand _ _ _)

theorem moved_uplink {g : Nat} (h : n.moveUplink g = some m) :
    Moved n (.uplink g) m := by
  simp only [moveUplink, Option.bind_eq_bind, Option.bind_eq_some_iff] at h
  obtain ⟨gw, hg, h⟩ := h
  split at h
  · cases h
  · next hw =>
    obtain ⟨⟨w, k⟩, hp, h⟩ := Option.bind_eq_some_iff.1 h
    cases h
    exact moved_of_pollPort (by simp [worker?, hg, hw]) (by simp [source, hg]) hp
  · next f hw =>
    obtain ⟨k, hk, h⟩ := Option.bind_eq_some_iff.1 h
    cases h
    exact moved_of_handling (by simp [worker?, hg, hw]) hk (extends_handleUplink hk)

theorem moved_session {s : Nat} (hc : ∀ ss, n.sessions[s]? = some ss → n.CopiesAt ss.node)
    (h : n.moveSession s = some m) : Moved n (.session s) m := by
  simp only [moveSession, Option.bind_eq_bind, Option.bind_eq_some_iff] at h
  obtain ⟨ss, hs, h⟩ := h
  split at h
  · cases h
  · next hw =>
    obtain ⟨⟨w, k⟩, hp, h⟩ := Option.bind_eq_some_iff.1 h
    cases h
    exact moved_of_pollPort (by simp [worker?, hs, hw]) (by simp [source, hs]) hp
  · next f hw =>
    obtain ⟨k, hk, h⟩ := Option.bind_eq_some_iff.1 h
    cases h
    exact moved_of_handling (by simp [worker?, hs, hw]) hk (extends_handleEvent hc hk)

theorem moved_downlink {g : Nat} (hc : ∀ gw, n.gateways[g]? = some gw → n.CopiesAt gw.node)
    (h : n.moveDownlink g = some m) : Moved n (.downlink g) m := by
  simp only [moveDownlink, Option.bind_eq_bind, Option.bind_eq_some_iff] at h
  obtain ⟨gw, hg, h⟩ := h
  obtain ⟨hi, hu, hd⟩ := frames_of_gateway hg
  split at h
  · cases h
  · next hw =>
    have idle : n.frames (.hand (.downlink g)) = [] := by rw [hd, hw]; rfl
    -- without a frame the worker waits or ends
    have ends : Moved n (.downlink g) (n.setHand (.downlink g) fun _ => .ended) := by
      have still : (n.setHand (.downlink g) fun _ => .ended).frames (.hand (.downlink g)) = [] :=
        frames_setHand_of_empty fun _ => rfl
      refine .rest idle still ⟨[], .of_same (blank_setHand _ _ _) fun p => ?_⟩
      by_cases hp : p = .hand (.downlink g)
      · rw [hp, still, idle]
      · exact frames_setHand_of_ne hp
    rcases Queue.poll_spec gw.ingress with ⟨f, q, hq, hl, hb⟩ | ⟨answer, hq, ha⟩
    · simp only [hq] at h
      cases h
      refine .take f idle ?_ ?_ (blank_modifyGateway fun gv hv => ?_) fun p hp hsrc => ?_
      · rw [frames_modifyGateway hg]
        simp [Worker.frames]
      · show n.frames (.ingress g) = _
        rw [hi, hl, source, frames_modifyGateway hg, if_pos rfl]
      · obtain rfl := Option.some.inj (hg.symm.trans hv)
        simp [Gateway.blank, hb]
      · rw [frames_modifyGateway hg, if_neg (show p ≠ .ingress g from hsrc)]
        split
        · next h => rw [h, hu]
        · rfl
    · simp only [hq] at h
      cases answer with
      | item f => exact absurd rfl (ha f)
      | closed => cases h; exact ends
      | timedOut =>
        simp only at h
        split at h
        · cases h
        · cases h; exact ends
  · next f hw =>
    obtain ⟨k, hk, h⟩ := Option.bind_eq_some_iff.1 h
    cases h
    exact moved_of_handling (by simp [worker?, hg, hw]) hk (extends_handleDownlink hc hk)

theorem moved_socket {s : Nat} (h : n.moveSocket s = some m) : Moved n (.socket s) m := by
  simp only [moveSocket, Option.bind_eq_bind, Option.bind_eq_some_iff] at h
  obtain ⟨socket, _, ⟨bytes, socket'⟩, _, h⟩ := h
  have same : Extends n (n.modifySocket s fun _ => socket') :=
    ⟨[], .of_same rfl fun p => by
      cases p with
      | hand mv => cases mv <;> rfl
      | _ => rfl⟩
  refine .rest rfl rfl ?_
  split at h
  · cases h
    exact same
  · obtain ⟨g, _, h⟩ := Option.bind_eq_some_iff.1 h
    obtain ⟨⟨result, k⟩, hk, h⟩ := Option.bind_eq_some_iff.1 h
    cases h
    exact same.trans (extends_hear hk)

/-- A broadcast at the node of a worker makes every port that is registered there keep a copy. -/
def CopiesFor (n : Network) : Move → Prop
  | .uplink _ | .socket _ => True
  | .downlink g => ∀ gw, n.gateways[g]? = some gw → n.CopiesAt gw.node
  | .session s => ∀ ss, n.sessions[s]? = some ss → n.CopiesAt ss.node

theorem Copies.copiesFor (hc : Copies n) (mv : Move) : n.CopiesFor mv := by
  cases mv with
  | downlink g => exact fun gw _ => hc.copiesAt gw.node
  | session s => exact fun ss _ => hc.copiesAt ss.node
  | _ => trivial

theorem moved_of_copiesFor {mv : Move} (hc : n.CopiesFor mv) (h : n.move mv = some m) :
    Moved n mv m := by
  cases mv with
  | uplink g => exact moved_uplink h
  | downlink g => exact moved_downlink hc h
  | session s => exact moved_session hc h
  | socket s => exact moved_socket h

theorem moved_of_move (hc : Copies n) {mv : Move} (h : n.move mv = some m) : Moved n mv m :=
  moved_of_copiesFor (hc.copiesFor mv) h

end FrameBus.Network
