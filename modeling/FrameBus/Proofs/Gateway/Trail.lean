import FrameBus.Proofs.Gateway.Hops

/-!
# The trail of one frame

A frame is followed through a network of hubs, from the queue of some gateway's port on (`Trail`):
marked is where it is, and where a copy of it would be. Each worker of each gateway makes its steps,
ended workers start again, others take frames from ports, and whatever else may happen on the
network happens (`Network.Life`), all in any order.

A worker that takes a frame takes its mark with it. What a worker puts anywhere while it has the
marked frame in its hand is marked, whatever it is, and the hand is until it is empty.

There is never more than one mark, and where it is the frame can still afford its way
(`Trail.Followed`), so that it is soon delivered or dropped (`forwarding_ends`).
-/

namespace FrameBus

open Network (Adds Keeps Later Waits)

/-- Where a frame is. -/
inductive Spot where
  /-- in a queue, behind so many others -/
  | queued (p : Place) (ahead : Nat)
  /-- with a worker of a gateway -/
  | hand (g : Nat) (side : Side)
deriving DecidableEq

namespace Spot

/-- Where what is at a spot was before the oldest frame of a queue was taken. -/
def untaken (p : Place) : Spot → Spot
  | .queued q ahead => if q = p then .queued q (ahead + 1) else .queued q ahead
  | .hand g side => .hand g side

/-- Where it was before a worker took that frame. -/
def unheld (p : Place) (g : Nat) (side : Side) (s : Spot) : Spot :=
  if s = .hand g side then .queued p 0 else s.untaken p

theorem untaken_ne (p : Place) (s : Spot) : s.untaken p ≠ .queued p 0 := by
  cases s with
  | queued q ahead =>
    simp only [untaken]
    split
    · simp
    · next hq => simp [hq]
  | hand g side => simp [untaken]

theorem untaken_inj {p : Place} {s t : Spot} (h : s.untaken p = t.untaken p) : s = t := by
  cases s with
  | queued q ahead =>
    cases t with
    | queued r ahead' =>
      simp only [untaken] at h
      split at h <;> split at h <;> simp_all
    | hand g side =>
      simp only [untaken] at h
      split at h <;> cases h
  | hand g side =>
    cases t with
    | queued r ahead' =>
      simp only [untaken] at h
      split at h <;> cases h
    | hand j other => exact h

theorem unheld_inj {p : Place} {g : Nat} {side : Side} {s t : Spot}
    (h : s.unheld p g side = t.unheld p g side) : s = t := by
  simp only [unheld] at h
  split at h
  · next hs =>
    split at h
    · next ht => rw [hs, ht]
    · exact absurd h.symm (untaken_ne p t)
  · split at h
    · exact absurd h (untaken_ne p s)
    · exact untaken_inj h

end Spot

structure Trail where
  net : Network
  /-- where the workers of the gateways stand -/
  stand : Nat → Side → Stand
  marked : Spot → Bool
  /-- how often the frame was transmitted -/
  sent : Nat
  /-- how often a gateway's worker took it -/
  taken : Nat

namespace Trail

/-! ## Steps -/

/-- A frame in a queue, before it is taken. -/
def start (n : Network) (stand : Nat → Side → Stand) (p : Place) (ahead : Nat) : Trail where
  net := n
  stand
  marked s := s = .queued p ahead
  sent := 0
  taken := 0

/-- The workers, of which one has come to another stand. -/
def put (T : Trail) (g : Nat) (side : Side) (s : Stand) : Nat → Side → Stand :=
  fun j other => if j = g ∧ other = side then s else T.stand j other

/-- A worker takes the oldest frame of its queue. -/
def take (T : Trail) (g : Nat) (side : Side) (f : Frame) (n : Network) : Trail :=
  let p := T.net.source (side.move g)
  { net := n
    stand := T.put g side (.holding f)
    marked := fun s => T.marked (s.unheld p g side)
    sent := T.sent
    taken := T.taken + (T.marked (.queued p 0)).toNat }

/-- A worker goes on with the frame that it has in its hand. -/
def handle (T : Trail) (g : Nat) (side : Side) (s : Stand) (n : Network) : Trail :=
  let held := T.marked (.hand g side)
  { net := n
    stand := T.put g side s
    marked := fun
      | .queued p ahead => T.marked (.queued p ahead) || (held &&
          decide ((T.net.frames p).length ≤ ahead ∧ ahead < (n.frames p).length))
      | .hand j other => T.marked (.hand j other) &&
          !(decide (j = g ∧ other = side) && s.frames.isEmpty)
    sent := T.sent + (held && (T.stand g side).needsLink).toNat
    taken := T.taken }

/-- A worker makes a step. -/
def work (T : Trail) (g : Nat) (side : Side) (s : Stand) (n : Network) : Trail :=
  match T.stand g side, s with
  | .waiting, .holding f => T.take g side f n
  | _, s => T.handle g side s n

inductive Step : Trail → Trail → Prop
  | work {T : Trail} {gw : Gateway} {s : Stand} {n : Network} (g : Nat) (side : Side) :
      T.net.gateways[g]? = some gw → T.net.work g gw side (T.stand g side) = some (s, n) →
      Step T (T.work g side s n)
  | restart {T : Trail} (g : Nat) (side : Side) :
      T.stand g side = .ended → Step T { T with stand := T.put g side .checking }
  /-- someone else takes the oldest frame of a port -/
  | receive {T : Trail} {f : Frame} {r : Registry Reaction} (i : Nat) (h : Handle) :
      (T.net.node i).receive h = (.item f, r) →
      Step T { T with net := T.net.setNode i r
                      marked := fun s => T.marked (s.untaken (.port i h)) }
  | life {T : Trail} {n : Network} : T.net.Life n → Step T { T with net := n }

/-- Any number of steps, in any order. -/
abbrev Reaches : Trail → Trail → Prop := Relation.ReflTransGen Step

/-! ## What a step keeps -/

/-- There is one mark at most, and where it is the frame is on its way. -/
structure Followed (route : Addresses) (w : List UInt8) (T : Trail) : Prop where
  wired : T.net.Wired
  sent : T.sent ≤ 5
  taken : T.taken ≤ 11
  one : ∀ s s', T.marked s = true → T.marked s' = true → s = s'
  queued : ∀ p ahead, T.marked (.queued p ahead) = true → ∃ f, (T.net.frames p)[ahead]? = some f ∧
    Waits route w T.sent T.taken T.net p f
  held : ∀ g side, T.marked (.hand g side) = true → ∃ gw, T.net.gateways[g]? = some gw ∧
    (T.stand g side).Carries route w T.sent T.taken (T.net.node gw.node) gw.id side

section

variable {route : Addresses} {w : List UInt8} {T : Trail} {n : Network} {g : Nat} {side : Side}
  {gw : Gateway} {s : Stand} {f : Frame}

theorem carries_of_keeps {r r' : Registry Reaction} {id : PortId} {sent taken : Nat}
    (keeps : ∀ h p, r.port? h = some p → ∃ q, r'.port? h = some q ∧ q.id = p.id)
    (h : s.Carries route w sent taken r id side) : s.Carries route w sent taken r' id side := by
  cases s with
  | holding f => cases side <;> exact h
  | busy f e =>
    cases e with
    | transmit hop datagram relayed => cases side <;> exact h
    | spread left inner accepted => cases side <;> exact h
    | deliver target inner =>
      obtain ⟨hw, p, hp, affords⟩ : (Errand.deliver target inner).Carries route w sent taken r := by
        cases side <;> exact h
      obtain ⟨q, hq, id⟩ := keeps target p hp
      have there : (Errand.deliver target inner).Carries route w sent taken r' :=
        ⟨hw, q, hq, id ▸ affords⟩
      cases side <;> exact there
  | _ => cases side <;> exact h.elim

namespace Followed

/-- A worker that has the frame keeps it while others move. -/
theorem held_of_keeps (h : Followed route w T) (keeps : Keeps T.net n)
    (hm : T.marked (.hand g side) = true) : ∃ gw, n.gateways[g]? = some gw ∧
      (T.stand g side).Carries route w T.sent T.taken (n.node gw.node) gw.id side := by
  obtain ⟨gw, hg, carries⟩ := h.held g side hm
  obtain ⟨gv, hv, node, id, -⟩ := keeps.gateway hg
  refine ⟨gv, hv, ?_⟩
  rw [node, id]
  exact carries_of_keeps (fun _ _ hp => keeps.port hp) carries

theorem later (h : Followed route w T) (l : Later T.net n) :
    Followed route w { T with net := n } where
  wired := l.wired h.wired
  sent := h.sent
  taken := h.taken
  one := h.one
  queued := by
    intro p ahead hm
    obtain ⟨f, hf, waits⟩ := h.queued p ahead hm
    have queue : p.IsQueue := by
      cases p with
      | hand mv => exact waits.elim
      | _ => trivial
    obtain ⟨more, grown⟩ := l.frames queue
    refine ⟨f, ?_, waits.of_keeps l.toKeeps⟩
    rw [← grown, List.getElem?_append_left (List.getElem?_eq_some_iff.1 hf).1, hf]
  held _ _ hm := h.held_of_keeps l.toKeeps hm

/-- A worker that does not have the frame comes to another stand. -/
theorem put (h : Followed route w T) (free : T.marked (.hand g side) = false) (s : Stand) :
    Followed route w { T with stand := T.put g side s } where
  wired := h.wired
  sent := h.sent
  taken := h.taken
  one := h.one
  queued := h.queued
  held j other hm := by
    have elsewhere : ¬ (j = g ∧ other = side) := by
      rintro ⟨rfl, rfl⟩
      rw [free] at hm
      cases hm
    obtain ⟨gw, hg, carries⟩ := h.held j other hm
    exact ⟨gw, hg, by simpa only [Trail.put, if_neg elsewhere] using carries⟩

/-- A worker without a frame in its hand does not have the frame. -/
theorem unmarked_of_empty (h : Followed route w T) (empty : (T.stand g side).frames = []) :
    T.marked (.hand g side) = false := by
  cases hm : T.marked (.hand g side) with
  | false => rfl
  | true =>
    obtain ⟨gw, hg, carries⟩ := h.held g side hm
    cases hs : T.stand g side with
    | holding f =>
      rw [hs] at empty
      cases empty
    | busy f e =>
      rw [hs] at empty
      cases empty
    | _ =>
      rw [hs] at carries
      cases side <;> exact carries.elim

/-- The oldest frame of a queue was taken, and what was marked there moves up. -/
theorem queued_untaken (h : Followed route w T) {p : Place} (keeps : Keeps T.net n)
    (oldest : T.net.frames p = f :: n.frames p) (others : ∀ q, q ≠ p → n.frames q = T.net.frames q)
    {q : Place} {ahead : Nat} (hm : T.marked ((Spot.queued q ahead).untaken p) = true) :
    ∃ f, (n.frames q)[ahead]? = some f ∧ Waits route w T.sent T.taken n q f := by
  simp only [Spot.untaken] at hm
  split at hm
  · next hq =>
    subst hq
    obtain ⟨f', hf, waits⟩ := h.queued q (ahead + 1) hm
    rw [oldest, List.getElem?_cons_succ] at hf
    exact ⟨f', hf, waits.of_keeps keeps⟩
  · next hq =>
    obtain ⟨f', hf, waits⟩ := h.queued q ahead hm
    exact ⟨f', by rw [others q hq, hf], waits.of_keeps keeps⟩

theorem receive (h : Followed route w T) {i : Nat} {k : Handle} {r : Registry Reaction}
    (e : (T.net.node i).receive k = (.item f, r)) :
    Followed route w { T with net := T.net.setNode i r
                              marked := fun s => T.marked (s.untaken (.port i k)) } := by
  have poll : T.net.pollPort i k true = some (.holding f, T.net.setNode i r) := by
    simp only [Network.pollPort, e]
  rcases Network.pollPort_spec poll with ⟨e, -⟩ | ⟨f', e, oldest, blank, others, -⟩
  · cases e
  · have keeps := Network.keeps_of_blank blank
    exact
      { wired := keeps.wired h.wired
        sent := h.sent
        taken := h.taken
        one := fun s s' hs hs' => Spot.untaken_inj (h.one _ _ hs hs')
        queued := fun p ahead hm => h.queued_untaken keeps oldest others hm
        held := fun j other hm => h.held_of_keeps keeps hm }

/-- The frame that is the oldest of a worker's queue comes to its hand. -/
theorem carries_of_waits (wired : T.net.Wired) (hg : T.net.gateways[g]? = some gw)
    (waits : Waits route w T.sent T.taken T.net (T.net.source (side.move g)) f) :
    (Stand.holding f).Carries route w T.sent (T.taken + 1) (T.net.node gw.node) gw.id side := by
  cases side with
  | up =>
    have source : T.net.source (Side.up.move g) = .port gw.node gw.port := by
      simp [Side.move, Network.source, hg]
    rw [source] at waits
    obtain ⟨hw, p, hp, affords⟩ := waits
    obtain ⟨-, ⟨q, hq, own⟩, -⟩ := wired.gateway hg
    obtain rfl := Option.some.inj (hp.symm.trans hq)
    exact ⟨hw, own ▸ affords⟩
  | down =>
    obtain ⟨hw, gv, hv, affords⟩ := waits
    obtain rfl := Option.some.inj (hg.symm.trans hv)
    exact ⟨hw, affords⟩

/-- A worker takes a frame, which may be the marked one. -/
theorem take (h : Followed route w T) (hg : T.net.gateways[g]? = some gw)
    (oldest : T.net.frames (T.net.source (side.move g)) =
      f :: n.frames (T.net.source (side.move g)))
    (others : ∀ p, p ≠ T.net.source (side.move g) → n.frames p = T.net.frames p)
    (blank : n.blank = T.net.blank) : Followed route w (T.take g side f n) := by
  have keeps := Network.keeps_of_blank blank
  have one : ∀ s s', (T.take g side f n).marked s = true → (T.take g side f n).marked s' = true →
      s = s' := fun s s' hs hs' => Spot.unheld_inj (h.one _ _ hs hs')
  have in_hand : (T.take g side f n).marked (.hand g side) =
      T.marked (.queued (T.net.source (side.move g)) 0) := by simp [Trail.take, Spot.unheld]
  cases marked : T.marked (.queued (T.net.source (side.move g)) 0) with
  | true =>
    rw [marked] at in_hand
    obtain ⟨f', hf, waits⟩ := h.queued _ _ marked
    rw [oldest, List.getElem?_cons_zero] at hf
    obtain rfl := Option.some.inj hf
    have carries := carries_of_waits h.wired hg waits
    have count : (T.take g side f n).taken = T.taken + 1 := by simp [Trail.take, marked]
    refine ⟨keeps.wired h.wired, h.sent, ?_, one, fun p ahead hm => ?_, fun j other hm => ?_⟩
    · rw [count]
      cases side with
      | up => exact carries.2.taken_le
      | down => exact Nat.le_of_succ_le carries.2.taken_le
    · cases one _ _ hm in_hand
    · cases one _ _ hm in_hand
      obtain ⟨gv, hv, node, id, -⟩ := keeps.gateway hg
      refine ⟨gv, hv, ?_⟩
      rw [node, id, count]
      have stand : (T.take g side f n).stand g side = .holding f := by simp [Trail.take, Trail.put]
      rw [stand]
      exact carries_of_keeps (fun _ _ hp => keeps.port hp) carries
  | false =>
    rw [marked] at in_hand
    have count : (T.take g side f n).taken = T.taken := by simp [Trail.take, marked]
    have before {s : Spot} (hm : (T.take g side f n).marked s = true) :
        s ≠ .hand g side ∧ T.marked (s.untaken (T.net.source (side.move g))) = true := by
      have hne : s ≠ .hand g side := by
        rintro rfl
        rw [in_hand] at hm
        cases hm
      exact ⟨hne, by simpa [Trail.take, Spot.unheld, hne] using hm⟩
    refine ⟨keeps.wired h.wired, h.sent, by rw [count]; exact h.taken, one, fun p ahead hm => ?_,
      fun j other hm => ?_⟩
    · rw [count]
      exact h.queued_untaken keeps oldest others (before hm).2
    · obtain ⟨hne, hm⟩ := before hm
      have elsewhere : ¬ (j = g ∧ other = side) := by
        rintro ⟨rfl, rfl⟩
        exact hne rfl
      have stand : (T.take g side f n).stand j other = T.stand j other := by
        simp only [Trail.take, Trail.put, if_neg elsewhere]
      rw [count, stand]
      exact h.held_of_keeps keeps hm

/-! ## A step of the worker that has the frame -/

/-- What a worker's step with the frame leaves marked: its hand, if that is not empty, and what it
put anywhere. -/
theorem marked_handle (h : Followed route w T) (held : T.marked (.hand g side) = true)
    (out : Option (Place × Frame)) (adds : Adds T.net n out.toList) {spot : Spot}
    (hm : (T.handle g side s n).marked spot = true) :
    (spot = .hand g side ∧ s.frames ≠ []) ∨ ∃ p f, out = some (p, f) ∧
      spot = .queued p (T.net.frames p).length ∧ n.frames p = T.net.frames p ++ [f] := by
  cases spot with
  | queued p ahead =>
    have free : T.marked (.queued p ahead) = false := by
      cases hq : T.marked (.queued p ahead) with
      | false => rfl
      | true => cases h.one _ _ hq held
    have grown := adds.frames p
    simp only [Trail.handle, free, held, Bool.false_or, Bool.true_and, decide_eq_true_eq] at hm
    rw [grown, List.length_append] at hm
    cases out with
    | none => simp at hm; omega
    | some a =>
      obtain ⟨q, f⟩ := a
      rw [Option.toList_some, arrivals_cons] at grown hm
      split at hm
      · next hq =>
        subst hq
        rw [if_pos rfl] at grown
        simp only [arrivals_nil, List.length_singleton] at hm
        have last : ahead = (T.net.frames q).length := by omega
        exact .inr ⟨q, f, rfl, by rw [last], grown⟩
      · simp at hm; omega
  | hand j other =>
    simp only [Trail.handle, Bool.and_eq_true] at hm
    obtain ⟨before, kept⟩ := hm
    cases h.one _ _ before held
    refine .inl ⟨rfl, fun empty => ?_⟩
    simp [empty] at kept

/-- The worker that has the frame finds out what becomes of it. -/
theorem judge (h : Followed route w T) (addressed : Addressed route w)
    (held : T.marked (.hand g side) = true) (hg : T.net.gateways[g]? = some gw)
    (hs : T.stand g side = .holding f) :
    Followed route w (T.handle g side (.after f (T.net.judge g gw side f).1)
      (T.net.judge g gw side f).2) := by
  have adds := Network.adds_judge T.net g gw side f
  have keeps := Network.keeps_of_blank adds.blank
  obtain ⟨gv, hv, carries⟩ := h.held g side held
  obtain rfl := Option.some.inj (hg.symm.trans hv)
  rw [hs] at carries
  -- the mark stays in the hand, or there is none any more
  have marked {spot : Spot} (hm : (T.handle g side (.after f (T.net.judge g gw side f).1)
      (T.net.judge g gw side f).2).marked spot = true) :
      spot = .hand g side ∧ ∃ e, (T.net.judge g gw side f).1 = some e := by
    rcases h.marked_handle held none adds hm with ⟨e, busy⟩ | ⟨p, f, e, -⟩
    · cases hj : (T.net.judge g gw side f).1 with
      | none => simp [hj, Stand.after, Stand.frames] at busy
      | some e' => exact ⟨e, e', rfl⟩
    · cases e
  have sent : (T.handle g side (.after f (T.net.judge g gw side f).1)
      (T.net.judge g gw side f).2).sent = T.sent := by simp [Trail.handle, hs, Stand.needsLink]
  refine ⟨keeps.wired h.wired, by rw [sent]; exact h.sent, h.taken, fun s s' hs hs' => ?_,
    fun p ahead hm => ?_, fun j other hm => ?_⟩
  · rw [(marked hs).1, (marked hs').1]
  · cases (marked hm).1
  · obtain ⟨e, e', hj⟩ := marked hm
    cases e
    obtain ⟨gv, hv, node, id, -⟩ := keeps.gateway hg
    have carries' := Network.carries_judge h.wired hg addressed carries hj
    have stand : (T.handle g side (.after f (T.net.judge g gw side f).1)
        (T.net.judge g gw side f).2).stand g side = .busy f e' := by
      simp [Trail.handle, Trail.put, hj, Stand.after]
    refine ⟨gv, hv, ?_⟩
    rw [stand, sent, node, id]
    refine carries_of_keeps (fun _ _ hp => keeps.port hp) ?_
    cases side <;> exact carries'

/-- The worker that has the frame does its errand. -/
theorem advance (h : Followed route w T) (addressed : Addressed route w)
    (held : T.marked (.hand g side) = true) (hg : T.net.gateways[g]? = some gw) {e : Errand}
    (hs : T.stand g side = .busy f e) {next : Option Errand}
    (ha : T.net.advance g gw e = some (next, n)) :
    Followed route w (T.handle g side (.after f next) n) := by
  obtain ⟨gv, hv, carries⟩ := h.held g side held
  obtain rfl := Option.some.inj (hg.symm.trans hv)
  rw [hs] at carries
  have carries : e.Carries route w T.sent T.taken (T.net.node gw.node) := by
    cases side <;> exact carries
  obtain ⟨rfl, out, adds, waits⟩ := Network.waits_advance (f := f) h.wired hg addressed carries ha
  have keeps := Network.keeps_of_blank adds.blank
  have sent : (T.handle g side (.after f none) n).sent =
      T.sent + (Stand.busy f e).needsLink.toNat := by simp [Trail.handle, held, hs]
  -- the mark is where the frame came to, if it came anywhere
  have marked {spot : Spot} (hm : (T.handle g side (.after f none) n).marked spot = true) :
      ∃ p f, out = some (p, f) ∧ spot = .queued p (T.net.frames p).length ∧
        n.frames p = T.net.frames p ++ [f] :=
    (h.marked_handle held out adds hm).resolve_left fun busy => busy.2 rfl
  refine ⟨keeps.wired h.wired, ?_, h.taken, fun s s' hs hs' => ?_, fun p ahead hm => ?_,
    fun j other hm => ?_⟩
  · rw [sent]
    cases e with
    | transmit hop datagram relayed => exact carries.2.sent_le
    | _ => exact h.sent
  · obtain ⟨p, f, e, hp, -⟩ := marked hs
    obtain ⟨p', f', e', hp', -⟩ := marked hs'
    rw [e] at e'
    cases e'
    rw [hp, hp']
  · obtain ⟨q, f', e', hq, frames⟩ := marked hm
    cases hq
    refine ⟨f', ?_, ?_⟩
    · show (n.frames p)[(T.net.frames p).length]? = some f'
      rw [frames, List.getElem?_concat_length]
    · rw [sent]
      exact (waits p f' e').of_keeps keeps
  · obtain ⟨q, f', e', hq, -⟩ := marked hm
    cases hq

/-- A worker without the frame goes on with the one that it has. -/
theorem handle_free (h : Followed route w T) (free : T.marked (.hand g side) = false)
    (l : Later T.net n) (s : Stand) : Followed route w (T.handle g side s n) := by
  have same : T.handle g side s n = { T with net := n, stand := T.put g side s } := by
    simp only [Trail.handle, free, Bool.false_and, Bool.or_false, Bool.toNat_false, Nat.add_zero]
    congr 1
    funext spot
    cases spot with
    | queued p ahead => rfl
    | hand j other =>
      by_cases here : j = g ∧ other = side
      · obtain ⟨rfl, rfl⟩ := here
        simp [free]
      · simp [here]
  rw [same]
  exact (h.put free s).later l

theorem work (h : Followed route w T) (addressed : Addressed route w)
    (hg : T.net.gateways[g]? = some gw)
    (hw : T.net.work g gw side (T.stand g side) = some (s, n)) :
    Followed route w (T.work g side s n) := by
  have worked := Network.worked_of_work hg hw
  have empty (e : (T.stand g side).frames = []) := h.unmarked_of_empty e
  unfold Trail.work
  cases hs : T.stand g side with
  | ended =>
    rw [hs] at hw
    cases hw
  | checking =>
    rw [hs] at worked
    cases worked
    exact h.handle_free (empty (by rw [hs]; rfl)) (.refl _) _
  | waiting =>
    rw [hs] at worked
    cases worked with
    | misses hs' =>
      have free := empty (by rw [hs]; rfl)
      rcases hs' with rfl | rfl <;> exact h.handle_free free (.refl _) _
    | takes f oldest others blank => exact h.take hg oldest others blank
  | holding f =>
    rw [hs] at worked
    cases worked with
    | judges f =>
      cases held : T.marked (.hand g side) with
      | true => exact h.judge addressed held hg hs
      | false =>
        exact h.handle_free held (Network.later_of_extends ⟨_, Network.adds_judge _ g gw side f⟩) _
  | busy f e =>
    rw [hs] at worked
    cases worked with
    | advances f ha =>
      cases held : T.marked (.hand g side) with
      | true => exact h.advance addressed held hg hs ha
      | false => exact h.handle_free held (Network.later_advance ha) _

theorem step {T' : Trail} (h : Followed route w T) (addressed : Addressed route w)
    (st : Step T T') : Followed route w T' := by
  cases st with
  | work g side hg hw => exact h.work addressed hg hw
  | restart g side ended =>
    exact h.put (h.unmarked_of_empty (by rw [ended]; rfl)) .checking
  | receive i k e => exact h.receive e
  | life l => exact h.later (Network.later_of_life l)

theorem reaches {T' : Trail} (h : Followed route w T) (addressed : Addressed route w)
    (run : Reaches T T') : Followed route w T' := by
  induction run with
  | refl => exact h
  | tail _ last ih => exact ih.step addressed last

/-- Before it is taken, a frame in the queue of a gateway's port can afford any way. -/
theorem start {ahead : Nat} (wired : n.Wired) (hg : n.gateways[g]? = some gw)
    (queued : (n.frames (.port gw.node gw.port))[ahead]? = some f)
    (addressed : Addressed route f.window) (stand : Nat → Side → Stand) :
    Followed route f.window (.start n stand (.port gw.node gw.port) ahead) := by
  obtain ⟨id_ok, ⟨p, hp, own⟩, -⟩ := wired.gateway hg
  have marked {s : Spot}
      (hm : (Trail.start n stand (.port gw.node gw.port) ahead).marked s = true) :
      s = .queued (.port gw.node gw.port) ahead := by simpa [Trail.start] using hm
  refine ⟨wired, Nat.zero_le 5, Nat.zero_le 11, fun s s' hs hs' => ?_, fun q k hm => ?_,
    fun j other hm => ?_⟩
  · rw [marked hs, marked hs']
  · cases marked hm
    exact ⟨f, queued, rfl, p, hp, own ▸ .start addressed.dest_ok id_ok⟩
  · cases marked hm

end Followed

end

/-- A frame to one port, in the queue of a gateway's port: whatever happens in whatever order, it is
transmitted at most five times, and at most eleven times a gateway's worker takes it. There is one
of it at most, and where that is queued it has the same bytes or their envelope. -/
theorem forwarding_ends {n : Network} {g : Nat} {gw : Gateway} {ahead : Nat} {f : Frame}
    {route : Addresses} (wired : n.Wired) (hg : n.gateways[g]? = some gw)
    (queued : (n.frames (.port gw.node gw.port))[ahead]? = some f)
    (peeked : Envelope.peek f = .ok route) (dest_ok : route.dest.isReserved = false)
    (stand : Nat → Side → Stand) {T : Trail}
    (run : Reaches (.start n stand (.port gw.node gw.port) ahead) T) :
    T.sent ≤ 5 ∧ T.taken ≤ 11 ∧
      (∀ s s', T.marked s = true → T.marked s' = true → s = s') ∧
      ∀ p k, T.marked (.queued p k) = true → ∃ f', (T.net.frames p)[k]? = some f' ∧
        (f'.window = f.window ∨ f'.window = Envelope.sealed route f.window) := by
  have addressed := addressed_of_peek peeked dest_ok
  have followed := (Followed.start wired hg queued addressed stand).reaches addressed run
  refine ⟨followed.sent, followed.taken, followed.one, fun p k hm => ?_⟩
  obtain ⟨f', hf, waits⟩ := followed.queued p k hm
  refine ⟨f', hf, ?_⟩
  cases p with
  | port i h => exact .inl waits.1
  | ingress j => exact .inr waits.1
  | hand mv => exact waits.elim

/-! ## A frame over three hops -/

/-- The next step of a worker, which starts again when it has ended. -/
def act (g : Nat) (side : Side) (T : Trail) : Option Trail := do
  let gw ← T.net.gateways[g]?
  match T.stand g side with
  | .ended => return { T with stand := T.put g side .checking }
  | before =>
    let (s, n) ← T.net.work g gw side before
    return T.work g side s n

theorem step_of_act {g : Nat} {side : Side} {T T' : Trail} (h : act g side T = some T') :
    Step T T' := by
  simp only [act, Option.bind_eq_bind, Option.bind_eq_some_iff] at h
  obtain ⟨gw, hg, h⟩ := h
  split at h
  · next ended =>
    cases h
    exact .restart g side ended
  · obtain ⟨⟨s, n⟩, hw, h⟩ := Option.bind_eq_some_iff.1 h
    cases h
    exact .work g side hg hw

/-- Steps of workers, in an order. -/
def play (T : Trail) (steps : List (Nat × Side)) : Option Trail :=
  steps.foldlM (fun T step => act step.1 step.2 T) T

theorem reaches_of_play {steps : List (Nat × Side)} {T T' : Trail} (h : T.play steps = some T') :
    Reaches T T' := by
  induction steps generalizing T with
  | nil =>
    cases h
    exact .refl
  | cons step steps ih =>
    simp only [play, List.foldlM_cons, Option.bind_eq_bind, Option.bind_eq_some_iff] at h
    obtain ⟨T₁, first, rest⟩ := h
    exact .head (step_of_act first) (ih rest)

/-- Every mesh without other hubs is wired. -/
theorem wired_of_mesh {hub : Nat} {n : Network} (hm : n.Mesh hub)
    (only : ∀ h, h ≠ hub → (n.hub h).members = []) : n.Wired := by
  constructor
  · intro g gw hg
    have serves := hm.gateway g gw hg
    obtain ⟨endpoint, faults, link, -⟩ := serves.link
    refine ⟨serves.id_ok, ?_, hub, endpoint, faults, link⟩
    cases hp : (n.node gw.node).port? gw.port with
    | none =>
      have id := serves.id
      rw [Registry.idOf, hp] at id
      have id_ok := serves.id_ok
      rw [← id] at id_ok
      cases id_ok
    | some p =>
      have id := serves.id
      rw [Registry.idOf, hp] at id
      exact ⟨p, rfl, id⟩
  · intro h g x hx hook
    by_cases hh : h = hub
    · subst hh
      obtain ⟨j, gw, hg, rfl⟩ := (hm.members x).1 hx
      cases hook
      exact ⟨gw, hg, rfl⟩
    · rw [only h hh] at hx
      cases hx

/-- The port with a frame for the application's session. -/
def load (p : Port Reaction) : Port Reaction :=
  { p with queue := p.queue.add (.withHeadRoom 32 [0, 0, 0, 0, 0, 130, 130, 135]) }

/-- The two domains, with that frame at the controller's gateway. -/
def loaded : Network :=
  Network.twoDomains.setNode 0 ((Network.twoDomains.node 0).modify 0 load)

theorem wired_loaded : loaded.Wired := by
  have wired : Network.twoDomains.Wired := wired_of_mesh Network.mesh_twoDomains fun h hh => by
    cases h with
    | zero => exact absurd rfl hh
    | succ h => rfl
  have more : (Network.twoDomains.node 0).Later ((Network.twoDomains.node 0).modify 0 load) :=
    Registry.later_modify (fun _ => rfl) fun p => by simp [load]
  exact (Network.later_setNode 0 more).wired wired

/-- The frame is transmitted three times, and four gateways have taken it when it has arrived. -/
theorem forwarding_across_domains : ∃ T,
    Reaches (.start loaded (fun _ _ => .checking) (.port 0 0) 0) T ∧
      (T.sent, T.taken) = (3, 4) ∧ T.marked (.queued (.port 3 1) 0) = true ∧
      T.sent ≤ 5 ∧ T.taken ≤ 11 ∧ ∀ s s', T.marked s = true → T.marked s' = true → s = s' := by
  let steps : List (Nat × Side) :=
    [(0, .up), (1, .down), (2, .down), (3, .down)].flatMap fun step => List.replicate 4 step
  have outcome : ((Trail.start loaded (fun _ _ => .checking) (.port 0 0) 0).play steps).map
      (fun T => ((T.sent, T.taken), T.marked (.queued (.port 3 1) 0))) = some ((3, 4), true) := by
    decide +kernel
  obtain ⟨T, played, outcome⟩ := Option.map_eq_some_iff.1 outcome
  obtain ⟨counts, arrived⟩ := Prod.mk.inj outcome
  have run := reaches_of_play played
  have peeked : Envelope.peek (.withHeadRoom 32 [0, 0, 0, 0, 0, 130, 130, 135]) =
      .ok ⟨.ofParts 0 1 2, .ofParts 1 5 7⟩ := rfl
  obtain ⟨sent, taken, one, -⟩ := forwarding_ends (g := 0) wired_loaded rfl rfl peeked rfl
    (fun _ _ => .checking) run
  exact ⟨T, run, counts, arrived, sent, taken, one⟩

end Trail

end FrameBus
