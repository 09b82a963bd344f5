import FrameBus.Proofs.Network.Passage
import FrameBus.Proofs.Stop.Steps

/-!
# What a stop leaves of the frames

While a gateway is stopped, each of its workers handles the frames before it in their order and
leaves the others queued. The running gateway would have made the same of each frame that is handled
(`Turn.AsRunning`), with one exception at most: the downlink worker looks at its flag before it
takes a frame and at the port after that, so the last frame that it takes may find the port
disconnected (`Turn.late`), and then is dropped as undeliverable (`Turn.Refused`).

A step of the crew keeps what this rests on (`Sound`, `kept_of_step`), and so does a run
(`kept_of_run`).
-/

namespace FrameBus

open Network (Extends)

namespace Stand

/-- Frames that the worker comes to before it looks at its flag, without the one on an errand. -/
def pending : Stand → Nat
  | .waiting | .holding _ => 1
  | _ => 0

theorem pending_le (s : Stand) : s.pending ≤ 1 := by cases s <;> simp [pending]

theorem pending_after (f : Frame) (next : Option Errand) : (after f next).pending = 0 := by
  cases next <;> rfl

theorem frames_after (f : Frame) (next : Option Errand) :
    (after f next).frames = if next.isSome then [f] else [] := by
  cases next <;> rfl

end Stand

/-! ## Turns -/

namespace Crew

/-- The frames that a worker has before it: the one in its hand, and those of its queue. -/
def ahead (g : Nat) (side : Side) (c : Crew) : List Frame :=
  (c.stand side).frames ++ c.net.frames (c.net.source (side.move g))

namespace Turn

/-- The frame that a turn finished, if it did. -/
def finished (t : Turn) : List Frame := if t.after.1.frames.isEmpty then t.before.1.frames else []

/-- With the gateway running the turn would have come to the same. -/
def AsRunning (g : Nat) (t : Turn) : Prop :=
  ∃ gw, t.before.2.gateways[g]? = some gw ∧
    (t.before.2.revive g gw).work g { gw with running := true } t.side t.before.1 =
      some (t.after.1, t.after.2.revive g gw)

/-- The downlink worker comes to a frame with the port disconnected. -/
def late (g : Nat) (t : Turn) : Bool :=
  match t.side, t.before.1 with
  | .down, .holding _ =>
    (t.before.2.gateways[g]?).any fun gw => !(t.before.2.node gw.node).isConnected gw.port
  | _, _ => false

/-- A frame is counted as undeliverable and dropped. -/
def Refused (g : Nat) (t : Turn) : Prop :=
  ∃ f, t.before.1 = .holding f ∧ t.after =
    (.checking, (t.before.2.record g (.downlink f.length)).record g .undeliverable)

end Turn

/-- The frames that a worker finished, in order. -/
def handled (side : Side) (ts : List Turn) : List Frame :=
  (ts.filter fun t => t.side = side).flatMap Turn.finished

theorem handled_append (side : Side) (ts us : List Turn) :
    handled side (ts ++ us) = handled side ts ++ handled side us := by
  simp [handled]

end Crew

/-! ## What a stop finds -/

/-- The caller has cleared the flag. -/
def Caller.hasCleared : Caller → Bool
  | .cleared | .disconnected | .returned => true
  | _ => false

def Caller.hasDisconnected : Caller → Bool
  | .disconnected | .returned => true
  | _ => false

namespace Crew

/-- The crew of a gateway that is being stopped. Nobody else takes frames from its port. -/
structure Sound (g : Nat) (gw : Gateway) (c : Crew) : Prop extends Manned g gw c where
  sole : ∀ mv, mv ≠ .uplink g → c.net.source mv ≠ c.net.source (.uplink g)
  called : c.caller ≠ .away
  flag : gw.running = !c.caller.hasCleared
  connected : c.caller.hasDisconnected = false → (c.net.node gw.node).isConnected gw.port = true
  returned : c.caller = .returned → c.up = .ended ∧ c.down = .ended

variable {g : Nat} {gw : Gateway} {c d : Crew} {ts us : List Turn}

/-- How many frames the downlink worker can still come to after the flag is cleared. -/
def due (c : Crew) : Nat := if c.caller.hasCleared then c.down.pending else 1

/-- What a step, or a run, keeps. -/
structure Kept (g : Nat) (c : Crew) (ts : List Turn) (d : Crew) : Prop where
  sound : ∃ gv, Sound g gv d
  /-- the frames are handled in their order, and the others stay behind them -/
  order : ∀ side, ∃ more, c.ahead g side ++ more = handled side ts ++ d.ahead g side
  same : ∀ t ∈ ts, t.late g = false → t.AsRunning g
  lost : ∀ t ∈ ts, t.late g = true → t.AsRunning g ∨ t.Refused g
  few : ts.countP (Turn.late g) + d.due ≤ c.due

/-- What is kept by two runs is kept by the one after the other. -/
theorem Kept.trans {e : Crew} (h : Kept g c ts d) (h' : Kept g d us e) : Kept g c (ts ++ us) e := by
  refine ⟨h'.sound, fun side => ?_, fun t ht => ?_, fun t ht => ?_, ?_⟩
  · obtain ⟨more, hm⟩ := h.order side
    obtain ⟨more', hm'⟩ := h'.order side
    refine ⟨more ++ more', ?_⟩
    rw [← List.append_assoc, hm, List.append_assoc, hm', handled_append, List.append_assoc]
  · rcases List.mem_append.1 ht with ht | ht
    · exact h.same t ht
    · exact h'.same t ht
  · rcases List.mem_append.1 ht with ht | ht
    · exact h.lost t ht
    · exact h'.lost t ht
  · have first := h.few
    have second := h'.few
    rw [List.countP_append]
    omega

/-- A step without a turn keeps what it should if it takes no frame from before a worker. -/
theorem kept_of_quiet (sound : ∃ gv, Sound g gv d)
    (grows : ∀ side, ∃ more, d.ahead g side = c.ahead g side ++ more) (due : d.due ≤ c.due) :
    Kept g c [] d := by
  refine ⟨sound, fun side => ?_, by simp, by simp, by simpa using due⟩
  obtain ⟨more, h⟩ := grows side
  exact ⟨more, by rw [h]; rfl⟩

/-! ## What changes nothing but frames -/

theorem sound_of_blank (h : Sound g gw c) (hb : d.net.blank = c.net.blank)
    (caller : d.caller = c.caller) (fits : ∀ side, (d.stand side).Fits gw.id)
    (returned : d.caller = .returned → d.up = .ended ∧ d.down = .ended) : ∃ gv, Sound g gv d := by
  obtain ⟨gv, manned, e⟩ := manned_of_blank h.toManned hb fits
  obtain ⟨node, -, port⟩ := Gateway.parts_of_blank e
  have running : gv.running = gw.running :=
    show gv.blank.running = gw.blank.running from congrArg _ e
  refine ⟨gv, manned, fun mv hmv => ?_, caller ▸ h.called, by rw [running, caller, h.flag],
    fun hd => ?_, returned⟩
  · rw [Marked.source_of_blank hb, Marked.source_of_blank hb]
    exact h.sole mv hmv
  · rw [node, port]
    rw [Registry.isConnected_of_blank (Network.node_of_blank hb gw.node)]
    exact h.connected (caller ▸ hd)

/-- A worker's queue is its own. -/
theorem source_ne (h : Sound g gw c) (side : Side) {mv : Network.Move} (hmv : mv ≠ side.move g) :
    c.net.source mv ≠ c.net.source (side.move g) := by
  cases side with
  | up => exact h.sole mv hmv
  | down => exact fun e => hmv (Network.source_eq_ingress e)

theorem source_ne_hand (h : Sound g gw c) (side : Side) (mv : Network.Move) :
    c.net.source (side.move g) ≠ .hand mv := by
  intro e
  cases side with
  | up => simp [Side.move, Network.source, h.gateway] at e
  | down => cases e

/-- The others leave the gateway the frames that it has. -/
theorem frames_of_others (h : Sound g gw c) {n : Network} (ho : Others g c.net n) (side : Side) :
    ∃ more, n.frames (c.net.source (side.move g)) =
      c.net.frames (c.net.source (side.move g)) ++ more := by
  have grown (hx : Extends c.net n) : ∃ more, n.frames (c.net.source (side.move g)) =
      c.net.frames (c.net.source (side.move g)) ++ more := by
    obtain ⟨out, hx⟩ := hx
    exact ⟨_, hx.frames _⟩
  cases ho with
  | traffic ht => exact grown (Network.extends_traffic h.copies ht)
  | move mv up down _ hm =>
    have mine : mv ≠ side.move g := by cases side <;> assumption
    cases Network.moved_of_move h.copies hm with
    | rest idle still grows => exact grown grows
    | take f idle taken queue blank others =>
      refine ⟨[], ?_⟩
      rw [others _ (source_ne_hand h side mv) (source_ne h side mine).symm, List.append_nil]
    | handle f k busy handled grows blank hand others =>
      obtain ⟨out, hx⟩ := grows
      rw [others _ (source_ne_hand h side mv)]
      exact ⟨_, hx.frames _⟩
  | datagrams packets => exact ⟨[], by rw [Network.frames_carry, List.append_nil]⟩

/-- Where nothing but frames changed, and none of the gateway's, everything is kept. -/
theorem kept_of_others (h : Sound g gw c) {n : Network} {r : Receiving}
    (hb : n.blank = c.net.blank) (grows : ∀ side : Side, ∃ more,
      n.frames (c.net.source (side.move g)) = c.net.frames (c.net.source (side.move g)) ++ more) :
    Kept g c [] { c with net := n, receiver := r } := by
  refine kept_of_quiet (sound_of_blank h hb rfl h.fits h.returned) (fun side => ?_) (Nat.le_refl _)
  obtain ⟨more, hm⟩ := grows side
  refine ⟨more, ?_⟩
  show (c.stand side).frames ++ n.frames (n.source (side.move g)) = _
  rw [Marked.source_of_blank hb, hm, ← List.append_assoc]
  rfl

/-! ## What the caller changes -/

theorem kept_of_alike (h : Sound g gw c) {n : Network} {caller : Caller} {gv : Gateway}
    (alike : Alike c.net n) (hv : n.gateways[g]? = some gv) (id : gv.id = gw.id)
    (link : gv.link = gw.link) (called : caller ≠ .away) (flag : gv.running = !caller.hasCleared)
    (connected : caller.hasDisconnected = false → (n.node gv.node).isConnected gv.port = true)
    (returned : caller = .returned → c.up = .ended ∧ c.down = .ended)
    (onward : caller.hasCleared = false → c.caller.hasCleared = false) :
    Kept g c [] { c with caller := caller, net := n } := by
  refine kept_of_quiet ⟨gv, manned_of_alike h.toManned alike hv id link caller, fun mv hmv => ?_,
    called, flag, connected, returned⟩ (fun side => ⟨[], ?_⟩) ?_
  · show n.source mv ≠ n.source (.uplink g)
    rw [alike.source, alike.source]
    exact h.sole mv hmv
  · show (c.stand side).frames ++ n.frames (n.source (side.move g)) = _
    rw [alike.source, alike.frames, List.append_nil]
    rfl
  · have few := c.down.pending_le
    simp only [due]
    cases hc : caller.hasCleared with
    | false => simp [onward hc]
    | true =>
      rw [if_pos rfl]
      split
      · exact Nat.le_refl _
      · exact few

theorem kept_of_call (h : Sound g gw c) (hd : c.call g gw = some d) : Kept g c [] d := by
  have flag := h.flag
  have connected := h.connected
  unfold call at hd
  cases hc : c.caller with
  | away => exact absurd hc h.called
  | calling =>
    simp only [hc] at hd flag connected
    cases hd
    have nodes : (c.net.stopLink gw.link).2.nodes = c.net.nodes := by
      cases gw.link <;> rfl
    refine kept_of_alike h (alike_stopLink c.net gw.link)
      (by rw [gateways_stopLink, h.gateway]) rfl rfl (by decide) flag
      (fun _ => ?_) (by rintro ⟨⟩) fun _ => by rw [hc]; rfl
    rw [Network.node, nodes]
    exact connected rfl
  | joining =>
    simp only [hc] at hd flag connected
    split at hd
    · cases hd
      exact kept_of_alike h (.refl c.net) h.gateway rfl rfl (by decide) flag
        (fun _ => connected rfl)
        (by rintro ⟨⟩) fun _ => by rw [hc]; rfl
    · cases hd
  | unlinked =>
    simp only [hc] at hd flag connected
    cases hd
    exact kept_of_alike h (alike_clearGateway c.net g) (gateway_clearGateway h.gateway) rfl rfl
      (by decide) rfl (fun _ => connected rfl) (by rintro ⟨⟩) (by rintro ⟨⟩)
  | cleared =>
    simp only [hc] at hd flag
    cases hd
    exact kept_of_alike h (alike_setPortState c.net gw.node gw.port .disconn) h.gateway rfl rfl
      (by decide) flag (by rintro ⟨⟩) (by rintro ⟨⟩) (by rintro ⟨⟩)
  | disconnected =>
    simp only [hc] at hd flag
    split at hd
    · next both =>
      cases hd
      exact kept_of_alike h (.refl c.net) h.gateway rfl rfl (by decide) flag (by rintro ⟨⟩)
        (fun _ => both) (by rintro ⟨⟩)
    · cases hd
  | returned => simp only [hc] at hd; cases hd

/-! ## What the workers change -/

section

variable {side : Side} {s : Stand} {n : Network}

/-- A worker that has come to another stand. -/
theorem sound_put (h : Sound g gw c) (hb : n.blank = c.net.blank) (fits : s.Fits gw.id)
    (busy : c.stand side ≠ .ended) : ∃ gv, Sound g gv (c.put side s n) := by
  refine sound_of_blank h (by rw [net_put, hb]) (caller_put c side s n) (fits_put h.toManned fits)
    fun hr => ?_
  -- with the stop over both workers have ended
  rw [caller_put] at hr
  obtain ⟨up, down⟩ := h.returned hr
  cases side
  · exact absurd up busy
  · exact absurd down busy

/-- The flag lets a worker on as long as it is set. -/
theorem due_put (side : Side) (n : Network) (h : Sound g gw c)
    (few : side = .down → gw.running = false → s.pending ≤ c.down.pending) :
    (c.put side s n).due ≤ c.due := by
  simp only [due, caller_put]
  cases hc : c.caller.hasCleared with
  | false => exact Nat.le_refl _
  | true =>
    cases side with
    | up => exact Nat.le_refl _
    | down => exact few rfl (by rw [h.flag, hc]; rfl)

theorem ahead_put (hb : n.blank = c.net.blank) (k : Side) : (c.put side s n).ahead g k =
    (if k = side then s else c.stand k).frames ++ n.frames (c.net.source (k.move g)) := by
  rw [ahead, stand_put, net_put, Marked.source_of_blank hb]

/-- A worker keeps the frame that it has, or has finished it. -/
theorem order_of_turn {f : Frame} {next : Option Errand} (hf : (c.stand side).frames = [f])
    (grows : Extends c.net n) (k : Side) : ∃ more, c.ahead g k ++ more =
      handled k (turns side (c.stand side, c.net) (.after f next, n)) ++
        (c.put side (.after f next) n).ahead g k := by
  obtain ⟨out, grows⟩ := grows
  refine ⟨arrivals out (c.net.source (k.move g)), ?_⟩
  rw [ahead_put grows.blank, grows.frames, ahead]
  have turn : turns side (c.stand side, c.net) (.after f next, n) =
      [⟨side, (c.stand side, c.net), (.after f next, n)⟩] := by simp [turns, hf]
  rw [turn]
  by_cases hk : k = side
  · subst hk
    cases next <;> simp [handled, Turn.finished, hf, Stand.frames_after]
  · simp [handled, hk, Ne.symm hk]

end

/-- A turn that is no look at a frame is that of the running gateway. -/
theorem kept_of_turn (h : Sound g gw c) {side : Side} {f : Frame} {next : Option Errand}
    {n : Network} (hf : (c.stand side).frames = [f]) (grows : Extends c.net n)
    (fits : ∀ e, next = some e → e.Fits gw.id)
    (turn : ∀ t : Turn, t = ⟨side, (c.stand side, c.net), (.after f next, n)⟩ →
      (t.late g = false → t.AsRunning g) ∧
        (t.late g = true → (t.AsRunning g ∨ t.Refused g) ∧
          side = .down ∧ c.caller.hasCleared = true ∧ c.down.pending = 1)) :
    Kept g c (turns side (c.stand side, c.net) (.after f next, n))
      (c.put side (.after f next) n) := by
  have turns : turns side (c.stand side, c.net) (.after f next, n) =
      [⟨side, (c.stand side, c.net), (.after f next, n)⟩] := by simp [turns, hf]
  obtain ⟨same, lost⟩ := turn _ rfl
  obtain ⟨out, adds⟩ := grows
  have fits' : (Stand.after f next).Fits gw.id := by
    cases next with
    | none => trivial
    | some e => exact fits e rfl
  have busy : c.stand side ≠ .ended := by
    intro e
    rw [e] at hf
    cases hf
  refine ⟨sound_put h adds.blank fits' busy, order_of_turn hf ⟨out, adds⟩, ?_, ?_, ?_⟩
  · rw [turns]
    intro t ht hl
    obtain rfl := List.mem_singleton.1 ht
    exact same hl
  · rw [turns]
    intro t ht hl
    obtain rfl := List.mem_singleton.1 ht
    exact (lost hl).1
  · rw [turns, List.countP_singleton]
    split
    · next hl =>
      obtain ⟨-, rfl, cleared, pending⟩ := lost hl
      have after : (c.put .down (.after f next) n).due = 0 := by
        rw [due, caller_put, cleared, if_pos rfl]
        exact Stand.pending_after f next
      rw [after]
      simp [due, cleared, pending]
    · have := due_put side n h (s := .after f next) fun _ _ => by
        rw [Stand.pending_after]
        exact Nat.zero_le _
      omega

theorem kept_of_look (h : Sound g gw c) {side : Side} {s : Stand} {n : Network}
    (hf : (c.stand side).frames = []) (hs : c.stand side ≠ .ended) (fits : s.Fits gw.id)
    (hb : n.blank = c.net.blank)
    (queue : c.net.frames (c.net.source (side.move g)) =
      s.frames ++ n.frames (c.net.source (side.move g)))
    (others : ∀ p, p ≠ c.net.source (side.move g) → n.frames p = c.net.frames p)
    (few : side = .down → gw.running = false → s.pending ≤ c.down.pending) :
    Kept g c (turns side (c.stand side, c.net) (s, n)) (c.put side s n) := by
  have turns : turns side (c.stand side, c.net) (s, n) = [] := by simp [turns, hf]
  rw [turns]
  refine kept_of_quiet (sound_put h hb fits hs) (fun k => ⟨[], ?_⟩) (due_put side n h few)
  rw [ahead_put hb, List.append_nil, ahead]
  split
  · next hk => rw [hk, hf, queue]; rfl
  · next hk =>
    have apart : k.move g ≠ side.move g := by
      intro e
      apply hk
      cases k <;> cases side <;> first | rfl | cases e
    rw [others _ (source_ne h side apart)]

/-- The flag itself says nothing of what becomes of a frame. -/
theorem judge_running (n : Network) (side : Side) (f : Frame) :
    n.judge g { gw with running := true } side f = n.judge g gw side f := by
  cases side <;> rfl

theorem advance_running (n : Network) (e : Errand) :
    n.advance g { gw with running := true } e = n.advance g gw e := by
  cases e with
  | spread left inner accepted => cases left <;> rfl
  | _ => rfl

theorem kept_of_judge (h : Sound g gw c) {side : Side} {f : Frame}
    (hs : c.stand side = .holding f) :
    Kept g c (turns side (c.stand side, c.net)
        (.after f (c.net.judge g gw side f).1, (c.net.judge g gw side f).2))
      (c.put side (.after f (c.net.judge g gw side f).1) (c.net.judge g gw side f).2) := by
  have work (same : (c.net.revive g gw).judge g gw side f =
      ((c.net.judge g gw side f).1, (c.net.judge g gw side f).2.revive g gw)) :
      Turn.AsRunning g ⟨side, (c.stand side, c.net),
        (.after f (c.net.judge g gw side f).1, (c.net.judge g gw side f).2)⟩ :=
    ⟨gw, h.gateway, by simp only [hs, Network.work, judge_running, same]⟩
  refine kept_of_turn h (by rw [hs]; rfl) (Network.extends_judge c.net g gw side f)
    (fun e he => Network.fits_judge h.copies h.bound he) ?_
  rintro _ rfl
  cases side with
  | up =>
    exact ⟨fun _ => work (Network.judge_revive .up (by rintro ⟨⟩) f),
      fun hl => by simp [Turn.late] at hl⟩
  | down =>
    have late : Turn.late g ⟨.down, (c.stand .down, c.net),
        (.after f (c.net.judge g gw .down f).1, (c.net.judge g gw .down f).2)⟩ =
          !(c.net.node gw.node).isConnected gw.port := by
      simp [Turn.late, hs, h.gateway]
    rw [late]
    refine ⟨fun hl => work (Network.judge_revive .down (fun _ => by simpa using hl) f),
      fun hl => ?_⟩
    have closed : (c.net.node gw.node).isConnected gw.port = false := by simpa using hl
    have cleared : c.caller.hasCleared = true := by
      have connected := h.connected
      rw [closed] at connected
      cases hc : c.caller <;> simp [hc, Caller.hasCleared, Caller.hasDisconnected] at connected ⊢
    refine ⟨?_, rfl, cleared, by rw [show c.down = .holding f from hs]; rfl⟩
    rcases Network.judge_disconnected (g := g) closed f with same | refused
    · exact .inl (work same)
    · exact .inr ⟨f, hs, by rw [refused]; rfl⟩

theorem kept_of_advance (h : Sound g gw c) {side : Side} {f : Frame} {e : Errand}
    {next : Option Errand} {n : Network} (hs : c.stand side = .busy f e)
    (ha : c.net.advance g gw e = some (next, n)) :
    Kept g c (turns side (c.stand side, c.net) (.after f next, n))
      (c.put side (.after f next) n) := by
  have fits : e.Fits gw.id := by
    have fits := h.fits side
    rw [hs] at fits
    exact fits
  refine kept_of_turn h (by rw [hs]; rfl) (Network.extends_advance fits ha) ?_ ?_
  · rintro e rfl
    exact Network.fits_advance fits ha
  · rintro _ rfl
    refine ⟨fun _ => ⟨gw, h.gateway, ?_⟩, fun hl => by simp [Turn.late, hs] at hl⟩
    have revived := Network.advance_revive h.gateway h.bound fits ha
    simp only [hs, Network.work, advance_running, revived, Option.map_some]

theorem kept_of_work (h : Sound g gw c) {side : Side} {s : Stand} {n : Network}
    (hw : c.net.work g gw side (c.stand side) = some (s, n)) :
    Kept g c (turns side (c.stand side, c.net) (s, n)) (c.put side s n) := by
  have worked := Network.worked_of_work h.gateway hw
  generalize hs : c.stand side = st at worked
  rw [← hs]
  cases worked with
  | looks =>
    refine kept_of_look h (by rw [hs]; rfl) (by simp [hs]) ?_ rfl ?_ (fun _ _ => rfl) ?_
    · split <;> trivial
    · split <;> rfl
    · intro _ stopped
      simp [stopped, Stand.pending]
  | misses after =>
    refine kept_of_look h (by rw [hs]; rfl) (by simp [hs]) ?_ rfl ?_ (fun _ _ => rfl) ?_
    · rcases after with rfl | rfl <;> trivial
    · rcases after with rfl | rfl <;> rfl
    · rcases after with rfl | rfl <;> exact fun _ _ => Nat.zero_le _
  | takes f queue others blank =>
    refine kept_of_look h (by rw [hs]; rfl) (by simp [hs]) ?_ blank queue others ?_
    · trivial
    · rintro rfl _
      rw [show c.down = .waiting from hs]
      exact Nat.le_refl 1
  | judges f => exact kept_of_judge h hs
  | advances f ha => exact kept_of_advance h hs ha

/-! ## Runs -/

theorem kept_of_step (h : Sound g gw c) (step : Step g c ts d) : Kept g c ts d := by
  cases step with
  | moves m =>
    cases m with
    | work side hg _ hw =>
      obtain rfl := Option.some.inj (h.gateway.symm.trans hg)
      exact kept_of_work h hw
    | call hg hc =>
      obtain rfl := Option.some.inj (h.gateway.symm.trans hg)
      exact kept_of_call h hc
    | hearken hg _ hr =>
      obtain ⟨out, grows⟩ := Network.extends_hearken hr
      exact kept_of_others h grows.blank fun side => ⟨_, grows.frames _⟩
  | others ho =>
    exact kept_of_others h (Network.blank_of_others h.copies ho) (frames_of_others h ho)

theorem kept_of_run (h : Sound g gw c) (run : Run g c ts d) : Kept g c ts d := by
  induction run with
  | refl => exact kept_of_quiet ⟨gw, h⟩ (fun side => ⟨[], by simp⟩) (Nat.le_refl _)
  | step _ step ih =>
    obtain ⟨gv, sound⟩ := ih.sound
    exact ih.trans (kept_of_step sound step)

/-- A stop that has returned leaves no frame in a hand: each worker handled frames in their order,
and the others are still queued. What was handled was handled as by the running gateway, but for one
frame at most, which the downlink worker came to with the port disconnected. -/
theorem one_late_frame_of_stop (start : Sound g gw c) (called : c.caller = .calling)
    (run : Run g c ts d) (returned : d.caller = .returned) :
    (∀ side, d.stand side = .ended ∧ ∃ more, c.ahead g side ++ more =
        handled side ts ++ d.net.frames (d.net.source (side.move g))) ∧
      (∀ t ∈ ts, t.late g = false → t.AsRunning g) ∧
      (∀ t ∈ ts, t.late g = true → t.AsRunning g ∨ t.Refused g) ∧
      ts.countP (Turn.late g) ≤ 1 := by
  have kept := kept_of_run start run
  obtain ⟨gv, sound⟩ := kept.sound
  obtain ⟨up, down⟩ := sound.returned returned
  have ended (side : Side) : d.stand side = .ended := by
    cases side
    · exact up
    · exact down
  refine ⟨fun side => ⟨ended side, ?_⟩, kept.same, kept.lost, ?_⟩
  · obtain ⟨more, order⟩ := kept.order side
    refine ⟨more, ?_⟩
    rw [order, ahead, ended]
    rfl
  · have few := kept.few
    have due : c.due = 1 := by rw [due, called]; rfl
    omega

/-! ## A frame that is refused -/

theorem isConnected_disconn (r : Registry Reaction) (p : Handle) :
    (r.setState p .disconn).isConnected p = false := by
  rw [Registry.isConnected, Registry.port?_setState]
  cases r.port? p <;> simp [Port.isConnected]

theorem Run.moves {e : Crew} (run : Run g c ts d) (m : Moves g d us e) : Run g c (ts ++ us) e :=
  run.step (.moves m)

/-- The frame that the downlink worker has when the stop is called can always be refused: it is
enough that the worker is no faster than the caller. -/
theorem run_refused {n : Network} {f : Frame} {route : Addresses} {inner : Frame}
    (hg : n.gateways[g]? = some gw) (opened : Gateway.arrival f = .opened route inner) :
    ∃ t d, Run g ⟨n, .calling, .checking, .holding f, .ended⟩ [t] d ∧ d.caller = .returned ∧
      t.side = .down ∧ t.before = (.holding f,
        ((n.stopLink gw.link).2.clearGateway g).setPortState gw.node gw.port .disconn) ∧
      t.late g = true ∧ t.Refused g := by
  let unlinked := (n.stopLink gw.link).2
  let cleared := unlinked.clearGateway g
  let closed := cleared.setPortState gw.node gw.port .disconn
  let counted := (closed.record g (.downlink f.length)).record g .undeliverable
  let stopped : Gateway := { gw with running := false }
  have linked : unlinked.gateways[g]? = some gw := by
    rw [show unlinked.gateways = n.gateways from gateways_stopLink n gw.link, hg]
  have flag : cleared.gateways[g]? = some stopped := gateway_clearGateway linked
  have after : ∃ gv, counted.gateways[g]? = some gv ∧ gv.running = false := by
    have first : closed.gateways[g]? = some stopped := flag
    simp only [counted, Network.record, Network.getElem?_modifyGateway, if_true, first]
    exact ⟨_, rfl, rfl⟩
  obtain ⟨gv, counts, halted⟩ := after
  have disconnected : (closed.node stopped.node).isConnected stopped.port = false := by
    show ((cleared.setPortState gw.node gw.port .disconn).node gw.node).isConnected gw.port = false
    rw [Network.node_setPortState, if_pos rfl, isConnected_disconn]
  have drops : closed.work g stopped .down (.holding f) = some (.checking, counted) := by
    simp only [Network.work, Network.judge_of_disconnected disconnected opened]
    rfl
  have ends (side : Side) : counted.work g gv side .checking = some (.ended, counted) := by
    simp only [Network.work, halted]
    rfl
  -- the caller comes all the way to the workers
  have called : Run g ⟨n, .calling, .checking, .holding f, .ended⟩ []
      ⟨closed, .disconnected, .checking, .holding f, .ended⟩ :=
    ((((Run.refl _).moves (.call hg rfl)).moves (.call linked rfl)).moves
      (.call linked rfl)).moves (.call (d := ⟨closed, _, _, _, _⟩) flag rfl)
  -- the downlink worker drops its frame, and then both workers end
  have free : Caller.disconnected ≠ .joining := by decide
  have dropped := called.moves (.free .down flag free drops)
  have ended := (dropped.moves (.free .down counts free (ends .down))).moves
    (.free .up counts free (ends .up))
  refine ⟨⟨.down, (.holding f, closed), (.checking, counted)⟩, _, ended.moves (.call counts rfl),
    rfl, rfl, rfl, ?_, ⟨f, rfl, rfl⟩⟩
  have first : closed.gateways[g]? = some stopped := flag
  simp [Turn.late, first, stopped, disconnected]

/-- Every gateway of a mesh is one that can be stopped, whatever its workers have in their hands. -/
theorem sound_of_mesh {hub : Nat} {n : Network} (hm : n.Mesh hub) (hg : n.gateways[g]? = some gw)
    {up down : Stand} (hu : up.Fits gw.id) (hd : down.Fits gw.id) (receiver : Receiving) :
    Sound g gw ⟨n, .calling, up, down, receiver⟩ := by
  have serves := hm.gateway g gw hg
  refine ⟨⟨hg, ⟨serves.id_ok, fun hub endpoint faults hl => ?_⟩, hm.copies, fun side => ?_⟩,
    fun mv hmv e => ?_, show Caller.calling ≠ .away by decide, serves.running, fun _ => ?_,
    by rintro ⟨⟩⟩
  · obtain ⟨_, _, link, id⟩ := serves.link
    rw [link] at hl
    cases hl
    exact id
  · cases side
    · exact hu
    · exact hd
  · exact hmv (hm.source_inj mv (.uplink g) e)
  · exact (hm.node gw.node).isConnected serves.port

/-- A frame for a session, in an envelope. -/
def parcel : Frame := .ofBytes (Envelope.sealed ⟨.ofParts 0 1 2, .ofParts 1 5 7⟩ [1, 2])

/-- The gateway of the session has the frame when it is stopped. -/
def handing : Crew := ⟨Network.twoDomains, .calling, .checking, .holding parcel, .ended⟩

theorem sound_handing : Sound 3 (Network.gatewayOf 3 (.ofParts 1 5 1)) handing := by
  refine sound_of_mesh Network.mesh_twoDomains rfl ?_ ?_ .ended
  · trivial
  · trivial

theorem late_frame_of_handing : ∃ ts d, Run 3 handing ts d ∧ d.caller = .returned ∧
    ts.countP (Turn.late 3) = 1 ∧ d.stand .down = .ended ∧
      ∃ more, [parcel] ++ more = handled .down ts ++ d.net.frames (d.net.source (.downlink 3)) := by
  obtain ⟨_, opened, _⟩ := Network.arrival_sealed (f := parcel) rfl
  obtain ⟨t, d, run, returned, -, -, late, -⟩ :=
    run_refused (g := 3) (n := Network.twoDomains) rfl opened
  obtain ⟨workers, -, -, few⟩ := one_late_frame_of_stop sound_handing rfl run returned
  obtain ⟨ended, order⟩ := workers .down
  refine ⟨[t], d, run, returned, Nat.le_antisymm few ?_, ended, order⟩
  exact List.countP_pos_iff.2 ⟨t, List.mem_singleton_self t, late⟩

/-- The session is there, and connected: the running gateway has the frame delivered. -/
theorem parcel_refused : ∃ t d, Run 3 handing [t] d ∧ d.caller = .returned ∧ t.Refused 3 ∧
    ¬ t.AsRunning 3 := by
  obtain ⟨_, opened, _⟩ := Network.arrival_sealed (f := parcel) rfl
  obtain ⟨t, d, run, returned, side, before, -, refused⟩ :=
    run_refused (g := 3) (n := Network.twoDomains) rfl opened
  refine ⟨t, d, run, returned, refused, ?_⟩
  rintro ⟨gw, hg, same⟩
  obtain ⟨f, -, after⟩ := refused
  rw [side, before, after] at same
  rw [before] at hg
  cases hg
  -- the running gateway has the errand to deliver the frame, and is not done with it
  have stand := congrArg (Option.map Prod.fst) same
  change _ = some Stand.checking at stand
  revert stand
  decide +kernel

end Crew

end FrameBus
