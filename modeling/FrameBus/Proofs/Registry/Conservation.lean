import FrameBus.Proofs.Registry.Exchange

/-!
# No frame is lost

The frame of a send is with the send, queued, received or handed back, and in one of these places
only (`Exchange.nothing_lost`). It is queued and received nowhere but at the port that the send
found first, also if another port has that id by now; what is handed back was never queued; and
after a queue was closed nothing comes to it, so that a send to it is handed back.

A port goes in three changes, `unregister`, `setState` to `exit` and `closeQueue`, between which
sends may come. They are the `destroyPort` of the registry (`Registry.changes_of_destroyPort`).
-/

namespace FrameBus

namespace Exchange

variable {κ : Type} {x y : Exchange κ}

/-! ## Where a frame is -/

/-- Where the frame of a send can be. -/
inductive Spot where
  | withCall
  | queued (h : Handle)
  | received (h : Handle)
  | handedBack

def At (x : Exchange κ) (i : Nat) : Spot → Prop
  | .withCall => ∃ c, x.calls[i]? = some c ∧ (c.stage = .calling ∨ ∃ h, c.stage = .bound h)
  | .queued h => i ∈ x.marks h
  | .received h => ∃ t ∈ x.taken, t.port = h ∧ t.call = i
  | .handedBack => ∃ c h why, x.calls[i]? = some c ∧ c.stage = .returned h why

/-- A stage of a send with its frame in a place. -/
def Spot.Fits : Spot → Stage → Prop
  | .withCall, .calling => True
  | .withCall, .bound _ => True
  | .queued k, .put h => h = k
  | .received k, .put h => h = k
  | .handedBack, .returned _ _ => True
  | _, _ => False

theorem mem_through (x : Exchange κ) (i : Nat) (h : Handle) :
    i ∈ x.through h ↔ x.At i (.received h) ∨ x.At i (.queued h) := by
  simp [through, At, and_assoc]

theorem Conserved.not_both (h : Conserved x) {i : Nat} {k : Handle} (hr : x.At i (.received k)) :
    ¬ x.At i (.queued k) := by
  intro hq
  obtain ⟨t, ht, rfl, rfl⟩ := hr
  have mem : t.call ∈ (x.taken.filter fun u => u.port == t.port).map Taken.call :=
    List.mem_map_of_mem (List.mem_filter.2 ⟨ht, by simp⟩)
  exact (List.nodup_append.1 (h.nodup t.port)).2.2 _ mem _ hq rfl

theorem Conserved.fits (h : Conserved x) {i : Nat} {c : Call} (hc : x.calls[i]? = some c)
    {p : Spot} (hp : x.At i p) : p.Fits c.stage := by
  have put {k : Handle} (hi : i ∈ x.through k) : c.stage = .put k := by
    obtain ⟨d, hd, put⟩ := (h.put k i).1 hi
    cases hc.symm.trans hd
    exact put
  cases p with
  | withCall =>
    obtain ⟨d, hd, stage⟩ := hp
    cases hc.symm.trans hd
    rcases stage with stage | ⟨k, stage⟩ <;> rw [stage] <;> trivial
  | queued k =>
    rw [put ((mem_through x i k).2 (.inr hp))]
    rfl
  | received k =>
    rw [put ((mem_through x i k).2 (.inl hp))]
    rfl
  | handedBack =>
    obtain ⟨d, k, why, hd, stage⟩ := hp
    cases hc.symm.trans hd
    rw [stage]
    trivial

/-- A frame is in one place. -/
theorem Conserved.one_spot (h : Conserved x) {i : Nat} (hi : i < x.calls.length) :
    ∃! p, x.At i p := by
  obtain ⟨c, hc⟩ : ∃ c, x.calls[i]? = some c := ⟨_, List.getElem?_eq_getElem hi⟩
  have fits {p : Spot} (hp : x.At i p) : p.Fits c.stage := h.fits hc hp
  cases hs : c.stage with
  | calling =>
    refine ⟨.withCall, ⟨c, hc, .inl hs⟩, fun p hp => ?_⟩
    have := hs ▸ fits hp
    cases p <;> first | rfl | exact this.elim
  | bound k =>
    refine ⟨.withCall, ⟨c, hc, .inr ⟨k, hs⟩⟩, fun p hp => ?_⟩
    have := hs ▸ fits hp
    cases p <;> first | rfl | exact this.elim
  | returned k why =>
    refine ⟨.handedBack, ⟨c, k, why, hc, hs⟩, fun p hp => ?_⟩
    have := hs ▸ fits hp
    cases p <;> first | rfl | exact this.elim
  | put k =>
    rcases (mem_through x i k).1 ((h.put k i).2 ⟨c, hc, hs⟩) with received | queued
    · refine ⟨.received k, received, fun p hp => ?_⟩
      have here := hs ▸ fits hp
      cases p with
      | received j => exact congrArg _ here.symm
      | queued j => exact absurd (show x.At i (.queued k) from here ▸ hp) (h.not_both received)
      | withCall => exact here.elim
      | handedBack => exact here.elim
    · refine ⟨.queued k, queued, fun p hp => ?_⟩
      have here := hs ▸ fits hp
      cases p with
      | queued j => exact congrArg _ here.symm
      | received j => exact absurd queued (h.not_both (show x.At i (.received k) from here ▸ hp))
      | withCall => exact here.elim
      | handedBack => exact here.elim

/-! ## As time goes by -/

/-- A send later: a port that was found stays, and what is done is not undone. -/
structure Call.Later (c d : Call) : Prop where
  frame : d.frame = c.frame
  target : ∀ h, c.stage.target? = some h → d.stage.target? = some h
  put : ∀ h, c.stage = .put h → d.stage = .put h
  returned : ∀ h why, c.stage = .returned h why → d.stage = .returned h why

theorem Call.Later.refl (c : Call) : c.Later c := ⟨rfl, fun _ => id, fun _ => id, fun _ _ => id⟩

theorem Call.Later.trans {c d e : Call} (h : c.Later d) (h' : d.Later e) : c.Later e where
  frame := h'.frame.trans h.frame
  target k hk := h'.target k (h.target k hk)
  put k hk := h'.put k (h.put k hk)
  returned k why hk := h'.returned k why (h.returned k why hk)

theorem Call.later_of_calling {c : Call} (h : c.stage = .calling) (s : Stage) :
    c.Later { c with stage := s } := by
  refine ⟨rfl, ?_, ?_, ?_⟩ <;> rw [h]
  · rintro _ ⟨⟩
  · rintro _ ⟨⟩
  · rintro _ _ ⟨⟩

theorem Call.later_of_bound {c : Call} {k : Handle} (h : c.stage = .bound k) {s : Stage}
    (hs : s.target? = some k) : c.Later { c with stage := s } := by
  refine ⟨rfl, ?_, ?_, ?_⟩ <;> rw [h]
  · rintro _ ⟨⟩
    exact hs
  · rintro _ ⟨⟩
  · rintro _ _ ⟨⟩

/-- One exchange after another. -/
structure Later (x y : Exchange κ) : Prop where
  calls : ∀ {i : Nat} {c : Call}, x.calls[i]? = some c → ∃ d, y.calls[i]? = some d ∧ c.Later d
  grows : ∀ h, x.through h <+: y.through h
  /-- nothing comes to a port whose queue is closed -/
  shut : ∀ h, x.registry.ClosedAt h → y.registry.ClosedAt h ∧ y.through h = x.through h

theorem Later.refl (x : Exchange κ) : Later x x where
  calls hc := ⟨_, hc, .refl _⟩
  grows _ := List.prefix_rfl
  shut _ hc := ⟨hc, rfl⟩

theorem Later.trans {z : Exchange κ} (h : Later x y) (h' : Later y z) : Later x z where
  calls hc := by
    obtain ⟨d, hd, later⟩ := h.calls hc
    obtain ⟨e, he, later'⟩ := h'.calls hd
    exact ⟨e, he, later.trans later'⟩
  grows k := (h.grows k).trans (h'.grows k)
  shut k hc := by
    obtain ⟨hc, same⟩ := h.shut k hc
    obtain ⟨hc, same'⟩ := h'.shut k hc
    exact ⟨hc, same'.trans same⟩

/-- A send comes to its next stage. -/
theorem calls_setStage {i : Nat} {c : Call} (hc : x.calls[i]? = some c) {s : Stage}
    (next : c.Later { c with stage := s }) {j : Nat} {d : Call} (hd : x.calls[j]? = some d) :
    ∃ e, (x.setStage i s).calls[j]? = some e ∧ d.Later e := by
  rw [getElem?_setStage, hd]
  split
  · next same =>
    subst same
    cases hc.symm.trans hd
    exact ⟨_, rfl, next⟩
  · exact ⟨d, rfl, .refl d⟩

theorem later_of_step (h : Conserved x) (hs : Step x y) : Later x y := by
  cases hs with
  | change hr =>
    have still := Registry.still_of_change hr
    exact ⟨fun hc => ⟨_, hc, .refl _⟩, fun _ => List.prefix_rfl,
      fun k hc => ⟨still.closed k hc, rfl⟩⟩
  | call sender dest frame =>
    refine ⟨fun {i c} hc => ⟨c, ?_, .refl c⟩, fun _ => List.prefix_rfl, fun _ hc => ⟨hc, rfl⟩⟩
    rw [List.getElem?_append_left (List.getElem?_eq_some_iff.1 hc).1, hc]
  | @resolve i c hc calling =>
    exact ⟨calls_setStage hc (Call.later_of_calling calling _), fun _ => List.prefix_rfl,
      fun _ hc => ⟨hc, rfl⟩⟩
  | @put i c k r hc bound sent =>
    obtain ⟨adds, isOpen⟩ := Registry.adds_of_deliver sent
    refine ⟨calls_setStage hc (Call.later_of_bound bound rfl), fun j => ?_, fun j hj =>
      ⟨Registry.closedAt_of_blank adds.blank hj, ?_⟩⟩
    · rw [through_putAt]
      exact List.prefix_append _ _
    · rw [through_putAt, if_neg, List.append_nil]
      rintro rfl
      exact isOpen hj
  | @refuse i c k why hc bound refused =>
    exact ⟨calls_setStage hc (Call.later_of_bound bound rfl), fun _ => List.prefix_rfl,
      fun _ hc => ⟨hc, rfl⟩⟩
  | @receive k f r hr =>
    obtain ⟨blank, -, -⟩ := Registry.item_of_receive hr
    obtain ⟨i, rest, hm, -⟩ := h.oldest_of_receive hr
    have through := through_takeFrom hm f r
    refine ⟨fun hc => ⟨_, hc, .refl _⟩, fun j => ?_, fun j hj =>
      ⟨Registry.closedAt_of_blank blank hj, through j⟩⟩
    exact ⟨[], (List.append_nil _).trans (through j).symm⟩

theorem later_of_steps (h : Conserved x) (hs : Relation.ReflTransGen Step x y) :
    Conserved y ∧ Later x y := by
  induction hs with
  | refl => exact ⟨h, .refl x⟩
  | tail _ step ih =>
    obtain ⟨conserved, later⟩ := ih
    exact ⟨conserved_of_step conserved step, later.trans (later_of_step conserved step)⟩

/-- A send that has found a port whose queue is closed waits no more. -/
theorem Conserved.refused_of_closed (h : Conserved x) {i : Nat} {c : Call} {k : Handle}
    (hc : x.calls[i]? = some c) (bound : c.stage = .bound k) (closed : x.registry.ClosedAt k)
    (hs : Relation.ReflTransGen Step x y) :
    ∃ d, y.calls[i]? = some d ∧ (d.stage = .returned (some k) ⟨.queueClosed, c.frame⟩ ∨
      d.stage = .bound k ∧ ∃ z e, Step y z ∧ z.calls[i]? = some e ∧
        e.stage = .returned (some k) ⟨.queueClosed, c.frame⟩) := by
  obtain ⟨conserved, later⟩ := later_of_steps h hs
  obtain ⟨still, same⟩ := later.shut k closed
  obtain ⟨d, hd, onward⟩ := later.calls hc
  have target := onward.target k (by rw [bound]; rfl)
  refine ⟨d, hd, ?_⟩
  cases stage : d.stage with
  | calling => rw [stage] at target; cases target
  | bound j =>
    rw [stage] at target
    cases target
    have refuse := Step.refuse hd stage (Registry.deliver_of_closedAt still d.frame)
    refine .inr ⟨rfl, _, { d with stage := .returned (some k) ⟨.queueClosed, d.frame⟩ }, refuse,
      ?_, ?_⟩
    · rw [getElem?_setStage, if_pos rfl, hd]
      rfl
    · rw [onward.frame]
  | put j =>
    rw [stage] at target
    cases target
    -- its frame would have come to the port before the queue was closed
    have came := (conserved.put k i).2 ⟨d, hd, stage⟩
    rw [same] at came
    obtain ⟨c', hc', put⟩ := (h.put k i).1 came
    cases hc.symm.trans hc'
    rw [bound] at put
    cases put
  | returned j why =>
    rw [stage] at target
    obtain rfl : j = some k := target
    obtain ⟨frame, error⟩ := conserved.returned i d (some k) why hd stage
    obtain ⟨e, f⟩ := why
    obtain rfl : e = .queueClosed := error rfl
    obtain rfl : f = d.frame := frame
    rw [onward.frame]
    exact .inl rfl

/-- At any time every frame is in one place, and the frames that wait at a port or were taken there
are those of the sends that found it. Another port under the same id has another handle. From then
on, a send keeps the port that it found, a frame that is handed back has been at no port, and
nothing comes to a closed queue: the sends that have found its port are handed back. The changes of
`Step` that take a port out are the parts of `Registry.destroyPort`, by
`Registry.changes_of_destroyPort`. -/
theorem nothing_lost {config : QueueConfig} (h : Reachable config x) :
    (∀ i < x.calls.length, ∃! p, x.At i p) ∧ x.Conserved ∧
    (∀ (i : Nat) (c : Call) (k : Handle), x.calls[i]? = some c →
      x.At i (.queued k) ∨ x.At i (.received k) → c.stage.target? = some k) ∧
    (∀ (i : Nat) (c : Call) (k : Handle), x.calls[i]? = some c → c.stage.target? = some k →
      (x.registry.closeQueue k).ClosedAt k ∧
      ∀ id r, x.registry.createPort id ≠ .ok (k, r)) ∧
    ∀ y, Relation.ReflTransGen Step x y →
      (∀ (i : Nat) (c : Call) (k : Handle), x.calls[i]? = some c → c.stage.target? = some k →
        ∃ d, y.calls[i]? = some d ∧ d.frame = c.frame ∧ d.stage.target? = some k) ∧
      (∀ (i : Nat) (d : Call) (k : Option Handle) (why : Rejected), y.calls[i]? = some d →
        d.stage = .returned k why → why.frame = d.frame ∧ ∀ j, i ∉ x.through j) ∧
      (∀ k, x.registry.ClosedAt k → y.through k = x.through k) ∧
      (∀ (i : Nat) (c : Call) (k : Handle), x.calls[i]? = some c → c.stage = .bound k →
        x.registry.ClosedAt k →
        ∃ d, y.calls[i]? = some d ∧ (d.stage = .returned (some k) ⟨.queueClosed, c.frame⟩ ∨
          d.stage = .bound k ∧ ∃ z e, Step y z ∧ z.calls[i]? = some e ∧
            e.stage = .returned (some k) ⟨.queueClosed, c.frame⟩)) := by
  have conserved := conserved_of_reachable h
  refine ⟨fun i hi => conserved.one_spot hi, conserved, fun i c k hc hp => ?_,
    fun i c k hc hk => ?_,
    fun y hs => ?_⟩
  · have put : c.stage = .put k := by
      obtain ⟨d, hd, put⟩ := (conserved.put k i).1 ((mem_through x i k).2 hp.symm)
      cases hc.symm.trans hd
      exact put
    rw [put]
    rfl
  · have lt := conserved.known i c k hc hk
    refine ⟨Registry.closedAt_closeQueue lt, fun id r e => ?_⟩
    rw [(Registry.still_createPort e).2] at lt
    exact Nat.lt_irrefl _ lt
  · obtain ⟨after, later⟩ := later_of_steps conserved hs
    refine ⟨fun i c k hc hk => ?_, fun i d k why hd hr => ⟨(after.returned i d k why hd hr).1, ?_⟩,
      fun k hk => (later.shut k hk).2, fun i c k hc bound closed =>
        conserved.refused_of_closed hc bound closed hs⟩
    · obtain ⟨d, hd, onward⟩ := later.calls hc
      exact ⟨d, hd, onward.frame, onward.target k hk⟩
    · intro j hj
      obtain ⟨c, hc, put⟩ := (after.put j i).1 ((later.grows j).subset hj)
      cases hd.symm.trans hc
      rw [hr] at put
      cases put

/-- A send waits at a full queue while its port is destroyed and the id is registered anew: its
frame is still with it, and comes back. -/
theorem nothing_lost_over_destruction : ∃ x : Exchange Unit,
    Reachable { kind := .single, capacity := some 1 } x ∧
    x.calls.map Call.stage = [.put 1, .bound 1] ∧ x.registry.find? ⟨0x0482⟩ = some 2 ∧
    (∃! p, x.At 1 p) ∧
    ∃ d, x.calls[1]? = some d ∧ (d.stage = .returned (some 1) ⟨.queueClosed, .ofBytes [8]⟩ ∨
      d.stage = .bound 1 ∧ ∃ z e, Step x z ∧ z.calls[1]? = some e ∧
        e.stage = .returned (some 1) ⟨.queueClosed, .ofBytes [8]⟩) := by
  let a : PortId := ⟨0x0481⟩
  let b : PortId := ⟨0x0482⟩
  have made : Reachable (κ := Unit) { kind := .single, capacity := some 1 } _ :=
    ((((Relation.ReflTransGen.refl.tail (.change (.createPort a 0 rfl))).tail
      (.change (.createPort b 1 rfl))).tail (.change (.setState _ 0 .conn))).tail
      (.change (.setState _ 1 .conn)))
  have first := ((made.tail (.call _ 0 b (.ofBytes [7]))).tail (.resolve (i := 0) rfl rfl)).tail
    (.put (i := 0) rfl rfl rfl)
  have second := (first.tail (.call _ 0 b (.ofBytes [8]))).tail (.resolve (i := 1) rfl rfl)
  have destroyed := ((second.tail (.change (.unregister _ 1))).tail
    (.change (.setState _ 1 .exit))).tail (.change (.closeQueue _ 1))
  have anew := destroyed.tail (.change (.createPort b 2 rfl))
  have kept := nothing_lost anew
  refine ⟨_, anew, rfl, by decide, kept.1 1 (by decide), ?_⟩
  exact (kept.2.2.2.2 _ .refl).2.2.2 1 _ 1 rfl rfl ⟨_, rfl, rfl⟩

end Exchange

end FrameBus
