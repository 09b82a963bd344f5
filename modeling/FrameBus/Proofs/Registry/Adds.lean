import FrameBus.Registry.Reaction

/-!
# Deliveries only add frames

What a node keeps when frames are put at its ports: everything but what is queued (`blank`), and of
the queues what was in them, with what is added at the end (`Registry.Adds`). Sends, copies and
broadcasts that only copy are all of this kind.
-/

namespace FrameBus

/-- What is read of a list of which one entry changes. -/
theorem map_modify {α β : Type} {r : α → β} {F : α → α} {G : β → β} {l : List α} {i : Nat}
    (comm : ∀ a, r (F a) = G (r a)) : (l.modify i F).map r = (l.map r).modify i G := by
  apply List.ext_getElem?
  intro j
  rw [List.getElem?_map, List.getElem?_modify, List.getElem?_modify, List.getElem?_map]
  split
  · cases l[j]? <;> simp [comm]
  · simp

theorem map_modify_of_same {α β : Type} {r : α → β} {F : α → α} {l : List α} {i : Nat}
    (same : ∀ a, r (F a) = r a) : (l.modify i F).map r = l.map r :=
  (map_modify same).trans (List.modify_id i _)

/-- What of a list of arrivals came to one place. -/
def arrivals {π : Type} [DecidableEq π] (out : List (π × Frame)) (p : π) : List Frame :=
  out.filterMap fun (q, f) => if q = p then some f else none

section

variable {π : Type} [DecidableEq π]

@[simp] theorem arrivals_nil (p : π) : arrivals [] p = [] := rfl

@[simp] theorem arrivals_append (out more : List (π × Frame)) (p : π) :
    arrivals (out ++ more) p = arrivals out p ++ arrivals more p := by
  simp [arrivals]

theorem arrivals_cons (q : π) (f : Frame) (out : List (π × Frame)) (p : π) :
    arrivals ((q, f) :: out) p = if q = p then f :: arrivals out p else arrivals out p := by
  by_cases h : q = p <;> simp [arrivals, h]

theorem mem_arrivals {out : List (π × Frame)} {p : π} {f : Frame} :
    f ∈ arrivals out p ↔ (p, f) ∈ out := by
  simp only [arrivals, List.mem_filterMap, Prod.exists]
  constructor
  · rintro ⟨q, g, hm, h⟩
    split at h
    · next hq =>
      cases h
      exact hq ▸ hm
    · cases h
  · intro h
    exact ⟨p, f, h, by simp⟩

/-- One frame comes to each of a list of places, and to no other. -/
theorem length_arrivals_map {α : Type} [DecidableEq α] {e : α → π} (he : ∀ x y, e x = e y → x = y)
    {l : List α} (hl : l.Nodup) (f : Frame) (x : α) :
    (arrivals (l.map fun y => (e y, f)) (e x)).length = if x ∈ l then 1 else 0 := by
  induction l with
  | nil => rfl
  | cons y l ih =>
    obtain ⟨hy, hl⟩ := List.nodup_cons.1 hl
    rw [List.map_cons, arrivals_cons]
    by_cases hx : y = x
    · subst hx
      rw [if_pos rfl, List.length_cons, ih hl, if_neg hy, if_pos List.mem_cons_self]
    · rw [if_neg fun h => hx (he y x h), ih hl]
      simp [Ne.symm hx]

theorem arrivals_map_of_ne {α : Type} {e : α → π} {l : List α} {p : π} (h : ∀ x ∈ l, e x ≠ p)
    (f : Frame) : arrivals (l.map fun y => (e y, f)) p = [] := by
  rw [List.eq_nil_iff_forall_not_mem]
  intro g hg
  obtain ⟨x, hx, hxe⟩ := List.mem_map.1 (mem_arrivals.1 hg)
  exact h x hx (congrArg Prod.fst hxe)

end

/-! ## Queues -/

namespace Queue

variable {α : Type}

/-- The queue with nothing in it. -/
def blank : Queue α → Queue α
  | .single q => .single { q with items := [] }
  | .double q => .double { q with front := [], back := [], total := 0 }

@[simp] theorem isClosed_new (config : QueueConfig) :
    (new config : Queue α).isClosed = false := by
  cases h : config.kind <;> simp [new, h, isClosed, Single.new, Double.new]

@[simp] theorem isClosed_blank (q : Queue α) : q.blank.isClosed = q.isClosed := by cases q <;> rfl

@[simp] theorem capacity_blank (q : Queue α) : q.blank.capacity = q.capacity := by cases q <;> rfl

@[simp] theorem blank_add (q : Queue α) (a : α) : (q.add a).blank = q.blank := by cases q <;> rfl

theorem offer_eq_accepted {q r : Queue α} {a : α} (h : q.offer a = .accepted r) : r = q.add a := by
  unfold offer at h
  split at h
  · cases h
  · split at h <;> cases h
    rfl

theorem isFull_of_unbounded {q : Queue α} (hn : q.capacity = none) : q.isFull = false := by
  cases q with
  | single q => simp [isFull, Single.full, atBound, show q.capacity = none from hn]
  | double q => simp [isFull, Double.full, atBound, show q.capacity = none from hn]

/-- An open queue without a bound takes everything. -/
theorem offer_of_open {q : Queue α} (hc : q.isClosed = false) (hn : q.capacity = none) (a : α) :
    q.offer a = .accepted (q.add a) := by
  simp [offer, hc, isFull_of_unbounded hn]

theorem blank_of_take? {q r : Queue α} {a : α} (h : q.take? = some (a, r)) : r.blank = q.blank := by
  cases q with
  | single q =>
    obtain ⟨⟨b, s⟩, hs, he⟩ := Option.map_eq_some_iff.1 h
    cases he
    obtain ⟨items, closed, capacity⟩ := q
    cases items with
    | nil => cases hs
    | cons c rest => cases hs; rfl
  | double q =>
    obtain ⟨⟨b, s⟩, hs, he⟩ := Option.map_eq_some_iff.1 h
    cases he
    obtain ⟨front, back, total, closed, capacity⟩ := q
    cases front with
    | nil =>
      cases back with
      | nil => cases hs
      | cons c rest => cases hs; rfl
    | cons c rest => cases hs; rfl

/-- What a look at the queue does to it. -/
theorem poll_spec (q : Queue α) :
    (∃ a r, q.poll = (.item a, r) ∧ q.toList = a :: r.toList ∧ r.blank = q.blank) ∨
      ∃ answer, q.poll = (answer, q) ∧ ∀ a, answer ≠ .item a := by
  unfold poll
  cases h : q.take? with
  | some p =>
    obtain ⟨a, r⟩ := p
    exact .inl ⟨a, r, rfl, toList_of_take? h, blank_of_take? h⟩
  | none =>
    refine .inr ⟨_, rfl, fun a => ?_⟩
    split <;> simp

theorem toList_of_poll {q r : Queue α} {a : α} (h : q.poll = (.item a, r)) :
    q.toList = a :: r.toList := by
  rcases poll_spec q with ⟨b, s, hp, hl, -⟩ | ⟨answer, hp, other⟩
  · cases hp.symm.trans h
    exact hl
  · cases hp.symm.trans h
    exact absurd rfl (other a)

theorem isClosed_of_poll {q r : Queue α} (h : q.poll = (.closed, r)) : q.isClosed = true := by
  unfold poll at h
  split at h
  · cases h
  · split at h
    · next closed => exact closed
    · cases h

end Queue

/-! ## Ports -/

/-- The port with nothing waiting at it. -/
def Port.blank {κ : Type} (p : Port κ) : Port κ := { p with queue := p.queue.blank }

namespace Registry

variable {κ : Type}

/-- The registry with nothing waiting at its ports. -/
def blank (r : Registry κ) : Registry κ := { r with ports := r.ports.map Port.blank }

/-- What waits at a port, the oldest first. -/
def frames (r : Registry κ) (h : Handle) : List Frame :=
  ((r.port? h).map fun p => p.queue.toList).getD []

theorem port?_blank (r : Registry κ) (h : Handle) : r.blank.port? h = (r.port? h).map Port.blank :=
  List.getElem?_map

/-- The port of a registry that differs in what waits. -/
theorem port?_of_blank {r s : Registry κ} (hb : s.blank = r.blank) {h : Handle} {p : Port κ}
    (hp : r.port? h = some p) : ∃ q, s.port? h = some q ∧ q.blank = p.blank := by
  have e : (s.port? h).map Port.blank = some p.blank := by
    rw [← port?_blank, hb, port?_blank, hp]
    rfl
  simpa [Option.map_eq_some_iff] using e

theorem idOf_of_blank {r s : Registry κ} (hb : s.blank = r.blank) (h : Handle) :
    s.idOf h = r.idOf h := by
  have key (t : Registry κ) : t.idOf h = ((t.blank.port? h).map Port.id).getD .unknown := by
    rw [port?_blank, idOf]
    cases t.port? h <;> rfl
  rw [key, key, hb]

theorem isConnected_of_blank {r s : Registry κ} (hb : s.blank = r.blank) (h : Handle) :
    s.isConnected h = r.isConnected h := by
  have key (t : Registry κ) :
      t.isConnected h = ((t.blank.port? h).map Port.isConnected).getD false := by
    rw [port?_blank, isConnected]
    cases t.port? h <;> rfl
  rw [key, key r, hb]

theorem registered_of_blank {r s : Registry κ} (hb : s.blank = r.blank) :
    s.registered = r.registered :=
  show s.blank.registered = r.blank.registered from congrArg _ hb

theorem ids_of_blank {r s : Registry κ} (hb : s.blank = r.blank) : s.ids = r.ids := by
  rw [ids, ids, registered_of_blank hb]
  exact List.map_congr_left fun h _ => idOf_of_blank hb h

/-! ## Putting another queue in place -/

theorem port?_modify (r : Registry κ) (h k : Handle) (F : Port κ → Port κ) :
    (r.modify h F).port? k = if h = k then (r.port? k).map F else r.port? k := by
  simp only [port?, modify, List.getElem?_modify]
  split <;> simp

theorem blank_setQueue {r : Registry κ} {h : Handle} {p : Port κ} {q : Queue Frame}
    (hp : r.port? h = some p) (hq : q.blank = p.queue.blank) :
    (r.modify h fun p => { p with queue := q }).blank = r.blank := by
  have ports : (r.ports.modify h fun p => { p with queue := q }).map Port.blank =
      r.ports.map Port.blank := by
    apply List.ext_getElem?
    intro k
    have := port?_modify r h k fun p => { p with queue := q }
    simp only [port?, modify] at this
    rw [List.getElem?_map, List.getElem?_map, this]
    split
    · next hk =>
      subst hk
      rw [show r.ports[h]? = some p from hp]
      simp [Port.blank, hq]
    · rfl
  simp only [blank, modify, ports]

theorem frames_setQueue {r : Registry κ} {h : Handle} {p : Port κ} (hp : r.port? h = some p)
    (q : Queue Frame) (k : Handle) :
    (r.modify h fun p => { p with queue := q }).frames k =
      if h = k then q.toList else r.frames k := by
  rw [frames, port?_modify]
  split
  · next hk =>
    subst hk
    rw [hp]
    rfl
  · rfl

/-- Taking a frame from a port, or not. -/
theorem receive_spec (r : Registry κ) (h : Handle) :
    (∃ f s, r.receive h = (.item f, s) ∧ s.blank = r.blank ∧ r.frames h = f :: s.frames h ∧
        ∀ k, h ≠ k → s.frames k = r.frames k) ∨
      ∃ answer s, r.receive h = (answer, s) ∧ ∀ f, answer ≠ .item f := by
  unfold receive
  cases hp : r.port? h with
  | none => exact .inr ⟨_, _, rfl, fun _ => nofun⟩
  | some p =>
    rcases Queue.poll_spec p.queue with ⟨f, q, hq, hl, hb⟩ | ⟨answer, hq, ha⟩
    · refine .inl ⟨f, _, by simp only [hq], blank_setQueue hp hb, ?_, fun k hk => ?_⟩
      · rw [frames_setQueue hp, if_pos rfl, frames, hp]
        exact hl
      · rw [frames_setQueue hp, if_neg hk]
    · exact .inr ⟨answer, _, by simp only [hq]; rfl, ha⟩

/-! ## Adding frames -/

/-- One registry after another: `out` came to the ports, and nothing else changed. -/
structure Adds (r s : Registry κ) (out : List (Handle × Frame)) : Prop where
  blank : s.blank = r.blank
  frames : ∀ h, s.frames h = r.frames h ++ arrivals out h

theorem Adds.refl (r : Registry κ) : Adds r r [] := ⟨rfl, fun _ => by simp⟩

theorem Adds.trans {r s t : Registry κ} {out more : List (Handle × Frame)} (h : Adds r s out)
    (k : Adds s t more) : Adds r t (out ++ more) :=
  ⟨k.blank.trans h.blank, fun p => by rw [k.frames, h.frames]; simp⟩

theorem adds_enqueue {r s : Registry κ} {h : Handle} {f : Frame} (e : r.enqueue h f = .accepted s) :
    Adds r s [(h, f)] := by
  unfold enqueue at e
  split at e
  · cases e
  · next p hp =>
    split at e
    · next q hq =>
      cases e
      obtain rfl := Queue.offer_eq_accepted hq
      refine ⟨blank_setQueue hp (Queue.blank_add _ _), fun k => ?_⟩
      rw [frames_setQueue hp, arrivals_cons]
      split
      · next hk =>
        subst hk
        simp [frames, hp]
      · simp
    · cases e
    · cases e

theorem adds_send {r s : Registry κ} {sender : Handle} {dest : PortId} {f : Frame}
    (e : r.send sender dest f = .sent s) : ∃ h, Adds r s [(h, f)] := by
  unfold send at e
  split at e
  · next h _ =>
    unfold deliver at e
    split at e
    · next s' he =>
      cases e
      exact ⟨h, adds_enqueue he⟩
    · cases e
    · cases e
  · cases e

theorem adds_enqueueCopy {r s : Registry κ} {h : Handle} {f : Frame} {result : Except BusError Unit}
    (e : r.enqueueCopy h f = some (result, s)) : ∃ out, Adds r s out := by
  unfold enqueueCopy at e
  split at e
  · next s' he =>
    cases e
    exact ⟨_, adds_enqueue he⟩
  · cases e
    exact ⟨[], .refl r⟩
  · cases e

/-- A broadcast to ports that only copy. -/
theorem adds_runAll {f : Frame} {ks : List (Handle × Reaction)} {r : Registry Reaction}
    {o : Outcome Reaction} (copies : ∀ k ∈ ks, k.2 = .copy)
    (e : runAll Reaction.run f ks r = some o) : ∃ out, Adds r o.after out := by
  induction ks generalizing r o with
  | nil =>
    cases e
    exact ⟨[], .refl r⟩
  | cons k ks ih =>
    simp only [runAll, Option.bind_eq_bind, Option.bind_eq_some_iff] at e
    obtain ⟨⟨result, s⟩, hk, o', ho, e⟩ := e
    cases e
    rw [copies k List.mem_cons_self] at hk
    obtain ⟨out, h⟩ := adds_enqueueCopy hk
    obtain ⟨more, h'⟩ := ih (fun k hk => copies k (List.mem_cons_of_mem _ hk)) ho
    exact ⟨out ++ more, h.trans h'⟩

/-! ## Ports that take everything -/

/-- A port whose queue is open and has no bound. -/
def Takes (r : Registry κ) (h : Handle) : Prop :=
  ∃ p, r.port? h = some p ∧ p.queue.isClosed = false ∧ p.queue.capacity = none

theorem takes_of_blank {r s : Registry κ} (hb : s.blank = r.blank) {h : Handle} (ht : r.Takes h) :
    s.Takes h := by
  obtain ⟨p, hp, hc, hn⟩ := ht
  obtain ⟨q, hq, e⟩ := port?_of_blank hb hp
  have same : q.queue.blank = p.queue.blank := congrArg Port.queue e
  refine ⟨q, hq, ?_, ?_⟩
  · rw [← Queue.isClosed_blank, same, Queue.isClosed_blank, hc]
  · rw [← Queue.capacity_blank, same, Queue.capacity_blank, hn]

theorem enqueue_of_takes {r : Registry κ} {h : Handle} (ht : r.Takes h) (f : Frame) :
    ∃ s, r.enqueue h f = .accepted s ∧ Adds r s [(h, f)] := by
  obtain ⟨p, hp, hc, hn⟩ := ht
  have e : r.enqueue h f = .accepted (r.modify h fun q => { q with queue := p.queue.add f }) := by
    simp only [enqueue, hp, Queue.offer_of_open hc hn]
  exact ⟨_, e, adds_enqueue e⟩

theorem send_of_takes {r : Registry κ} {sender h : Handle} {dest : PortId}
    (hr : r.resolve sender dest = .ok h) (ht : r.Takes h) (f : Frame) :
    ∃ s, r.send sender dest f = .sent s ∧ Adds r s [(h, f)] := by
  obtain ⟨s, e, ha⟩ := enqueue_of_takes ht f
  exact ⟨s, by simp only [send, hr, deliver, e], ha⟩

/-- A broadcast to ports that copy and take everything: each of them takes a copy. -/
theorem runAll_of_takes {f : Frame} {ks : List (Handle × Reaction)} {r : Registry Reaction}
    (copies : ∀ k ∈ ks, k.2 = .copy) (takes : ∀ k ∈ ks, r.Takes k.1) :
    ∃ o, runAll Reaction.run f ks r = some o ∧ o.accepted = ks.length ∧
      Adds r o.after (ks.map fun k => (k.1, f.duplicate)) := by
  induction ks generalizing r with
  | nil => exact ⟨_, rfl, rfl, .refl r⟩
  | cons k ks ih =>
    obtain ⟨s, e, ha⟩ := enqueue_of_takes (takes k List.mem_cons_self) f.duplicate
    obtain ⟨o, ho, hn, ha'⟩ := ih (r := s) (fun k hk => copies k (List.mem_cons_of_mem _ hk))
      fun k hk => takes_of_blank ha.blank (takes k (List.mem_cons_of_mem _ hk))
    have copy : Reaction.run k.2 k.1 f r = some (.ok (), s) := by
      rw [copies k List.mem_cons_self]
      simp only [Reaction.run, enqueueCopy, e]
    refine ⟨{ o with calls := (k.1, .ok ()) :: o.calls }, ?_, ?_, ha.trans ha'⟩
    · simp only [runAll, copy, ho, Option.bind_eq_bind, Option.bind_some]
      rfl
    · show List.countP (fun c => c.2.isOk) ((k.1, .ok ()) :: o.calls) = _
      rw [List.countP_cons_of_pos rfl, List.length_cons]
      exact congrArg (· + 1) hn

/-! ## Ports with room -/

/-- A push to any port is taken or refused at once. -/
def Roomy (r : Registry Reaction) : Prop :=
  ∀ h p, r.port? h = some p → p.queue.isFull = false

theorem enqueue_ne_full {r : Registry Reaction} (room : r.Roomy) (h : Handle) (f : Frame) :
    r.enqueue h f ≠ .full := by
  unfold enqueue
  cases hp : r.port? h with
  | none => simp
  | some p =>
    have free := room h p hp
    simp only [Queue.offer, free]
    cases p.queue.isClosed <;> simp

theorem enqueueCopy_ne_none {r : Registry Reaction} (room : r.Roomy) (h : Handle) (f : Frame) :
    r.enqueueCopy h f ≠ none := by
  have free := enqueue_ne_full room h f.duplicate
  unfold enqueueCopy
  cases hr : r.enqueue h f.duplicate with
  | accepted s => simp
  | closed => simp
  | full => exact absurd hr free

end Registry

end FrameBus
