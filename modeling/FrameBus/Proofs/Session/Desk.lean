import FrameBus.Proofs.Registry.Adds
import FrameBus.Proofs.Session.Handlers
import Mathlib.Logic.Relation

/-!
# The worker of a session

The worker of a session takes a frame from the session's port, looks up the handler, calls it, and
comes back for the next frame:

    checking -> waiting -> holding f -> found t k what -> inside t -> checking
                                     -> checking, if the frame is for no handler

Between any two of its steps, and while a handler runs, frames come to the port, handlers are
attached and detached, and the session is stopped (`Desk.Step`). What a handler does to the table of
its own session is a call like any other.

A turn is a frame that was looked up, with the calls that were made for it. Whatever happens, every
frame has its turn in the order in which the frames came, and no turn has another call than the one
that its frame is for (`Desk.dispatched_in_order`).
-/

namespace FrameBus

namespace Desk

open EventTable (Received IsFor Follows)

/-- What was made of a frame. -/
structure Turn (η : Type) where
  frame : Frame
  /-- what had been done to the table when the handler was looked up -/
  edits : List (Edit η)
  calls : List (η × Received)

/-- Where the worker stands. -/
inductive Post (η : Type) where
  | ended
  /-- looks whether the session runs -/
  | checking
  /-- looks at its queue, or waits there -/
  | waiting
  | holding (f : Frame)
  /-- has a handler in hand that it has not called -/
  | found (t : Turn η) (k : η) (what : Received)
  /-- the handler runs -/
  | inside (t : Turn η)

end Desk

/-- A session with its worker, and with what happened there. -/
structure Desk (η : Type) where
  queue : Queue Frame
  table : EventTable η := []
  running : Bool := false
  post : Desk.Post η := .ended
  /-- what was done to the table, in order -/
  edits : List (Edit η) := []
  /-- the frames that came to the port, in order -/
  arrived : List Frame := []
  /-- the turns that are over, in order -/
  past : List (Desk.Turn η) := []

namespace Desk

open EventTable (Received IsFor Follows)

variable {η : Type}

/-! ## Steps -/

/-- The worker's next step. -/
def work (d : Desk η) : Option (Desk η) :=
  match d.post with
  | .ended => none
  | .checking => some { d with post := if d.running then .waiting else .ended }
  | .waiting =>
    match d.queue.poll with
    | (.item f, q) => some { d with queue := q, post := .holding f }
    | (.timedOut, _) => some { d with post := .checking }
    | (.closed, _) => some { d with post := .ended }
  | .holding f =>
    match d.table.dispatch f with
    | none => some { d with post := .checking, past := d.past ++ [⟨f, d.edits, []⟩] }
    | some (k, what) => some { d with post := .found ⟨f, d.edits, []⟩ k what }
  | .found t k what => some { d with post := .inside { t with calls := t.calls ++ [(k, what)] } }
  | .inside t => some { d with post := .checking, past := d.past ++ [t] }

inductive Step : Desk η → Desk η → Prop
  | work {d e : Desk η} : d.work = some e → Step d e
  /-- a frame comes to the port -/
  | arrive {d : Desk η} {q : Queue Frame} (f : Frame) : d.queue.offer f = .accepted q →
      Step d { d with queue := q, arrived := d.arrived ++ [f] }
  /-- the port is destroyed -/
  | close (d : Desk η) : Step d { d with queue := d.queue.close }
  /-- somebody attaches or detaches a handler, maybe a handler that runs -/
  | edit (d : Desk η) (e : Edit η) :
      Step d { d with table := (e.apply d.table).2, edits := d.edits ++ [e] }
  | stop (d : Desk η) : Step d { d with running := false }
  /-- the session is started, with a new worker -/
  | start (d : Desk η) : d.post = .ended → Step d { d with running := true, post := .checking }

/-- A session that has just been made, with no frames and no handlers. -/
def fresh (config : QueueConfig) : Desk η := { queue := .new config }

def Reachable (config : QueueConfig) (d : Desk η) : Prop :=
  Relation.ReflTransGen Step (fresh config) d

/-! ## What is kept -/

/-- A turn has the call that its frame was for when it was looked up, and no other. -/
def Turn.Due (t : Turn η) : Prop :=
  t.calls.length ≤ 1 ∧ ∀ k what, (k, what) ∈ t.calls ↔ IsFor t.edits t.frame k what

namespace Post

/-- A frame that was taken and not looked up yet. -/
def hand : Post η → List Frame
  | .holding f => [f]
  | _ => []

/-- A turn that is not over. -/
def turn : Post η → List (Turn η)
  | .found t _ _ => [t]
  | .inside t => [t]
  | _ => []

/-- The turn that is not over comes to what is due. -/
def Due : Post η → Prop
  | .found t k what => t.calls = [] ∧ IsFor t.edits t.frame k what
  | .inside t => t.Due
  | _ => True

/-- The worker has no frame. -/
def Idle : Post η → Prop
  | .ended | .checking | .waiting => True
  | _ => False

theorem Idle.parts {p : Post η} (h : p.Idle) : p.hand = [] ∧ p.turn = [] ∧ p.Due := by
  cases p <;> first | exact ⟨rfl, rfl, trivial⟩ | exact h.elim

end Post

/-- The turns in order. -/
def turns (d : Desk η) : List (Turn η) := d.past ++ d.post.turn

/-- What is true of a session at any time. -/
structure Dutiful (d : Desk η) : Prop where
  follows : Follows d.table d.edits
  order : d.arrived = d.turns.map Turn.frame ++ (d.post.hand ++ d.queue.toList)
  past : ∀ t ∈ d.past, t.Due
  now : d.post.Due
  /-- the lookups came one after another -/
  moments : (d.turns.map Turn.edits ++ [d.edits]).Pairwise (· <+: ·)
  ended : d.post = .ended → d.running = false ∨ d.queue.isClosed = true

variable {d e : Desk η}

theorem due_of_found {t : Turn η} {k : η} {what : Received}
    (h : (Post.found t k what).Due) : { t with calls := t.calls ++ [(k, what)] }.Due := by
  obtain ⟨none_yet, due⟩ := h
  refine ⟨by simp [none_yet], fun k' what' => ?_⟩
  rw [none_yet, List.nil_append, List.mem_singleton]
  constructor
  · intro same
    cases same
    exact due
  · exact due.unique

/-- A step of the worker that begins no turn and ends none. -/
theorem Dutiful.move (h : Dutiful d) {post : Post η} {q : Queue Frame}
    (frames : post.turn.map Turn.frame = d.post.turn.map Turn.frame)
    (edits : post.turn.map Turn.edits = d.post.turn.map Turn.edits)
    (takes : post.hand ++ q.toList = d.post.hand ++ d.queue.toList) (now : post.Due)
    (ended : post = .ended → d.running = false ∨ q.isClosed = true) :
    Dutiful { d with queue := q, post := post } := by
  refine ⟨h.follows, ?_, h.past, now, ?_, ended⟩
  · show d.arrived = (d.past ++ post.turn).map Turn.frame ++ (post.hand ++ q.toList)
    rw [takes, List.map_append, frames, ← List.map_append]
    exact h.order
  · show ((d.past ++ post.turn).map Turn.edits ++ [d.edits]).Pairwise (· <+: ·)
    rw [List.map_append, edits, ← List.map_append]
    exact h.moments

theorem Dutiful.rest (h : Dutiful d) (before : d.post.Idle) {post : Post η} (after : post.Idle)
    (ended : post = .ended → d.running = false ∨ d.queue.isClosed = true) :
    Dutiful { d with post := post } := by
  obtain ⟨hand, turn, -⟩ := before.parts
  obtain ⟨hand', turn', now⟩ := after.parts
  exact h.move (by rw [turn, turn']) (by rw [turn, turn']) (by rw [hand, hand']) now ended

/-- A frame in hand is looked up: a turn begins, which may be over at once. -/
theorem Dutiful.look (h : Dutiful d) {f : Frame} (hf : d.post = .holding f) {post : Post η}
    {past : List (Turn η)} (turns : past ++ post.turn = d.past ++ [⟨f, d.edits, []⟩])
    (hand : post.hand = []) (done : ∀ t ∈ past, t.Due) (now : post.Due) (busy : post ≠ .ended) :
    Dutiful { d with post := post, past := past } := by
  have before : d.turns = d.past := by simp [Desk.turns, hf, Post.turn]
  have order := h.order
  have moments := h.moments
  rw [before] at order moments
  refine ⟨h.follows, ?_, done, now, ?_, fun he => absurd he busy⟩
  · show d.arrived = (past ++ post.turn).map Turn.frame ++ (post.hand ++ d.queue.toList)
    rw [turns, hand, order, hf]
    simp [Post.hand]
  · show ((past ++ post.turn).map Turn.edits ++ [d.edits]).Pairwise (· <+: ·)
    rw [turns, List.map_append, List.pairwise_append]
    refine ⟨moments, by simp, fun a ha b hb => ?_⟩
    obtain rfl : b = d.edits := List.mem_singleton.1 hb
    rcases List.mem_append.1 ha with ha | ha
    · exact (List.pairwise_append.1 moments).2.2 a ha d.edits (List.mem_singleton.2 rfl)
    · obtain rfl : a = d.edits := List.mem_singleton.1 ha
      exact List.prefix_rfl

theorem Dutiful.finish (h : Dutiful d) {t : Turn η} (ht : d.post = .inside t) :
    Dutiful { d with post := .checking, past := d.past ++ [t] } := by
  have turns : d.turns = d.past ++ [t] := by simp [Desk.turns, ht, Post.turn]
  have order := h.order
  have moments := h.moments
  have due : t.Due := by
    have now := h.now
    rwa [ht] at now
  rw [turns] at order moments
  refine ⟨h.follows, ?_, fun u hu => ?_, trivial, ?_, by rintro ⟨⟩⟩
  · rw [order, ht]
    simp [Desk.turns, Post.turn, Post.hand]
  · rcases List.mem_append.1 hu with hu | hu
    · exact h.past u hu
    · exact List.mem_singleton.1 hu ▸ due
  · simpa [Desk.turns, Post.turn] using moments

theorem dutiful_of_work (h : Dutiful d) (hw : d.work = some e) : Dutiful e := by
  unfold work at hw
  split at hw
  · cases hw
  · next hp =>
    cases hw
    have idle : d.post.Idle := by rw [hp]; trivial
    split
    · exact h.rest idle trivial (by rintro ⟨⟩)
    · next stopped => exact h.rest idle trivial fun _ => .inl (by simpa using stopped)
  · next hp =>
    have idle : d.post.Idle := by rw [hp]; trivial
    split at hw
    · next f q hq =>
      cases hw
      refine h.move (by rw [hp]; rfl) (by rw [hp]; rfl) ?_ trivial (by rintro ⟨⟩)
      rw [hp]
      exact (Queue.toList_of_poll hq).symm
    · cases hw
      exact h.rest idle trivial (by rintro ⟨⟩)
    · next hq =>
      cases hw
      exact h.rest idle trivial fun _ => .inr (Queue.isClosed_of_poll hq)
  · next f hp =>
    split at hw
    · next nobody =>
      cases hw
      refine h.look hp (List.append_nil _) rfl (fun t ht => ?_) trivial (by rintro ⟨⟩)
      rcases List.mem_append.1 ht with ht | ht
      · exact h.past t ht
      · rw [List.mem_singleton.1 ht]
        refine ⟨Nat.zero_le _, fun k what => ?_⟩
        rw [← EventTable.dispatch_eq_some_iff h.follows, nobody]
        simp
    · next k what somebody =>
      cases hw
      exact h.look hp rfl rfl h.past
        ⟨rfl, (EventTable.dispatch_eq_some_iff h.follows).1 somebody⟩ (by rintro ⟨⟩)
  · next t k what hp =>
    cases hw
    have now := h.now
    rw [hp] at now
    exact h.move (by rw [hp]; rfl) (by rw [hp]; rfl) (by rw [hp]; rfl) (due_of_found now)
      (by rintro ⟨⟩)
  · next t hp =>
    cases hw
    exact h.finish hp

theorem dutiful_fresh (config : QueueConfig) : Dutiful (fresh config : Desk η) where
  follows := EventTable.follows_nil
  order := by simp [fresh, Desk.turns, Post.turn, Post.hand]
  past := by simp [fresh]
  now := trivial
  moments := by simp [fresh, Desk.turns, Post.turn]
  ended _ := .inl rfl

/-- Whatever happens keeps a session dutiful. -/
theorem dutiful_of_step (h : Dutiful d) (hs : Step d e) : Dutiful e := by
  cases hs with
  | work hw => exact dutiful_of_work h hw
  | @arrive q f hq =>
    obtain rfl := Queue.offer_eq_accepted hq
    refine ⟨h.follows, ?_, h.past, h.now, h.moments, fun he => ?_⟩
    · show d.arrived ++ [f] = d.turns.map Turn.frame ++ (d.post.hand ++ (d.queue.add f).toList)
      rw [h.order, Queue.toList_add]
      simp only [List.append_assoc]
    · rcases h.ended he with stopped | closed
      · exact .inl stopped
      · exact .inr (by rwa [← Queue.isClosed_blank, Queue.blank_add, Queue.isClosed_blank])
  | close =>
    refine ⟨h.follows, ?_, h.past, h.now, h.moments, fun _ => .inr (Queue.isClosed_close _)⟩
    show d.arrived = d.turns.map Turn.frame ++ (d.post.hand ++ d.queue.close.toList)
    rw [Queue.toList_close]
    exact h.order
  | edit e =>
    refine ⟨h.follows.apply e, h.order, h.past, h.now, ?_, h.ended⟩
    obtain ⟨earlier, -, latest⟩ := List.pairwise_append.1 h.moments
    refine List.pairwise_append.2 ⟨earlier, by simp, fun a ha b hb => ?_⟩
    obtain rfl : b = d.edits ++ [e] := List.mem_singleton.1 hb
    exact (latest a ha d.edits (List.mem_singleton.2 rfl)).trans (List.prefix_append _ _)
  | stop => exact ⟨h.follows, h.order, h.past, h.now, h.moments, fun _ => .inl rfl⟩
  | start he =>
    refine ⟨h.follows, ?_, h.past, trivial, ?_, by rintro ⟨⟩⟩
    · have order := h.order
      rwa [Desk.turns, he] at order
    · have moments := h.moments
      rwa [Desk.turns, he] at moments

theorem dutiful_of_reachable {config : QueueConfig} (h : Reachable config d) : Dutiful d := by
  induction h with
  | refl => exact dutiful_fresh config
  | tail _ hs ih => exact dutiful_of_step ih hs

/-! ## What a session does -/

/-- A turn has a call exactly if the frame decodes and its event had a handler. -/
theorem Turn.Due.called_iff {t : Turn η} (h : t.Due) : t.calls ≠ [] ↔
    ∃ header rest, EventFrame.decode t.frame = .ok (header, rest) ∧
      (standing t.edits header.event).isSome := by
  rw [← EventTable.exists_isFor_iff, List.ne_nil_iff_exists_cons]
  constructor
  · rintro ⟨⟨k, what⟩, rest, hc⟩
    exact ⟨k, what, (h.2 k what).1 (hc ▸ List.mem_cons_self)⟩
  · rintro ⟨k, what, due⟩
    exact List.exists_cons_of_ne_nil (List.ne_nil_of_mem ((h.2 k what).2 due))

/-- The worker looks up the handler that the event has now, and if there is none goes on. -/
theorem Dutiful.work_of_holding (h : Dutiful d) {f : Frame} (hf : d.post = .holding f) :
    (∀ k what, IsFor d.edits f k what →
      d.work = some { d with post := .found ⟨f, d.edits, []⟩ k what }) ∧
    ((∀ k what, ¬ IsFor d.edits f k what) →
      d.work = some { d with post := .checking, past := d.past ++ [⟨f, d.edits, []⟩] }) := by
  refine ⟨fun k what due => ?_, fun nobody => ?_⟩
  · have hd := (EventTable.dispatch_eq_some_iff h.follows).2 due
    simp only [work, hf, hd]
  · have hd : d.table.dispatch f = none := by
      rw [Option.eq_none_iff_forall_ne_some]
      intro (k, what) hd
      exact nobody k what ((EventTable.dispatch_eq_some_iff h.follows).1 hd)
    simp only [work, hf, hd]

/-- Frames are dispatched in the order in which they came, each once and to the handler that stands
when it is looked up, if it decodes and there is one; the worker goes on if not, and ends only with
the session or the port. The table has no event twice, and a detach of an event that it does not
have changes nothing. -/
theorem dispatched_in_order {config : QueueConfig} (h : Reachable config d) :
    d.arrived = d.turns.map Turn.frame ++ (d.post.hand ++ d.queue.toList) ∧
    (∀ t ∈ d.past, t.calls.length ≤ 1 ∧
      (t.calls ≠ [] ↔ ∃ header rest, EventFrame.decode t.frame = .ok (header, rest) ∧
        (standing t.edits header.event).isSome) ∧
      ∀ k what, (k, what) ∈ t.calls ↔ IsFor t.edits t.frame k what) ∧
    d.post.Due ∧
    (d.turns.map Turn.edits ++ [d.edits]).Pairwise (· <+: ·) ∧
    (∀ f, d.post = .holding f → (∀ k what, ¬ IsFor d.edits f k what) →
      d.work = some { d with post := .checking, past := d.past ++ [⟨f, d.edits, []⟩] }) ∧
    (d.post = .ended → d.running = false ∨ d.queue.isClosed = true) ∧
    (d.table.map Prod.fst).Nodup ∧
    (∀ event, d.table.handler? event = standing d.edits event) ∧
    (∀ event, (Edit.detach event).apply d.table =
      if standing d.edits event = none then (.error (.eventNotFound event), d.table)
      else (.ok (), d.table.filter fun entry => entry.1 != event)) := by
  have dutiful := dutiful_of_reachable h
  refine ⟨dutiful.order, fun t ht => ?_, dutiful.now, dutiful.moments, fun f hf =>
    (dutiful.work_of_holding hf).2, dutiful.ended, dutiful.follows.keys, dutiful.follows.handler,
    fun event => ?_⟩
  · have due := dutiful.past t ht
    exact ⟨due.1, due.called_iff, due.2⟩
  · rw [EventTable.apply_detach, dutiful.follows.handler]

/-- An event is attached twice and detached while the first handler runs for it. The frame has a
byte behind the payload. -/
theorem dispatched_before_detach : ∃ d : Desk Nat, Reachable {} d ∧ d.arrived = [.ofBytes
      [26, 241, 181, 132, 0x04, 0x89, 0x04, 0x8a, 0, 0, 0, 3, 0, 0, 0, 2, 7, 5, 9]] ∧
    d.past.map Turn.calls = [[(1, ⟨⟨0x0489⟩, 3, [7, 5]⟩)]] ∧ standing d.edits 3 = none ∧
    (∀ t ∈ d.past, t.calls ≠ [] ↔ ∃ header rest, EventFrame.decode t.frame = .ok (header, rest) ∧
      (standing t.edits header.event).isSome) := by
  let f : Frame := .ofBytes
    [26, 241, 181, 132, 0x04, 0x89, 0x04, 0x8a, 0, 0, 0, 3, 0, 0, 0, 2, 7, 5, 9]
  let what : Received := ⟨⟨0x0489⟩, 3, [7, 5]⟩
  let attached : List (Edit Nat) := [.attach 3 1, .attach 3 2]
  let turn : Turn Nat := ⟨f, attached, []⟩
  let idle : Desk Nat := { queue := .new {}, table := [(3, 1)], edits := attached }
  let busy : Desk Nat := { idle with running := true, post := .holding f, arrived := [f] }
  have ready : Reachable {} idle :=
    (Relation.ReflTransGen.single (.edit (fresh {}) (.attach 3 1))).tail (.edit _ (.attach 3 2))
  have taken : Relation.ReflTransGen Step idle busy :=
    (((Relation.ReflTransGen.single (.start idle rfl)).tail (.arrive f rfl)).tail
      (.work rfl)).tail (.work rfl)
  have found : Step busy { busy with post := .found turn 1 what } := by
    have hd : EventTable.dispatch [(3, 1)] f = some (1, what) := by decide +kernel
    exact .work (by simp only [work, busy, idle, hd, turn])
  have past : Relation.ReflTransGen Step { busy with post := .found turn 1 what } _ :=
    ((Relation.ReflTransGen.single (.work rfl)).tail (.edit _ (.detach 3))).tail (.work rfl)
  have run : Reachable {} _ := ((ready.trans taken).tail found).trans past
  exact ⟨_, run, rfl, rfl, rfl, fun t ht => ((dispatched_in_order run).2.1 t ht).2.1⟩

end Desk

end FrameBus
