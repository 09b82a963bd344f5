import FrameBus.Proofs.Queue.Sections
import FrameBus.Queue.Turnstile
import Mathlib.Data.List.Forall2

/-!
# Runs, and what they account for

A run of threads at a queue is a list of moves, and the call of thread `t` is the `t`-th call that
the run makes. A section of either design accounts for its items (`Sound`), and a run of such
sections keeps one order: what pops took out, followed by what is still queued, is what pushes
brought in (`Kept`).
-/

namespace FrameBus.Queue

variable {α : Type}

/-! ## Runs -/

namespace World

/-- A step, by what takes it. -/
inductive Move (α : Type) where
  /-- a new thread makes a call -/
  | enter (call : Call α)
  /-- a thread runs its next section -/
  | run (t pick : Nat)
  /-- a timed wait ends -/
  | expire (t : Nat)
deriving DecidableEq, Repr

def act (w : World α) : Move α → Option (World α)
  | .enter call => some (w.enter call)
  | .run t pick => w.run t pick
  | .expire t => w.expire t

/-- Makes moves one after the other; nothing if one of them cannot be made. -/
def play (w : World α) : List (Move α) → Option (World α)
  | [] => some w
  | m :: ms => (w.act m).bind fun v => v.play ms

def Move.call? : Move α → Option (Call α)
  | .enter call => some call
  | _ => none

/-- The calls that moves make, in the order of their threads. -/
def calls (ms : List (Move α)) : List (Call α) := ms.filterMap Move.call?

theorem step_iff_act {w v : World α} : Step w v ↔ ∃ m, w.act m = some v := by
  constructor
  · rintro (⟨call⟩ | ⟨t, pick, h⟩ | ⟨t, h⟩)
    · exact ⟨.enter call, rfl⟩
    · exact ⟨.run t pick, h⟩
    · exact ⟨.expire t, h⟩
  · rintro ⟨_ | _ | _, h⟩
    · cases h; exact .enter w _
    · exact .run _ _ h
    · exact .expire _ h

theorem play_append (w : World α) (ms ns : List (Move α)) :
    w.play (ms ++ ns) = (w.play ms).bind fun v => v.play ns := by
  induction ms generalizing w with
  | nil => rfl
  | cons m ms ih => simp [play, ih, Option.bind_assoc]

/-- The reachable worlds are those that a run ends in. -/
theorem reachable_iff_play {config : QueueConfig} {w : World α} :
    Reachable config w ↔ ∃ ms, (start config).play ms = some w := by
  constructor
  · intro h
    induction h with
    | start => exact ⟨[], rfl⟩
    | step _ hs ih =>
      obtain ⟨ms, hms⟩ := ih
      obtain ⟨m, hm⟩ := step_iff_act.1 hs
      exact ⟨ms ++ [m], by simp [play_append, hms, play, hm]⟩
  · rintro ⟨ms, h⟩
    have step : ∀ (ms : List (Move α)) (u : World α), Reachable config u → u.play ms = some w →
        Reachable config w := by
      intro ms
      induction ms with
      | nil => intro u hu h; cases h; exact hu
      | cons m ms ih =>
        intro u hu h
        obtain ⟨v, hv, h⟩ := Option.bind_eq_some_iff.1 h
        exact ih v (hu.step (step_iff_act.2 ⟨m, hv⟩)) h
    exact step ms _ .start h

end World

/-! ## Items of calls -/

/-- The item of a push that was let in. -/
def Call.entered : Call α → Stand α → Option α
  | .push a, .counting => some a
  | .push a, .done .accepted => some a
  | _, _ => none

/-- The item that a pop was given. -/
def Call.taken : Call α → Stand α → Option α
  | .pop _, .uncounting a => some a
  | .pop _, .done (.popped a) => some a
  | _, _ => none

/-- The items that `f` finds in the calls and in where their threads stand. -/
def gather (f : Call α → Stand α → Option α) (calls : List (Call α)) (threads : List (Stand α)) :
    List α :=
  (List.zipWith f calls threads).filterMap id

theorem gather_notify {f : Call α → Stand α → Option α} (hf : ∀ call s, f call s.wake = f call s)
    (calls : List (Call α)) (pick : Nat) (l : List (Stand α)) (signal : Signal) :
    gather f calls (World.notify pick l signal) = gather f calls l := by
  have asMap (l : List (Stand α)) :
      List.zipWith f calls l = List.zipWith (fun c g => g c) calls (l.map fun s c => f c s) := by
    simp [List.zipWith_map_right]
  have e : (World.notify pick l signal).map (fun s c => f c s) = l.map fun s c => f c s :=
    World.map_notify (fun s => funext fun c => hf c s) pick l signal
  rw [gather, gather, asMap, e, ← asMap]

theorem gather_enter {f : Call α → Stand α → Option α} (hf : ∀ call, f call (.ready call) = none)
    {calls : List (Call α)} {l : List (Stand α)} (hl : calls.length = l.length) (call : Call α) :
    gather f (calls ++ [call]) (l ++ [.ready call]) = gather f calls l := by
  simp [gather, List.zipWith_append hl, hf]

/-- One thread moves: what it brings is gathered besides. -/
theorem gather_set {f : Call α → Stand α → Option α} {calls : List (Call α)} {l : List (Stand α)}
    {t : Nat} {s e : Stand α} {more : List α} (hs : List.Forall₂ Serves calls l)
    (ht : l[t]? = some s)
    (hf : ∀ call, Serves call s → (f call e).toList = (f call s).toList ++ more) :
    (gather f calls (l.set t e)).Perm (gather f calls l ++ more) := by
  induction hs generalizing t with
  | nil => simp at ht
  | @cons call s' cs l hc hs ih =>
    have asList (s : Stand α) (l : List (Stand α)) :
        gather f (call :: cs) (s :: l) = (f call s).toList ++ gather f cs l := by
      cases h : f call s <;> simp [gather, h]
    cases t with
    | zero =>
      simp only [List.getElem?_cons_zero, Option.some.injEq] at ht
      subst ht
      rw [List.set_cons_zero, asList, asList, hf call hc, List.append_assoc, List.append_assoc]
      exact (List.perm_append_comm).append_left _
    | succ t =>
      rw [List.set_cons_succ, asList, asList, List.append_assoc]
      exact (ih (by simpa using ht)).append_left _

theorem serves_set {calls : List (Call α)} {l : List (Stand α)} {t : Nat} {s e : Stand α}
    (hs : List.Forall₂ Serves calls l) (ht : l[t]? = some s)
    (he : ∀ call, Serves call s → Serves call e) : List.Forall₂ Serves calls (l.set t e) := by
  induction hs generalizing t with
  | nil => simp at ht
  | cons hc hs ih =>
    cases t with
    | zero =>
      simp only [List.getElem?_cons_zero, Option.some.injEq] at ht
      subst ht
      exact .cons (he _ hc) hs
    | succ t => exact .cons hc (ih (by simpa using ht))

theorem serves_notify {calls : List (Call α)} {l : List (Stand α)}
    (hs : List.Forall₂ Serves calls l) (pick : Nat) (signal : Signal) :
    List.Forall₂ Serves calls (World.notify pick l signal) := by
  have one (kind : Stand α → Bool) (n : Nat) :
      List.Forall₂ Serves calls (World.wakeOne kind n l) := by
    induction hs generalizing n with
    | nil => exact .nil
    | cons hc hs ih =>
      unfold World.wakeOne
      split
      · split
        · exact .cons hc.wake hs
        · exact .cons hc (ih _)
      · exact .cons hc (ih _)
  cases signal with
  | nobody => exact hs
  | oneConsumer => exact one _ _
  | oneProducer => exact one _ _
  | allProducers =>
    refine List.forall₂_map_right_iff.2 (hs.imp fun call s h => ?_)
    split
    · exact h.wake
    · exact h
  | everyone => exact List.forall₂_map_right_iff.2 (hs.imp fun call s h => h.wake)

/-! ## What a section keeps -/

/-- A section accounts for its items: for what it lets in, hands out and answers. -/
structure Sound (q : Queue α) (s : Stand α) (e : Effect α) : Prop where
  serves : ∀ call, Serves call s → Serves call e.stand ∧
    (call.entered e.stand).toList = (call.entered s).toList ++ e.accepted ∧
    (call.taken e.stand).toList = (call.taken s).toList ++ e.handed
  order : q.toList ++ e.accepted = e.handed ++ e.queue.toList
  closed : q.isClosed = true → e.queue.isClosed = true ∧ e.accepted = []
  rejected : ∀ a, e.stand = .done (.rejected a) → q.isClosed = true
  drained : e.stand = .done .drained → q.isClosed = true ∧ q.toList = []

theorem Single.sound_of_section {q : Single α} {s : Stand α} {e : Effect α} (h : q.Section s e) :
    Sound (.single q) s e := by
  cases h with
  | reject hs hc =>
    refine ⟨fun call h => ?_, by simp, fun _ => ⟨hc, rfl⟩, fun _ _ => hc, by simp⟩
    obtain rfl := h.eq_of_pushing hs
    cases hs <;> exact ⟨.rejected _, rfl, rfl⟩
  | parkPush hs hc _ =>
    refine ⟨fun call h => ?_, by simp, fun h => ⟨h, rfl⟩, by simp, by simp⟩
    obtain rfl := h.eq_of_pushing hs
    cases hs <;> exact ⟨.parked (by simp), rfl, rfl⟩
  | append hs hc _ =>
    refine ⟨fun call h => ?_, rfl, fun h => absurd h (by simp [isClosed, hc]), by simp, by simp⟩
    obtain rfl := h.eq_of_pushing hs
    cases hs <;> exact ⟨.accepted _, rfl, rfl⟩
  | take hs hi =>
    refine ⟨fun call h => ?_, by simp [toList, hi], fun h => ⟨h, rfl⟩, by simp, by simp⟩
    rcases hs with hs | rfl
    · obtain rfl := h.eq_of_popping hs
      cases hs <;> exact ⟨.popped _ _, rfl, rfl⟩
    · cases h
      exact ⟨.popped _ _, rfl, rfl⟩
  | drain hs hi hc =>
    refine ⟨fun call h => ?_, by simp, fun h => ⟨h, rfl⟩, by simp, fun _ => ⟨hc, hi⟩⟩
    obtain rfl := h.eq_of_popping hs
    cases hs <;> exact ⟨.drained _, rfl, rfl⟩
  | parkPop hs hi hc =>
    refine ⟨fun call h => ?_, by simp, fun h => ⟨h, rfl⟩, by simp, by simp⟩
    obtain rfl := h.eq_of_popping hs
    cases hs <;> exact ⟨.parked (by simp), rfl, rfl⟩
  | timeOut hi =>
    refine ⟨fun call h => ?_, by simp, fun h => ⟨h, rfl⟩, by simp, by simp⟩
    cases h
    exact ⟨.timedOut, rfl, rfl⟩
  | close =>
    refine ⟨fun call h => ?_, by simp [toList, Single.close], fun _ => ⟨rfl, rfl⟩, by simp, by simp⟩
    cases h
    exact ⟨.closed, rfl, rfl⟩

/-- The thread keeps the lock of the front list and has found that list empty. -/
def Stand.isDry : Stand α → Bool
  | .crossing (.pop _) | .parked (.pop _) | .woken (.pop _) | .expired (.pop _) => true
  | _ => false

def Stand.isTaking : Stand α → Bool
  | .taking => true
  | _ => false

def Stand.isUncounting : Stand α → Bool
  | .uncounting _ => true
  | _ => false

namespace Stand

theorem Crossing.isDry {s : Stand α} {timed : Bool} (h : s.Crossing timed) : s.isDry = true := by
  cases h <;> rfl

@[simp] theorem isDry_wake (s : Stand α) : s.wake.isDry = s.isDry := by
  cases s with
  | parked call => cases call <;> rfl
  | _ => rfl

@[simp] theorem isTaking_wake (s : Stand α) : s.wake.isTaking = s.isTaking := by
  cases s <;> rfl

@[simp] theorem isUncounting_wake (s : Stand α) : s.wake.isUncounting = s.isUncounting := by
  cases s <;> rfl

@[simp] theorem holdsBack_wake (s : Stand α) : s.wake.holdsBack = s.holdsBack := by
  cases s <;> rfl

end Stand

theorem Double.sound_of_section {q : Double α} {s : Stand α} {e : Effect α} (h : q.Section s e)
    (dry : s.isDry = true → q.front = []) (laden : s.isTaking = true → q.front ≠ []) :
    Sound (.double q) s e := by
  cases h with
  | reject hs hc =>
    refine ⟨fun call h => ?_, by simp, fun _ => ⟨hc, rfl⟩, fun _ _ => hc, by simp⟩
    obtain rfl := h.eq_of_pushing hs
    cases hs <;> exact ⟨.rejected _, rfl, rfl⟩
  | parkPush hs hc _ =>
    refine ⟨fun call h => ?_, by simp, fun h => ⟨h, rfl⟩, by simp, by simp⟩
    obtain rfl := h.eq_of_pushing hs
    cases hs <;> exact ⟨.parked (by simp), rfl, rfl⟩
  | stage hs hc _ =>
    refine ⟨fun call h => ?_, by simp [toList, Double.stage],
      fun h => absurd h (by simp [isClosed, hc]), by simp, by simp⟩
    obtain rfl := h.eq_of_pushing hs
    cases hs <;> exact ⟨.counting _, rfl, rfl⟩
  | count =>
    refine ⟨fun call h => ?_, by simp [toList, Double.countUp], fun h => ⟨h, rfl⟩, by simp, by simp⟩
    cases h
    exact ⟨.accepted _, rfl, rfl⟩
  | take hs hf =>
    refine ⟨fun call h => ?_, by simp [toList, hf], fun h => ⟨h, rfl⟩, by simp, by simp⟩
    rcases hs with rfl | rfl <;> cases h <;> exact ⟨.uncounting _ _, rfl, rfl⟩
  | cross hf =>
    refine ⟨fun call h => ?_, by simp, fun h => ⟨h, rfl⟩, by simp, by simp⟩
    cases h
    exact ⟨.crossing _, rfl, rfl⟩
  | swap hs hb =>
    have hf : q.front = [] := by
      rcases hs with hs | rfl
      · exact dry hs.isDry
      · exact dry rfl
    refine ⟨fun call h => ?_, by simp [toList, Double.swap, hf], fun h => ⟨h, rfl⟩, by simp,
      by simp⟩
    rcases hs with hs | rfl
    · obtain rfl := h.eq_of_crossing hs
      cases hs <;> exact ⟨.taking _, rfl, rfl⟩
    · cases h
      exact ⟨.taking _, rfl, rfl⟩
  | drain hs hb hc =>
    refine ⟨fun call h => ?_, by simp, fun h => ⟨h, rfl⟩, by simp,
      fun _ => ⟨hc, by simp [toList, hb, dry hs.isDry]⟩⟩
    obtain rfl := h.eq_of_crossing hs
    cases hs <;> exact ⟨.drained _, rfl, rfl⟩
  | parkPop hs hb hc =>
    refine ⟨fun call h => ?_, by simp, fun h => ⟨h, rfl⟩, by simp, by simp⟩
    obtain rfl := h.eq_of_crossing hs
    cases hs <;> exact ⟨.parked (by simp), rfl, rfl⟩
  | timeOut hb =>
    refine ⟨fun call h => ?_, by simp, fun h => ⟨h, rfl⟩, by simp, by simp⟩
    cases h
    exact ⟨.timedOut, rfl, rfl⟩
  | miss hf => exact absurd hf (laden rfl)
  | uncount =>
    refine ⟨fun call h => ?_, by simp [toList, Double.countDown], fun h => ⟨h, rfl⟩, by simp,
      by simp⟩
    cases h
    exact ⟨.popped _ _, rfl, rfl⟩
  | close =>
    refine ⟨fun call h => ?_, by simp [toList, Double.close], fun _ => ⟨rfl, rfl⟩, by simp, by simp⟩
    cases h
    exact ⟨.closed, rfl, rfl⟩

/-- Only the thread that runs is told a new answer. -/
theorem getElem?_notify_done {answer : Answer α} {pick : Nat} {l : List (Stand α)}
    {signal : Signal} {t : Nat} :
    (World.notify pick l signal)[t]? = some (.done answer) ↔ l[t]? = some (.done answer) := by
  have mark (s : Stand α) : Turnstile.answer? s.wake = Turnstile.answer? s := by cases s <;> rfl
  have asMap (l : List (Stand α)) :
      l[t]? = some (.done answer) ↔ (l.map Turnstile.answer?)[t]? = some (some answer) := by
    rw [List.getElem?_map, Option.map_eq_some_iff]
    constructor
    · intro h
      exact ⟨_, h, rfl⟩
    · rintro ⟨s, hs, h⟩
      cases s <;> simp [Turnstile.answer?] at h
      subst h
      exact hs
  rw [asMap, World.map_notify mark, ← asMap]

theorem mem_notify_done {answer : Answer α} {pick : Nat} {l : List (Stand α)} {signal : Signal} :
    Stand.done answer ∈ World.notify pick l signal ↔ Stand.done answer ∈ l := by
  simp only [List.mem_iff_getElem?, getElem?_notify_done]

/-- What every step keeps of the items and the answers, in either design. -/
structure Kept (calls : List (Call α)) (w : World α) : Prop where
  serves : List.Forall₂ Serves calls w.threads
  order : w.accepted = w.handed ++ w.queue.toList
  entered : (gather Call.entered calls w.threads).Perm w.accepted
  taken : (gather Call.taken calls w.threads).Perm w.handed
  rejected : ∀ a, .done (.rejected a) ∈ w.threads → w.queue.isClosed = true
  drained : .done .drained ∈ w.threads → w.queue.isClosed = true ∧ w.queue.toList = []

namespace Kept

variable {calls : List (Call α)} {w : World α}

theorem start (config : QueueConfig) : Kept [] (World.start config : World α) :=
  ⟨.nil, by simp [World.start], .nil, .nil, by simp [World.start], by simp [World.start]⟩

theorem serves_of_getElem? (hk : Kept calls w) {t : Nat} {s : Stand α}
    (ht : w.threads[t]? = some s) : ∃ call, Serves call s := by
  obtain ⟨hn, rfl⟩ := List.getElem?_eq_some_iff.1 ht
  exact ⟨_, hk.serves.get (hk.serves.length_eq ▸ hn) hn⟩

theorem enter (hk : Kept calls w) (call : Call α) : Kept (calls ++ [call]) (w.enter call) := by
  have hl := hk.serves.length_eq
  refine ⟨List.rel_append hk.serves (.cons (.ready call) .nil), hk.order, ?_, ?_, ?_, ?_⟩
  · show (gather Call.entered (calls ++ [call]) (w.threads ++ [.ready call])).Perm w.accepted
    rw [gather_enter (fun c => by cases c <;> rfl) hl]
    exact hk.entered
  · show (gather Call.taken (calls ++ [call]) (w.threads ++ [.ready call])).Perm w.handed
    rw [gather_enter (fun c => by cases c <;> rfl) hl]
    exact hk.taken
  · intro a ha
    exact hk.rejected a (by simpa [World.enter] using ha)
  · intro h
    exact hk.drained (by simpa [World.enter] using h)

/-- A section that accounts for its items. -/
theorem advance (hk : Kept calls w) {t : Nat} {s : Stand α} {e : Effect α}
    (ht : w.threads[t]? = some s) (hs : Sound w.queue s e) (pick : Nat) :
    Kept calls ⟨e.queue, World.notify pick (w.threads.set t e.stand) e.signal,
      w.accepted ++ e.accepted, w.handed ++ e.handed⟩ := by
  have serves := serves_set hk.serves ht fun c h => (hs.serves c h).1
  refine ⟨serves_notify serves _ _, ?_, ?_, ?_, ?_, ?_⟩
  · rw [hk.order, List.append_assoc, hs.order, List.append_assoc]
  · rw [gather_notify (fun c s => by cases c <;> cases s <;> rfl)]
    exact (gather_set hk.serves ht fun c h => (hs.serves c h).2.1).trans
      (hk.entered.append_right _)
  · rw [gather_notify (fun c s => by cases c <;> cases s <;> rfl)]
    exact (gather_set hk.serves ht fun c h => (hs.serves c h).2.2).trans (hk.taken.append_right _)
  · intro a ha
    rcases List.mem_or_eq_of_mem_set (mem_notify_done.1 ha) with ha | ha
    · exact (hs.closed (hk.rejected a ha)).1
    · exact (hs.closed (hs.rejected a ha.symm)).1
  · intro h
    have hq : w.queue.isClosed = true ∧ w.queue.toList = [] := by
      rcases List.mem_or_eq_of_mem_set (mem_notify_done.1 h) with h | h
      · exact hk.drained h
      · exact hs.drained h.symm
    obtain ⟨hc, ha⟩ := hs.closed hq.1
    have ho := hs.order
    rw [hq.2, ha] at ho
    exact ⟨hc, (List.append_eq_nil_iff.1 ho.symm).2⟩

theorem expire (hk : Kept calls w) {t : Nat} (ht : w.threads[t]? = some (.parked (.pop true))) :
    Kept calls { w with threads := w.threads.set t (.expired (.pop true)) } := by
  have hs : Sound w.queue (.parked (.pop true))
      { queue := w.queue, stand := .expired (.pop true) } := by
    refine ⟨fun call h => ?_, by simp, fun h => ⟨h, rfl⟩, by simp, by simp⟩
    cases h
    exact ⟨.expired, rfl, rfl⟩
  simpa [World.notify] using hk.advance ht hs 0

end Kept

end FrameBus.Queue
