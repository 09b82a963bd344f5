import FrameBus.Job.Probe
import FrameBus.Proofs.Frame.Wire
import FrameBus.Proofs.Session.Desk
import FrameBus.Proofs.Stop.Deadlock
import Mathlib.Data.List.Induction

/-!
# Vigils

A listener keeps a loop beside the worker of its session. The worker hands gone the events of the
frames that come, and the handler counts an event before it shows it. The loop looks at the count
now and then; when it has seen enough it leaves, stops the session, and waits for the worker to end.

    worker   checking, waiting, holding f, found what | called what, counted line | checking, ..
    loop     look, look, .., look | stop | drop, when the worker has ended

Every event is shown under its number, in the order in which the frames were looked up. The loop
sees that there were enough and not that there is one too many: a vigil can show any number of
events from the wanted one on (`Vigil.outputs_iff`). Once the session is stopped one event more can
come at the most.

The program's own listener looks by the clock. It shows the first of the events that its session
got, and all of them if no time goes by between (`lines_listened`).
-/

namespace FrameBus

open EventTable (Received)

/-- The events of frames for which a table has a handler. -/
def EventTable.heard {η : Type} (t : EventTable η) (frames : List Frame) : List Received :=
  frames.filterMap fun f => (t.dispatch f).map Prod.snd

/-! ## Steps of a worker -/

namespace Desk

variable {η : Type} {d e : Desk η} {what : Received}

/-- What a step of the worker comes to. -/
inductive Worked (d : Desk η) : Desk η → Prop
  | looks : d.post = .checking →
      Worked d { d with post := if d.running then .waiting else .ended }
  | takes {f : Frame} {q : Queue Frame} : d.post = .waiting → d.queue.poll = (.item f, q) →
      Worked d { d with queue := q, post := .holding f }
  /-- nothing came for a while -/
  | rests : d.post = .waiting → Worked d { d with post := .checking }
  /-- the port is closed -/
  | leaves : d.post = .waiting → Worked d { d with post := .ended }
  /-- the frame is for no handler -/
  | passes {f : Frame} : d.post = .holding f → d.table.dispatch f = none →
      Worked d { d with post := .checking, past := d.past ++ [⟨f, d.edits, []⟩] }
  | finds {f : Frame} {k : η} {what : Received} : d.post = .holding f →
      d.table.dispatch f = some (k, what) →
      Worked d { d with post := .found ⟨f, d.edits, []⟩ k what }
  | calls {t : Turn η} {k : η} {what : Received} : d.post = .found t k what →
      Worked d { d with post := .inside { t with calls := t.calls ++ [(k, what)] } }
  | returns {t : Turn η} : d.post = .inside t →
      Worked d { d with post := .checking, past := d.past ++ [t] }

theorem worked_of_work (hw : d.work = some e) : Worked d e := by
  unfold work at hw
  split at hw
  · cases hw
  · next hp =>
    cases hw
    exact .looks hp
  · next hp =>
    split at hw
    · next taken =>
      cases hw
      exact .takes hp taken
    · cases hw
      exact .rests hp
    · cases hw
      exact .leaves hp
  · next hp =>
    split at hw
    · next nobody =>
      cases hw
      exact .passes hp nobody
    · next found =>
      cases hw
      exact .finds hp found
  · next hp =>
    cases hw
    exact .calls hp
  · next hp =>
    cases hw
    exact .returns hp

theorem work_of_waiting {f : Frame} {q : Queue Frame} (hp : d.post = .waiting)
    (taken : d.queue.poll = (.item f, q)) :
    d.work = some { d with queue := q, post := .holding f } := by
  simp only [work, hp, taken]

theorem work_of_holding {f : Frame} {k : η} (hp : d.post = .holding f)
    (found : d.table.dispatch f = some (k, what)) :
    d.work = some { d with post := .found ⟨f, d.edits, []⟩ k what } := by
  simp only [work, hp, found]

/-- The event that the worker has found a handler for and not handed over. -/
def Post.pending : Post η → List Received
  | .found _ _ what => [what]
  | _ => []

/-- How many events a worker hands over that is to end. -/
def Post.coming : Post η → Nat
  | .waiting | .holding _ | .found _ _ _ => 1
  | _ => 0

/-- How far a worker is from its end. -/
def Post.distance : Post η → Nat
  | .ended => 0
  | .checking => 1
  | .inside _ => 2
  | .found _ _ _ => 5
  | .holding _ => 6
  | .waiting => 7

/-- The frames that were looked up, in order. -/
def looked (d : Desk η) : List Frame := d.turns.map Turn.frame

theorem table_of_work (hw : d.work = some e) : e.table = d.table := by
  cases worked_of_work hw <;> rfl

theorem running_of_work (hw : d.work = some e) : e.running = d.running := by
  cases worked_of_work hw <;> rfl

/-- What the worker finds it has looked up before. -/
theorem heard_of_work (hw : d.work = some e) (free : d.post.pending = []) :
    d.table.heard e.looked = d.table.heard d.looked ++ e.post.pending := by
  cases worked_of_work hw with
  | looks hp =>
    cases d.running <;> simp [looked, turns, hp, Post.turn, Post.pending]
  | takes hp | rests hp | leaves hp | returns hp =>
    simp [looked, turns, hp, Post.turn, Post.pending]
  | passes hp nobody =>
    simp [looked, turns, hp, Post.turn, Post.pending, EventTable.heard, nobody]
  | finds hp found =>
    simp [looked, turns, hp, Post.turn, Post.pending, EventTable.heard, found]
  | calls hp => simp [hp, Post.pending] at free

/-- The worker calls the handler that it has found. -/
theorem inside_of_work (hw : d.work = some e) (found : d.post.pending = [what]) :
    e.looked = d.looked ∧ ∃ t, e.post = .inside t := by
  cases worked_of_work hw with
  | calls hp => exact ⟨by simp [looked, turns, hp, Post.turn], _, rfl⟩
  | looks hp | takes hp | rests hp | leaves hp | passes hp | finds hp | returns hp =>
    rw [hp] at found
    cases found

theorem coming_of_work (hw : d.work = some e) (stopped : d.running = false) :
    e.post.coming ≤ d.post.coming := by
  cases worked_of_work hw with
  | looks => simp [stopped, Post.coming]
  | takes hp | finds hp => simp [hp, Post.coming]
  | rests | leaves | passes | calls | returns => exact Nat.zero_le _

/-- The worker of a session that is stopped comes nearer to its end, most of all by a call. -/
theorem exists_work (stopped : d.running = false) (busy : d.post ≠ .ended) :
    ∃ e, d.work = some e ∧ e.post.distance + 2 * d.post.pending.length < d.post.distance := by
  have moves : d.work ≠ none := by
    cases hp : d.post with
    | ended => exact absurd hp busy
    | checking | found | inside =>
      simp only [work, hp]
      exact Option.some_ne_none _
    | waiting | holding =>
      simp only [work, hp]
      split <;> exact Option.some_ne_none _
  obtain ⟨e, hw⟩ := Option.ne_none_iff_exists'.1 moves
  refine ⟨e, hw, ?_⟩
  cases worked_of_work hw with
  | looks hp => simp [hp, stopped, Post.distance, Post.pending]
  | takes hp | rests hp | leaves hp | passes hp | finds hp | calls hp | returns hp =>
    simp [hp, Post.distance, Post.pending]

end Desk

namespace Probe

/-! ## Vigils -/

/-- Where the handler of a listener stands. -/
inductive Handling where
  | idle
  | called (what : Received)
  /-- the event is counted, and its line is not out yet -/
  | counted (line : String)

/-- How much a handler has still to do. -/
def Handling.distance : Handling → Nat
  | .idle => 0
  | .counted _ => 1
  | .called _ => 2

/-- A listener, with its session and the lines that are out. -/
structure Vigil where
  desk : Desk Unit
  /-- the count with the lines that go with it, and where the loop stands -/
  listening : Listening
  handling : Handling := .idle
  shown : List String := []

/-- The lines of events, numbered from 1. -/
def numbered (whats : List Received) : List String :=
  whats.mapIdx fun i what => eventLine (i + 1) what

@[simp] theorem length_numbered (whats : List Received) :
    (numbered whats).length = whats.length :=
  List.length_mapIdx

theorem numbered_concat (whats : List Received) (what : Received) :
    numbered (whats ++ [what]) = numbered whats ++ [eventLine (whats.length + 1) what] :=
  List.mapIdx_concat

/-- The table of a session with a handler for each of some events. -/
def handlers (events : List UInt32) : EventTable Unit :=
  events.foldl (fun t event => t.attach event ()) []

/-- The calls that lead to that table. -/
def attaching (events : List UInt32) : List (Edit Unit) :=
  events.map fun event => .attach event ()

theorem follows_attaching (events : List UInt32) :
    EventTable.Follows (handlers events) (attaching events) := by
  induction events using List.reverseRecOn with
  | nil => exact EventTable.follows_nil
  | append_singleton events event ih =>
    rw [handlers, attaching, List.foldl_append, List.map_append]
    exact ih.apply (.attach event ())

theorem handler?_handlers (events : List UInt32) (event : UInt32) :
    (handlers events).handler? event = if event ∈ events then some () else none := by
  induction events using List.reverseRecOn with
  | nil => rfl
  | append_singleton events e ih =>
    rw [handlers, List.foldl_append, List.foldl_cons, List.foldl_nil, EventTable.handler?_attach]
    rw [handlers] at ih
    rw [ih]
    by_cases before : event ∈ events
    · simp [before]
    · simp [before, eq_comm]

namespace Vigil

variable {config : QueueConfig} {wanted : Nat} {events : List UInt32} {v w : Vigil}

/-- A listener whose session was started. -/
def start (config : QueueConfig) (wanted : Nat) (events : List UInt32) : Vigil where
  desk :=
    { queue := .new config, table := handlers events, running := true, post := .checking
      edits := attaching events }
  listening := { wanted }

inductive Step : Vigil → Vigil → Prop
  /-- the worker goes on, and is not at the handler -/
  | work {v : Vigil} {d : Desk Unit} : v.handling = .idle → v.desk.post.pending = [] →
      v.desk.work = some d → Step v { v with desk := d }
  | call {v : Vigil} {d : Desk Unit} {what : Received} : v.desk.post.pending = [what] →
      v.desk.work = some d → Step v { v with desk := d, handling := .called what }
  | count {v : Vigil} {what : Received} : v.handling = .called what →
      Step v { v with
        listening := v.listening.step (.event what)
        handling := .counted (eventLine (v.listening.lines.length + 1) what) }
  | print {v : Vigil} {line : String} : v.handling = .counted line →
      Step v { v with handling := .idle, shown := v.shown ++ [line] }
  /-- a frame comes to the session's port -/
  | arrive {v : Vigil} {q : Queue Frame} (f : Frame) : v.desk.queue.offer f = .accepted q →
      Step v { v with desk := { v.desk with queue := q, arrived := v.desk.arrived ++ [f] } }
  | look {v : Vigil} : v.listening.left = false →
      Step v { v with listening := v.listening.step .look }
  | stop {v : Vigil} : v.listening.left = true →
      Step v { v with desk := { v.desk with running := false } }
  /-- the worker has ended -/
  | drop {v : Vigil} : v.listening.left = true → v.desk.running = false → v.desk.post = .ended →
      Step v { v with listening := v.listening.step .drop }

def Reaches : Vigil → Vigil → Prop := Relation.ReflTransGen Step

def Reachable (config : QueueConfig) (wanted : Nat) (events : List UInt32) : Vigil → Prop :=
  Reaches (start config wanted events)

/-! ## What every vigil keeps -/

/-- Events that were looked up and are not counted. -/
def due (v : Vigil) : List Received :=
  v.desk.post.pending ++ match v.handling with
    | .called what => [what]
    | _ => []

/-- Lines that were counted and are not out. -/
def late (v : Vigil) : List String :=
  match v.handling with
  | .counted line => [line]
  | _ => []

structure Faithful (wanted : Nat) (events : List UInt32) (v : Vigil) : Prop where
  dutiful : v.desk.Dutiful
  table : v.desk.table = handlers events
  wants : v.listening.wanted = wanted
  /-- what was looked up is counted, in order -/
  told : ∃ whats, (handlers events).heard v.desk.looked = whats ++ v.due ∧
    v.listening.lines = numbered whats
  out : v.listening.lines = v.shown ++ v.late
  /-- the handler runs while the worker is inside -/
  inside : v.handling ≠ .idle → ∃ t, v.desk.post = .inside t
  left : v.listening.left = true → 0 < wanted ∧ wanted ≤ v.listening.lines.length
  dropped : v.listening.dropped = true →
    v.listening.left = true ∧ v.desk.post = .ended ∧ v.desk.running = false

theorem faithful_start (config : QueueConfig) (wanted : Nat) (events : List UInt32) :
    Faithful wanted events (start config wanted events) where
  dutiful :=
    { follows := follows_attaching events
      order := by simp [start, Desk.turns, Desk.Post.turn, Desk.Post.hand]
      past := by simp [start]
      now := trivial
      moments := by simp [start, Desk.turns, Desk.Post.turn]
      ended := nofun }
  table := rfl
  wants := rfl
  told := ⟨[], rfl, rfl⟩
  out := rfl
  inside h := absurd rfl h
  left := nofun
  dropped := nofun

namespace Faithful

variable {d : Desk Unit} {what : Received}

theorem idle_of_outside (h : Faithful wanted events v) (outside : ∀ t, v.desk.post ≠ .inside t) :
    v.handling = .idle := by
  by_contra busy
  obtain ⟨t, within⟩ := h.inside busy
  exact outside t within

theorem idle_of_pending (h : Faithful wanted events v) (found : v.desk.post.pending = [what]) :
    v.handling = .idle := by
  refine h.idle_of_outside fun t within => ?_
  rw [within] at found
  cases found

theorem idle_of_dropped (h : Faithful wanted events v) (gone : v.listening.dropped = true) :
    v.handling = .idle := by
  refine h.idle_of_outside fun t within => ?_
  rw [(h.dropped gone).2.1] at within
  cases within

/-- A worker that has ended does nothing more. -/
theorem lasting (h : Faithful wanted events v) (going : v.desk.post ≠ .ended) :
    v.listening.dropped = false := by
  rw [← Bool.not_eq_true]
  exact fun gone => going (h.dropped gone).2.1

theorem lasting_of_work (h : Faithful wanted events v) (hw : v.desk.work = some d) :
    v.listening.dropped = false := by
  apply h.lasting
  intro ended
  rw [Desk.work, ended] at hw
  cases hw

theorem work (h : Faithful wanted events v) (idle : v.handling = .idle)
    (free : v.desk.post.pending = []) (hw : v.desk.work = some d) :
    Faithful wanted events { v with desk := d } := by
  obtain ⟨whats, told, lines⟩ := h.told
  have heard := Desk.heard_of_work hw free
  rw [h.table, told] at heard
  have lasting := h.lasting_of_work hw
  refine { h with
    dutiful := Desk.dutiful_of_work h.dutiful hw
    table := (Desk.table_of_work hw).trans h.table
    told := ⟨whats, ?_, lines⟩
    inside := fun busy => absurd idle busy
    dropped := fun gone => Bool.noConfusion (lasting.symm.trans gone) }
  simpa [due, idle, free] using heard

theorem call (h : Faithful wanted events v) (found : v.desk.post.pending = [what])
    (hw : v.desk.work = some d) :
    Faithful wanted events { v with desk := d, handling := .called what } := by
  obtain ⟨whats, told, lines⟩ := h.told
  obtain ⟨looked, t, within⟩ := Desk.inside_of_work hw found
  have idle := h.idle_of_pending found
  have lasting := h.lasting_of_work hw
  refine { h with
    dutiful := Desk.dutiful_of_work h.dutiful hw
    table := (Desk.table_of_work hw).trans h.table
    told := ⟨whats, ?_, lines⟩
    out := by simpa [late, idle] using h.out
    inside := fun _ => ⟨t, within⟩
    dropped := fun gone => Bool.noConfusion (lasting.symm.trans gone) }
  -- what was found is in the handler's hands now
  simp only [due, found, idle, List.append_nil] at told
  simp only [due, looked, within, Desk.Post.pending, List.nil_append]
  exact told

theorem count (h : Faithful wanted events v) (called : v.handling = .called what) :
    Faithful wanted events { v with
      listening := v.listening.step (.event what)
      handling := .counted (eventLine (v.listening.lines.length + 1) what) } := by
  obtain ⟨whats, told, lines⟩ := h.told
  obtain ⟨t, within⟩ := h.inside (by simp [called])
  have pending : v.desk.post.pending = [] := by rw [within]; rfl
  have shown := h.out
  simp only [due, pending, called, List.nil_append] at told
  simp only [late, called, List.append_nil] at shown
  have lasting := h.lasting (by rw [within]; exact nofun)
  have counted : v.listening.step (.event what) = { v.listening with
      lines := v.listening.lines ++ [eventLine (v.listening.lines.length + 1) what] } := by
    simp [Listening.step, lasting]
  rw [counted]
  refine { h with
    told := ⟨whats ++ [what], ?_, ?_⟩, out := ?_, inside := fun _ => ⟨t, within⟩
    left := fun left => ?_ }
  · simpa [due, pending] using told
  · show v.listening.lines ++ _ = _
    rw [numbered_concat, lines, length_numbered]
  · show v.listening.lines ++ _ = v.shown ++ _
    rw [shown]
    rfl
  · obtain ⟨some_wanted, enough⟩ := h.left left
    refine ⟨some_wanted, Nat.le_trans enough ?_⟩
    simp

theorem print {line : String} (h : Faithful wanted events v)
    (counted : v.handling = .counted line) :
    Faithful wanted events { v with handling := .idle, shown := v.shown ++ [line] } := by
  obtain ⟨whats, told, lines⟩ := h.told
  have shown := h.out
  simp only [late, counted] at shown
  simp only [due, counted] at told
  exact { h with
    told := ⟨whats, told, lines⟩, out := by simpa [late] using shown
    inside := fun busy => absurd rfl busy }

theorem look (h : Faithful wanted events v) :
    Faithful wanted events { v with listening := v.listening.step .look } := by
  refine { h with told := h.told, left := fun left => ?_, dropped := fun gone => ?_ }
  · have seen : v.listening.left = true ∨ v.listening.enough = true := by
      simpa [Listening.step] using left
    rcases seen with left | enough
    · exact h.left left
    · simp only [Listening.enough, Bool.and_eq_true, decide_eq_true_eq, h.wants] at enough
      exact enough
  · obtain ⟨left, rest⟩ := h.dropped gone
    exact ⟨by simp [Listening.step, left], rest⟩

theorem step (h : Faithful wanted events v) (s : Step v w) : Faithful wanted events w := by
  cases s with
  | work idle free hw => exact h.work idle free hw
  | call found hw => exact h.call found hw
  | count called => exact h.count called
  | print counted => exact h.print counted
  | look => exact h.look
  | arrive f taken =>
    exact { h with dutiful := Desk.dutiful_of_step h.dutiful (.arrive f taken), told := h.told }
  | stop left =>
    have dutiful := Desk.dutiful_of_step h.dutiful (.stop _)
    refine { h with dutiful, told := h.told, dropped := fun gone => ?_ }
    obtain ⟨left, ended, -⟩ := h.dropped gone
    exact ⟨left, ended, rfl⟩
  | drop left still ended =>
    exact { h with told := h.told, dropped := fun _ => ⟨left, ended, still⟩ }

end Faithful

theorem Faithful.reaches (h : Faithful wanted events v) (run : Reaches v w) :
    Faithful wanted events w := by
  induction run with
  | refl => exact h
  | tail _ s ih => exact ih.step s

/-! ## After the end -/

/-- A vigil that is over shows nothing more. -/
theorem Faithful.shown_of_dropped (h : Faithful wanted events v)
    (gone : v.listening.dropped = true) (s : Step v w) : w.shown = v.shown := by
  cases s with
  | print counted =>
    have idle := h.idle_of_dropped gone
    rw [counted] at idle
    cases idle
  | work | call | count | arrive | look | stop | drop => rfl

/-- How many events can still be counted when the session is stopped. -/
def coming (v : Vigil) : Nat :=
  v.desk.post.coming + match v.handling with
    | .called _ => 1
    | _ => 0

theorem Faithful.coming_le (h : Faithful wanted events v) : v.coming ≤ 1 := by
  cases hh : v.handling with
  | idle | counted =>
    simp only [coming, hh]
    cases v.desk.post <;> simp [Desk.Post.coming]
  | called what =>
    obtain ⟨t, within⟩ := h.inside (by simp [hh])
    simp [coming, hh, within, Desk.Post.coming]

/-- What is counted was still to come. -/
theorem counted_of_step (stopped : v.desk.running = false) (s : Step v w) : w.desk.running = false ∧
      w.listening.lines.length + w.coming ≤ v.listening.lines.length + v.coming := by
  cases s with
  | work idle free hw =>
    have fewer := Desk.coming_of_work hw stopped
    refine ⟨(Desk.running_of_work hw).trans stopped, ?_⟩
    simp only [coming]
    omega
  | @call d what found hw =>
    obtain ⟨-, t, within⟩ := Desk.inside_of_work hw found
    refine ⟨(Desk.running_of_work hw).trans stopped, ?_⟩
    have before : v.desk.post.coming = 1 := by
      cases hp : v.desk.post <;> simp [hp, Desk.Post.pending, Desk.Post.coming] at found ⊢
    have after : d.post.coming = 0 := by rw [within]; rfl
    simp only [coming, before, after]
    omega
  | count called =>
    refine ⟨stopped, ?_⟩
    simp only [coming, called, Listening.step]
    split
    · omega
    · simp only [List.length_append, List.length_singleton]
      omega
  | print counted => exact ⟨stopped, by simp [coming, counted]⟩
  | arrive | look | drop => exact ⟨stopped, Nat.le_refl _⟩
  | stop => exact ⟨rfl, Nat.le_refl _⟩

/-- When the session is stopped, one event more is counted at the most. -/
theorem Faithful.one_more (h : Faithful wanted events v) (stopped : v.desk.running = false)
    (run : Reaches v w) : w.listening.lines.length ≤ v.listening.lines.length + 1 := by
  have less : w.desk.running = false ∧
      w.listening.lines.length + w.coming ≤ v.listening.lines.length + v.coming := by
    induction run with
    | refl => exact ⟨stopped, Nat.le_refl _⟩
    | tail _ s ih =>
      obtain ⟨still, less⟩ := counted_of_step ih.1 s
      exact ⟨still, Nat.le_trans less ih.2⟩
  have := h.coming_le
  omega

/-! ## The end -/

/-- How far a vigil is from the end of its worker. -/
def distance (v : Vigil) : Nat := v.desk.post.distance + v.handling.distance

/-- When the session is stopped, the worker comes nearer to its end. -/
theorem exists_step (stopped : v.desk.running = false)
    (busy : v.desk.post ≠ .ended ∨ v.handling ≠ .idle) : ∃ w, Step v w ∧
      w.desk.running = false ∧ w.listening.left = v.listening.left ∧ w.distance < v.distance := by
  cases hh : v.handling with
  | called what =>
    refine ⟨_, .count hh, stopped, ?_, by simp [distance, hh, Handling.distance]⟩
    simp only [Listening.step]
    split <;> rfl
  | counted line =>
    exact ⟨_, .print hh, stopped, rfl, by simp [distance, hh, Handling.distance]⟩
  | idle =>
    obtain ⟨d, hw, nearer⟩ := Desk.exists_work stopped (busy.resolve_right fun h => h hh)
    have still := (Desk.running_of_work hw).trans stopped
    cases found : v.desk.post.pending with
    | nil =>
      refine ⟨_, .work hh found hw, still, rfl, ?_⟩
      simp only [distance]
      omega
    | cons what more =>
      have one : more = [] := by
        cases hp : v.desk.post <;> simp [hp, Desk.Post.pending] at found
        exact found.2
      subst one
      refine ⟨_, .call found hw, still, rfl, ?_⟩
      simp only [distance, hh, Handling.distance]
      rw [found, List.length_singleton] at nearer
      omega

theorem exists_drop_of_stopped (left : v.listening.left = true)
    (stopped : v.desk.running = false) : ∃ w, Reaches v w ∧ w.listening.dropped = true := by
  induction hn : v.distance using Nat.strongRecOn generalizing v with
  | ind n ih =>
    by_cases busy : v.desk.post ≠ .ended ∨ v.handling ≠ .idle
    · obtain ⟨u, step, still, same, nearer⟩ := exists_step stopped busy
      obtain ⟨w, run, gone⟩ := ih _ (hn ▸ nearer) (same.trans left) still rfl
      exact ⟨w, Relation.ReflTransGen.head step run, gone⟩
    · have ended : v.desk.post = .ended := by
        by_contra h
        exact busy (.inl h)
      exact ⟨_, .single (.drop left stopped ended), left⟩

/-- A loop that has left comes to its end. -/
theorem exists_drop (left : v.listening.left = true) :
    ∃ w, Reaches v w ∧ w.listening.dropped = true := by
  have stops : Step v _ := .stop left
  obtain ⟨w, run, gone⟩ :=
    exists_drop_of_stopped (v := { v with desk := { v.desk with running := false } }) left rfl
  exact ⟨w, Relation.ReflTransGen.head stops run, gone⟩

/-! ## Vigils that show a given number of events -/

/-- A vigil that has shown some events, and is ready for the next one. -/
structure Ready (config : QueueConfig) (wanted : Nat) (events : List UInt32)
    (whats : List Received) (v : Vigil) : Prop where
  queue : v.desk.queue = .new config
  table : v.desk.table = handlers events
  running : v.desk.running = true
  post : v.desk.post = .checking
  handling : v.handling = .idle
  listening : v.listening = { wanted, lines := numbered whats }
  shown : v.shown = numbered whats

theorem ready_start (config : QueueConfig) (wanted : Nat) (events : List UInt32) :
    Ready config wanted events [] (start config wanted events) :=
  ⟨rfl, rfl, rfl, rfl, rfl, rfl, rfl⟩

/-- A frame that carries an event is looked up for its handler. -/
theorem dispatch_handlers {what : Received} {f : Frame} (wants : what.event ∈ events)
    (fits : what.payload.length < 0x100000000)
    (carries : f.window = EventFrame.bytes what.source what.source what.event what.payload) :
    (handlers events).dispatch f = some ((), what) := by
  obtain ⟨header, rest, decoded, source, -, event, payload⟩ :=
    EventFrame.carries_of_bytes fits carries
  simp only [EventTable.dispatch, decoded, event, handler?_handlers, if_pos wants, Option.map_some,
    source, payload]

/-- A frame comes, is taken and looked up, and its event is counted and shown. -/
theorem Ready.next {whats : List Received} (h : Ready config wanted events whats v)
    {what : Received} (wants : what.event ∈ events) (fits : what.payload.length < 0x100000000) :
    ∃ w, Reaches v w ∧ Ready config wanted events (whats ++ [what]) w := by
  obtain ⟨⟨_, _, _, _, edits, arrived, past⟩, _, _, _⟩ := v
  obtain ⟨rfl, rfl, rfl, rfl, rfl, rfl, rfl⟩ := h
  let v : Vigil := ⟨⟨.new config, handlers events, true, .checking, edits, arrived, past⟩,
    { wanted, lines := numbered whats }, .idle, numbered whats⟩
  let f : Frame := .ofBytes (EventFrame.bytes what.source what.source what.event what.payload)
  have found : (handlers events).dispatch f = some ((), what) := dispatch_handlers wants fits rfl
  have free : (Queue.new config : Queue Frame).offer f = .accepted ((Queue.new config).add f) := by
    simp [Queue.offer, Queue.isFull_new]
  have taken := Queue.poll_add_new config f
  have comes : Step v _ := .arrive f free
  have waits : Reaches v _ := (Relation.ReflTransGen.single comes).tail (.work rfl rfl rfl)
  have holds := waits.tail (.work rfl rfl (Desk.work_of_waiting rfl taken))
  have calls := (holds.tail (.work rfl rfl (Desk.work_of_holding rfl found))).tail (.call rfl rfl)
  have shows := ((calls.tail (.count rfl)).tail (.print rfl)).tail (.work rfl rfl rfl)
  exact ⟨_, shows, by constructor <;> simp [v, Listening.step, numbered_concat]⟩

theorem exists_ready (config : QueueConfig) (wanted : Nat) {whats : List Received}
    (wants : ∀ what ∈ whats, what.event ∈ events ∧ what.payload.length < 0x100000000) :
    ∃ v, Reachable config wanted events v ∧ Ready config wanted events whats v := by
  induction whats using List.reverseRecOn with
  | nil => exact ⟨_, .refl, ready_start config wanted events⟩
  | append_singleton whats what ih =>
    obtain ⟨v, run, ready⟩ := ih fun x hx => wants x (List.mem_append_left _ hx)
    obtain ⟨w, more, ready⟩ := ready.next (wants what (by simp)).1 (wants what (by simp)).2
    exact ⟨w, run.trans more, ready⟩

/-- The loop looks once, and ends the session. -/
theorem Ready.drop {whats : List Received} (h : Ready config wanted events whats v)
    (some_wanted : 0 < wanted) (enough : wanted ≤ whats.length) :
    ∃ w, Reaches v w ∧ w.listening.dropped = true ∧ w.shown = numbered whats := by
  obtain ⟨⟨queue, table, _, _, edits, arrived, past⟩, _, _, _⟩ := v
  obtain ⟨rfl, rfl, rfl, rfl, rfl, rfl, rfl⟩ := h
  let v : Vigil := ⟨⟨.new config, handlers events, true, .checking, edits, arrived, past⟩,
    { wanted, lines := numbered whats }, .idle, numbered whats⟩
  have seen : v.listening.step .look = { v.listening with left := true } := by
    simp [v, Listening.step, Listening.enough, some_wanted, enough]
  have looks : Step v _ := .look rfl
  rw [seen] at looks
  have stops : Reaches v _ := (Relation.ReflTransGen.single looks).tail (.stop rfl)
  have drops := (stops.tail (.work rfl rfl rfl)).tail (.drop rfl rfl rfl)
  exact ⟨_, drops, rfl, rfl⟩

/-! ## The law of vigils -/

/-- What is heard has one of the asked events, and a payload that a header can declare. -/
theorem wanted_of_heard {frames : List Frame} {what : Received}
    (h : what ∈ (handlers events).heard frames) :
    what.event ∈ events ∧ what.payload.length < 0x100000000 := by
  obtain ⟨f, -, hf⟩ := List.mem_filterMap.1 h
  obtain ⟨⟨k, other⟩, found, rfl⟩ := Option.map_eq_some_iff.1 hf
  obtain ⟨header, rest, -, standing, -, event, -, length⟩ :=
    (EventTable.dispatch_eq_some_iff (follows_attaching events)).1 found
  rw [← (follows_attaching events).handler, handler?_handlers] at standing
  refine ⟨?_, length ▸ header.length.toNat_lt⟩
  by_contra other
  rw [← event, if_neg other] at standing
  cases standing

/-- What the lines of a vigil have to do with the frames that came. -/
structure InOrder (wanted : Nat) (events : List UInt32) (v : Vigil) : Prop where
  /-- the frames are looked up in the order in which they came -/
  arrived : ∃ rest, v.desk.arrived = v.desk.looked ++ rest
  /-- their events are shown in that order, numbered from 1; the last one may be late -/
  shown : ∃ late, numbered ((handlers events).heard v.desk.looked) = v.shown ++ late ∧
    late.length ≤ 1
  /-- the loop leaves when there are enough -/
  left : v.listening.left = true → 0 < wanted ∧ wanted ≤ v.listening.lines.length
  /-- then it comes to its end -/
  ends : v.listening.left = true → ∃ w, Reaches v w ∧ w.listening.dropped = true
  /-- one event more is counted at the most when it has stopped the session -/
  stopped : v.desk.running = false → ∀ w, Reaches v w →
    w.listening.lines.length ≤ v.listening.lines.length + 1
  /-- at the end all is shown that was looked up, and nothing comes after it -/
  dropped : v.listening.dropped = true →
    v.shown = numbered ((handlers events).heard v.desk.looked) ∧ wanted ≤ v.shown.length ∧
      ∀ w, Step v w → w.shown = v.shown

/-- One event at the most is looked up and not shown: it is not counted yet, or its line is late. -/
theorem Faithful.behind (h : Faithful wanted events v) :
    v.due = [] ∧ v.late.length ≤ 1 ∨ (∃ what, v.due = [what]) ∧ v.late = [] := by
  cases hh : v.handling with
  | idle =>
    simp only [due, late, hh, List.append_nil]
    cases v.desk.post <;> simp [Desk.Post.pending]
  | called what =>
    obtain ⟨t, within⟩ := h.inside (by simp [hh])
    simp [due, late, hh, within, Desk.Post.pending]
  | counted line =>
    obtain ⟨t, within⟩ := h.inside (by simp [hh])
    simp [due, late, hh, within, Desk.Post.pending]

theorem Faithful.inOrder (h : Faithful wanted events v) : InOrder wanted events v := by
  obtain ⟨whats, told, lines⟩ := h.told
  have out := h.out
  refine {
    arrived := ⟨_, h.dutiful.order⟩
    shown := ?_
    left := h.left
    ends := exists_drop
    stopped := fun stopped w run => h.one_more stopped run
    dropped := fun gone => ?_ }
  · rw [told]
    rcases h.behind with ⟨counted, one⟩ | ⟨⟨what, next⟩, none_late⟩
    · rw [counted, List.append_nil, ← lines, out]
      exact ⟨v.late, rfl, one⟩
    · rw [none_late, List.append_nil] at out
      rw [next, numbered_concat, ← lines, out]
      exact ⟨_, rfl, Nat.le_refl 1⟩
  · obtain ⟨left, ended, -⟩ := h.dropped gone
    have idle := h.idle_of_dropped gone
    simp only [due, idle, ended, Desk.Post.pending, List.append_nil] at told
    simp only [late, idle, List.append_nil] at out
    have all : v.shown = numbered ((handlers events).heard v.desk.looked) := by
      rw [told, ← lines, out]
    exact ⟨all, out ▸ (h.left left).2, fun w s => h.shown_of_dropped gone s⟩

theorem Reachable.faithful (h : Reachable config wanted events v) : Faithful wanted events v :=
  (faithful_start config wanted events).reaches h

/-- **Every vigil shows the events in the order of their frames, numbered from 1, and leaves when
there are enough; what one can show in the end is any number of wanted events that is not less.** -/
theorem outputs_iff (config : QueueConfig) (wanted : Nat) (events : List UInt32) :
    (∀ v, Reachable config wanted events v → InOrder wanted events v) ∧
    ∀ lines, (∃ v, Reachable config wanted events v ∧ v.listening.dropped = true ∧
        v.shown = lines) ↔
      0 < wanted ∧ ∃ whats : List Received, wanted ≤ whats.length ∧ lines = numbered whats ∧
        ∀ what ∈ whats, what.event ∈ events ∧ what.payload.length < 0x100000000 := by
  refine ⟨fun v h => h.faithful.inOrder, fun lines => ⟨?_, ?_⟩⟩
  · rintro ⟨v, h, gone, rfl⟩
    have inOrder := h.faithful.inOrder
    obtain ⟨all, enough, -⟩ := inOrder.dropped gone
    refine ⟨(inOrder.left (h.faithful.dropped gone).1).1, _, ?_, all, fun _ => wanted_of_heard⟩
    rwa [all, length_numbered] at enough
  · rintro ⟨some_wanted, whats, enough, rfl, wants⟩
    obtain ⟨v, run, ready⟩ := exists_ready config wanted wants
    obtain ⟨w, more, gone, shown⟩ := ready.drop some_wanted enough
    exact ⟨w, run.trans more, gone, shown⟩

/-- A listener that is to stop after one event shows two. -/
theorem two_shown_for_one : ∃ v, Reachable {} 1 [7] v ∧ v.listening.dropped = true ∧
    v.shown = ["[1] 1.2.5 0x00000007 2 bytes \"hi\"\n", "[2] 1.2.5 0x00000007 2 bytes 00 ff\n"] ∧
    ¬ v.shown.length ≤ 1 := by
  let whats : List Received := [⟨⟨0x8105⟩, 7, [0x68, 0x69]⟩, ⟨⟨0x8105⟩, 7, [0x00, 0xFF]⟩]
  have wants : ∀ what ∈ whats, what.event ∈ [7] ∧ what.payload.length < 0x100000000 := by decide
  obtain ⟨v, run, ready⟩ := exists_ready {} 1 wants
  obtain ⟨w, more, gone, shown⟩ := ready.drop (by decide) (by decide)
  refine ⟨w, run.trans more, gone, ?_, ?_⟩
  · rw [shown]
    decide +kernel
  · rw [shown, length_numbered]
    decide

end Vigil

/-! ## The program's listener -/

namespace Listening

/-- The events among what happens to a listener. -/
def events (hs : List Happening) : List Received :=
  hs.filterMap fun
    | .event what => some what
    | _ => none

/-- A listener after what happened to it. -/
structure Told (wanted : Nat) (hs : List Happening) (l : Listening) : Prop where
  wanted_eq : l.wanted = wanted
  /-- the first events are shown; when the listener is not dropped, all -/
  lines : ∃ whats late, events hs = whats ++ late ∧ l.lines = numbered whats ∧
    (l.dropped = false → late = [])
  left : l.left = true → 0 < wanted ∧ wanted ≤ l.lines.length
  dropped : l.dropped = true → l.left = true

variable {wanted : Nat} {hs : List Happening} {l : Listening}

theorem events_append (hs ks : List Happening) : events (hs ++ ks) = events hs ++ events ks :=
  List.filterMap_append

theorem Told.event (h : Told wanted hs l) (what : Received) :
    Told wanted (hs ++ [.event what]) (l.step (.event what)) := by
  obtain ⟨whats, late, all, lines, early⟩ := h.lines
  have more : events (hs ++ [.event what]) = whats ++ late ++ [what] := by
    rw [events_append, all]
    rfl
  cases gone : l.dropped with
  | true =>
    have same : l.step (.event what) = l := if_pos gone
    rw [same]
    refine ⟨h.wanted_eq, ⟨whats, late ++ [what], by rw [more, List.append_assoc], lines,
      fun live => ?_⟩, h.left, h.dropped⟩
    rw [gone] at live
    cases live
  | false =>
    obtain rfl := early gone
    have shows : (l.step (.event what)).lines = numbered (whats ++ [what]) := by
      simp only [Listening.step, gone, Bool.false_eq_true, if_false, numbered_concat, lines,
        length_numbered]
    have same : (l.step (.event what)).left = l.left := by simp [Listening.step, gone]
    refine ⟨by simp [Listening.step, gone, h.wanted_eq],
      ⟨whats ++ [what], [], by rw [more]; simp, shows, fun _ => rfl⟩, fun left => ?_, ?_⟩
    · obtain ⟨some_wanted, enough⟩ := h.left (same ▸ left)
      rw [lines, length_numbered] at enough
      rw [shows, length_numbered, List.length_append]
      exact ⟨some_wanted, Nat.le_add_right_of_le enough⟩
    · simp [Listening.step, gone]

theorem Told.look (h : Told wanted hs l) : Told wanted (hs ++ [.look]) (l.step .look) := by
  have same : events (hs ++ [.look]) = events hs := by
    rw [events_append]
    exact List.append_nil _
  refine ⟨h.wanted_eq, same ▸ h.lines, fun left => ?_, fun gone => ?_⟩
  · simp only [Listening.step, Bool.or_eq_true, enough, Bool.and_eq_true, decide_eq_true_eq,
      h.wanted_eq] at left
    exact left.elim h.left id
  · simp [Listening.step, h.dropped gone]

theorem Told.drop (h : Told wanted hs l) : Told wanted (hs ++ [.drop]) (l.step .drop) := by
  obtain ⟨whats, late, all, lines, early⟩ := h.lines
  have same : events (hs ++ [.drop]) = events hs := by
    rw [events_append]
    exact List.append_nil _
  refine ⟨h.wanted_eq, ⟨whats, late, same.trans all, lines, fun live => early ?_⟩, h.left, id⟩
  have stays : l.left = false := live
  by_contra gone
  rw [h.dropped (by simpa using gone)] at stays
  cases stays

theorem told_run (wanted : Nat) (hs : List Happening) :
    Told wanted hs (({ wanted } : Listening).run hs) := by
  induction hs using List.reverseRecOn with
  | nil => exact ⟨rfl, ⟨[], [], rfl, rfl, fun _ => rfl⟩, by simp [run], by simp [run]⟩
  | append_singleton hs k ih =>
    rw [run_append]
    cases k with
    | event what => exact ih.event what
    | look => exact ih.look
    | drop => exact ih.drop

end Listening

/-- The events of a listener are what its session's handlers got. -/
theorem events_happenings (n : Network) (probe : FrameBus.Probe) (clock : Nat) :
    Listening.events (Job.Probe.happenings probe clock n.log.reverse) =
      (probe.deeds n).map Prod.fst := by
  unfold FrameBus.Probe.deeds
  induction n.log.reverse generalizing clock with
  | nil => rfl
  | cons h log ih =>
    cases h with
    | handled s what deed =>
      by_cases own : s = probe.session
      · simp only [Job.Probe.happenings, own, if_true, List.filterMap_cons, List.map_cons]
        exact congrArg (what :: ·) (ih clock)
      · simp only [Job.Probe.happenings, own, if_false, List.filterMap_cons]
        exact ih clock
    | passed time =>
      simp only [Job.Probe.happenings, Listening.events_append, List.filterMap_cons]
      rw [ih]
      split <;> rfl
    | transmitted gateway hop bytes result => exact ih clock
    | heard listener bytes => exact ih clock

/-- Events one after another are shown as they come. -/
theorem run_events (wanted : Nat) (whats : List Received) :
    ({ wanted } : Listening).run (whats.map .event) = { wanted, lines := numbered whats } := by
  induction whats using List.reverseRecOn with
  | nil => rfl
  | append_singleton whats what ih =>
    rw [List.map_append, Listening.run_append, ih, numbered_concat]
    simp [Listening.run, Listening.step]

/-- While no time goes by, the loop does not look. -/
theorem happenings_of_burst (probe : FrameBus.Probe) (clock : Nat)
    {log : List FrameBus.Happening} (burst : ∀ time, .passed time ∉ log) :
    Job.Probe.happenings probe clock log =
      (Listening.events (Job.Probe.happenings probe clock log)).map .event := by
  induction log with
  | nil => rfl
  | cons h log ih =>
    have rest := ih fun time hm => burst time (List.mem_cons_of_mem h hm)
    cases h with
    | handled s what deed =>
      by_cases own : s = probe.session
      · simp only [Job.Probe.happenings, own, if_true]
        exact congrArg (Listening.Happening.event what :: ·) rest
      · simp only [Job.Probe.happenings, own, if_false]
        exact rest
    | passed time => exact absurd List.mem_cons_self (burst time)
    | transmitted gateway hop bytes result => exact rest
    | heard listener bytes => exact rest

/-- **The program shows the first of the events that its session got, numbered from 1, and leaves
when there are enough. It shows all of them, however many are wanted, if they come in a burst.** -/
theorem lines_listened (n : Network) (probe : FrameBus.Probe) (count : Nat) :
    (∃ whats, whats <+: (probe.deeds n).map Prod.fst ∧
      (Job.Probe.listened n probe count).lines = numbered whats ∧
      ((Job.Probe.listened n probe count).left = true → 0 < count ∧ count ≤ whats.length)) ∧
    ((∀ time, .passed time ∉ n.log) →
      (Job.Probe.listened n probe count).lines = numbered ((probe.deeds n).map Prod.fst)) := by
  have told := Listening.told_run count
    (Job.Probe.happenings probe 0 n.log.reverse ++ Listening.check)
  constructor
  · obtain ⟨whats, late, all, lines, -⟩ := told.lines
    have checked : Listening.events Listening.check = [] := rfl
    rw [Listening.events_append, events_happenings, checked, List.append_nil] at all
    refine ⟨whats, ⟨late, all.symm⟩, lines, fun left => ?_⟩
    have enough := told.left left
    rwa [lines, length_numbered] at enough
  · intro burst
    have calm : ∀ time, .passed time ∉ n.log.reverse :=
      fun time hm => burst time (List.mem_reverse.1 hm)
    have events := happenings_of_burst probe 0 calm
    rw [events_happenings] at events
    rw [Job.Probe.listened, Listening.run_append, events, run_events]
    rfl

/-- A listener that waits for one event 7. -/
def oneWanted : CommandLine.Probe.Options where
  id := .ofParts 1 2 5
  gateway := none
  bind := .v4 ⟨127, 0, 0, 1⟩ 0
  peers := []
  quiet := true
  mode := .listen [7] 1

/-- Two events for it. -/
def twoSent : List (UInt32 × List UInt8) := [(7, [0x68, 0x69]), (7, [0x00, 0xFF])]

example : (Job.Probe.listenToItself { host := .isolated } oneWanted 0 twoSent).toOption =
    some ["[1] 1.2.5 0x00000007 2 bytes \"hi\"\n", "[2] 1.2.5 0x00000007 2 bytes 00 ff\n"] ∧
    (Job.Probe.listenToItself { host := .isolated } oneWanted lookInterval twoSent).toOption =
      some ["[1] 1.2.5 0x00000007 2 bytes \"hi\"\n"] := by
  decide +kernel

end Probe

end FrameBus
