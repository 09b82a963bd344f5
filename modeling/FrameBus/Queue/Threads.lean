import FrameBus.Queue.Basic

/-!
# Threads at a queue

Any number of threads call one queue, and each call runs in sections. A section under a lock is
one step of one thread; between two steps any other thread may move. A thread that has to wait is
parked on the condition of its call and leaves the lock it came with; a notification makes it woken,
and it goes on when it gets the lock again.

The `single` design has one lock, which no thread keeps between steps. In the `double` design a
producer keeps the lock of the back list between staging an item and counting it, and a consumer
keeps the lock of the front list from its first step to its last, also while it is parked.
-/

namespace FrameBus.Queue

/-- A call that a thread makes. -/
inductive Call (α : Type) where
  | push (item : α)
  /-- waits for an item, for a limited time or for ever -/
  | pop (timed : Bool)
  | close
deriving DecidableEq, Repr

inductive Answer (α : Type) where
  | accepted
  /-- the queue was closed; the item comes back -/
  | rejected (item : α)
  | popped (item : α)
  /-- the queue is closed and holds nothing -/
  | drained
  | timedOut
  | closed
deriving DecidableEq, Repr

/-- Where a thread stands in its call. -/
inductive Stand (α : Type) where
  /-- before its first section -/
  | ready (call : Call α)
  | parked (call : Call α)
  /-- notified, and waiting for the lock -/
  | woken (call : Call α)
  /-- out of time, and waiting for the lock -/
  | expired (call : Call α)
  /-- has staged an item and not counted it -/
  | counting
  /-- found the front list empty and goes for the back list -/
  | crossing (call : Call α)
  /-- has swapped the lists -/
  | taking
  /-- has taken an item and not counted it -/
  | uncounting (item : α)
  | done (answer : Answer α)
deriving DecidableEq, Repr

/-- Whom a section notifies. -/
inductive Signal where
  | nobody
  | oneConsumer
  | oneProducer
  | allProducers
  | everyone
deriving DecidableEq, Repr

structure World (α : Type) where
  queue : Queue α
  threads : List (Stand α)
  /-- items that pushes brought in, in order -/
  accepted : List α
  /-- items that pops took out, in order -/
  handed : List α
deriving DecidableEq, Repr

/-- What a section does to the queue, to its thread, and to others. -/
structure Effect (α : Type) where
  queue : Queue α
  stand : Stand α
  signal : Signal := .nobody
  accepted : List α := []
  handed : List α := []

namespace Stand

variable {α : Type}

/-- Between two steps the thread has the lock of the back list. -/
def holdsBack : Stand α → Bool
  | .counting => true
  | _ => false

/-- Between two steps the thread has the lock of the front list. -/
def holdsFront : Stand α → Bool
  | .crossing _ | .taking | .uncounting _ => true
  | .parked (.pop _) | .woken (.pop _) | .expired _ => true
  | _ => false

/-- The thread needs the lock of the back list for its next section. -/
def needsBack : Stand α → Bool
  | .ready (.push _) | .ready .close | .woken _ | .expired _ | .crossing _ => true
  | _ => false

/-- The thread needs the lock of the front list for its next section. -/
def needsFront : Stand α → Bool
  | .ready (.pop _) => true
  | _ => false

def isProducer : Stand α → Bool
  | .parked (.push _) => true
  | _ => false

def isConsumer : Stand α → Bool
  | .parked (.pop _) => true
  | _ => false

/-- A parked thread that is notified. -/
def wake : Stand α → Stand α
  | .parked call => .woken call
  | stand => stand

end Stand

/-! ## Sections -/

section

variable {α : Type}

/-- The next section of a thread at a single queue. -/
def Single.advance (q : Single α) : Stand α → Option (Effect α)
  | .ready (.push a) | .woken (.push a) =>
    if q.closed then some { queue := .single q, stand := .done (.rejected a) }
    else if q.full then some { queue := .single q, stand := .parked (.push a) }
    else
      some { queue := .single (q.append a), stand := .done .accepted, signal := .oneConsumer,
             accepted := [a] }
  | .ready (.pop timed) | .woken (.pop timed) =>
    match q.take? with
    | some (a, r) =>
      some { queue := .single r, stand := .done (.popped a), handed := [a],
             signal := if q.capacity.isSome then .oneProducer else .nobody }
    | none =>
      some { queue := .single q,
             stand := if q.closed then .done .drained else .parked (.pop timed) }
  | .expired _ =>
    match q.take? with
    | some (a, r) =>
      some { queue := .single r, stand := .done (.popped a), handed := [a],
             signal := if q.capacity.isSome then .oneProducer else .nobody }
    | none => some { queue := .single q, stand := .done .timedOut }
  | .ready .close =>
    some { queue := .single q.close, stand := .done .closed, signal := .everyone }
  | _ => none

/-- A consumer at the back list of a double queue: swaps the lists, or `otherwise`. -/
def Double.cross (q : Double α) (otherwise : Stand α) : Effect α :=
  if q.back.isEmpty then { queue := .double q, stand := otherwise }
  else
    { queue := .double q.swap, stand := .taking,
      signal := if q.full then .allProducers else .nobody }

/-- The next section of a thread at a double queue. -/
def Double.advance (q : Double α) : Stand α → Option (Effect α)
  | .ready (.push a) | .woken (.push a) =>
    if q.closed then some { queue := .double q, stand := .done (.rejected a) }
    else if q.full then some { queue := .double q, stand := .parked (.push a) }
    else some { queue := .double (q.stage a), stand := .counting, accepted := [a] }
  | .counting =>
    some { queue := .double q.countUp, stand := .done .accepted, signal := .oneConsumer }
  | .ready (.pop timed) =>
    match q.takeFront? with
    | some (a, r) => some { queue := .double r, stand := .uncounting a, handed := [a] }
    | none => some { queue := .double q, stand := .crossing (.pop timed) }
  | .crossing call | .woken call =>
    some (q.cross (if q.closed then .done .drained else .parked call))
  | .expired _ => some (q.cross (.done .timedOut))
  | .taking =>
    match q.takeFront? with
    | some (a, r) => some { queue := .double r, stand := .uncounting a, handed := [a] }
    | none => some { queue := .double q, stand := .done .timedOut }
  | .uncounting a => some { queue := .double q.countDown, stand := .done (.popped a) }
  | .ready .close =>
    some { queue := .double q.close, stand := .done .closed, signal := .everyone }
  | _ => none

def advance : Queue α → Stand α → Option (Effect α)
  | .single q, stand => Single.advance q stand
  | .double q, stand => Double.advance q stand

end

/-! ## Steps -/

namespace World

variable {α : Type}

def start (config : QueueConfig) : World α := ⟨.new config, [], [], []⟩

/-- Whether the locks that a thread needs are free. -/
def unlocked (w : World α) (stand : Stand α) : Bool :=
  match w.queue with
  | .single _ => true
  | .double _ =>
    !(stand.needsBack && w.threads.any Stand.holdsBack) &&
      !(stand.needsFront && w.threads.any Stand.holdsFront)

/-- Wakes the parked thread of a kind that `pick` names, counting only those of the kind. -/
def wakeOne (kind : Stand α → Bool) : (pick : Nat) → List (Stand α) → List (Stand α)
  | _, [] => []
  | pick, s :: rest =>
    if kind s then
      match pick with
      | 0 => s.wake :: rest
      | pick + 1 => s :: wakeOne kind pick rest
    else s :: wakeOne kind pick rest

/-- Notifies threads; `pick` chooses among those that wait for one notification. -/
def notify (pick : Nat) (threads : List (Stand α)) : Signal → List (Stand α)
  | .nobody => threads
  | .oneConsumer =>
    wakeOne Stand.isConsumer (pick % max 1 (threads.countP Stand.isConsumer)) threads
  | .oneProducer =>
    wakeOne Stand.isProducer (pick % max 1 (threads.countP Stand.isProducer)) threads
  | .allProducers => threads.map fun s => if s.isProducer then s.wake else s
  | .everyone => threads.map Stand.wake

/-- A new thread makes a call. -/
def enter (w : World α) (call : Call α) : World α :=
  { w with threads := w.threads ++ [.ready call] }

/-- Thread `t` runs its next section, if it has one and gets its locks. -/
def run (w : World α) (t pick : Nat) : Option (World α) := do
  let stand ← w.threads[t]?
  if w.unlocked stand then
    let e ← advance w.queue stand
    return {
      queue := e.queue
      threads := notify pick (w.threads.set t e.stand) e.signal
      accepted := w.accepted ++ e.accepted
      handed := w.handed ++ e.handed }
  else none

/-- The time of thread `t`, parked in a timed pop, runs out. -/
def expire (w : World α) (t : Nat) : Option (World α) :=
  match w.threads[t]? with
  | some (.parked (.pop true)) =>
    some { w with threads := w.threads.set t (.expired (.pop true)) }
  | _ => none

/-- One step of some thread. -/
inductive Step : World α → World α → Prop where
  | enter (w : World α) (call : Call α) : Step w (w.enter call)
  | run {w v : World α} (t pick : Nat) : w.run t pick = some v → Step w v
  | expire {w v : World α} (t : Nat) : w.expire t = some v → Step w v

/-- The worlds that threads can bring a new queue to. -/
inductive Reachable (config : QueueConfig) : World α → Prop where
  | start : Reachable config (start config)
  | step {w v : World α} : Reachable config w → Step w v → Reachable config v

/-- Runs threads, those that came first before others, until every one is parked or done. -/
def settle : (fuel : Nat) → World α → World α
  | 0, w => w
  | fuel + 1, w =>
    match (List.range w.threads.length).findSome? fun t => w.run t 0 with
    | some w => settle fuel w
    | none => w

end World

end FrameBus.Queue
