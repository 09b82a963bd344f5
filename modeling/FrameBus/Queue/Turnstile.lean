import FrameBus.Queue.Threads

/-!
# Turnstiles

A queue at which at most one push and at most one pop wait. A call that would be a second one to
wait is refused; a call that lets another one pass is followed by it.
-/

namespace FrameBus.Queue

structure Turnstile (α : Type) where
  queue : Queue α
  producer : Option α
  consumer : Option Bool

inductive Reply (α : Type) where
  | answered (answer : Answer α)
  /-- the call waits from now on -/
  | blocked
  /-- nothing was done -/
  | refused

namespace Turnstile

variable {α : Type}

def new (queue : Queue α) : Turnstile α := ⟨queue, none, none⟩

/-- The threads that wait, a consumer before a producer. -/
def waiting (t : Turnstile α) : List (Stand α) :=
  (t.consumer.map fun timed => .parked (.pop timed)).toList ++
    (t.producer.map fun a => .parked (.push a)).toList

/-- A call that could only wait behind another one. -/
def refuses (t : Turnstile α) : Call α → Bool
  | .push _ => t.producer.isSome && t.queue.isFull && !t.queue.isClosed
  | .pop _ => t.consumer.isSome
  | .close => false

/-- The answer that a thread has come to. -/
def answer? : Stand α → Option (Answer α)
  | .done a => some a
  | _ => none

def ofWorld (w : World α) : Turnstile α where
  queue := w.queue
  producer := w.threads.findSome? fun
    | .parked (.push a) => some a
    | _ => none
  consumer := w.threads.findSome? fun
    | .parked (.pop timed) => some timed
    | _ => none

/-- Makes a call and lets everybody move; a timed pop that finds nothing runs out of time. Answers
also what the calls come to that waited before, a consumer's before a producer's. -/
def submit (t : Turnstile α) (call : Call α) : Reply α × List (Answer α) × Turnstile α :=
  if t.refuses call then (.refused, [], t)
  else
    let others := t.waiting
    let w : World α := ⟨t.queue, others ++ [.ready call], [], []⟩
    let w := w.settle 64
    let w := ((w.expire others.length).map (·.settle 64)).getD w
    let woken := (w.threads.take others.length).filterMap answer?
    let reply :=
      match (w.threads[others.length]?).bind answer? with
      | some a => .answered a
      | none => .blocked
    (reply, woken, ofWorld w)

end Turnstile

end FrameBus.Queue
