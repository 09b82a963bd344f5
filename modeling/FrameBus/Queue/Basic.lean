import FrameBus.Queue.Config

/-!
# Queues

First-in first-out queues that can be bounded and closed, in two designs. The `single` design
keeps one list. The `double` design appends to a back list and takes from a front list; when the
front runs dry the whole back is swapped across. Its bound holds for the back list alone, and it
counts its items in a total of its own.

Here are the sections that run under a queue's locks, and the calls made of them when nobody else is
at the queue. `Queue.toList` is the view: what is queued, the oldest first.
-/

namespace FrameBus.Queue

/-! ## Designs -/

structure Single (α : Type) where
  items : List α
  closed : Bool
  capacity : Option Nat
deriving DecidableEq, Repr

structure Double (α : Type) where
  /-- the list that consumers take from -/
  front : List α
  /-- the list that producers append to -/
  back : List α
  /-- items on both lists, counted apart from them -/
  total : Nat
  closed : Bool
  capacity : Option Nat
deriving DecidableEq, Repr

/-- Whether a list of a length has reached its bound. -/
def atBound (capacity : Option Nat) (length : Nat) : Bool :=
  match capacity with
  | none => false
  | some c => decide (c ≤ length)

namespace Single

variable {α : Type}

def new (capacity : Option Nat) : Single α := ⟨[], false, QueueConfig.bound capacity⟩

def full (q : Single α) : Bool := atBound q.capacity q.items.length

def append (q : Single α) (a : α) : Single α := { q with items := q.items ++ [a] }

def take? (q : Single α) : Option (α × Single α) :=
  match q.items with
  | [] => none
  | a :: rest => some (a, { q with items := rest })

def close (q : Single α) : Single α := { q with closed := true }

end Single

namespace Double

variable {α : Type}

def new (capacity : Option Nat) : Double α := ⟨[], [], 0, false, QueueConfig.bound capacity⟩

/-- Whether the back list has reached the bound. -/
def full (q : Double α) : Bool := atBound q.capacity q.back.length

def stage (q : Double α) (a : α) : Double α := { q with back := q.back ++ [a] }

def countUp (q : Double α) : Double α := { q with total := q.total + 1 }

def countDown (q : Double α) : Double α := { q with total := q.total - 1 }

/-- Moves the back list to the front, which has run dry. -/
def swap (q : Double α) : Double α := { q with front := q.back, back := q.front }

def takeFront? (q : Double α) : Option (α × Double α) :=
  match q.front with
  | [] => none
  | a :: rest => some (a, { q with front := rest })

/-- Takes an item from the front, after a swap if the front is empty. -/
def take? (q : Double α) : Option (α × Double α) :=
  let q := if q.front.isEmpty then q.swap else q
  q.takeFront?.map fun (a, q) => (a, q.countDown)

def close (q : Double α) : Double α := { q with closed := true }

end Double

end FrameBus.Queue

namespace FrameBus

inductive Queue (α : Type) where
  | single (q : Queue.Single α)
  | double (q : Queue.Double α)
deriving DecidableEq, Repr

/-! ## Calls -/

/-- What a push meets when nobody else is at the queue. -/
inductive Offer (σ : Type) where
  | accepted (after : σ)
  | closed
  /-- the push has to wait for room -/
  | full

/-- What a pop that does not wait finds. -/
inductive Popped (α : Type) where
  | item (a : α)
  | timedOut
  /-- closed and empty -/
  | closed
deriving DecidableEq, Repr

namespace Queue

variable {α : Type}

def new (config : QueueConfig) : Queue α :=
  match config.kind with
  | .single => .single (.new config.capacity)
  | .double => .double (.new config.capacity)

/-- What is queued, the oldest item first. -/
def toList : Queue α → List α
  | .single q => q.items
  | .double q => q.front ++ q.back

def length : Queue α → Nat
  | .single q => q.items.length
  | .double q => q.total

def isClosed : Queue α → Bool
  | .single q => q.closed
  | .double q => q.closed

def capacity : Queue α → Option Nat
  | .single q => q.capacity
  | .double q => q.capacity

/-- Whether a push has to wait. -/
def isFull : Queue α → Bool
  | .single q => q.full
  | .double q => q.full

/-- Items on the back list of a double queue. -/
def staged : Queue α → Nat
  | .single _ => 0
  | .double q => q.back.length

def add : Queue α → α → Queue α
  | .single q, a => .single (q.append a)
  | .double q, a => .double (q.stage a).countUp

def offer (q : Queue α) (a : α) : Offer (Queue α) :=
  if q.isClosed then .closed else if q.isFull then .full else .accepted (q.add a)

def take? : Queue α → Option (α × Queue α)
  | .single q => q.take?.map fun (a, q) => (a, .single q)
  | .double q => q.take?.map fun (a, q) => (a, .double q)

def poll (q : Queue α) : Popped α × Queue α :=
  match q.take? with
  | some (a, q) => (.item a, q)
  | none => (if q.isClosed then .closed else .timedOut, q)

def close : Queue α → Queue α
  | .single q => .single q.close
  | .double q => .double q.close

/-! ## Lemmas -/

@[simp] theorem toList_new (config : QueueConfig) : (new config : Queue α).toList = [] := by
  cases h : config.kind <;> simp [new, h, toList, Single.new, Double.new]

@[simp] theorem toList_add (q : Queue α) (a : α) : (q.add a).toList = q.toList ++ [a] := by
  cases q <;> simp [add, toList, Single.append, Double.stage, Double.countUp]

@[simp] theorem toList_close (q : Queue α) : q.close.toList = q.toList := by
  cases q <;> rfl

@[simp] theorem isClosed_close (q : Queue α) : q.close.isClosed = true := by
  cases q <;> rfl

/-- Taking gives the oldest item and leaves the others in order. -/
theorem toList_of_take? {q r : Queue α} {a : α} (h : q.take? = some (a, r)) :
    q.toList = a :: r.toList := by
  cases q with
  | single q =>
    obtain ⟨items, closed, capacity⟩ := q
    cases items with
    | nil => simp [take?, Single.take?] at h
    | cons b rest =>
      simp only [take?, Single.take?, Option.map_some, Option.some.injEq, Prod.mk.injEq] at h
      obtain ⟨rfl, rfl⟩ := h
      rfl
  | double q =>
    obtain ⟨front, back, total, closed, capacity⟩ := q
    cases front with
    | nil =>
      cases back with
      | nil => simp [take?, Double.take?, Double.swap, Double.takeFront?] at h
      | cons b rest =>
        simp only [take?, Double.take?, List.isEmpty_nil, ↓reduceIte, Double.swap,
          Double.takeFront?, Option.map_some, Option.some.injEq, Prod.mk.injEq] at h
        obtain ⟨rfl, rfl⟩ := h
        simp [toList, Double.countDown]
    | cons b rest =>
      simp only [take?, Double.take?, List.isEmpty_cons, Bool.false_eq_true, ↓reduceIte,
        Double.takeFront?, Option.map_some, Option.some.injEq, Prod.mk.injEq] at h
      obtain ⟨rfl, rfl⟩ := h
      simp [toList, Double.countDown]

end Queue

end FrameBus
