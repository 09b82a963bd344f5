import FrameBus.Frame.Basic
import FrameBus.Queue.Basic
import FrameBus.Route

/-!
# The registry of a node

A registry keeps the ports that are registered now, in an order, and the ids that event sessions
have claimed. A port is known by a handle that outlives its registration: `ports` holds every port
that was ever made, and a handle is its place there, so that an id that is made anew gets a new
handle (`createPort` never touches an old port).

A port may have a reaction, which a broadcast runs; the registry only keeps it, and its type `κ`
is open.
-/

namespace FrameBus

inductive PortState where
  | unknown
  /-- destroyed -/
  | exit
  /-- registered, its worker not running yet -/
  | init
  /-- accepts frames -/
  | conn
  /-- stopped -/
  | disconn
deriving DecidableEq, Repr

def PortState.name : PortState → String
  | .unknown => "Unknown"
  | .exit => "Exit"
  | .init => "Init"
  | .conn => "Conn"
  | .disconn => "Disconn"

structure Port (κ : Type) where
  id : PortId
  state : PortState
  queue : Queue Frame
  /-- what a broadcast runs here -/
  reaction : Option κ

namespace Port

variable {κ : Type}

def isConnected (p : Port κ) : Bool := p.state == .conn

/-- Frames waiting at the port. -/
def pending (p : Port κ) : Nat := p.queue.length

/-- The port with its parts named, for diagnostic texts. -/
def inspect (p : Port κ) : String :=
  "Port \x7b id: " ++ p.id.inspect ++ ", state: " ++ p.state.name ++ ", pending: " ++
    Numeral.decimal p.pending ++ " \x7d"

end Port

/-- The place of a port among all ports of its registry. -/
abbrev Handle := Nat

structure Registry (κ : Type) where
  config : QueueConfig
  ports : List (Port κ)
  /-- the ports that are registered now -/
  registered : List Handle
  /-- ids of live event sessions -/
  sessions : List PortId

namespace Registry

variable {κ : Type}

/-! ## Registration -/

def new (config : QueueConfig) : Registry κ := ⟨config, [], [], []⟩

def port? (r : Registry κ) (h : Handle) : Option (Port κ) := r.ports[h]?

def idOf (r : Registry κ) (h : Handle) : PortId := ((r.port? h).map Port.id).getD .unknown

/-- The ids that are registered, in order. -/
def ids (r : Registry κ) : List PortId := r.registered.map r.idOf

/-- The port registered under an id. -/
def find? (r : Registry κ) (id : PortId) : Option Handle :=
  r.registered.find? fun h => r.idOf h == id

/-- The port registered under an id that names a single port. -/
def get? (r : Registry κ) (id : PortId) : Option Handle :=
  if id.isReserved then none else r.find? id

def isConnected (r : Registry κ) (h : Handle) : Bool :=
  ((r.port? h).map Port.isConnected).getD false

def modify (r : Registry κ) (h : Handle) (f : Port κ → Port κ) : Registry κ :=
  { r with ports := r.ports.modify h f }

def setState (r : Registry κ) (h : Handle) (s : PortState) : Registry κ :=
  r.modify h fun p => { p with state := s }

def setReaction (r : Registry κ) (h : Handle) (k : κ) : Registry κ :=
  r.modify h fun p => { p with reaction := some k }

/-- Makes a port in its first state, at the end of the order. -/
def createPort (r : Registry κ) (id : PortId) : Except BusError (Handle × Registry κ) :=
  if id.isReserved then .error (.invalidPortId id)
  else if (r.find? id).isSome then .error (.portExists id)
  else
    let h := r.ports.length
    .ok (h, { r with ports := r.ports ++ [⟨id, .init, .new r.config, none⟩]
                     registered := r.registered ++ [h] })

/-- The list without the entry at a place, which the last entry takes. -/
def swapRemove {α : Type} (l : List α) (i : Nat) : List α :=
  match l.getLast? with
  | none => []
  | some last => if i + 1 < l.length then (l.set i last).dropLast else l.eraseIdx i

/-- Takes a port out of the order, marks it destroyed and closes its queue. -/
def destroyPort (r : Registry κ) (id : PortId) : Except BusError (Registry κ) :=
  match r.registered.findIdx? fun h => r.idOf h == id with
  | none => .error (.portNotFound id)
  | some i =>
    let h := r.registered.getD i 0
    let r := r.modify h fun p => { p with state := .exit, queue := p.queue.close }
    .ok { r with registered := swapRemove r.registered i }

def claimSession (r : Registry κ) (id : PortId) : Except BusError (Registry κ) :=
  if id.isReserved then .error (.invalidPortId id)
  else if r.sessions.contains id then .error (.sessionExists id)
  else .ok { r with sessions := r.sessions ++ [id] }

/-- Gives up a claim, and whether there was one. -/
def releaseSession (r : Registry κ) (id : PortId) : Bool × Registry κ :=
  match r.sessions.findIdx? (· == id) with
  | none => (false, r)
  | some i => (true, { r with sessions := swapRemove r.sessions i })

/-- The registry with its parts named, for diagnostic texts. -/
def inspect (r : Registry κ) : String :=
  let row (ids : List PortId) := "[" ++ String.intercalate ", " (ids.map PortId.inspect) ++ "]"
  let capacity := match r.config.capacity with
    | none => "None"
    | some c => "Some(" ++ Numeral.decimal c ++ ")"
  "Registry \x7b ports: " ++ row r.ids ++ ", sessions: " ++ row r.sessions ++
    ", queue_config: QueueConfig \x7b kind: " ++ r.config.kind.inspect ++ ", capacity: " ++
    capacity ++ " \x7d \x7d"

/-! ## Lemmas -/

theorem idOf_modify (r : Registry κ) (h k : Handle) (f : Port κ → Port κ)
    (hf : ∀ p, (f p).id = p.id) : (r.modify h f).idOf k = r.idOf k := by
  simp only [idOf, port?, modify, List.getElem?_modify]
  cases r.ports[k]? with
  | none => rfl
  | some p =>
    by_cases hk : h = k <;> simp [hk, hf]

end Registry

end FrameBus
