import FrameBus.Error.Bus

/-!
# The memory hub

Endpoints in one process that are members of a hub under their ids. A member hears a frame when it
is started and has a hook; what a hook is and does is open (`κ`). A unicast runs the one hook of its
destination, a broadcast those of all members but the sender.

An endpoint keeps its hook when it leaves the hub, and brings it when it joins again.
-/

namespace FrameBus

structure Hub.Member (κ : Type) where
  id : PortId
  hook : Option κ
  started : Bool

structure Hub (κ : Type) where
  members : List (Hub.Member κ)

namespace Hub

/-- An end of the hub; it has an id while it is a member. -/
structure Endpoint (κ : Type) where
  id : Option PortId := none
  hook : Option κ := none

variable {κ : Type}

def empty : Hub κ := ⟨[]⟩

def ids (hub : Hub κ) : List PortId := hub.members.map Member.id

def find? (hub : Hub κ) (id : PortId) : Option (Member κ) := hub.members.find? fun m => m.id == id

def update (hub : Hub κ) (id : PortId) (f : Member κ → Member κ) : Hub κ :=
  ⟨hub.members.map fun m => if m.id = id then f m else m⟩

/-- Joins the hub under an id that no member has. -/
def init (hub : Hub κ) (e : Endpoint κ) (id : PortId) : Except BusError (Hub κ × Endpoint κ) :=
  if id.isReserved then .error (.invalidPortId id)
  else if e.id.isSome then .error .alreadyRunning
  else if (hub.find? id).isSome then .error (.portExists id)
  else .ok (⟨hub.members ++ [⟨id, e.hook, false⟩]⟩, { e with id := some id })

/-- Leaves the hub; nothing for an endpoint that is no member. -/
def exit (hub : Hub κ) (e : Endpoint κ) : Hub κ × Endpoint κ :=
  match e.id with
  | none => (hub, e)
  | some id => (⟨hub.members.filter fun m => m.id != id⟩, { e with id := none })

def setHook (hub : Hub κ) (e : Endpoint κ) (k : κ) : Hub κ × Endpoint κ :=
  let hub := match e.id with
    | none => hub
    | some id => hub.update id fun m => { m with hook := some k }
  (hub, { e with hook := some k })

def start (hub : Hub κ) (e : Endpoint κ) : Except BusError (Hub κ) :=
  match e.id with
  | none => .error .notRunning
  | some id => .ok (hub.update id fun m => { m with started := true })

def stop (hub : Hub κ) (e : Endpoint κ) : Hub κ :=
  match e.id with
  | none => hub
  | some id => hub.update id fun m => { m with started := false }

/-- The hook of a member that hears. -/
def Member.live? (m : Member κ) : Option κ := if m.started then m.hook else none

/-- The hooks that a frame is for. -/
def recipients (hub : Hub κ) (sender dest : PortId) : Except BusError (List κ) :=
  if dest.isBroadcast then
    .ok ((hub.members.filter fun m => m.id != sender).filterMap Member.live?)
  else
    match (hub.find? dest).bind Member.live? with
    | some k => .ok [k]
    | none => .error (.unreachable dest)

/-- The hooks that a frame sent by an endpoint is for. -/
def route (hub : Hub κ) (e : Endpoint κ) (dest : PortId) : Except BusError (List κ) :=
  match e.id with
  | none => .error .notRunning
  | some id => hub.recipients id dest

/-- Runs hooks on a frame's bytes, one after the other. A refusal is the answer of a unicast and
without effect on a broadcast. Nothing if a hook never comes back. -/
def deliver {σ : Type} (run : κ → List UInt8 → σ → Option (Except BusError Unit × σ))
    (dest : PortId) (bytes : List UInt8) : List κ → σ → Option (Except BusError Unit × σ)
  | [], s => some (.ok (), s)
  | k :: ks, s => do
    let (r, s) ← run k bytes s
    match r with
    | .error e => if dest.isBroadcast then deliver run dest bytes ks s else return (.error e, s)
    | .ok () => deliver run dest bytes ks s

/-! ## Lemmas -/

theorem ids_update (hub : Hub κ) (id : PortId) (f : Member κ → Member κ)
    (hf : ∀ m, (f m).id = m.id) : (hub.update id f).ids = hub.ids := by
  simp only [ids, update, List.map_map]
  apply List.map_congr_left
  intro m _
  simp only [Function.comp]
  split <;> simp [hf]

theorem mem_update {hub : Hub κ} {id : PortId} {f : Member κ → Member κ} (hf : ∀ m, (f m).id = m.id)
    {x : Member κ} (hx : x ∈ (hub.update id f).members) :
    ∃ y ∈ hub.members, y.id = x.id ∧ (x = y ∧ y.id ≠ id ∨ y.id = id ∧ x = f y) := by
  obtain ⟨y, hy, rfl⟩ := List.mem_map.1 hx
  refine ⟨y, hy, ?_⟩
  split
  · next h => exact ⟨(hf y).symm, .inr ⟨h, rfl⟩⟩
  · next h => exact ⟨rfl, .inl ⟨rfl, h⟩⟩

theorem mem_exit {hub : Hub κ} {e : Endpoint κ} {x : Member κ}
    (hx : x ∈ (hub.exit e).1.members) : x ∈ hub.members := by
  obtain ⟨_ | id, hook⟩ := e
  · exact hx
  · exact (List.mem_filter.1 hx).1

theorem eq_of_init {hub hub' : Hub κ} {e e' : Endpoint κ} {id : PortId}
    (h : hub.init e id = .ok (hub', e')) :
    hub' = ⟨hub.members ++ [⟨id, e.hook, false⟩]⟩ ∧ e' = { e with id := some id } := by
  unfold init at h
  split at h
  · cases h
  · split at h
    · cases h
    · split at h
      · cases h
      · cases h
        exact ⟨rfl, rfl⟩

end Hub

end FrameBus
