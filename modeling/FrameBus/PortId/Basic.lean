/-!
# Port ids

A port id is a 16-bit address of three parts:

     15  14            7 6           0
    +---+---------------+-------------+
    | X |       Y       |      Z      |
    +---+---------------+-------------+

the domain `X` (0 the controller side, 1 the application side), the channel `Y` and the role
`Z`. Role 1 is the route endpoint of its channel. The parts are read as natural numbers, so that
`raw = domain * 32768 + channel * 128 + role` (`raw_toNat`).
-/

namespace FrameBus

structure PortId where
  raw : UInt16
deriving DecidableEq, Repr, Inhabited, Hashable

namespace PortId

/-! ## Algorithm -/

/-- The id of a domain, channel and role, each taken modulo its range. -/
def ofParts (domain channel role : Nat) : PortId :=
  ⟨UInt16.ofNat (domain % 2 * 32768 + channel % 256 * 128 + role % 128)⟩

def domain (id : PortId) : Nat := id.raw.toNat / 32768

def channel (id : PortId) : Nat := id.raw.toNat / 128 % 256

def role (id : PortId) : Nat := id.raw.toNat % 128

/-- No port. -/
def unknown : PortId := ⟨0⟩

/-- Every connected port. -/
def broadcast : PortId := ⟨0xFFFF⟩

/-- The backbone route of the controller domain, 0.0.1. -/
def controllerRoute : PortId := ofParts 0 0 1

/-- The backbone route of the application domain, 1.0.1. -/
def appRoute : PortId := ofParts 1 0 1

/-- The backbone route between the two, 1.0.2. -/
def chipRoute : PortId := ofParts 1 0 2

/-- The route endpoint of the id's channel. -/
def route (id : PortId) : PortId := ofParts id.domain id.channel 1

def isRoute (id : PortId) : Bool := id.role == 1

def isBackbone (id : PortId) : Bool :=
  id == controllerRoute || id == appRoute || id == chipRoute

/-- The two ids that name no single port. -/
def isReserved (id : PortId) : Bool := id == unknown || id == broadcast

def isBroadcast (id : PortId) : Bool := id == broadcast

/-! ## Lemmas -/

theorem domain_lt (id : PortId) : id.domain < 2 := by
  have := id.raw.toNat_lt
  simp only [domain]
  omega

theorem channel_lt (id : PortId) : id.channel < 256 := by simp only [channel]; omega

theorem role_lt (id : PortId) : id.role < 128 := by simp only [role]; omega

theorem raw_toNat (id : PortId) :
    id.raw.toNat = id.domain * 32768 + id.channel * 128 + id.role := by
  have := id.raw.toNat_lt
  simp only [domain, channel, role]
  omega

theorem raw_ofParts (d c r : Nat) :
    (ofParts d c r).raw.toNat = d % 2 * 32768 + c % 256 * 128 + r % 128 := by
  simp only [ofParts, UInt16.toNat_ofNat']
  omega

@[simp] theorem domain_ofParts (d c r : Nat) : (ofParts d c r).domain = d % 2 := by
  simp only [domain, raw_ofParts]
  omega

@[simp] theorem channel_ofParts (d c r : Nat) : (ofParts d c r).channel = c % 256 := by
  simp only [channel, raw_ofParts]
  omega

@[simp] theorem role_ofParts (d c r : Nat) : (ofParts d c r).role = r % 128 := by
  simp only [role, raw_ofParts]
  omega

theorem ext_parts {a b : PortId} (hd : a.domain = b.domain) (hc : a.channel = b.channel)
    (hr : a.role = b.role) : a = b := by
  have ha := raw_toNat a
  have hb := raw_toNat b
  have h : a.raw = b.raw := UInt16.toNat_inj.1 (by omega)
  cases a; cases b; simp_all

/-- An id that names a single port is not the one for everyone. -/
theorem isBroadcast_eq_false {id : PortId} (h : id.isReserved = false) :
    id.isBroadcast = false := by
  simp only [isReserved, Bool.or_eq_false_iff] at h
  exact h.2

theorem ofParts_parts (id : PortId) : ofParts id.domain id.channel id.role = id := by
  have := domain_lt id
  have := channel_lt id
  have := role_lt id
  apply ext_parts <;> simp <;> omega

theorem domain_eq_one {id : PortId} (h : id.domain ≠ 0) : id.domain = 1 := by
  have := id.domain_lt
  omega

/-! ### Route endpoints -/

@[simp] theorem domain_route (id : PortId) : id.route.domain = id.domain := by
  rw [route, domain_ofParts, Nat.mod_eq_of_lt id.domain_lt]

@[simp] theorem channel_route (id : PortId) : id.route.channel = id.channel := by
  rw [route, channel_ofParts, Nat.mod_eq_of_lt id.channel_lt]

@[simp] theorem role_route (id : PortId) : id.route.role = 1 := by
  rw [route, role_ofParts]

@[simp] theorem isRoute_route (id : PortId) : id.route.isRoute = true := by
  rw [isRoute, role_route]
  rfl

/-- A route endpoint is that of its own channel. -/
theorem isRoute_iff {id : PortId} : id.isRoute = true ↔ id.route = id := by
  refine ⟨fun h => ?_, fun h => h ▸ isRoute_route id⟩
  have role : id.role = 1 := by simpa [isRoute] using h
  exact ext_parts (domain_route id) (channel_route id) ((role_route id).trans role.symm)

theorem route_eq_of_channel {a b : PortId} (hd : a.domain = b.domain)
    (hc : a.channel = b.channel) : a.route = b.route := by
  rw [route, route, hd, hc]

theorem isReserved_of_isRoute {id : PortId} (h : id.isRoute = true) : id.isReserved = false := by
  have unknown : id ≠ .unknown := by rintro rfl; cases h
  have broadcast : id ≠ .broadcast := by rintro rfl; cases h
  simp [isReserved, unknown, broadcast]

theorem isReserved_route (id : PortId) : id.route.isReserved = false :=
  isReserved_of_isRoute id.isRoute_route

theorem isReserved_of_isBackbone {id : PortId} (h : id.isBackbone = true) :
    id.isReserved = false := by
  simp only [isBackbone, Bool.or_eq_true, beq_iff_eq] at h
  rcases h with (rfl | rfl) | rfl <;> rfl

end PortId

end FrameBus
