import FrameBus.Gateway.Forwarding
import FrameBus.Proofs.Route.Ends

/-!
# The legs of a route

Between two sessions of different nodes a frame goes from gateway to gateway along the backbone.
Each session is housed by the gateway that serves its id; its first hop is that gateway
(`nextHop?_of_housed`), and the gateways on the way hand the frame on among themselves until it is
at the one that serves its destination (`hop?_of_mem_legs`).
-/

namespace FrameBus.Route

/-- An id that a session can have under the gateway that serves it. -/
structure Housed (id : PortId) : Prop where
  id_ok : id.isReserved = false
  not_gateway : id ≠ servingGateway id
  channel : id.domain = 1 → id.channel ≠ 0

/-- The gateways between two ids that different gateways serve. -/
def legs (source dest : PortId) : List PortId :=
  if source.domain = 0 then [.controllerRoute, .chipRoute, .appRoute, dest.route]
  else if dest.domain = 0 then [source.route, .appRoute, .chipRoute, .controllerRoute]
  else [source.route, dest.route]

variable {a b x : PortId}

theorem servingGateway_mem_legs : servingGateway a ∈ legs a b := by
  unfold servingGateway legs
  split
  · exact List.mem_cons_self
  · split <;> exact List.mem_cons_self

/-- A leg starts at one of the two serving gateways or on the backbone. -/
theorem mem_legs (hne : servingGateway a ≠ servingGateway b) (hx : x ∈ legs a b) :
    x ∈ [PortId.controllerRoute, .appRoute, .chipRoute] ∨ x = servingGateway a ∨
      x = servingGateway b := by
  unfold legs at hx
  by_cases had : a.domain = 0
  · rw [if_pos had] at hx
    rw [servingGateway_app (domain_ne_zero_of_far hne.symm had)]
    simp only [List.mem_cons, List.not_mem_nil, or_false] at hx
    rcases hx with rfl | rfl | rfl | rfl
    · exact .inl (by simp)
    · exact .inl (by simp)
    · exact .inl (by simp)
    · exact .inr (.inr rfl)
  · rw [if_neg had] at hx
    rw [servingGateway_app had]
    by_cases hd : b.domain = 0
    · rw [if_pos hd] at hx
      simp only [List.mem_cons, List.not_mem_nil, or_false] at hx
      rcases hx with rfl | rfl | rfl | rfl
      · exact .inr (.inl rfl)
      · exact .inl (by simp)
      · exact .inl (by simp)
      · exact .inl (by simp)
    · rw [if_neg hd] at hx
      rw [servingGateway_app hd]
      simp only [List.mem_cons, List.not_mem_nil, or_false] at hx
      exact .inr hx

/-- No route of the backbone houses a session. -/
theorem Housed.endpoint (ha : Housed a) : Endpoint a where
  id_ok := ha.id_ok
  not_gateway := ha.not_gateway
  off_backbone := by
    simp only [PortId.isBackbone, Bool.or_eq_false_iff, beq_eq_false_iff_ne]
    refine ⟨⟨?_, ?_⟩, ?_⟩
    · rintro rfl
      exact ha.not_gateway rfl
    · rintro rfl
      exact ha.channel rfl rfl
    · rintro rfl
      exact ha.channel rfl rfl

/-- Ids are read apart by their parts. -/
theorem ne_of_channel {x y : PortId} (h : x.channel ≠ y.channel) : x ≠ y :=
  fun e => h (congrArg PortId.channel e)

/-- A hop that is not where the frame is already. -/
theorem hop?_eq {x y b : PortId} (h : nextHop? x b = some y) (hne : y ≠ x) :
    Gateway.hop? x b = some y := Gateway.hop?_eq_some_iff.2 ⟨h, hne⟩

theorem nextHop?_of_housed (ha : Housed a) (hb : Housed b)
    (hne : servingGateway a ≠ servingGateway b) : nextHop? a b = some (servingGateway a) :=
  nextHop?_of_endpoint ha.endpoint hb.endpoint hne

/-! ## From gateway to gateway -/

section

variable (hb : Housed b)

include hb

/-- From the controller's side: over the backbone to the route of the destination's channel. -/
theorem hops_to_app (hd : b.domain ≠ 0) :
    Gateway.hop? .controllerRoute b = some .chipRoute ∧ Gateway.hop? .chipRoute b = some .appRoute ∧
      Gateway.hop? .appRoute b = some b.route := by
  have channel := hb.channel (PortId.domain_eq_one hd)
  have toward {x : PortId} (hx : x.isReserved = false) := nextHop?_of_app hx hb.id_ok hd
  have chip : PortId.chipRoute.channel ≠ b.channel := channel.symm
  have app : PortId.appRoute.channel ≠ b.channel := channel.symm
  refine ⟨hop?_eq (toward rfl) (by decide), hop?_eq ((toward rfl).trans ?_) (by decide),
    hop?_eq ((toward rfl).trans ?_) (ne_of_channel ?_)⟩
  · rw [towardApp, if_neg (by decide), if_neg chip]
    rfl
  · rw [towardApp, if_neg (by decide), if_neg app]
    rfl
  · rw [PortId.channel_route]
    exact app.symm

/-- From the application's side: over the backbone to the controller. -/
theorem hops_to_controller (hd : b.domain = 0) (had : a.domain ≠ 0) (channel : a.channel ≠ 0) :
    Gateway.hop? a.route b = some .appRoute ∧ Gateway.hop? .appRoute b = some .chipRoute ∧
      Gateway.hop? .chipRoute b = some .controllerRoute := by
  have toward {x : PortId} (hx : x.isReserved = false) := nextHop?_of_controller hx hb.id_ok hd
  have domain : a.route.domain ≠ 0 := by rwa [PortId.domain_route]
  have app : a.route ≠ .appRoute := ne_of_channel (by rwa [PortId.channel_route])
  have chip : a.route ≠ .chipRoute := by
    intro h
    have route := a.isRoute_route
    rw [h] at route
    cases route
  refine ⟨hop?_eq ((toward a.isReserved_route).trans ?_) app.symm,
    hop?_eq (toward rfl) (by decide), hop?_eq (toward rfl) (by decide)⟩
  rw [towardController, if_neg domain, if_neg (by simp), if_neg app, if_neg chip]

/-- From channel to channel at once. -/
theorem hop_across (had : a.domain ≠ 0) (hd : b.domain ≠ 0)
    (hne : servingGateway a ≠ servingGateway b) : Gateway.hop? a.route b = some b.route := by
  have domain : a.route.domain ≠ 0 := by rwa [PortId.domain_route]
  have channel : a.route.channel ≠ b.channel := by
    rw [PortId.channel_route]
    exact channel_ne_of_far hne had hd
  have away : b.route ≠ a.route :=
    ne_of_channel (by rw [PortId.channel_route b]; exact channel.symm)
  refine hop?_eq ((nextHop?_of_app a.isReserved_route hb.id_ok hd).trans ?_) away
  rw [towardApp, if_neg domain, if_neg channel, if_neg (by simp)]

end

theorem hop?_of_mem_legs (ha : Housed a) (hb : Housed b)
    (hne : servingGateway a ≠ servingGateway b) (hx : x ∈ legs a b) (hlast : x ≠ servingGateway b) :
    ∃ y ∈ legs a b, Gateway.hop? x b = some y := by
  unfold legs at hx ⊢
  by_cases had : a.domain = 0
  · have hd := domain_ne_zero_of_far hne.symm had
    obtain ⟨controller, chip, app⟩ := hops_to_app hb hd
    rw [if_pos had] at hx ⊢
    rw [servingGateway_app hd] at hlast
    simp only [List.mem_cons, List.not_mem_nil, or_false] at hx
    rcases hx with rfl | rfl | rfl | rfl
    · exact ⟨_, by simp, controller⟩
    · exact ⟨_, by simp, chip⟩
    · exact ⟨_, by simp, app⟩
    · exact absurd rfl hlast
  · rw [if_neg had] at hx ⊢
    by_cases hd : b.domain = 0
    · obtain ⟨source, app, chip⟩ :=
        hops_to_controller hb hd had (ha.channel (PortId.domain_eq_one had))
      rw [if_pos hd] at hx ⊢
      rw [servingGateway_controller hd] at hlast
      simp only [List.mem_cons, List.not_mem_nil, or_false] at hx
      rcases hx with rfl | rfl | rfl | rfl
      · exact ⟨_, by simp, source⟩
      · exact ⟨_, by simp, app⟩
      · exact ⟨_, by simp, chip⟩
      · exact absurd rfl hlast
    · rw [if_neg hd] at hx ⊢
      rw [servingGateway_app hd] at hlast
      simp only [List.mem_cons, List.not_mem_nil, or_false] at hx
      rcases hx with rfl | rfl
      · exact ⟨_, by simp, hop_across hb had hd hne⟩
      · exact absurd rfl hlast

end FrameBus.Route
