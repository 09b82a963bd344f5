import FrameBus.Proofs.Route.Paths

/-!
# The ends of a route

A session is reached only through the gateway of its own node, so a route between two sessions
should start at the gateway that serves the one and end at the gateway that serves the other. It
always starts there (`nextHop?_of_endpoint`). It ends there but for one group of sessions: on the
way from a controller to a session of channel 0 of the application domain, 1.0.2 takes the session
for one of its own channel and passes over 1.0.1, which serves it (`ends_at_serving_gateways`).
-/

namespace FrameBus.Route

/-- An id that a session has: it is none of the backbone, and not its own gateway. -/
structure Endpoint (id : PortId) : Prop where
  id_ok : id.isReserved = false
  off_backbone : id.isBackbone = false
  not_gateway : id ≠ servingGateway id

variable {source dest x : PortId}

/-- Not both of two ids are of the controller domain when different gateways serve them. -/
theorem domain_ne_zero_of_far (far : servingGateway source ≠ servingGateway dest)
    (h : dest.domain = 0) : source.domain ≠ 0 := by
  intro hs
  rw [servingGateway_controller hs, servingGateway_controller h] at far
  exact far rfl

/-- In the application domain they are of different channels. -/
theorem channel_ne_of_far (far : servingGateway source ≠ servingGateway dest)
    (hs : source.domain ≠ 0) (hd : dest.domain ≠ 0) : source.channel ≠ dest.channel := by
  intro channel
  have domain : source.domain = dest.domain :=
    (PortId.domain_eq_one hs).trans (PortId.domain_eq_one hd).symm
  rw [servingGateway_app hs, servingGateway_app hd] at far
  exact far (PortId.route_eq_of_channel domain channel)

namespace Endpoint

theorem ne_controllerRoute (hs : Endpoint source) : source ≠ .controllerRoute := by
  rintro rfl
  cases hs.off_backbone

theorem isRoute (hs : Endpoint source) (h : source.domain ≠ 0) : source.isRoute = false := by
  by_contra hr
  have route : source.route = source := PortId.isRoute_iff.1 (by simpa using hr)
  exact hs.not_gateway (route.symm.trans (servingGateway_app h).symm)

end Endpoint

/-- A frame of a session goes to the gateway that serves the session. -/
theorem nextHop?_of_endpoint (hs : Endpoint source) (hd : Endpoint dest)
    (far : servingGateway source ≠ servingGateway dest) :
    nextHop? source dest = some (servingGateway source) := by
  by_cases hdd : dest.domain = 0
  · have hsd := domain_ne_zero_of_far far hdd
    rw [nextHop?_of_controller hs.id_ok hd.id_ok hdd, servingGateway_app hsd]
    congr 1
    by_cases channel : source.channel = 0
    · -- in channel 0 the route endpoint is that of the backbone
      have app : source ≠ .appRoute := by rintro rfl; cases hs.off_backbone
      have chip : source ≠ .chipRoute := by rintro rfl; cases hs.off_backbone
      have route : source.route = PortId.appRoute.route :=
        PortId.route_eq_of_channel (PortId.domain_eq_one hsd) channel
      rw [route, towardController, if_neg hsd, if_neg (by simp [channel]), if_neg app, if_neg chip]
      decide
    · simp [towardController, hsd, hs.isRoute hsd, channel]
  · rw [nextHop?_of_app hs.id_ok hd.id_ok hdd]
    congr 1
    by_cases hsd : source.domain = 0
    · simp [towardApp, hsd, hs.ne_controllerRoute, servingGateway_controller hsd]
    · simp [towardApp, hsd, channel_ne_of_far far hsd hdd, hs.isRoute hsd, servingGateway_app hsd]

/-! ## From gateway to gateway -/

section

variable (hd : Endpoint dest)

include hd

/-- Down from the application's end of the backbone. -/
theorem path_from_appRoute (h : dest.domain = 0) :
    Path dest .appRoute [.chipRoute, .controllerRoute, dest] := by
  have toward {x : PortId} (hx : x.isReserved = false) := nextHop?_of_controller hx hd.id_ok h
  have away {x : PortId} (hx : x.domain ≠ 0) : x ≠ dest := by
    rintro rfl
    exact hx h
  exact .hop (away (by decide)) (toward rfl) (.hop (away (by decide)) (toward rfl)
    (.hop hd.ne_controllerRoute.symm (toward rfl) .arrived))

theorem path_from_route_down (h : dest.domain = 0) (hx : x.domain ≠ 0) (hr : x.isRoute = true) :
    ∃ ids, Path dest x (ids ++ [.chipRoute, .controllerRoute, dest]) := by
  by_cases app : x = .appRoute
  · exact ⟨[], app ▸ path_from_appRoute hd h⟩
  · have chip : x ≠ .chipRoute := by rintro rfl; cases hr
    refine ⟨[.appRoute], .hop (fun e => hx (e ▸ h)) ?_ (path_from_appRoute hd h)⟩
    rw [nextHop?_of_controller (PortId.isReserved_of_isRoute hr) hd.id_ok h]
    simp [towardController, hx, hr, app, chip]

/-- The route endpoint of its channel hands a frame over to a session. -/
theorem path_from_own_route (h : dest.domain ≠ 0) : Path dest dest.route [dest] := by
  refine .hop (fun e => hd.not_gateway ((servingGateway_app h).trans e).symm) ?_ .arrived
  rw [nextHop?_of_app dest.isReserved_route hd.id_ok h]
  simp [towardApp, h]

/-- From the route endpoint of another channel. -/
theorem path_from_route_across (h : dest.domain ≠ 0) (hx : x.domain ≠ 0) (hr : x.isRoute = true)
    (channel : x.channel ≠ dest.channel) : Path dest x [dest.route, dest] := by
  refine .hop (fun e => channel (e ▸ rfl)) ?_ (path_from_own_route hd h)
  rw [nextHop?_of_app (PortId.isReserved_of_isRoute hr) hd.id_ok h]
  simp [towardApp, hx, hr, channel]

/-- Up from the controller's end of the backbone: 1.0.2 is of channel 0 itself. -/
theorem path_from_controllerRoute (h : dest.domain ≠ 0) :
    Path dest .controllerRoute (.chipRoute ::
      if dest.channel = 0 then [dest] else [.appRoute, dest.route, dest]) := by
  have toward {x : PortId} (hx : x.isReserved = false) := nextHop?_of_app hx hd.id_ok h
  have chip : PortId.chipRoute ≠ dest := by
    rintro rfl
    cases hd.off_backbone
  refine .hop hd.ne_controllerRoute.symm (toward rfl) ?_
  split_ifs with channel
  · have same : PortId.chipRoute.channel = dest.channel := channel.symm
    refine .hop chip ((toward rfl).trans ?_) .arrived
    rw [towardApp, if_neg (by decide), if_pos same]
  · have other : PortId.chipRoute.channel ≠ dest.channel := Ne.symm channel
    refine .hop chip ((toward rfl).trans ?_)
      (path_from_route_across hd h (by decide) rfl (Ne.symm channel))
    rw [towardApp, if_neg (by decide), if_neg other]
    rfl

end

/-- The route from one session to another starts at the gateway that serves the one, and ends at the
gateway that serves the other unless it comes up to channel 0 of the application domain. -/
theorem ends_at_serving_gateways (hs : Endpoint source) (hd : Endpoint dest)
    (far : servingGateway source ≠ servingGateway dest) :
    ∃ ids, Path dest source (servingGateway source :: ids) ∧
      ((∃ front, servingGateway source :: ids = front ++ [servingGateway dest, dest]) ↔
        ¬ (source.domain = 0 ∧ dest.domain = 1 ∧ dest.channel = 0)) := by
  have hne : source ≠ dest := by
    rintro rfl
    exact far rfl
  have first {ids : List PortId} (h : Path dest (servingGateway source) ids) :
      Path dest source (servingGateway source :: ids) :=
    .hop hne (nextHop?_of_endpoint hs hd far) h
  by_cases hsd : source.domain = 0
  · have hdd := domain_ne_zero_of_far far.symm hsd
    refine ⟨_, first (servingGateway_controller hsd ▸ path_from_controllerRoute hd hdd), ?_⟩
    rw [servingGateway_controller hsd, servingGateway_app hdd]
    by_cases channel : dest.channel = 0
    · refine iff_of_false ?_ fun h => h ⟨hsd, PortId.domain_eq_one hdd, channel⟩
      rintro ⟨front, e⟩
      rw [if_pos channel] at e
      have last : PortId.chipRoute = dest.route := by
        have := congrArg (fun l => l.reverse[1]?) e
        simpa using this
      have := dest.isRoute_route
      rw [← last] at this
      cases this
    · refine iff_of_true ⟨[.controllerRoute, .chipRoute, .appRoute], ?_⟩ fun h => channel h.2.2
      rw [if_neg channel]
      rfl
  · rw [servingGateway_app hsd] at first ⊢
    have domain : source.route.domain ≠ 0 := by simpa using hsd
    by_cases hdd : dest.domain = 0
    · obtain ⟨ids, path⟩ := path_from_route_down hd hdd domain source.isRoute_route
      refine ⟨_, first path, iff_of_true ⟨source.route :: (ids ++ [.chipRoute]), ?_⟩ ?_⟩
      · simp [servingGateway_controller hdd]
      · exact fun h => hsd h.1
    · have channel : source.route.channel ≠ dest.channel := by
        rw [PortId.channel_route]
        exact channel_ne_of_far far hsd hdd
      refine ⟨_, first (path_from_route_across hd hdd domain source.isRoute_route channel),
        iff_of_true ⟨[source.route], ?_⟩ fun h => hsd h.1⟩
      rw [servingGateway_app hdd]
      rfl

theorem endpoint_controller : Endpoint (.ofParts 0 3 4) := ⟨by decide, by decide, by decide⟩

theorem endpoint_channel_zero : Endpoint (.ofParts 1 0 5) := ⟨by decide, by decide, by decide⟩

/-- Down from channel 0 the route passes 1.0.1. -/
theorem ends_from_channel_zero : ∃ ids, Path (.ofParts 0 3 4) (.ofParts 1 0 5) (.appRoute :: ids) ∧
    ∃ front, .appRoute :: ids = front ++ [PortId.controllerRoute, .ofParts 0 3 4] := by
  obtain ⟨ids, path, ends⟩ :=
    ends_at_serving_gateways endpoint_channel_zero endpoint_controller (by decide)
  exact ⟨ids, path, ends.2 (by decide)⟩

/-- Up to channel 0 it does not, though 1.0.1 serves the session there. -/
theorem passes_over_appRoute :
    (Endpoint (.ofParts 0 3 4) ∧ Endpoint (.ofParts 1 0 5)) ∧
      (servingGateway (.ofParts 0 3 4) = .controllerRoute ∧
        servingGateway (.ofParts 1 0 5) = .appRoute) ∧
      Path (.ofParts 1 0 5) (.ofParts 0 3 4) [.controllerRoute, .chipRoute, .ofParts 1 0 5] := by
  refine ⟨⟨endpoint_controller, endpoint_channel_zero⟩, ⟨by decide, by decide⟩, ?_⟩
  have first := nextHop?_of_endpoint endpoint_controller endpoint_channel_zero (by decide)
  exact .hop (by decide) first (path_from_controllerRoute endpoint_channel_zero (by decide))

end FrameBus.Route
