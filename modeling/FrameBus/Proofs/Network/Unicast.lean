import FrameBus.Proofs.Network.Traces
import FrameBus.Proofs.Route.Legs

/-!
# Events to one session

On a mesh with a backbone an event comes to the session that it is sent to, and to no other, exactly
once (`unicast_exactly_once`). Until then one worker of one gateway on the way has the frame before
it: in one place, whatever else happens and in whatever order the workers move (`Once`).
-/

namespace FrameBus.Network

open Route

/-- The gateways that route frames are there, and every session is where its id says. -/
structure Backbone (n : Network) : Prop where
  routes : ∀ id ∈ [PortId.controllerRoute, .appRoute, .chipRoute],
    ∃ (g : Nat) (gw : Gateway), n.gateways[g]? = some gw ∧ gw.id = id
  apart : ∀ (s g : Nat) (ss : Session) (gw : Gateway), n.sessions[s]? = some ss →
    n.gateways[g]? = some gw → ss.id ≠ gw.id
  home : ∀ (s : Nat) (ss : Session), n.sessions[s]? = some ss →
    ∃ (g : Nat) (gw : Gateway), n.gateways[g]? = some gw ∧ gw.node = ss.node ∧
      gw.id = servingGateway ss.id
  channel : ∀ (s : Nat) (ss : Session), n.sessions[s]? = some ss → ss.id.domain = 1 →
    ss.id.channel ≠ 0

variable {hub : Nat} {n m : Network}

theorem backbone_of_blank (hb : m.blank = n.blank) (h : Backbone n) : Backbone m := by
  have gateway {g : Nat} {gw : Gateway} (hg : n.gateways[g]? = some gw) :=
    gateway_of_blank hb.symm hg
  have session {s : Nat} {ss : Session} (hs : m.sessions[s]? = some ss) :
      ∃ st, n.sessions[s]? = some st ∧ st.id = ss.id ∧ st.node = ss.node := by
    obtain ⟨st, ht, e⟩ := session_of_blank hb hs
    obtain ⟨node, id, -⟩ := Session.parts_of_blank e
    exact ⟨st, ht, id, node⟩
  constructor
  case routes =>
    intro id hid
    obtain ⟨g, gw, hg, rfl⟩ := h.routes id hid
    obtain ⟨gv, hv, e⟩ := gateway hg
    exact ⟨g, gv, hv, (Gateway.parts_of_blank e).2.1⟩
  case apart =>
    intro s g ss gw hs hg
    obtain ⟨st, ht, id, -⟩ := session hs
    obtain ⟨gv, hv, e⟩ := gateway_of_blank hb hg
    rw [← id, ← (Gateway.parts_of_blank e).2.1]
    exact h.apart s g st gv ht hv
  case home =>
    intro s ss hs
    obtain ⟨st, ht, id, node⟩ := session hs
    obtain ⟨g, gw, hg, hn, hi⟩ := h.home s st ht
    obtain ⟨gv, hv, e⟩ := gateway hg
    obtain ⟨hn', hi', -⟩ := Gateway.parts_of_blank e
    exact ⟨g, gv, hv, by rw [hn', hn, node], by rw [hi', hi, id]⟩
  case channel =>
    intro s ss hs
    obtain ⟨st, ht, id, -⟩ := session hs
    rw [← id]
    exact h.channel s st ht

theorem backbone_twoDomains : Backbone twoDomains := by
  constructor
  case routes =>
    intro id hid
    simp only [List.mem_cons, List.not_mem_nil, or_false] at hid
    rcases hid with rfl | rfl | rfl
    · exact ⟨0, _, rfl, rfl⟩
    · exact ⟨2, _, rfl, rfl⟩
    · exact ⟨1, _, rfl, rfl⟩
  case apart =>
    intro s g ss gw hs hg
    match s, g with
    | 0, 0 | 0, 1 | 0, 2 | 0, 3 | 1, 0 | 1, 1 | 1, 2 | 1, 3 => cases hs; cases hg; decide
    | s + 2, _ => cases hs
    | _, g + 4 => cases hg
  case home =>
    intro s ss hs
    match s with
    | 0 => cases hs; exact ⟨0, _, rfl, rfl, by decide⟩
    | 1 => cases hs; exact ⟨3, _, rfl, rfl, by decide⟩
    | s + 2 => cases hs
  case channel =>
    intro s ss hs
    match s with
    | 0 | 1 => cases hs; decide
    | s + 2 => cases hs

namespace Backbone

variable {s t : Nat} {a b : Session}

theorem housed (hm : Mesh hub n) (hb : Backbone n) (hs : n.sessions[s]? = some a) :
    Housed a.id := by
  refine ⟨(hm.session s a hs).id_ok, fun h => ?_, hb.channel s a hs⟩
  obtain ⟨g, gw, hg, -, hi⟩ := hb.home s a hs
  exact hb.apart s g a gw hs hg (h.trans hi.symm)

/-- The id of a session is unknown at every node but its own. -/
theorem nobody (hm : Mesh hub n) (hb : Backbone n) {g : Nat} {gw : Gateway}
    (hg : n.gateways[g]? = some gw) (hs : n.sessions[s]? = some a)
    (hne : gw.id ≠ servingGateway a.id) : (n.node gw.node).find? a.id = none := by
  refine Registry.find?_eq_none fun h hh e => ?_
  rcases hm.owned gw.node h hh with ⟨g', gw', hg', hn, rfl⟩ | ⟨t, c, ht, hn, rfl⟩
  · have id := (hm.gateway g' gw' hg').id
    rw [hn, e] at id
    exact hb.apart s g' a gw' hs hg' id
  · have id := (hm.session t c ht).id
    rw [hn, e] at id
    obtain ⟨g', gw', hg', hn', hi⟩ := hb.home t c ht
    obtain rfl := hm.alone g g' gw gw' hg hg' (by rw [hn', hn])
    obtain rfl := Option.some.inj (hg.symm.trans hg')
    exact hne (by rw [hi, id])

/-- The id of a gateway is unknown at every node but its own. -/
theorem elsewhere (hm : Mesh hub n) (hb : Backbone n) {g g' : Nat} {gw gw' : Gateway}
    (hg : n.gateways[g]? = some gw) (hg' : n.gateways[g']? = some gw') (hne : gw'.id ≠ gw.id) :
    (n.node gw.node).find? gw'.id = none := by
  refine Registry.find?_eq_none fun h hh e => ?_
  rcases hm.owned gw.node h hh with ⟨k, gv, hk, hn, rfl⟩ | ⟨t, c, ht, hn, rfl⟩
  · obtain rfl := hm.alone k g gv gw hk hg hn
    obtain rfl := Option.some.inj (hk.symm.trans hg)
    rw [(hm.gateway k gv hk).id] at e
    exact hne e.symm
  · have id := (hm.session t c ht).id
    rw [hn, e] at id
    exact hb.apart t g' c gw' ht hg' id.symm

/-- Every gateway on the way from one session to another is there. -/
theorem gateway_of_legs (hb : Backbone n) (hs : n.sessions[s]? = some a)
    (ht : n.sessions[t]? = some b) (far : servingGateway a.id ≠ servingGateway b.id) {x : PortId}
    (hx : x ∈ legs a.id b.id) :
    ∃ (g : Nat) (gw : Gateway), n.gateways[g]? = some gw ∧ gw.id = x := by
  rcases mem_legs far hx with hx | rfl | rfl
  · exact hb.routes x hx
  · obtain ⟨g, gw, hg, -, hi⟩ := hb.home s a hs
    exact ⟨g, gw, hg, hi⟩
  · obtain ⟨g, gw, hg, -, hi⟩ := hb.home t b ht
    exact ⟨g, gw, hg, hi⟩

end Backbone

/-! ## Where a frame can be -/

/-- A frame at the gateway that serves its sender. -/
structure Leaving (n : Network) (route : Addresses) (window : List UInt8) (g : Nat) (f : Frame) :
    Prop where
  gateway : ∃ gw, n.gateways[g]? = some gw ∧ gw.id = servingGateway route.source
  far : servingGateway route.source ≠ servingGateway route.dest
  window : f.window = window
  room : Envelope.size ≤ f.headRoom

/-- A sealed frame at a gateway on the way. -/
structure Crossing (n : Network) (route : Addresses) (window : List UInt8) (g : Nat) (f : Frame) :
    Prop where
  gateway : ∃ gw, n.gateways[g]? = some gw ∧ gw.id ∈ legs route.source route.dest
  far : servingGateway route.source ≠ servingGateway route.dest
  window : f.window = Envelope.sealed route window

/-- The places where a frame from one session to another can be, and its bytes there. -/
def Headed (n : Network) (route : Addresses) (home : Place) (window : List UInt8) :
    Place → Frame → Prop
  | .port i h, f => (.port i h = home ∧ f.window = window) ∨
      ∃ g, n.source (.uplink g) = .port i h ∧ Leaving n route window g f
  | .ingress g, f | .hand (.downlink g), f => Crossing n route window g f
  | .hand (.uplink g), f => Leaving n route window g f
  | .hand _, _ => True

/-- What a gateway makes of it: it is on the link, or it is given. -/
inductive Onward (n : Network) (route : Addresses) (home : Place) (window : List UInt8) :
    Marked.Rule
  | sends (mv : Move) (g : Nat) (f : Frame) (sent : List Happening) : mv ≠ .downlink g →
      Crossing n route window g f → Onward n route home window mv [(.ingress g, f)] sent
  | gives (mv : Move) (f : Frame) (sent : List Happening) : f.window = window →
      Onward n route home window mv [(home, f)] sent

section

variable {route : Addresses} {home : Place} {window : List UInt8} {g : Nat} {f : Frame}

theorem leaving_of_blank (hb : m.blank = n.blank) (h : Leaving n route window g f) :
    Leaving m route window g f := by
  obtain ⟨gw, hg, hi⟩ := h.gateway
  obtain ⟨gv, hv, e⟩ := gateway_of_blank hb.symm hg
  exact ⟨⟨gv, hv, (Gateway.parts_of_blank e).2.1.trans hi⟩, h.far, h.window, h.room⟩

theorem crossing_of_blank (hb : m.blank = n.blank) (h : Crossing n route window g f) :
    Crossing m route window g f := by
  obtain ⟨gw, hg, hi⟩ := h.gateway
  obtain ⟨gv, hv, e⟩ := gateway_of_blank hb.symm hg
  exact ⟨⟨gv, hv, (Gateway.parts_of_blank e).2.1 ▸ hi⟩, h.far, h.window⟩

theorem onward_of_blank (hb : m.blank = n.blank) {mv : Move} {out : List (Place × Frame)}
    {sent : List Happening} (h : Onward n route home window mv out sent) :
    Onward m route home window mv out sent := by
  cases h with
  | sends mv g f sent hne hf => exact .sends mv g f sent hne (crossing_of_blank hb hf)
  | gives mv f sent hf => exact .gives mv f sent hf

end

section

variable {s t g : Nat} {a b : Session} {event : UInt32} {payload : List UInt8} {f : Frame}

/-- The gateway after one that does not serve the destination. -/
theorem Backbone.next (hm : Mesh hub n) (hb : Backbone n) (hs : n.sessions[s]? = some a)
    (ht : n.sessions[t]? = some b) (far : servingGateway a.id ≠ servingGateway b.id) {x : PortId}
    (hx : x ∈ legs a.id b.id) (hlast : x ≠ servingGateway b.id) :
    ∃ (g : Nat) (gw : Gateway), n.gateways[g]? = some gw ∧ gw.id ∈ legs a.id b.id ∧ gw.id ≠ x ∧
      Gateway.hop? x b.id = some gw.id := by
  obtain ⟨y, hy, hop⟩ := hop?_of_mem_legs (hb.housed hm hs) (hb.housed hm ht) far hx hlast
  obtain ⟨g, gw, hg, rfl⟩ := hb.gateway_of_legs hs ht far hy
  obtain ⟨-, hne⟩ := Option.filter_eq_some_iff.1 hop
  exact ⟨g, gw, hg, hy, by simpa using hne, hop⟩

/-- The gateway that serves the sender puts the frame on the link. -/
theorem leaving_spec (hm : Mesh hub n) (hb : Backbone n) (hs : n.sessions[s]? = some a)
    (ht : n.sessions[t]? = some b)
    (hf : Leaving n ⟨a.id, b.id⟩ (EventFrame.bytes a.id b.id event payload) g f) (home : Place) :
    ∃ m out sent, n.handleUplink g f = some m ∧ n.Sends m out sent ∧
      Onward n ⟨a.id, b.id⟩ home (EventFrame.bytes a.id b.id event payload) (.uplink g) out
        sent := by
  obtain ⟨gw, hg, hi⟩ := hf.gateway
  obtain ⟨g', gw', hg', hleg, -, hop⟩ :=
    hb.next hm hs ht hf.far servingGateway_mem_legs hf.far
  obtain ⟨m, hu, sends⟩ := uplink_unicast hm hg hg' hf.window hf.room
    (PortId.isBroadcast_eq_false (hm.session t b ht).id_ok) (hi ▸ hop)
  refine ⟨m, _, _, hu, sends, .sends _ g' _ _ (by simp) ⟨⟨gw', hg', hleg⟩, hf.far, ?_⟩⟩
  rw [hf.window]
  rfl

/-- A gateway on the way gives the frame to its destination, or puts it on the link again. -/
theorem crossing_spec (hm : Mesh hub n) (hb : Backbone n) (hs : n.sessions[s]? = some a)
    (ht : n.sessions[t]? = some b)
    (hf : Crossing n ⟨a.id, b.id⟩ (EventFrame.bytes a.id b.id event payload) g f) :
    ∃ m out sent, n.handleDownlink g f = some m ∧ n.Sends m out sent ∧
      Onward n ⟨a.id, b.id⟩ (.port b.node b.port) (EventFrame.bytes a.id b.id event payload)
        (.downlink g) out sent := by
  obtain ⟨gw, hg, hx⟩ := hf.gateway
  by_cases hlast : gw.id = servingGateway b.id
  · obtain ⟨g', gw', hg', hn, hi⟩ := hb.home t b ht
    obtain rfl := hm.gateway_of_id hg hg' (hlast.trans hi.symm)
    obtain rfl := Option.some.inj (hg.symm.trans hg')
    obtain ⟨m, inner, hd, hw, sends⟩ := downlink_delivers hm hg ht hn.symm hf.window
    exact ⟨m, _, _, hd, sends, .gives _ inner _ hw⟩
  · obtain ⟨g', gw', hg', hleg, hne, hop⟩ := hb.next hm hs ht hf.far hx hlast
    obtain ⟨m, hd, sends⟩ := downlink_relays hm hg hg' (hm.session t b ht).id_ok
      (hb.nobody hm hg ht hlast) hop (hb.elsewhere hm hg hg' hne) hf.window
    refine ⟨m, _, _, hd, sends, .sends _ g' _ _ (fun e => ?_) ⟨⟨gw', hg', hleg⟩, hf.far, rfl⟩⟩
    obtain rfl := Move.downlink.inj e
    obtain rfl := Option.some.inj (hg.symm.trans hg')
    exact hne rfl

theorem ruled_unicast (hm : Mesh hub n) (hb : Backbone n) (hs : n.sessions[s]? = some a)
    (ht : n.sessions[t]? = some b) (event : UInt32) (payload : List UInt8) :
    Marked.Ruled n
      (Headed n ⟨a.id, b.id⟩ (.port b.node b.port) (EventFrame.bytes a.id b.id event payload))
      (Onward n ⟨a.id, b.id⟩ (.port b.node b.port) (EventFrame.bytes a.id b.id event payload)) := by
  constructor
  case carry =>
    intro mv f hf
    cases mv with
    | uplink g =>
      rcases n.source_uplink g with e | ⟨gw, hg, source⟩
      · rwa [e] at hf
      · rw [source] at hf
        rcases hf with ⟨home, -⟩ | ⟨g', source', hf⟩
        · exact absurd (source.trans home) (hm.source_ne_port ht rfl)
        · obtain rfl := Move.uplink.inj (hm.source_inj _ _ (source'.trans source.symm))
          exact hf
    | downlink g => exact hf
    | session k => exact trivial
    | socket k => exact trivial
  case handles =>
    intro m mv f hbl hmv hf
    have mesh := mesh_of_blank hbl hm
    have backbone := backbone_of_blank hbl hb
    obtain ⟨a', hs', ea⟩ := session_of_blank hbl.symm hs
    obtain ⟨b', ht', eb⟩ := session_of_blank hbl.symm ht
    obtain ⟨-, ha, -⟩ := Session.parts_of_blank ea
    obtain ⟨hn, hb', hp⟩ := Session.parts_of_blank eb
    cases mv with
    | uplink g =>
      have hf : Leaving m ⟨a'.id, b'.id⟩ (EventFrame.bytes a'.id b'.id event payload) g f := by
        rw [ha, hb']
        exact leaving_of_blank hbl hf
      obtain ⟨k, out, sent, handled, sends, rule⟩ :=
        leaving_spec mesh backbone hs' ht' hf (.port b.node b.port)
      rw [ha, hb'] at rule
      exact ⟨k, out, sent, handled, sends, onward_of_blank hbl.symm rule⟩
    | downlink g =>
      have hf : Crossing m ⟨a'.id, b'.id⟩ (EventFrame.bytes a'.id b'.id event payload) g f := by
        rw [ha, hb']
        exact crossing_of_blank hbl hf
      obtain ⟨k, out, sent, handled, sends, rule⟩ := crossing_spec mesh backbone hs' ht' hf
      rw [ha, hb', hn, hp] at rule
      exact ⟨k, out, sent, handled, sends, onward_of_blank hbl.symm rule⟩
    | session k => cases hmv
    | socket k => cases hmv
  case lands =>
    intro mv out sent hr p f hf
    cases hr with
    | sends _ g f' _ _ hx =>
      obtain ⟨rfl, rfl⟩ := Prod.mk.inj (List.mem_singleton.1 hf)
      exact ⟨hx, by simp⟩
    | gives _ f' _ hw =>
      obtain ⟨rfl, rfl⟩ := Prod.mk.inj (List.mem_singleton.1 hf)
      exact ⟨.inl ⟨rfl, hw⟩, by simp⟩

/-- The send puts its frame at the port of the destination, or of the gateway that serves the
sender. -/
theorem sendEvent_mesh (hm : Mesh hub n) (hb : Backbone n) (hs : n.sessions[s]? = some a)
    (ht : n.sessions[t]? = some b) (event : UInt32) (hp : payload.length < 0x100000000) :
    ∃ m i h f, n.sendEvent (.ofSession a) b.id event payload = some (.ok (), m) ∧
      n.Sends m [(.port i h, f)] [] ∧
      Headed n ⟨a.id, b.id⟩ (.port b.node b.port) (EventFrame.bytes a.id b.id event payload)
        (.port i h) f ∧
      (Place.port i h = .port b.node b.port ∨ ∃ g, Place.port i h = n.source (.uplink g)) := by
  have session := hm.session s a hs
  have target := hm.session t b ht
  have single := PortId.isBroadcast_eq_false target.id_ok
  let f : Frame := ⟨List.replicate 16 0, EventFrame.bytes a.id b.id event payload, []⟩
  have encoded : EventFrame.encode a.id b.id event payload = .ok f := EventFrame.encode_eq hp
  obtain ⟨g, gw, hg, hn, hi⟩ := hb.home s a hs
  have serves := hm.gateway g gw hg
  rw [hn] at serves
  by_cases far : servingGateway a.id = servingGateway b.id
  · obtain ⟨g', gw', hg', hn', hi'⟩ := hb.home t b ht
    obtain rfl := hm.gateway_of_id hg hg' (by rw [hi, hi', far])
    obtain rfl := Option.some.inj (hg.symm.trans hg')
    have node : b.node = a.node := hn'.symm.trans hn
    rw [node] at target
    obtain ⟨r, hr, ha⟩ := Registry.send_to_port (hm.node a.node) session.port target.port
      (target.id ▸ target.id_ok) (f := f)
    rw [target.id] at hr
    refine ⟨n.setNode a.node r, b.node, b.port, f, ?_, ?_, .inl ⟨rfl, rfl⟩, .inl rfl⟩
    · simp only [sendEvent, single, target.id_ok, Sender.ofSession, encoded, hr]
      rfl
    · rw [node]
      exact sends_setNode ha
  · have nobody := hb.nobody hm hg ht (hi ▸ far)
    rw [hn] at nobody
    have hop := nextHop?_of_housed (hb.housed hm hs) (hb.housed hm ht) far
    rw [← hi, ← session.id, ← serves.id] at hop
    have other : (n.node a.node).idOf gw.port ≠ (n.node a.node).idOf a.port := by
      rw [serves.id, session.id]
      exact (hb.apart s g a gw hs hg).symm
    obtain ⟨r, hr, ha⟩ := Registry.send_to_hop (hm.node a.node) session.port target.id_ok nobody hop
      serves.port other (f := f)
    have source : n.source (.uplink g) = .port a.node gw.port := by simp [source, hg, hn]
    refine ⟨n.setNode a.node r, a.node, gw.port, f, ?_, sends_setNode ha,
      .inr ⟨g, source, ⟨gw, hg, hi⟩, far, rfl, ?_⟩, .inr ⟨g, source.symm⟩⟩
    · simp only [sendEvent, single, target.id_ok, Sender.ofSession, encoded, hr]
      rfl
    · show Envelope.size ≤ (List.replicate 16 0).length
      decide

end

/-! ## Once -/

/-- One worker of a gateway has the frame before it, or the frame was given. -/
inductive Once (home : Place) (M : Marked) : Prop
  | before (mv : Move) (one : M.held mv = 1) (hmv : mv.passesOn = true)
      (others : ∀ mv', mv'.passesOn = true → mv' ≠ mv → M.held mv' = 0) (given : M.given home = [])
  | after (f : Frame) (none : ∀ mv, mv.passesOn = true → M.held mv = 0) (given : M.given home = [f])

section

variable {M N : Marked} {route : Addresses} {i : Nat} {h : Handle} {window : List UInt8}

theorem arrivals_singleton_of_ne {p q : Place} {f : Frame} (h : q ≠ p) :
    arrivals [(q, f)] p = [] := by
  rw [arrivals_cons, if_neg h, arrivals_nil]

theorem once_passes (away : ∀ mv : Move, mv.passesOn = true → n.source mv ≠ .port i h) {mv : Move}
    {out : List (Place × Frame)} {sent : List Happening}
    (hr : Onward n route (.port i h) window mv out sent) (hp : M.Passes n N mv out sent)
    (hM : Once (.port i h) M) : Once (.port i h) N := by
  -- the worker that passed the frame on is the one that had it before
  have handled (hne : arrivals out (n.source mv) = []) :
      M.given (.port i h) = [] ∧ ∀ mv', mv'.passesOn = true →
        N.held mv' = (arrivals out (n.source mv')).length := by
    have here := hp.held mv hp.passesOn
    rw [hne, if_pos rfl] at here
    cases hM with
    | before mv₀ one _ others given =>
      have e : mv = mv₀ := by
        refine Decidable.byContradiction fun e => ?_
        rw [others mv hp.passesOn e] at here
        cases here
      subst e
      refine ⟨given, fun mv' hmv' => ?_⟩
      have there := hp.held mv' hmv'
      by_cases e : mv' = mv
      · rw [if_pos e, e, one] at there
        rw [e]
        omega
      · rw [if_neg e, others mv' hmv' e] at there
        omega
    | after f none given =>
      rw [none mv hp.passesOn] at here
      cases here
  cases hr with
  | sends _ g f _ hne hx =>
    have elsewhere {mv' : Move} (e : mv' ≠ .downlink g) :
        arrivals [(Place.ingress g, f)] (n.source mv') = [] :=
      arrivals_singleton_of_ne fun e' => e (source_eq_ingress e'.symm)
    obtain ⟨given, held⟩ := handled (elsewhere hne)
    refine .before (.downlink g) ?_ rfl (fun mv' hmv' e => ?_) ?_
    · rw [held _ rfl]
      simp [source, arrivals_cons]
    · rw [held mv' hmv', elsewhere e]
      rfl
    · rw [hp.given, given, arrivals_singleton_of_ne (by simp)]
      rfl
  | gives _ f _ hw =>
    have elsewhere {mv' : Move} (hmv' : mv'.passesOn = true) :
        arrivals [(Place.port i h, f)] (n.source mv') = [] :=
      arrivals_singleton_of_ne (away mv' hmv').symm
    obtain ⟨given, held⟩ := handled (elsewhere hp.passesOn)
    refine .after f (fun mv' hmv' => ?_) ?_
    · rw [held mv' hmv', elsewhere hmv']
      rfl
    · rw [hp.given, given, arrivals_cons, if_pos rfl]
      rfl

theorem once_quiet {home : Place} (changes : N.changes = M.changes)
    (same : ∀ mv, mv.passesOn = true → N.held mv = M.held mv) (hM : Once home M) : Once home N := by
  have given : N.given home = M.given home := by simp only [Marked.given, changes]
  cases hM with
  | before mv one hmv others none =>
    exact .before mv ((same mv hmv).trans one) hmv
      (fun mv' hmv' e => (same mv' hmv').trans (others mv' hmv' e)) (given.trans none)
  | after f none one =>
    exact .after f (fun mv hmv => (same mv hmv).trans (none mv hmv)) (given.trans one)

theorem once_start {home : Place} {f : Frame} {p : Place} (hm : Mesh hub n)
    (away : ∀ mv : Move, mv.passesOn = true → n.source mv ≠ home)
    (hp : p = home ∨ ∃ g, p = n.source (.uplink g))
    (held : ∀ mv, M.held mv = (arrivals [(p, f)] (n.source mv)).length)
    (given : M.given home = arrivals [(p, f)] home) : Once home M := by
  rcases hp with rfl | ⟨g, rfl⟩
  · refine .after f (fun mv hmv => ?_) ?_
    · rw [held, arrivals_singleton_of_ne (away mv hmv).symm]
      rfl
    · rw [given, arrivals_cons, if_pos rfl]
      rfl
  · refine .before (.uplink g) ?_ rfl (fun mv hmv e => ?_) ?_
    · rw [held, arrivals_cons, if_pos rfl]
      rfl
    · rw [held, arrivals_singleton_of_ne fun e' => e (hm.source_inj _ _ e').symm]
      rfl
    · rw [given, arrivals_singleton_of_ne (away _ rfl)]

end

/-- An event to a session is given to its port exactly once, and to no other session's. -/
theorem unicast_exactly_once {s t : Nat} {a b : Session} {payload : List UInt8} (hm : Mesh hub n)
    (hb : Backbone n) (hs : n.sessions[s]? = some a) (ht : n.sessions[t]? = some b)
    (event : UInt32) (hp : payload.length < 0x100000000) :
    ∃ m, n.sendEvent (.ofSession a) b.id event payload = some (.ok (), m) ∧
      ∀ M, (Marked.start n m).Reaches M →
        (M.given (.port b.node b.port)).length ≤ 1 ∧
        (M.net.Drained → (M.given (.port b.node b.port)).length = 1) ∧
        (∀ k c, n.sessions[k]? = some c → k ≠ t → M.given (.port c.node c.port) = []) ∧
        (∀ f ∈ M.given (.port b.node b.port), EventFrame.Carries a.id b.id event payload f) ∧
        M.Undropped := by
  obtain ⟨m, i, h, f, sent, sends, headed, place⟩ := sendEvent_mesh hm hb hs ht event hp
  have away := fun (mv : Move) (hmv : mv.passesOn = true) => hm.source_ne_port ht hmv
  obtain ⟨traced, held, given, -⟩ := Marked.traced_start sends fun q g hg => by
    obtain ⟨rfl, rfl⟩ := Prod.mk.inj (List.mem_singleton.1 hg)
    exact headed
  have once := once_start hm away place (held fun mv => arrivals_singleton_of_ne (by simp))
    (given _)
  refine ⟨m, sent, fun M run => ?_⟩
  obtain ⟨traced, once⟩ := Marked.invariant_of_reaches hm (ruled_unicast hm hb hs ht event payload)
    (fun _ _ => once_quiet) (fun _ _ _ _ _ => once_passes away) traced once run
  refine ⟨?_, fun drained => ?_, fun k c hk hne => ?_, fun f hf => ?_, traced.undropped⟩
  · cases once with
    | before mv one hmv others none => simp [none]
    | after f none one => simp [one]
  · cases once with
    | before mv one hmv others none =>
      rw [Marked.held_eq_zero traced.fits drained mv hmv] at one
      cases one
    | after f none one => rw [one]; rfl
  · rw [List.eq_nil_iff_forall_not_mem]
    intro f hf
    rcases traced.given _ _ f hf with ⟨home, -⟩ | ⟨g, source, -⟩
    · obtain ⟨hn, hport⟩ := Place.port.inj home
      exact hne ((hm.apart t b ht).2 k c hk hn hport)
    · exact hm.source_ne_port hk rfl source
  · rcases traced.given _ _ f hf with ⟨-, hw⟩ | ⟨g, source, -⟩
    · exact EventFrame.carries_of_bytes hp hw
    · exact absurd source (away _ rfl)

/-- From the controller's session over four gateways to the application's. -/
theorem unicast_across_domains : ∃ (m : Network) (M : Marked),
    twoDomains.sendEvent ⟨0, .ofParts 0 1 2, 1⟩ (.ofParts 1 5 7) 9 [1, 2] = some (.ok (), m) ∧
      (Marked.start twoDomains m).Reaches M ∧ M.net.Drained ∧ (M.given (.port 3 1)).length = 1 := by
  obtain ⟨m, sent, outcome⟩ := unicast_exactly_once (s := 0) (t := 1) mesh_twoDomains
    backbone_twoDomains rfl rfl 9 (show [1, 2].length < 0x100000000 by decide)
  have sent : twoDomains.sendEvent ⟨0, .ofParts 0 1 2, 1⟩ (.ofParts 1 5 7) 9 [1, 2] =
    some (.ok (), m) := sent
  obtain ⟨M, run, net⟩ := Marked.reaches_settle 40 (Marked.start twoDomains m)
  have drained : M.net.Drained := by
    have settles : (twoDomains.sendEvent ⟨0, .ofParts 0 1 2, 1⟩ (.ofParts 1 5 7) 9 [1, 2]).map
        (fun r => decide (r.2.settle 40).Drained) = some true := by decide +kernel
    rw [sent] at settles
    rw [net]
    show (m.settle 40).Drained
    simpa using settles
  exact ⟨m, M, sent, run, drained, (outcome M run).2.1 drained⟩

end FrameBus.Network
