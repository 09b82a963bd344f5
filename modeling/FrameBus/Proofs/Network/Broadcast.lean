import FrameBus.Proofs.Network.Traces

/-!
# Events to everyone

On a mesh a broadcast comes to every session but its sender exactly once, over one transmission
(`broadcast_exactly_once`). It leaves by the gateway of the sender's node, and only by that one: a
gateway that receives it gives it to the sessions of its node, not to its own port (`Spreading`).
-/

namespace FrameBus.Network

variable {hub : Nat} {n m : Network}

/-! ## Where a frame can be -/

/-- The places where a frame of a broadcast can be, and its bytes there: it leaves by the gateway
`home` and comes in by the others. -/
def Spread (n : Network) (source : PortId) (window : List UInt8) (home : Nat) : Place → Frame → Prop
  | .port i h, f => f.window = window ∧
      ∀ g, n.source (.uplink g) = .port i h → g = home ∧ Envelope.size ≤ f.headRoom
  | .hand (.uplink g), f => f.window = window ∧ g = home ∧ Envelope.size ≤ f.headRoom
  | .ingress g, f | .hand (.downlink g), f => g ≠ home ∧ (n.gateways[g]?).isSome ∧
      f.window = Envelope.sealed ⟨source, .broadcast⟩ window
  | .hand _, _ => True

/-- What a gateway makes of it: one transmission to all the others, or a copy for each session. -/
inductive Fanned (n : Network) (source : PortId) (window : List UInt8) (home : Nat) : Marked.Rule
  | leaves (gw : Gateway) (ks : List Nat) (f : Frame) (bytes : List UInt8) :
      n.gateways[home]? = some gw → ks.Nodup → (∀ k, k ∈ ks ↔ k ≠ home ∧ (n.gateways[k]?).isSome) →
      f.window = Envelope.sealed ⟨source, .broadcast⟩ window →
      Fanned n source window home (.uplink home) (ks.map fun k => (.ingress k, f))
        [.transmitted gw.id .broadcast bytes (.ok ())]
  | comes (g : Nat) (gw : Gateway) (f : Frame) : g ≠ home → n.gateways[g]? = some gw →
      f.window = window → Fanned n source window home (.downlink g)
        (((n.node gw.node).others gw.id).map fun h => (.port gw.node h, f)) []

/-- A worker of a gateway does not look at the other ports of its node. -/
theorem Mesh.source_ne_others (hm : Mesh hub n) {g : Nat} {gw : Gateway}
    (hg : n.gateways[g]? = some gw) {h : Handle} (hh : h ∈ (n.node gw.node).others gw.id)
    {mv : Move} (hmv : mv.passesOn = true) : n.source mv ≠ .port gw.node h := by
  obtain ⟨-, hne⟩ := Registry.mem_others.1 hh
  intro e
  rcases source_eq_port e with ⟨k, gv, rfl, hk, hn, rfl⟩ | ⟨k, c, rfl, -⟩
  · obtain rfl := hm.alone k g gv gw hk hg hn
    obtain rfl := Option.some.inj (hk.symm.trans hg)
    exact hne (hm.gateway k gv hk).id
  · cases hmv

theorem isSome_gateway_of_blank (hb : m.blank = n.blank) (g : Nat) :
    (m.gateways[g]?).isSome = (n.gateways[g]?).isSome := by
  cases hg : n.gateways[g]? with
  | none =>
    cases hv : m.gateways[g]? with
    | none => rfl
    | some gv =>
      obtain ⟨gw, hw, -⟩ := gateway_of_blank hb hv
      rw [hg] at hw
      cases hw
  | some gw =>
    obtain ⟨gv, hv, -⟩ := gateway_of_blank hb.symm hg
    rw [hv]
    rfl

variable {source : PortId} {event : UInt32} {payload : List UInt8} {home : Nat}

theorem ruled_broadcast (hm : Mesh hub n) (source : PortId) (event : UInt32) (payload : List UInt8)
    (home : Nat) (there : (n.gateways[home]?).isSome) :
    Marked.Ruled n (Spread n source (EventFrame.bytes source .broadcast event payload) home)
      (Fanned n source (EventFrame.bytes source .broadcast event payload) home) := by
  constructor
  case carry =>
    intro mv f hf
    cases mv with
    | uplink g =>
      rcases n.source_uplink g with e | ⟨gw, hg, source⟩
      · rwa [e] at hf
      · rw [source] at hf
        exact ⟨hf.1, hf.2 g source⟩
    | downlink g => exact hf
    | session k => exact trivial
    | socket k => exact trivial
  case handles =>
    intro m mv f hbl hmv hf
    have mesh := mesh_of_blank hbl hm
    cases mv with
    | uplink g =>
      obtain ⟨hw, rfl, hr⟩ := hf
      obtain ⟨gw, hg⟩ := Option.isSome_iff_exists.1 there
      obtain ⟨gv, hv, e⟩ := gateway_of_blank hbl.symm hg
      obtain ⟨ks, k, handled, nodup, mem, sends⟩ := uplink_broadcast mesh hv hw hr
      refine ⟨k, _, _, handled, sends, ?_⟩
      rw [(Gateway.parts_of_blank e).2.1]
      refine .leaves gw ks _ _ hg nodup (fun k => ?_) (by rw [hw]; rfl)
      rw [mem, isSome_gateway_of_blank hbl]
    | downlink g =>
      obtain ⟨hne, hs, hw⟩ := hf
      obtain ⟨gw, hg⟩ := Option.isSome_iff_exists.1 hs
      obtain ⟨gv, hv, e⟩ := gateway_of_blank hbl.symm hg
      obtain ⟨hn, hi, -⟩ := Gateway.parts_of_blank e
      obtain ⟨k, inner, handled, hiw, sends⟩ := downlink_broadcast mesh hv hw
      rw [hn, hi, Registry.others_of_blank (node_of_blank hbl gw.node)] at sends
      exact ⟨k, _, _, handled, sends, .comes g gw _ hne hg hiw⟩
    | session k => cases hmv
    | socket k => cases hmv
  case lands =>
    intro mv out sent hr p f hf
    cases hr with
    | leaves gw ks f' bytes hg _ mem hw =>
      obtain ⟨k, hk, e⟩ := List.mem_map.1 hf
      obtain ⟨rfl, rfl⟩ := Prod.mk.inj e
      obtain ⟨hne, hs⟩ := (mem k).1 hk
      exact ⟨⟨hne, hs, hw⟩, by simp⟩
    | comes g gw f' hne hg hw =>
      obtain ⟨h, hh, e⟩ := List.mem_map.1 hf
      obtain ⟨rfl, rfl⟩ := Prod.mk.inj e
      exact ⟨⟨hw, fun g' e' => absurd e' (hm.source_ne_others hg hh rfl)⟩, by simp⟩

/-! ## Once everywhere -/

/-- What of a broadcast is where: it is before the one worker that transmits it, or it was
transmitted; and a session of another node was given it, or one of the two workers on the way there
has it before it. -/
structure Spreading (n : Network) (home s : Nat) (M : Marked) : Prop where
  transmissions : M.happenings.length + M.held (.uplink home) = 1
  transmitted : ∀ x ∈ M.happenings, ∃ gw bytes, n.gateways[home]? = some gw ∧
    x = .transmitted gw.id .broadcast bytes (.ok ())
  uplinks : ∀ g, g ≠ home → M.held (.uplink g) = 0
  own : ∀ (gw : Gateway) (k : Nat) (c : Session), n.gateways[home]? = some gw →
    n.sessions[k]? = some c → c.node = gw.node →
    (M.given (.port c.node c.port)).length = if k = s then 0 else 1
  far : ∀ (g : Nat) (gw : Gateway) (k : Nat) (c : Session), g ≠ home → n.gateways[g]? = some gw →
    n.sessions[k]? = some c → c.node = gw.node →
    (M.given (.port c.node c.port)).length + M.held (.downlink g) + M.held (.uplink home) = 1

section

variable {M N : Marked} {s : Nat} {window : List UInt8}

theorem spreading_quiet (changes : N.changes = M.changes)
    (same : ∀ mv, mv.passesOn = true → N.held mv = M.held mv) (hM : Spreading n home s M) :
    Spreading n home s N := by
  have given (p : Place) : N.given p = M.given p := by simp only [Marked.given, changes]
  have happenings : N.happenings = M.happenings := by simp only [Marked.happenings, changes]
  constructor
  case transmissions => rw [happenings, same _ rfl, hM.transmissions]
  case transmitted => rw [happenings]; exact hM.transmitted
  case uplinks => exact fun g hg => (same _ rfl).trans (hM.uplinks g hg)
  case own =>
    intro gw k c hg hk hn
    rw [given, hM.own gw k c hg hk hn]
  case far =>
    intro g gw k c hne hg hk hn
    rw [given, same _ rfl, same _ rfl, hM.far g gw k c hne hg hk hn]

/-- The ports of a node's sessions are among those that its gateway gives copies to. -/
theorem Mesh.session_mem_others (hm : Mesh hub n) {g k : Nat} {gw : Gateway} {c : Session}
    (hg : n.gateways[g]? = some gw) (hk : n.sessions[k]? = some c) (hn : c.node = gw.node) :
    c.port ∈ (n.node gw.node).others gw.id := by
  have session := hm.session k c hk
  have serves := hm.gateway g gw hg
  rw [hn] at session
  rw [← serves.id, (hm.node gw.node).mem_others_iff session.port serves.port]
  exact ((hm.apart k c hk).1 g gw hg hn.symm).symm

/-- The one transmission. -/
theorem spreading_leaves {gw₀ : Gateway} {ks : List Nat} {f : Frame} {bytes : List UInt8}
    (hg₀ : n.gateways[home]? = some gw₀) (nodup : ks.Nodup)
    (mem : ∀ k, k ∈ ks ↔ k ≠ home ∧ (n.gateways[k]?).isSome)
    (hp : M.Passes n N (.uplink home) (ks.map fun k => (.ingress k, f))
      [.transmitted gw₀.id .broadcast bytes (.ok ())])
    (hM : Spreading n home s M) : Spreading n home s N := by
  have ports (i : Nat) (h : Handle) :
      arrivals (ks.map fun k => (Place.ingress k, f)) (.port i h) = [] :=
    arrivals_map_of_ne (fun k _ => by simp) f
  have given (i : Nat) (h : Handle) : N.given (.port i h) = M.given (.port i h) := by
    rw [hp.given, ports, List.append_nil]
  have uplinks (g : Nat) :
      N.held (.uplink g) + (if g = home then 1 else 0) = M.held (.uplink g) := by
    have none : arrivals (ks.map fun k => (Place.ingress k, f)) (n.source (.uplink g)) = [] :=
      arrivals_map_of_ne (fun k _ e => by cases source_eq_ingress e.symm) f
    simpa [none] using hp.held (.uplink g) rfl
  have here := uplinks home
  rw [if_pos rfl] at here
  have downlinks (g : Nat) (gw : Gateway) (hne : g ≠ home) (hg : n.gateways[g]? = some gw) :
      N.held (.downlink g) = M.held (.downlink g) + 1 := by
    have one : (arrivals (ks.map fun k => (Place.ingress k, f)) (.ingress g)).length = 1 := by
      rw [length_arrivals_map (fun x y e => Place.ingress.inj e) nodup,
        if_pos ((mem g).2 ⟨hne, by simp [hg]⟩)]
    have there := hp.held (.downlink g) rfl
    rw [if_neg (by simp)] at there
    exact there.trans (congrArg _ one)
  constructor
  case transmissions =>
    have := hM.transmissions
    rw [hp.happenings, List.length_append, List.length_singleton]
    omega
  case transmitted =>
    intro x hx
    rw [hp.happenings] at hx
    rcases List.mem_append.1 hx with hx | hx
    · exact hM.transmitted x hx
    · exact ⟨gw₀, bytes, hg₀, List.mem_singleton.1 hx⟩
  case uplinks =>
    intro g hg
    have := uplinks g
    rw [if_neg hg, hM.uplinks g hg] at this
    exact this
  case own =>
    intro gw k c hg hk hn
    rw [given, hM.own gw k c hg hk hn]
  case far =>
    intro g gw k c hne hg hk hn
    have := hM.far g gw k c hne hg hk hn
    have := downlinks g gw hne hg
    rw [given]
    omega

/-- A gateway that another one's transmission reached gives the frame to the other ports of its
node. -/
theorem spreading_comes (hm : Mesh hub n) {g₁ : Nat} {gw₁ : Gateway} {f : Frame} (hne₁ : g₁ ≠ home)
    (hg₁ : n.gateways[g₁]? = some gw₁)
    (hp : M.Passes n N (.downlink g₁)
      (((n.node gw₁.node).others gw₁.id).map fun h => (.port gw₁.node h, f)) [])
    (hM : Spreading n home s M) : Spreading n home s N := by
  have held (mv' : Move) (hmv' : mv'.passesOn = true) :
      N.held mv' + (if mv' = .downlink g₁ then 1 else 0) = M.held mv' := by
    have none : arrivals (((n.node gw₁.node).others gw₁.id).map fun h =>
        (Place.port gw₁.node h, f)) (n.source mv') = [] :=
      arrivals_map_of_ne (fun h hh e => hm.source_ne_others hg₁ hh hmv' e.symm) f
    simpa [none] using hp.held mv' hmv'
  have uplinks (g : Nat) : N.held (.uplink g) = M.held (.uplink g) := by
    simpa using held (.uplink g) rfl
  have elsewhere {g k : Nat} {gw : Gateway} {c : Session} (hne : g ≠ g₁)
      (hg : n.gateways[g]? = some gw) (hn : c.node = gw.node) :
      N.given (.port c.node c.port) = M.given (.port c.node c.port) := by
    rw [hp.given, arrivals_map_of_ne (fun h _ e => ?_), List.append_nil]
    obtain ⟨hnode, -⟩ := Place.port.inj e
    exact hne (hm.alone g g₁ gw gw₁ hg hg₁ (hn.symm.trans hnode.symm))
  have there {k : Nat} {c : Session} (hk : n.sessions[k]? = some c) (hn : c.node = gw₁.node) :
      (N.given (.port c.node c.port)).length = (M.given (.port c.node c.port)).length + 1 := by
    have nodup := (hm.node gw₁.node).nodup_others gw₁.id
    rw [hp.given, hn, List.length_append,
      length_arrivals_map (fun x y e => (Place.port.inj e).2) nodup,
      if_pos (hm.session_mem_others hg₁ hk hn)]
  have happenings : N.happenings = M.happenings := by
    rw [hp.happenings, List.append_nil]
  constructor
  case transmissions => rw [happenings, uplinks, hM.transmissions]
  case transmitted => rw [happenings]; exact hM.transmitted
  case uplinks => exact fun g hg => (uplinks g).trans (hM.uplinks g hg)
  case own =>
    intro gw k c hg hk hn
    rw [elsewhere (k := k) (Ne.symm hne₁) hg hn, hM.own gw k c hg hk hn]
  case far =>
    intro g gw k c hne hg hk hn
    have before := hM.far g gw k c hne hg hk hn
    have downlink := held (.downlink g) rfl
    rw [uplinks]
    by_cases h : g = g₁
    · subst h
      obtain rfl := Option.some.inj (hg.symm.trans hg₁)
      have := there hk hn
      rw [if_pos rfl] at downlink
      omega
    · rw [if_neg (by simpa using h)] at downlink
      rw [elsewhere (k := k) h hg hn]
      omega

theorem spreading_passes (hm : Mesh hub n) {mv : Move} {out : List (Place × Frame)}
    {sent : List Happening} (hr : Fanned n source window home mv out sent)
    (hp : M.Passes n N mv out sent) (hM : Spreading n home s M) : Spreading n home s N := by
  cases hr with
  | leaves _ ks f bytes hg₀ nodup mem _ => exact spreading_leaves hg₀ nodup mem hp hM
  | comes g₁ gw₁ f hne₁ hg₁ _ => exact spreading_comes hm hne₁ hg₁ hp hM

end

/-! ## The send -/

section

variable {M : Marked} {s : Nat} {a : Session}

/-- A session's node has a gateway. -/
theorem Mesh.gateway_of_session (hm : Mesh hub n) (hs : n.sessions[s]? = some a) :
    ∃ (g : Nat) (gw : Gateway), n.gateways[g]? = some gw ∧ gw.node = a.node := by
  refine hm.served a.node (Decidable.byContradiction fun h => ?_)
  have port := (hm.session s a hs).port
  rw [node_eq_new h] at port
  cases port

theorem broadcastEvent_mesh (hm : Mesh hub n) (hs : n.sessions[s]? = some a) (event : UInt32)
    (hp : payload.length < 0x100000000) :
    ∃ m f, n.broadcastEvent (.ofSession a) event payload =
        some (.ok ((n.node a.node).others a.id).length, m) ∧
      n.Sends m (((n.node a.node).others a.id).map fun h => (.port a.node h, f)) [] ∧
      f.window = EventFrame.bytes a.id .broadcast event payload ∧ Envelope.size ≤ f.headRoom := by
  have session := hm.session s a hs
  let f : Frame := ⟨List.replicate 16 0, EventFrame.bytes a.id .broadcast event payload, []⟩
  have encoded : EventFrame.encode a.id .broadcast event payload = .ok f := EventFrame.encode_eq hp
  obtain ⟨o, ho, count, ha⟩ := Registry.broadcast_ready (hm.node a.node) session.port f
  rw [session.id] at count ha
  have sends := sends_setNode ha
  rw [List.map_map] at sends
  refine ⟨n.setNode a.node o.after, f.duplicate, ?_, sends, rfl, ?_⟩
  · simp only [broadcastEvent, Sender.ofSession, encoded, ho, count]
  · show Envelope.size ≤ (List.replicate Frame.defaultHeadRoom 0).length
    decide

/-- The copies of a send are at the ports of the sender's node. -/
theorem spreading_start (hm : Mesh hub n) (hs : n.sessions[s]? = some a) {gw₀ : Gateway}
    (hg₀ : n.gateways[home]? = some gw₀) (hn₀ : gw₀.node = a.node) {f : Frame}
    (held : ∀ mv, M.held mv = (arrivals (((n.node a.node).others a.id).map fun h =>
      (Place.port a.node h, f)) (n.source mv)).length)
    (given : ∀ p, M.given p = arrivals (((n.node a.node).others a.id).map fun h =>
      (Place.port a.node h, f)) p)
    (happenings : M.happenings = []) : Spreading n home s M := by
  have session := hm.session s a hs
  have nodup := (hm.node a.node).nodup_others a.id
  have at_port (h : Handle) : (arrivals (((n.node a.node).others a.id).map fun h =>
      (Place.port a.node h, f)) (.port a.node h)).length =
        if h ∈ (n.node a.node).others a.id then 1 else 0 :=
    length_arrivals_map (fun x y e => (Place.port.inj e).2) nodup f h
  have elsewhere {p : Place} (hp : ∀ h, p ≠ .port a.node h) :
      arrivals (((n.node a.node).others a.id).map fun h => (Place.port a.node h, f)) p = [] :=
    arrivals_map_of_ne (fun h _ e => hp h e.symm) f
  have others (h : Handle) (hh : h ∈ (n.node a.node).registered) :
      h ∈ (n.node a.node).others a.id ↔ h ≠ a.port := by
    rw [← session.id]
    exact (hm.node a.node).mem_others_iff hh session.port
  have uplink : M.held (.uplink home) = 1 := by
    have source : n.source (.uplink home) = .port a.node gw₀.port := by
      simp [Network.source, hg₀, hn₀]
    have serves := hm.gateway home gw₀ hg₀
    rw [hn₀] at serves
    have other := (hm.apart s a hs).1 home gw₀ hg₀ hn₀
    rw [held, source, at_port, if_pos ((others _ serves.port).2 other)]
  have away {g : Nat} {gw : Gateway} (hne : g ≠ home) (hg : n.gateways[g]? = some gw) :
      gw.node ≠ a.node := fun h => hne (hm.alone g home gw gw₀ hg hg₀ (h.trans hn₀.symm))
  constructor
  case transmissions => rw [happenings, uplink]; rfl
  case transmitted =>
    intro x hx
    rw [happenings] at hx
    cases hx
  case uplinks =>
    intro g hne
    rw [held, elsewhere fun h e => ?_]
    · rfl
    · rcases n.source_uplink g with e' | ⟨gw, hg, e'⟩
      · rw [e'] at e
        cases e
      · rw [e'] at e
        exact away hne hg (Place.port.inj e).1
  case own =>
    intro gw k c hg hk hn
    obtain rfl := Option.some.inj (hg.symm.trans hg₀)
    have other := hm.session k c hk
    have node : c.node = a.node := hn.trans hn₀
    rw [node] at other
    rw [given, node, at_port]
    by_cases h : k = s
    · subst h
      obtain rfl := Option.some.inj (hk.symm.trans hs)
      rw [if_pos rfl, if_neg fun h => (others _ session.port).1 h rfl]
    · rw [if_neg h, if_pos ((others _ other.port).2 fun e => h ((hm.apart s a hs).2 k c hk node e))]
  case far =>
    intro g gw k c hne hg hk hn
    have node : c.node ≠ a.node := hn ▸ away hne hg
    have port : ∀ h, Place.port c.node c.port ≠ .port a.node h :=
      fun h e => node (Place.port.inj e).1
    have ingress : ∀ h, n.source (.downlink g) ≠ .port a.node h := fun h => by simp [Network.source]
    rw [given, elsewhere port, held, elsewhere ingress, uplink]
    rfl

/-- What the invariant comes to for one session, wherever it is. -/
theorem given_of_spreading (hm : Mesh hub n) {P : Place → Frame → Prop} (hM : M.Fits P)
    (hs : Spreading n home s M) {k : Nat} {c : Session} (hk : n.sessions[k]? = some c)
    (hne : k ≠ s) :
    (M.given (.port c.node c.port)).length ≤ 1 ∧
      (M.net.Drained → (M.given (.port c.node c.port)).length = 1) := by
  obtain ⟨g, gw, hg, hn⟩ := hm.gateway_of_session hk
  by_cases h : g = home
  · subst h
    have := hs.own gw k c hg hk hn.symm
    rw [if_neg hne] at this
    exact ⟨Nat.le_of_eq this, fun _ => this⟩
  · have := hs.far g gw k c h hg hk hn.symm
    refine ⟨by omega, fun drained => ?_⟩
    have down := Marked.held_eq_zero hM drained (.downlink g) rfl
    have up := Marked.held_eq_zero hM drained (.uplink home) rfl
    omega

/-- A broadcast is given to every other session exactly once, over one transmission. -/
theorem broadcast_exactly_once {payload : List UInt8} (hm : Mesh hub n)
    (hs : n.sessions[s]? = some a) (event : UInt32) (hp : payload.length < 0x100000000) :
    ∃ m, n.broadcastEvent (.ofSession a) event payload =
        some (.ok ((n.node a.node).hearers a.id).length, m) ∧
      (∀ gw ∈ n.gateways, gw.node = a.node → gw.port ∈ (n.node a.node).hearers a.id) ∧
      ∀ M, (Marked.start n m).Reaches M →
        M.given (.port a.node a.port) = [] ∧
        (∀ (k : Nat) (c : Session), n.sessions[k]? = some c → k ≠ s →
          (M.given (.port c.node c.port)).length ≤ 1 ∧
          (M.net.Drained → (M.given (.port c.node c.port)).length = 1)) ∧
        (∀ c ∈ n.sessions, ∀ f ∈ M.given (.port c.node c.port),
          EventFrame.Carries a.id .broadcast event payload f) ∧
        M.happenings.length ≤ 1 ∧
        (M.net.Drained → ∃ gw ∈ n.gateways, gw.node = a.node ∧
          ∃ bytes, M.happenings = [.transmitted gw.id .broadcast bytes (.ok ())]) := by
  have ready := hm.node a.node
  have session := hm.session s a hs
  obtain ⟨home, gw₀, hg₀, hn₀⟩ := hm.gateway_of_session hs
  obtain ⟨m, f, answer, sends, hw, hr⟩ := broadcastEvent_mesh hm hs event hp
  rw [ready.hearers]
  refine ⟨m, answer, fun gw hgw hn => ?_, ?_⟩
  · obtain ⟨g, hg⟩ := List.mem_iff_getElem?.1 hgw
    have serves := hm.gateway g gw hg
    rw [hn] at serves
    rw [← session.id, ready.mem_others_iff serves.port session.port]
    exact (hm.apart s a hs).1 g gw hg hn
  have ruled := ruled_broadcast hm a.id event payload home (by simp [hg₀])
  obtain ⟨traced, held, given, happenings⟩ := Marked.traced_start sends
    (P := Spread n a.id (EventFrame.bytes a.id .broadcast event payload) home) fun p g hg => by
      obtain ⟨h, -, e⟩ := List.mem_map.1 hg
      obtain ⟨rfl, rfl⟩ := Prod.mk.inj e
      refine ⟨hw, fun g source => ⟨?_, hr⟩⟩
      rcases n.source_uplink g with e | ⟨gw, hg, e⟩
      · rw [e] at source
        cases source
      · rw [e] at source
        exact hm.alone g home gw gw₀ hg hg₀ ((Place.port.inj source).1.trans hn₀.symm)
  have spreading := spreading_start hm hs hg₀ hn₀
    (held fun mv => arrivals_map_of_ne (fun h _ => by simp) f) given happenings
  intro M run
  obtain ⟨traced, spreading⟩ := Marked.invariant_of_reaches hm ruled (fun _ _ => spreading_quiet)
    (fun _ _ _ _ _ => spreading_passes hm) traced spreading run
  refine ⟨?_, fun k c hk hne => given_of_spreading hm traced.fits spreading hk hne, ?_, ?_, ?_⟩
  · have := spreading.own gw₀ s a hg₀ hs hn₀.symm
    rw [if_pos rfl] at this
    exact List.length_eq_zero_iff.1 this
  · exact fun c _ g hg => EventFrame.carries_of_bytes hp (traced.given _ _ g hg).1
  · have := spreading.transmissions
    omega
  · intro drained
    have one := spreading.transmissions
    rw [Marked.held_eq_zero traced.fits drained (.uplink home) rfl] at one
    obtain ⟨x, hx⟩ := List.length_eq_one_iff.1 one
    obtain ⟨gw, bytes, hg, rfl⟩ := spreading.transmitted x (by simp [hx])
    obtain rfl := Option.some.inj (hg.symm.trans hg₀)
    exact ⟨gw, List.mem_of_getElem? hg, hn₀, bytes, hx⟩

end

/-- From the controller's session to the application's, in one transmission to three gateways. -/
theorem broadcast_across_domains : ∃ (m : Network) (M : Marked),
    twoDomains.broadcastEvent ⟨0, .ofParts 0 1 2, 1⟩ 9 [1, 2] = some (.ok 1, m) ∧
      (Marked.start twoDomains m).Reaches M ∧ M.net.Drained ∧
      (M.given (.port 3 1)).length = 1 ∧ M.happenings.length = 1 := by
  obtain ⟨m, sent, -, outcome⟩ := broadcast_exactly_once (s := 0) mesh_twoDomains rfl 9
    (show [1, 2].length < 0x100000000 by decide)
  have sent : twoDomains.broadcastEvent ⟨0, .ofParts 0 1 2, 1⟩ 9 [1, 2] = some (.ok 1, m) := sent
  obtain ⟨M, run, net⟩ := Marked.reaches_settle 40 (Marked.start twoDomains m)
  have drained : M.net.Drained := by
    have settles : (twoDomains.broadcastEvent ⟨0, .ofParts 0 1 2, 1⟩ 9 [1, 2]).map
        (fun r => decide (r.2.settle 40).Drained) = some true := by decide +kernel
    rw [sent] at settles
    rw [net]
    show (m.settle 40).Drained
    simpa using settles
  obtain ⟨-, others, -, -, transmitted⟩ := outcome M run
  obtain ⟨gw, -, -, bytes, one⟩ := transmitted drained
  exact ⟨m, M, sent, run, drained, (others 1 _ rfl (by decide)).2 drained, by rw [one]; rfl⟩

end FrameBus.Network
