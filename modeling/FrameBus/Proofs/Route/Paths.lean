import FrameBus.Config.Basic
import FrameBus.Route
import Mathlib.Tactic.ByContra
import Mathlib.Tactic.SplitIfs

/-!
# Where routes lead

The hops from an id to a destination make a path (`Path`). There is only one, so that no id is on it
twice (`Path.unique`, `Path.nodup`). From every id to every destination there is one, of five hops
at most, and gateways are the only ids between its ends (`routing_arrives`).

The bound is found from the end of the paths, one group of ids after the other (`Within`):

    to a controller     0.x.y 1   1.0.2 2   1.0.1 3   other routes, 1.0.x 4   all others 5
    to an application   its channel 1   routes 2   all of 1.x.y 3   0.0.1 4   all others 5
-/

namespace FrameBus

/-! ## Ids of gateways -/

/-- A configuration with the id as its gateway's is valid. -/
def Config.Admits (id : PortId) : Prop := ∃ c : Config, c.gateway.id = id ∧ c.validate = .ok ()

theorem Config.admits_iff {id : PortId} :
    Admits id ↔ id.isRoute = true ∨ id.isBackbone = true := by
  constructor
  · rintro ⟨c, rfl, h⟩
    simp only [validate] at h
    split_ifs at h with reserved kind
    cases hr : c.gateway.id.isRoute with
    | true => exact .inl rfl
    | false => exact .inr (by simpa [hr] using kind)
  · intro h
    have id_ok : id.isReserved = false :=
      h.elim PortId.isReserved_of_isRoute PortId.isReserved_of_isBackbone
    have kind : (!id.isRoute && !id.isBackbone) = false := by
      rcases h with h | h <;> simp [h]
    -- one peer that is another gateway makes the rest of it valid
    obtain ⟨peer, peer_ok, hne⟩ : ∃ peer : PortId, peer.isReserved = false ∧ peer ≠ id := by
      by_cases h : PortId.appRoute = id
      · exact ⟨.chipRoute, rfl, h ▸ by decide⟩
      · exact ⟨.appRoute, rfl, h⟩
    refine ⟨{ gateway := { id }, udp := { peers := [⟨peer, .v4 ⟨0, 0, 0, 0⟩ 7600⟩] } }, rfl, ?_⟩
    simp [validate, id_ok, kind, checkPeers, peer_ok, hne, Pace.gateway]

namespace Route

variable {current next dest x : PortId} {ids rest : List PortId} {k : Nat}

/-! ## Hops -/

theorem isReserved_of_hop (h : nextHop? current dest = some next) :
    current.isReserved = false ∧ dest.isReserved = false := by
  have some : nextHop? current dest ≠ none := by simp [h]
  simpa [nextHop?_eq_none_iff] using some

/-- A hop is to the destination or to a gateway. -/
theorem hop_spec (h : nextHop? current dest = some next) :
    next.isReserved = false ∧ (next = dest ∨ Config.Admits next) := by
  have arrives : dest.isReserved = false ∧ (dest = dest ∨ Config.Admits dest) :=
    ⟨(isReserved_of_hop h).2, .inl rfl⟩
  have route (id : PortId) :
      id.route.isReserved = false ∧ (id.route = dest ∨ Config.Admits id.route) :=
    ⟨id.isReserved_route, .inr (Config.admits_iff.2 (.inl id.isRoute_route))⟩
  have backbone {id : PortId} (h : id.isBackbone = true) :
      id.isReserved = false ∧ (id = dest ∨ Config.Admits id) :=
    ⟨PortId.isReserved_of_isBackbone h, .inr (Config.admits_iff.2 (.inr h))⟩
  unfold nextHop? towardController towardApp at h
  split_ifs at h <;> cases h
  · exact arrives
  · exact route current
  · exact backbone rfl
  · exact backbone rfl
  · exact backbone rfl
  · exact backbone rfl
  · exact backbone rfl
  · exact arrives
  · exact route current
  · exact route dest

/-! ## Paths -/

/-- The ids after one on its way to a destination, each the next hop of the one before. -/
inductive Path (dest : PortId) : PortId → List PortId → Prop
  | arrived : Path dest dest []
  | hop {current next : PortId} {rest : List PortId} : current ≠ dest →
      nextHop? current dest = some next → Path dest next rest → Path dest current (next :: rest)

namespace Path

theorem unique {ids' : List PortId} (h : Path dest current ids) (h' : Path dest current ids') :
    ids = ids' := by
  induction h generalizing ids' with
  | arrived =>
    cases h' with
    | arrived => rfl
    | hop hne _ _ => exact absurd rfl hne
  | hop hne hn _ ih =>
    cases h' with
    | arrived => exact absurd rfl hne
    | hop _ hn' rest' =>
      obtain rfl := Option.some.inj (hn.symm.trans hn')
      rw [ih rest']

/-- From an id on a path the path goes on as a shorter one. -/
theorem rest_of_mem (h : Path dest current ids) (hx : x ∈ ids) :
    ∃ rest, Path dest x rest ∧ rest.length < ids.length := by
  induction h with
  | arrived => cases hx
  | hop _ _ path ih =>
    rcases List.mem_cons.1 hx with rfl | hx
    · exact ⟨_, path, Nat.lt_succ_self _⟩
    · obtain ⟨rest, path', shorter⟩ := ih hx
      exact ⟨rest, path', Nat.lt_trans shorter (Nat.lt_succ_self _)⟩

/-- Nothing is on a path twice: from there it would go on in two ways. -/
theorem nodup (h : Path dest current ids) : (current :: ids).Nodup := by
  have apart {x : PortId} {ids : List PortId} (h : Path dest x ids) : x ∉ ids := by
    intro hx
    obtain ⟨rest, path, shorter⟩ := h.rest_of_mem hx
    rw [h.unique path] at shorter
    exact absurd shorter (Nat.lt_irrefl _)
  induction h with
  | arrived => exact List.nodup_cons.2 ⟨List.not_mem_nil, .nil⟩
  | hop hne hn path ih => exact List.nodup_cons.2 ⟨apart (.hop hne hn path), ih⟩

theorem isReserved_of_mem (h : Path dest current ids) (hx : x ∈ ids) : x.isReserved = false := by
  induction h with
  | arrived => cases hx
  | hop _ hn _ ih =>
    rcases List.mem_cons.1 hx with rfl | hx
    · exact (hop_spec hn).1
    · exact ih hx

/-- The ids between the ends of a path are ids of gateways. -/
theorem admits_of_mem (h : Path dest current ids) (hx : x ∈ ids) (hne : x ≠ dest) :
    Config.Admits x := by
  induction h with
  | arrived => cases hx
  | hop _ hn _ ih =>
    rcases List.mem_cons.1 hx with rfl | hx
    · exact (hop_spec hn).2.resolve_left hne
    · exact ih hx

/-- To walk is to go along the path. -/
theorem walk_eq (h : Path dest current ids) (hne : current ≠ dest) {hops : Nat}
    (hl : ids.length ≤ hops) : walk hops current dest = ids.map some := by
  induction h generalizing hops with
  | arrived => exact absurd rfl hne
  | @hop current next rest _ hn path ih =>
    obtain ⟨hops, rfl⟩ : ∃ k, hops = k + 1 := Nat.exists_eq_succ_of_ne_zero (by
      rintro rfl
      cases hl)
    simp only [walk, hn, List.map_cons, List.cons.injEq, true_and]
    by_cases hd : next = dest
    · subst hd
      cases path with
      | arrived => rw [if_pos rfl]; rfl
      | hop hne _ _ => exact absurd rfl hne
    · rw [if_neg hd, ih hd (Nat.le_of_succ_le_succ hl)]

end Path

/-! ## Five hops -/

/-- A destination is at most so many hops away. -/
def Within (k : Nat) (dest current : PortId) : Prop :=
  ∃ ids, Path dest current ids ∧ ids.length ≤ k

theorem within_self (dest : PortId) : Within k dest dest := ⟨[], .arrived, Nat.zero_le k⟩

theorem Within.mono {m : Nat} (h : Within k dest current) (hle : k ≤ m) :
    Within m dest current := by
  obtain ⟨ids, path, length⟩ := h
  exact ⟨ids, path, Nat.le_trans length hle⟩

theorem Within.hop (hn : nextHop? current dest = some next) (h : Within k dest next) :
    Within (k + 1) dest current := by
  by_cases hne : current = dest
  · subst hne
    exact within_self current
  · obtain ⟨ids, path, length⟩ := h
    exact ⟨next :: ids, .hop hne hn path, Nat.succ_le_succ length⟩

section

variable (hd : dest.isReserved = false)

include hd

theorem within_toward_controller (h : dest.domain = 0) (hc : current.isReserved = false) :
    Within 5 dest current := by
  have toward {x : PortId} (hx : x.isReserved = false) :
      nextHop? x dest = some (towardController x dest) :=
    nextHop?_of_controller hx hd h
  have flat {x : PortId} (hx : x.isReserved = false) (hxd : x.domain = 0) : Within 1 dest x := by
    refine .hop (toward hx) ?_
    rw [towardController, if_pos hxd]
    exact within_self dest
  have chip : Within 2 dest .chipRoute :=
    .hop (toward rfl) (flat (x := .controllerRoute) rfl rfl)
  have app : Within 3 dest .appRoute := .hop (toward rfl) chip
  have route {x : PortId} (hx : x.isReserved = false)
      (hr : (!x.isRoute && x.channel != 0) = false) :
      Within 4 dest x := by
    refine .hop (toward hx) ?_
    simp only [towardController, hr, Bool.false_eq_true, if_false]
    split_ifs
    · exact within_self dest
    · exact chip.mono (by decide)
    · exact (flat rfl rfl).mono (by decide)
    · exact app
  cases hr : !current.isRoute && current.channel != 0 with
  | false => exact (route hc hr).mono (by decide)
  | true =>
    refine .hop (toward hc) ?_
    simp only [towardController, hr, if_true]
    split_ifs
    · exact within_self dest
    · exact route current.isReserved_route (by simp)

theorem within_toward_app (h : dest.domain ≠ 0) (hc : current.isReserved = false) :
    Within 5 dest current := by
  have toward {x : PortId} (hx : x.isReserved = false) :
      nextHop? x dest = some (towardApp x dest) :=
    nextHop?_of_app hx hd h
  have channel {x : PortId} (hx : x.isReserved = false) (hxd : x.domain ≠ 0)
      (hch : x.channel = dest.channel) : Within 1 dest x := by
    refine .hop (toward hx) ?_
    rw [towardApp, if_neg hxd, if_pos hch]
    exact within_self dest
  have route {x : PortId} (hr : x.isRoute = true) (hxd : x.domain ≠ 0) : Within 2 dest x := by
    refine .hop (toward (PortId.isReserved_of_isRoute hr)) ?_
    simp only [towardApp, if_neg hxd, hr, Bool.not_true, Bool.false_eq_true, if_false]
    split_ifs
    · exact within_self dest
    · exact channel dest.isReserved_route (by simpa using h) (by simp)
  have app {x : PortId} (hx : x.isReserved = false) (hxd : x.domain ≠ 0) : Within 3 dest x := by
    refine .hop (toward hx) ?_
    rw [towardApp, if_neg hxd]
    split_ifs
    · exact within_self dest
    · exact route x.isRoute_route (by simpa using hxd)
    · exact route dest.isRoute_route (by simpa using h)
  have controller : Within 4 dest .controllerRoute :=
    .hop (toward rfl) (app (x := .chipRoute) rfl (by decide))
  by_cases hcd : current.domain = 0
  · by_cases hcr : current = .controllerRoute
    · exact hcr ▸ controller.mono (by decide)
    · refine .hop (toward hc) ?_
      rw [towardApp, if_pos hcd, if_neg hcr]
      exact controller
  · exact (app hc hcd).mono (by decide)

theorem within_five (hc : current.isReserved = false) : Within 5 dest current := by
  by_cases h : dest.domain = 0
  · exact within_toward_controller hd h hc
  · exact within_toward_app hd h hc

end

/-- A hop that stays where it is has arrived. -/
theorem eq_of_nextHop?_self (h : nextHop? current dest = some current) : current = dest := by
  by_contra hne
  obtain ⟨hc, hd⟩ := isReserved_of_hop h
  obtain ⟨ids, path, -⟩ := within_five hd hc
  cases path with
  | arrived => exact hne rfl
  | hop hne hn path =>
    obtain rfl := Option.some.inj (h.symm.trans hn)
    have same := congrArg List.length (path.unique (.hop hne hn path))
    simp at same

/-- From every id to every destination there is a way of at most five hops, which goes over gateways
and over none of them twice. -/
theorem routing_arrives (source dest : PortId) :
    (nextHop? source dest = none ↔ source.isReserved = true ∨ dest.isReserved = true) ∧
    (nextHop? source dest = some source → source = dest) ∧
    (source.isReserved = false → dest.isReserved = false →
      ∃ ids, Path dest source ids ∧ ids.length ≤ 5 ∧ (source :: ids).Nodup ∧
        (source ≠ dest → walk 5 source dest = ids.map some) ∧
        ∀ x ∈ ids, x.isReserved = false ∧ (x ≠ dest → Config.Admits x)) := by
  refine ⟨nextHop?_eq_none_iff source dest, eq_of_nextHop?_self, fun hs hd => ?_⟩
  obtain ⟨ids, path, length⟩ := within_five hd hs
  exact ⟨ids, path, length, path.nodup, fun hne => path.walk_eq hne length,
    fun x hx => ⟨path.isReserved_of_mem hx, path.admits_of_mem hx⟩⟩

/-- The longest ways lead from a controller to an application over all of the backbone. -/
theorem routing_to_application : ∃ ids, Path (.ofParts 1 2 5) (.ofParts 0 3 4) ids ∧
    ids.length ≤ 5 ∧ walk 5 (.ofParts 0 3 4) (.ofParts 1 2 5) = ids.map some := by
  obtain ⟨ids, path, length, -, walks, -⟩ :=
    (routing_arrives (.ofParts 0 3 4) (.ofParts 1 2 5)).2.2 (by decide) (by decide)
  exact ⟨ids, path, length, walks (by decide)⟩

end Route

end FrameBus
