import FrameBus.Proofs.Network.Touches
import FrameBus.Proofs.Registry.Rolls
import Mathlib.Data.List.Nodup
import Mathlib.Logic.Function.Basic

/-!
# Rosters

The roster of a node says who has a port there: gateways and sessions, live or dropped, beside the
roll of the node's registry. On an exact roster (`Roster.Exact`) what is registered and claimed is
just what the live owners have. It stays exact when an owner with a free id is added (`exact_add`),
and when one is struck off (`exact_of_leaves`). All that happens between, to the states of ports, to
flags, workers, links and queues, is not on it.
-/

namespace FrameBus

/-- What has a port of its own. -/
inductive Owner where
  | gateway (g : Nat)
  | session (s : Nat)
deriving DecidableEq, Repr

/-- What an owner claims beside its port. -/
def Owner.claims : Owner → PortId → List PortId
  | .gateway _, _ => []
  | .session _, id => [id]

theorem Owner.eq_of_claims {o : Owner} {id c : PortId} (h : c ∈ o.claims id) : c = id := by
  cases o with
  | gateway g => cases h
  | session s => exact List.mem_singleton.1 h

/-- What the roster says about an owner. -/
structure Outline where
  id : PortId
  port : Handle
  live : Bool
  /-- it takes nothing in any more -/
  closed : Bool

/-- The outline of an owner that was dropped. -/
def Outline.gone (x : Outline) : Outline := { x with live := false, closed := true }

structure Roster extends Roll Reaction where
  owner? : Owner → Option Outline

namespace Roster

/-- A new owner, with a new port. -/
def add (r : Roster) (o : Owner) (id : PortId) : Roster where
  toRoll := { r.toRoll.enrol id .copy with claimed := r.claimed ++ o.claims id }
  owner? := Function.update r.owner? o (some ⟨id, r.ports.length, true, false⟩)

/-- One roster after another: an owner is dropped. -/
structure Leaves (r : Roster) (o : Owner) (x : Outline) (s : Roster) : Prop where
  strikes : r.toRoll.Strikes x.port s.toRoll
  claimed : (o.claims x.id ++ s.claimed).Perm r.claimed
  owner? : s.owner? = Function.update r.owner? o (some x.gone)

/-- What is registered and claimed is what the live owners have. -/
structure Exact (r : Roster) : Prop where
  own : ∀ {o x}, r.owner? o = some x → ∃ e, r.ports[x.port]? = some e ∧ e.id = x.id ∧
    e.reaction = some .copy ∧ (x.live = true → e.closed = false ∧ x.closed = false)
  sole : ∀ {o o' x y}, r.owner? o = some x → r.owner? o' = some y → x.port = y.port → o = o'
  registered : ∀ h, h ∈ r.registered ↔ ∃ o x, r.owner? o = some x ∧ x.live = true ∧ x.port = h
  ids : r.ids.Nodup
  claimed : ∀ id, id ∈ r.claimed ↔ ∃ o x, r.owner? o = some x ∧ x.live = true ∧ id ∈ o.claims x.id
  once : r.claimed.Nodup

variable {r s : Roster} {o : Owner} {x : Outline} {id : PortId}

theorem Exact.idOf (hr : r.Exact) (h : r.owner? o = some x) : r.idOf x.port = x.id := by
  obtain ⟨e, he, id, -⟩ := hr.own h
  simp [Roll.idOf, he, id]

theorem Exact.known (hr : r.Exact) (h : r.owner? o = some x) : x.port < r.ports.length := by
  obtain ⟨e, he, -⟩ := hr.own h
  exact (List.getElem?_eq_some_iff.1 he).1

theorem Exact.lt_of_registered (hr : r.Exact) : ∀ h ∈ r.registered, h < r.ports.length := by
  intro h hh
  obtain ⟨o, x, hx, -, rfl⟩ := (hr.registered h).1 hh
  exact hr.known hx

/-- The ids that are registered are those of the live owners. -/
theorem Exact.mem_ids (hr : r.Exact) :
    id ∈ r.ids ↔ ∃ o x, r.owner? o = some x ∧ x.live = true ∧ x.id = id := by
  constructor
  · intro h
    obtain ⟨k, hk, rfl⟩ := List.mem_map.1 h
    obtain ⟨o, x, hx, live, rfl⟩ := (hr.registered k).1 hk
    exact ⟨o, x, hx, live, (hr.idOf hx).symm⟩
  · rintro ⟨o, x, hx, live, rfl⟩
    exact List.mem_map.2 ⟨x.port, (hr.registered _).2 ⟨o, x, hx, live, rfl⟩, hr.idOf hx⟩

/-- What is claimed is registered. -/
theorem Exact.registered_of_claimed (hr : r.Exact) (h : id ∈ r.claimed) : id ∈ r.ids := by
  obtain ⟨o, x, hx, live, claims⟩ := (hr.claimed id).1 h
  exact hr.mem_ids.2 ⟨o, x, hx, live, (Owner.eq_of_claims claims).symm⟩

/-- Two live owners have different ids. -/
theorem Exact.sole_id (hr : r.Exact) {o' : Owner} {y : Outline} (hx : r.owner? o = some x)
    (hy : r.owner? o' = some y) (live : x.live = true) (live' : y.live = true)
    (same : x.id = y.id) : o = o' := by
  refine hr.sole hx hy (List.inj_on_of_nodup_map hr.ids ((hr.registered _).2 ⟨o, x, hx, live, rfl⟩)
    ((hr.registered _).2 ⟨o', y, hy, live', rfl⟩) ?_)
  rw [hr.idOf hx, hr.idOf hy, same]

theorem owner?_add (r : Roster) (o : Owner) (id : PortId) (o' : Owner) :
    (r.add o id).owner? o' =
      if o' = o then some ⟨id, r.ports.length, true, false⟩ else r.owner? o' := by
  simp only [add, Function.update_apply]

theorem exact_add (hr : r.Exact) (new : r.owner? o = none) (free : id ∉ r.ids) :
    (r.add o id).Exact where
  own {o' y} h := by
    rw [owner?_add] at h
    split at h
    · cases h
      exact ⟨_, List.getElem?_concat_length, rfl, rfl, fun _ => ⟨rfl, rfl⟩⟩
    · obtain ⟨e, he, rest⟩ := hr.own h
      exact ⟨e, (List.getElem?_append_left (hr.known h)).trans he, rest⟩
  sole {o' o'' y z} h h' same := by
    rw [owner?_add] at h h'
    split at h <;> split at h'
    · next e e' => rw [e, e']
    · cases h
      exact absurd same.symm (Nat.ne_of_lt (hr.known h'))
    · cases h'
      exact absurd same (Nat.ne_of_lt (hr.known h))
    · exact hr.sole h h' same
  registered h := by
    show h ∈ r.registered ++ [r.ports.length] ↔ _
    simp only [List.mem_append, List.mem_singleton, hr.registered, owner?_add]
    constructor
    · rintro (⟨o', y, hy, live, rfl⟩ | rfl)
      · have other : o' ≠ o := fun e => by rw [e, new] at hy; cases hy
        exact ⟨o', y, by rw [if_neg other, hy], live, rfl⟩
      · exact ⟨o, _, if_pos rfl, rfl, rfl⟩
    · rintro ⟨o', y, hy, live, rfl⟩
      split at hy
      · cases hy
        exact .inr rfl
      · exact .inl ⟨o', y, hy, live, rfl⟩
  ids := by
    have ids : (r.add o id).ids = r.ids ++ [id] :=
      Roll.ids_concat (e := ⟨id, false, some .copy⟩) hr.lt_of_registered rfl rfl
    rw [ids]
    exact (List.perm_append_singleton id r.ids).nodup_iff.2 (List.nodup_cons.2 ⟨free, hr.ids⟩)
  claimed c := by
    show c ∈ r.claimed ++ o.claims id ↔ _
    simp only [List.mem_append, hr.claimed, owner?_add]
    constructor
    · rintro (⟨o', y, hy, live, claims⟩ | claims)
      · have other : o' ≠ o := fun e => by rw [e, new] at hy; cases hy
        exact ⟨o', y, by rw [if_neg other, hy], live, claims⟩
      · exact ⟨o, _, if_pos rfl, rfl, claims⟩
    · rintro ⟨o', y, hy, live, claims⟩
      split at hy
      · next e =>
        cases hy
        exact .inr (e ▸ claims)
      · exact .inl ⟨o', y, hy, live, claims⟩
  once := by
    show (r.claimed ++ o.claims id).Nodup
    cases o with
    | gateway g => simpa [Owner.claims] using hr.once
    | session s =>
      exact (List.perm_append_singleton id r.claimed).nodup_iff.2
        (List.nodup_cons.2 ⟨fun h => free (hr.registered_of_claimed h), hr.once⟩)

/-- A port that nobody has is on the roll. -/
theorem exact_of_more (hr : r.Exact) {more : List (Roll.Entry Reaction)}
    (ports : s.ports = r.ports ++ more) (registered : s.registered = r.registered)
    (claimed : s.claimed = r.claimed) (owner? : s.owner? = r.owner?) : s.Exact where
  own h := by
    rw [owner?] at h
    rw [ports, List.getElem?_append_left (hr.known h)]
    exact hr.own h
  sole h h' := hr.sole (owner? ▸ h) (owner? ▸ h')
  registered h := by rw [registered, owner?]; exact hr.registered h
  ids := (Roll.ids_of_more hr.lt_of_registered ports registered).symm ▸ hr.ids
  claimed id := by rw [claimed, owner?]; exact hr.claimed id
  once := claimed ▸ hr.once

theorem mem_of_perm_append {α : Type} {l l' o : List α} (h : (o ++ l').Perm l) (hl : l.Nodup)
    (b : α) : b ∈ l' ↔ b ∈ l ∧ b ∉ o := by
  obtain ⟨-, -, apart⟩ := List.nodup_append.1 (h.nodup_iff.2 hl)
  rw [← h.mem_iff, List.mem_append]
  constructor
  · exact fun hb => ⟨.inr hb, fun hb' => apart b hb' b hb rfl⟩
  · rintro ⟨hb | hb, outside⟩
    · exact absurd hb outside
    · exact hb

/-! ## An owner that leaves -/

namespace Leaves

variable (h : r.Leaves o x s)
include h

theorem other {o' : Owner} (ne : o' ≠ o) : s.owner? o' = r.owner? o' := by
  rw [h.owner?, Function.update_of_ne ne]

/-- Who is there afterwards was there before, with the same id and port. -/
theorem before (hx : r.owner? o = some x) {o' : Owner} {y : Outline}
    (hy : s.owner? o' = some y) : ∃ z, r.owner? o' = some z ∧ y.id = z.id ∧ y.port = z.port ∧
      (y.live = true → o' ≠ o ∧ z = y) := by
  rw [h.owner?, Function.update_apply] at hy
  split at hy
  · next e =>
    cases hy
    exact ⟨x, e ▸ hx, rfl, rfl, by simp [Outline.gone]⟩
  · next ne => exact ⟨y, hy, rfl, rfl, fun _ => ⟨ne, rfl⟩⟩

/-- The others live on. -/
theorem live_iff (hx : r.owner? o = some x) (P : Owner → Outline → Prop) :
    (∃ o' y, s.owner? o' = some y ∧ y.live = true ∧ P o' y) ↔
      ∃ o' y, r.owner? o' = some y ∧ y.live = true ∧ P o' y ∧ o' ≠ o := by
  constructor
  · rintro ⟨o', y, hy, live, hp⟩
    obtain ⟨z, hz, -, -, same⟩ := h.before hx hy
    obtain ⟨ne, rfl⟩ := same live
    exact ⟨o', z, hz, live, hp, ne⟩
  · rintro ⟨o', y, hy, live, hp, ne⟩
    exact ⟨o', y, (h.other ne).trans hy, live, hp⟩

theorem idOf (k : Handle) : s.idOf k = r.idOf k := by
  rw [← Roll.idOf_modify r.toRoll x.port k, Roll.idOf, h.strikes.ports]
  rfl

end Leaves

/-- Nothing is left of an owner that leaves. -/
theorem exact_of_leaves (hr : r.Exact) (hx : r.owner? o = some x) (live : x.live = true)
    (h : r.Leaves o x s) : s.Exact where
  own {o' y} hy := by
    obtain ⟨z, hz, id, port, same⟩ := h.before hx hy
    obtain ⟨e, he, own, reaction, opened⟩ := hr.own hz
    rw [h.strikes.ports, port, id, List.getElem?_modify, he]
    refine ⟨_, rfl, ?_⟩
    split
    · next at_port => exact ⟨own, reaction, fun l => absurd (hr.sole hx hz at_port).symm (same l).1⟩
    · exact ⟨own, reaction, fun l => (same l).2 ▸ opened ((same l).2 ▸ l)⟩
  sole hy hz same := by
    obtain ⟨y', hy', -, port, -⟩ := h.before hx hy
    obtain ⟨z', hz', -, port', -⟩ := h.before hx hz
    exact hr.sole hy' hz' (port ▸ port' ▸ same)
  registered k := by
    have lost := mem_of_perm_append (o := [x.port]) h.strikes.registered
      (List.Nodup.of_map _ hr.ids) k
    rw [lost, hr.registered, List.mem_singleton, h.live_iff hx fun _ y => y.port = k]
    constructor
    · rintro ⟨⟨o', y, hy, l, rfl⟩, ne⟩
      refine ⟨o', y, hy, l, rfl, ?_⟩
      rintro rfl
      exact ne (congrArg Outline.port (Option.some.inj (hy.symm.trans hx)))
    · rintro ⟨o', y, hy, l, rfl, ne⟩
      exact ⟨⟨o', y, hy, l, rfl⟩, fun same => ne (hr.sole hy hx same)⟩
  ids := by
    have lost := h.strikes.registered.map r.idOf
    rw [List.map_cons] at lost
    have same : s.ids = s.registered.map r.idOf := List.map_congr_left fun k _ => h.idOf k
    rw [same]
    exact (List.nodup_cons.1 (lost.nodup_iff.2 hr.ids)).2
  claimed c := by
    rw [mem_of_perm_append h.claimed hr.once, hr.claimed,
      h.live_iff hx fun o' y => c ∈ o'.claims y.id]
    constructor
    · rintro ⟨⟨o', y, hy, l, claims⟩, free⟩
      refine ⟨o', y, hy, l, claims, ?_⟩
      rintro rfl
      exact free (Option.some.inj (hy.symm.trans hx) ▸ claims)
    · rintro ⟨o', y, hy, l, claims, ne⟩
      refine ⟨⟨o', y, hy, l, claims⟩, fun claims' => ne (hr.sole_id hy hx l live ?_)⟩
      rw [← Owner.eq_of_claims claims, Owner.eq_of_claims claims']
  once := (List.nodup_append.1 (h.claimed.nodup_iff.2 hr.once)).2.1

end Roster

end FrameBus
