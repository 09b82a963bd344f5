import FrameBus.Proofs.Lifecycle.Roster
import FrameBus.Proofs.Registry.Calls

/-!
# Changes of rosters

Where an application calls the registry of a node itself, beside those who own ports there, the
roster is not exact any more. Still nothing is on it twice (`Roll.Clear`). A destroyed port is cut
out by its id, and a claim that is given up likewise (`Roll.Cut`).

Calls for owners and calls on the registry change the roster in a few ways (`Roster.Change`), each
of which leaves it clear (`clear_of_change`). Who made the claim of an id is told beside (`Makers`).
If the application takes nothing away that a live owner has (`Roster.Mindful`), then every live
owner is backed by the port and the claim that were made for it (`backed_of_change`).
-/

namespace FrameBus

namespace Roll

variable {l k j : Roll Reaction} {ids claims : List PortId}

/-! ## Clear rolls -/

/-- Nothing is on the roll twice, and broadcasts are copied, if anything is done with them. -/
structure Clear (l : Roll Reaction) : Prop where
  known : ∀ h ∈ l.registered, h < l.ports.length
  ids : l.ids.Nodup
  once : l.claimed.Nodup
  copies : ∀ h ∈ l.registered, ∀ e, l.ports[h]? = some e → ∀ k, e.reaction = some k → k = .copy

theorem clear_new (config : QueueConfig) :
    (Registry.new config : Registry Reaction).roll.Clear where
  known _ h := nomatch h
  ids := .nil
  once := .nil
  copies _ h := nomatch h

/-- An id leads to one registered port. -/
theorem Clear.inj (hl : l.Clear) {h h' : Handle} (hh : h ∈ l.registered) (hh' : h' ∈ l.registered)
    (same : l.idOf h = l.idOf h') : h = h' :=
  List.inj_on_of_nodup_map hl.ids hh hh' same

/-- Ports that nobody registers. -/
theorem Clear.of_more (hl : l.Clear) {more : List (Entry Reaction)}
    (ports : k.ports = l.ports ++ more) (registered : k.registered = l.registered)
    (once : k.claimed.Nodup) : k.Clear where
  known h hh := by
    rw [registered] at hh
    rw [ports, List.length_append]
    exact Nat.lt_add_right _ (hl.known h hh)
  ids := (ids_of_more hl.known ports registered).symm ▸ hl.ids
  once := once
  copies h hh e he := by
    rw [registered] at hh
    rw [ports, List.getElem?_append_left (hl.known h hh)] at he
    exact hl.copies h hh e he

/-- A port is registered under an id that is free. -/
theorem Clear.concat (hl : l.Clear) {e : Entry Reaction} (free : e.id ∉ l.ids)
    (copies : ∀ k, e.reaction = some k → k = .copy) (ports : k.ports = l.ports ++ [e])
    (registered : k.registered = l.registered ++ [l.ports.length]) (once : k.claimed.Nodup) :
    k.Clear where
  known h hh := by
    rw [registered, List.mem_append, List.mem_singleton] at hh
    rw [ports, List.length_append, List.length_singleton]
    rcases hh with hh | rfl
    · exact Nat.lt_succ_of_lt (hl.known h hh)
    · exact Nat.lt_succ_self _
  ids := by
    rw [ids_concat hl.known ports registered]
    exact (List.perm_append_singleton e.id l.ids).nodup_iff.2 (List.nodup_cons.2 ⟨free, hl.ids⟩)
  once := once
  copies h hh e' he' := by
    rw [registered, List.mem_append, List.mem_singleton] at hh
    rw [ports] at he'
    rcases hh with hh | rfl
    · rw [List.getElem?_append_left (hl.known h hh)] at he'
      exact hl.copies h hh e' he'
    · rw [List.getElem?_concat_length] at he'
      cases he'
      exact copies

/-! ## Cuts -/

/-- One roll after another: the ports with some ids are not registered any more, and some claims
are given up. -/
structure Cut (l : Roll Reaction) (ids claims : List PortId) (k : Roll Reaction) : Prop where
  registered : ∀ h, h ∈ k.registered ↔ h ∈ l.registered ∧ l.idOf h ∉ ids
  once : k.registered.Nodup
  claimed : ∀ c, c ∈ k.claimed ↔ c ∈ l.claimed ∧ c ∉ claims
  claimedOnce : k.claimed.Nodup
  length : k.ports.length = l.ports.length
  entries : ∀ (h : Handle) (e' : Entry Reaction), k.ports[h]? = some e' →
    ∃ e, l.ports[h]? = some e ∧ e'.id = e.id ∧ e'.reaction = e.reaction

theorem Cut.refl (hl : l.Clear) : l.Cut [] [] l where
  registered h := by simp
  once := .of_map _ hl.ids
  claimed c := by simp
  claimedOnce := hl.once
  length := rfl
  entries h e he := ⟨e, he, rfl, rfl⟩

theorem Cut.idOf (hc : l.Cut ids claims k) (h : Handle) : k.idOf h = l.idOf h := by
  rw [Roll.idOf, Roll.idOf]
  cases he : k.ports[h]? with
  | none =>
    have beyond : l.ports.length ≤ h := hc.length ▸ List.getElem?_eq_none_iff.1 he
    rw [List.getElem?_eq_none beyond]
  | some e' =>
    obtain ⟨e, at_port, id, -⟩ := hc.entries h e' he
    rw [at_port, Option.map_some, Option.map_some, id]

theorem Cut.trans {ids' claims' : List PortId} (hc : l.Cut ids claims k)
    (hc' : k.Cut ids' claims' j) : l.Cut (ids ++ ids') (claims ++ claims') j where
  registered h := by
    rw [hc'.registered, hc.registered, hc.idOf, List.mem_append, not_or, and_assoc]
  once := hc'.once
  claimed c := by rw [hc'.claimed, hc.claimed, List.mem_append, not_or, and_assoc]
  claimedOnce := hc'.claimedOnce
  length := hc'.length.trans hc.length
  entries h e'' he'' := by
    obtain ⟨e', he', id', reaction'⟩ := hc'.entries h e'' he''
    obtain ⟨e, he, id, reaction⟩ := hc.entries h e' he'
    exact ⟨e, he, id'.trans id, reaction'.trans reaction⟩

theorem Clear.cut (hl : l.Clear) (hc : l.Cut ids claims k) : k.Clear where
  known h hh := hc.length ▸ hl.known h ((hc.registered h).1 hh).1
  ids := by
    refine List.Nodup.map_on (fun h hh h' hh' same => ?_) hc.once
    rw [hc.idOf, hc.idOf] at same
    exact hl.inj ((hc.registered h).1 hh).1 ((hc.registered h').1 hh').1 same
  once := hc.claimedOnce
  copies h hh e' he' k hk := by
    obtain ⟨e, he, -, reaction⟩ := hc.entries h e' he'
    exact hl.copies h ((hc.registered h).1 hh).1 e he k (reaction ▸ hk)

end Roll

/-! ## Calls on a registry -/

namespace Registry

variable {r s : Registry Reaction} {id : PortId} {h : Handle}

/-- A removed port keeps its id and its reaction. -/
theorem entry_of_removed (removed : Removed r h s) {k : Handle} {e' : Roll.Entry Reaction}
    (he' : s.roll.ports[k]? = some e') :
    ∃ e, r.roll.ports[k]? = some e ∧ e'.id = e.id ∧ e'.reaction = e.reaction := by
  simp only [roll, List.getElem?_map] at he' ⊢
  by_cases at_h : k = h
  · subst at_h
    have port : s.ports[k]? = _ := removed.port
    rw [port] at he'
    cases hp : r.ports[k]? with
    | none => simp [port?, hp] at he'
    | some p =>
      simp only [port?, hp, Option.map_some, Option.some.injEq] at he'
      exact ⟨p.entry, rfl, he' ▸ rfl, he' ▸ rfl⟩
  · have port : s.ports[k]? = r.ports[k]? := removed.others k at_h
    rw [port] at he'
    exact ⟨e', he', rfl, rfl⟩

theorem cut_of_removed (hr : r.roll.Clear) (own : r.idOf h = id) (removed : Removed r h s) :
    r.roll.Cut [id] [] s.roll where
  registered k := by
    show k ∈ s.registered ↔ k ∈ r.registered ∧ _
    rw [Roster.mem_of_perm_append (o := [h]) removed.registered (.of_map _ hr.ids),
      List.mem_singleton, List.mem_singleton, idOf_roll]
    refine and_congr_right fun hk => not_congr ⟨fun e => e ▸ own, fun e => hr.inj hk removed.mem ?_⟩
    rw [idOf_roll, idOf_roll, e, own]
  once :=
    have once : (h :: s.registered).Nodup := removed.registered.nodup_iff.2 (.of_map _ hr.ids)
    (List.nodup_cons.1 once).2
  claimed c := by
    show c ∈ s.sessions ↔ c ∈ r.sessions ∧ _
    simp [removed.sessions]
  claimedOnce := by
    show s.sessions.Nodup
    exact removed.sessions.symm ▸ hr.once
  length := by simpa [roll] using removed.ports
  entries _ _ := entry_of_removed removed

theorem cut_without (hr : r.roll.Clear) (id : PortId) :
    r.roll.Cut [id] [] (r.without id).roll := by
  by_cases hid : id ∈ r.ids
  · obtain ⟨h, own, removed⟩ := removed_without hid
    exact cut_of_removed hr own removed
  · rw [without_of_not_mem hid]
    have same := Roll.Cut.refl hr
    refine ⟨fun h => ?_, same.once, same.claimed, same.claimedOnce, rfl, same.entries⟩
    rw [List.mem_singleton]
    exact ⟨fun hh => ⟨hh, fun e => hid (List.mem_map.2 ⟨h, hh, idOf_roll r h ▸ e⟩)⟩, And.left⟩

theorem cut_releaseSession (hr : r.roll.Clear) (id : PortId) :
    r.roll.Cut [] [id] (r.releaseSession id).2.roll := by
  have same := Roll.Cut.refl hr
  by_cases hid : id ∈ r.sessions
  · obtain ⟨sessions, e, perm⟩ := releaseSession_of_mem hid
    rw [e]
    exact ⟨same.registered, same.once, Roster.mem_of_perm_append (o := [id]) perm hr.once,
      (List.nodup_cons.1 (perm.nodup_iff.2 hr.once)).2, rfl, same.entries⟩
  · rw [releaseSession_of_not_mem hid]
    refine ⟨same.registered, same.once, fun c => ?_, same.claimedOnce, rfl, same.entries⟩
    rw [List.mem_singleton]
    exact ⟨fun hc => ⟨hc, fun e => hid (e ▸ hc)⟩, And.left⟩

/-- A port that is destroyed is marked and closed. -/
theorem exit_without (hr : r.roll.Clear) (hh : h ∈ r.registered) (own : r.idOf h = id) :
    ∃ p, (r.without id).port? h = some p ∧ p.state = .exit ∧ p.queue.isClosed = true := by
  obtain ⟨k, own', removed⟩ := removed_without (List.mem_map.2 ⟨h, hh, own⟩)
  obtain rfl : h = k := hr.inj hh removed.mem (by rw [idOf_roll, idOf_roll, own, own'])
  have lt : h < r.ports.length := by simpa [roll] using hr.known h hh
  refine ⟨_, removed.port.trans (congrArg _ (List.getElem?_eq_getElem lt)), rfl, ?_⟩
  exact Queue.isClosed_close _

end Registry

/-! ## Changes -/

/-- Who made the claim of an id: an owner, or the application. -/
abbrev Makers := PortId → Option Owner

def Makers.claim (w : Makers) (claims : List PortId) (maker : Option Owner) : Makers :=
  fun id => if id ∈ claims then maker else w id

namespace Roster

/-- A call on the registry that takes nothing away which a live owner has. -/
def Mindful (r : Roster) : Registry.Call Reaction → Prop
  | .destroyPort id => ∀ o x, r.owner? o = some x → x.live = true → x.id ≠ id
  | .releaseSession id => ∀ o x, r.owner? o = some x → x.live = true → id ∉ o.claims x.id
  | _ => True

/-- What is done to a roster, and to those who made claims. -/
inductive Change (may : Roster → Registry.Call Reaction → Prop) :
    Roster → Makers → Roster → Makers → Prop
  | still {r : Roster} {w : Makers} : Change may r w r w
  /-- ports that nobody registers -/
  | more {r s : Roster} {w : Makers} {more : List (Roll.Entry Reaction)} :
      s.ports = r.ports ++ more → s.registered = r.registered → s.claimed = r.claimed →
      s.owner? = r.owner? → Change may r w s w
  | added {r : Roster} {w : Makers} {o : Owner} {id : PortId} : r.owner? o = none → id ∉ r.ids →
      (∀ c ∈ o.claims id, c ∉ r.claimed) →
      Change may r w (r.add o id) (w.claim (o.claims id) (some o))
  | left {r s : Roster} {w : Makers} {o : Owner} {x : Outline} : r.owner? o = some x →
      x.live = true → r.toRoll.Cut [x.id] (o.claims x.id) s.toRoll →
      s.owner? = Function.update r.owner? o (some x.gone) → Change may r w s w
  /-- the application registers a port -/
  | port {r s : Roster} {w : Makers} {id : PortId} : id ∉ r.ids →
      s.ports = r.ports ++ [⟨id, false, none⟩] → s.registered = r.registered ++ [r.ports.length] →
      s.claimed = r.claimed → s.owner? = r.owner? → Change may r w s w
  /-- or claims an id -/
  | claim {r s : Roster} {w : Makers} {id : PortId} : id ∉ r.claimed → s.ports = r.ports →
      s.registered = r.registered → s.claimed = r.claimed ++ [id] → s.owner? = r.owner? →
      Change may r w s (w.claim [id] none)
  /-- or destroys a port -/
  | destroy {r s : Roster} {w : Makers} {id : PortId} : may r (.destroyPort id) →
      r.toRoll.Cut [id] [] s.toRoll → s.owner? = r.owner? → Change may r w s w
  /-- or gives up a claim -/
  | release {r s : Roster} {w : Makers} {id : PortId} : may r (.releaseSession id) →
      r.toRoll.Cut [] [id] s.toRoll → s.owner? = r.owner? → Change may r w s w

variable {may : Roster → Registry.Call Reaction → Prop} {r s : Roster} {w w' : Makers}
  {ids given : List PortId}

theorem clear_of_change (h : Change may r w s w') (hr : r.toRoll.Clear) : s.toRoll.Clear := by
  cases h with
  | still => exact hr
  | more ports registered claimed _ =>
    exact hr.of_more ports registered (claimed.symm ▸ hr.once)
  | @added _ o id _ free unclaimed =>
    have once : (r.claimed ++ o.claims id).Nodup := by
      refine List.nodup_append.2 ⟨hr.once, by cases o <;> simp [Owner.claims], ?_⟩
      exact fun a ha b hb same => unclaimed b hb (same ▸ ha)
    exact hr.concat (e := ⟨id, false, some .copy⟩) free (fun k hk => by cases hk; rfl) rfl rfl once
  | left _ _ cut _ => exact hr.cut cut
  | @port _ _ id free ports registered claimed _ =>
    have copies (k : Reaction) (none : Option.none = some k) : k = .copy := by cases none
    exact hr.concat (e := ⟨id, false, none⟩) free copies ports registered (claimed.symm ▸ hr.once)
  | @claim _ _ id free ports registered claimed _ =>
    have once : s.claimed.Nodup := by
      rw [claimed]
      exact (List.perm_append_singleton id _).nodup_iff.2 (List.nodup_cons.2 ⟨free, hr.once⟩)
    exact hr.of_more (ports.trans (List.append_nil _).symm) registered once
  | destroy _ cut _ => exact hr.cut cut
  | release _ cut _ => exact hr.cut cut

/-! ## Owners that are backed -/

/-- Every live owner has its port and its claims, which were made for it and for nobody else. -/
structure Backed (r : Roster) (w : Makers) : Prop where
  port : ∀ {o x}, r.owner? o = some x → x.live = true →
    x.port ∈ r.registered ∧ r.idOf x.port = x.id
  claims : ∀ {o x}, r.owner? o = some x → x.live = true →
    ∀ c ∈ o.claims x.id, c ∈ r.claimed ∧ w c = some o
  sole : ∀ {o o' x y}, r.owner? o = some x → r.owner? o' = some y → x.live = true →
    y.live = true → x.port = y.port → o = o'

/-- What is registered and claimed stays so. -/
structure Grows (r : Roster) (w : Makers) (s : Roster) (w' : Makers) : Prop where
  registered : ∀ h ∈ r.registered, h ∈ s.registered ∧ s.idOf h = r.idOf h
  claimed : ∀ c ∈ r.claimed, c ∈ s.claimed ∧ w' c = w c

theorem Grows.port (h : Grows r w s w') (hb : r.Backed w) {o : Owner} {x : Outline}
    (hx : r.owner? o = some x) (live : x.live = true) :
    x.port ∈ s.registered ∧ s.idOf x.port = x.id := by
  obtain ⟨registered, id⟩ := hb.port hx live
  obtain ⟨stays, same⟩ := h.registered _ registered
  exact ⟨stays, same.trans id⟩

theorem Grows.claims (h : Grows r w s w') (hb : r.Backed w) {o : Owner} {x : Outline}
    (hx : r.owner? o = some x) (live : x.live = true) :
    ∀ c ∈ o.claims x.id, c ∈ s.claimed ∧ w' c = some o := by
  intro c hc
  obtain ⟨claimed, maker⟩ := hb.claims hx live c hc
  obtain ⟨stays, same⟩ := h.claimed c claimed
  exact ⟨stays, same.trans maker⟩

theorem Grows.backed (h : Grows r w s w') (owners : s.owner? = r.owner?) (hb : r.Backed w) :
    s.Backed w' where
  port hx := h.port hb (owners ▸ hx)
  claims hx := h.claims hb (owners ▸ hx)
  sole hx hy := hb.sole (owners ▸ hx) (owners ▸ hy)

theorem grows_of_more {more : List (Roll.Entry Reaction)} {registered : List Handle}
    {claimed : List PortId} (hr : r.toRoll.Clear) (ports : s.ports = r.ports ++ more)
    (hregistered : s.registered = r.registered ++ registered)
    (hclaimed : s.claimed = r.claimed ++ claimed) (makers : ∀ c ∈ r.claimed, w' c = w c) :
    Grows r w s w' where
  registered h hh := ⟨hregistered ▸ List.mem_append_left _ hh,
    Roll.idOf_of_more ports (hr.known h hh)⟩
  claimed c hc := ⟨hclaimed ▸ List.mem_append_left _ hc, makers c hc⟩

theorem claim_of_not_mem {maker : Option Owner} (free : ∀ c ∈ given, c ∉ r.claimed) :
    ∀ c ∈ r.claimed, w.claim given maker c = w c :=
  fun c hc => if_neg fun hc' => free c hc' hc

theorem backed_add (hr : r.toRoll.Clear) (hb : r.Backed w) {o : Owner} {id : PortId}
    (new : r.owner? o = none) (unclaimed : ∀ c ∈ o.claims id, c ∉ r.claimed) :
    (r.add o id).Backed (w.claim (o.claims id) (some o)) := by
  have ports : (r.add o id).ports = r.ports ++ [⟨id, false, some .copy⟩] := rfl
  have registered : (r.add o id).registered = r.registered ++ [r.ports.length] := rfl
  have claimed : (r.add o id).claimed = r.claimed ++ o.claims id := rfl
  have grows : Grows r w (r.add o id) (w.claim (o.claims id) (some o)) :=
    grows_of_more hr ports registered claimed (claim_of_not_mem unclaimed)
  have older {o' : Owner} {x : Outline} (hx : r.owner? o' = some x) (live : x.live = true) :
      x.port ≠ r.ports.length := Nat.ne_of_lt (hr.known _ (hb.port hx live).1)
  refine ⟨fun {o' x} hx live => ?_, fun {o' x} hx live c hc => ?_,
    fun {o' o'' x y} hx hy live live' same => ?_⟩
  · rw [owner?_add] at hx
    split at hx
    · cases hx
      exact ⟨List.mem_append_right _ (List.mem_singleton_self _),
        by simp [Roll.idOf, add, Roll.enrol]⟩
    · exact grows.port hb hx live
  · rw [owner?_add] at hx
    split at hx
    · next e =>
      cases hx
      subst e
      exact ⟨List.mem_append_right _ hc, if_pos hc⟩
    · exact grows.claims hb hx live c hc
  · rw [owner?_add] at hx hy
    split at hx <;> split at hy
    · next e e' => rw [e, e']
    · cases hx
      exact absurd same.symm (older hy live')
    · cases hy
      exact absurd same (older hx live)
    · exact hb.sole hx hy live live' same

/-- What is cut is nothing that the live owners have. -/
theorem backed_of_cut (hb : r.Backed w) (cut : r.toRoll.Cut ids given s.toRoll)
    (spared : ∀ o x, s.owner? o = some x → x.live = true →
      r.owner? o = some x ∧ x.id ∉ ids ∧ ∀ c ∈ o.claims x.id, c ∉ given) : s.Backed w where
  port {o x} hx live := by
    obtain ⟨before, apart, -⟩ := spared o x hx live
    obtain ⟨registered, id⟩ := hb.port before live
    exact ⟨(cut.registered _).2 ⟨registered, id.symm ▸ apart⟩, (cut.idOf _).trans id⟩
  claims {o x} hx live c hc := by
    obtain ⟨before, -, apart⟩ := spared o x hx live
    obtain ⟨claimed, maker⟩ := hb.claims before live c hc
    exact ⟨(cut.claimed c).2 ⟨claimed, apart c hc⟩, maker⟩
  sole {o o' x y} hx hy live live' same :=
    hb.sole (spared o x hx live).1 (spared o' y hy live').1 live live' same

/-- Two live owners have different ids. -/
theorem Backed.sole_id (hb : r.Backed w) (hr : r.toRoll.Clear) {o o' : Owner} {x y : Outline}
    (hx : r.owner? o = some x) (hy : r.owner? o' = some y) (live : x.live = true)
    (live' : y.live = true) (same : x.id = y.id) : o = o' := by
  obtain ⟨hh, id⟩ := hb.port hx live
  obtain ⟨hh', id'⟩ := hb.port hy live'
  exact hb.sole hx hy live live' (hr.inj hh hh' (id.trans (same.trans id'.symm)))

theorem backed_of_change (h : Change Mindful r w s w') (hr : r.toRoll.Clear) (hb : r.Backed w) :
    s.Backed w' := by
  cases h with
  | still => exact hb
  | more ports registered claimed owners =>
    exact (grows_of_more hr ports (registered.trans (List.append_nil _).symm)
      (claimed.trans (List.append_nil _).symm) fun _ _ => rfl).backed owners hb
  | added new _ unclaimed => exact backed_add hr hb new unclaimed
  | @left _ _ o x hx live cut owners =>
    refine backed_of_cut hb cut fun o' y hy live' => ?_
    rw [owners, Function.update_apply] at hy
    split at hy
    · cases hy
      cases live'
    · next ne =>
      -- two live owners have two ids, so nothing of the others is cut
      have apart : y.id ≠ x.id := fun same => ne (hb.sole_id hr hy hx live' live same)
      refine ⟨hy, fun e => apart (List.mem_singleton.1 e), fun c hc hc' => apart ?_⟩
      rw [← Owner.eq_of_claims hc, Owner.eq_of_claims hc']
  | port _ ports registered claimed owners =>
    exact (grows_of_more hr ports registered (claimed.trans (List.append_nil _).symm)
      fun _ _ => rfl).backed owners hb
  | claim free ports registered claimed owners =>
    refine (grows_of_more hr (ports.trans (List.append_nil _).symm)
      (registered.trans (List.append_nil _).symm) claimed
      (claim_of_not_mem fun c hc => ?_)).backed owners hb
    exact List.mem_singleton.1 hc ▸ free
  | destroy spared cut owners =>
    refine backed_of_cut hb cut fun o x hx live => ?_
    rw [owners] at hx
    exact ⟨hx, fun e => spared o x hx live (List.mem_singleton.1 e), fun _ _ => List.not_mem_nil⟩
  | release spared cut owners =>
    refine backed_of_cut hb cut fun o x hx live => ?_
    rw [owners] at hx
    exact ⟨hx, List.not_mem_nil, fun c hc e => spared o x hx live (List.mem_singleton.1 e ▸ hc)⟩

end Roster

end FrameBus
