import FrameBus.Link.Hub
import Mathlib.Data.List.Nodup

/-!
# The table of a hub

What the calls at a hub do to its table, told by the ids of the members and by who is found under an
id. A join adds one member under an id that nobody has (`not_mem_of_init`, `find?_of_init`), leaving
takes out the one under it (`find?_exit`), and all other calls change what a member is, never who is
one.
-/

namespace FrameBus.Hub

variable {κ : Type} {hub : Hub κ} {e : Endpoint κ} {id : PortId}

/-! ## Ids -/

theorem ids_start {after : Hub κ} (h : hub.start e = .ok after) : after.ids = hub.ids := by
  unfold start at h
  split at h
  · cases h
  · cases h
    exact ids_update _ _ _ fun _ => rfl

theorem ids_stop (hub : Hub κ) (e : Endpoint κ) : (hub.stop e).ids = hub.ids := by
  unfold stop
  split
  · rfl
  · exact ids_update _ _ _ fun _ => rfl

theorem ids_setHook (hub : Hub κ) (e : Endpoint κ) (k : κ) : (hub.setHook e k).1.ids = hub.ids := by
  unfold setHook
  split
  · rfl
  · exact ids_update _ _ _ fun _ => rfl

/-- A member leaves, under the id that it has. -/
theorem ids_exit (h : e.id = some id) : (hub.exit e).1.ids = hub.ids.filter fun c => c != id := by
  simp [exit, h, ids, List.filter_map, Function.comp_def]

theorem ids_init {after : Hub κ} {e' : Endpoint κ} (h : hub.init e id = .ok (after, e')) :
    after.ids = hub.ids ++ [id] := by
  obtain ⟨rfl, -⟩ := eq_of_init h
  simp [ids]

/-- Only an endpoint that is no member joins. -/
theorem id_of_init {after : Hub κ} {e' : Endpoint κ} (h : hub.init e id = .ok (after, e')) :
    e.id = none := by
  unfold init at h
  split at h
  · cases h
  · split at h
    · cases h
    · next outside => simpa using outside

/-! ## Who is found -/

theorem mem_of_find? {m : Member κ} (h : hub.find? id = some m) : m ∈ hub.members ∧ m.id = id :=
  ⟨List.mem_of_find?_eq_some h, by simpa using List.find?_some h⟩

theorem find?_eq_none_iff : hub.find? id = none ↔ id ∉ hub.ids := by
  simp [find?, ids, List.find?_eq_none]

theorem not_mem_of_init {after : Hub κ} {e' : Endpoint κ} (h : hub.init e id = .ok (after, e')) :
    id ∉ hub.ids := by
  unfold init at h
  split at h
  · cases h
  · split at h
    · cases h
    · split at h
      · cases h
      · next free => exact find?_eq_none_iff.1 (by simpa using free)

/-- No two members have one id. -/
theorem find?_of_mem (hn : hub.ids.Nodup) {m : Member κ} (hm : m ∈ hub.members) :
    hub.find? m.id = some m := by
  cases h : hub.find? m.id with
  | none => exact absurd (List.mem_map_of_mem hm) (find?_eq_none_iff.1 h)
  | some m' =>
    obtain ⟨hm', same⟩ := mem_of_find? h
    rw [List.inj_on_of_nodup_map hn hm' hm same]

theorem find?_of_init {after : Hub κ} {e' : Endpoint κ} (h : hub.init e id = .ok (after, e'))
    (other : PortId) :
    after.find? other = if other = id then some ⟨id, e.hook, false⟩ else hub.find? other := by
  have free := find?_eq_none_iff.2 (not_mem_of_init h)
  obtain ⟨rfl, -⟩ := eq_of_init h
  have last : find? ⟨hub.members ++ [⟨id, e.hook, false⟩]⟩ other =
      (hub.find? other).or (if id = other then some ⟨id, e.hook, false⟩ else none) := by
    simp [find?, List.find?_append, List.find?_singleton]
  rw [last]
  by_cases ho : other = id
  · subst ho
    simp [free]
  · simp [ho, Ne.symm ho]

theorem find?_exit (h : e.id = some id) (other : PortId) :
    (hub.exit e).1.find? other = if other = id then none else hub.find? other := by
  simp only [exit, h, find?, List.find?_filter]
  split
  · next ho => simp [ho]
  · next ho =>
    congr 1
    funext m
    by_cases hm : m.id = other <;> simp [hm, ho]

theorem find?_update {f : Member κ → Member κ} (hf : ∀ m, (f m).id = m.id) (other : PortId) :
    (hub.update id f).find? other =
      if other = id then (hub.find? other).map f else hub.find? other := by
  have same (m : Member κ) : (if m.id = id then f m else m).id = m.id := by split <;> simp [hf]
  have found : (hub.update id f).find? other =
      (hub.find? other).map fun m => if m.id = id then f m else m := by
    simp only [update, find?, List.find?_map, Function.comp_def, same]
  rw [found]
  cases hm : hub.find? other with
  | none => simp
  | some m =>
    obtain ⟨-, own⟩ := mem_of_find? hm
    simp only [Option.map_some, own]
    split <;> rfl

end FrameBus.Hub
