import FrameBus.Proofs.Registry.Adds
import Mathlib.Data.List.Perm.Basic

/-!
# Rolls of registries

The roll of a registry is what registration is about: which ports there are and which of them are
registered, and the ids that are claimed, without the states of the ports and what waits there. A
port is only made under an id that is free (`eq_of_createPort`), and is struck off the roll when it
is destroyed (`roll_destroyPort`). What is made and undone at once leaves the lists as they were, in
their order, and every older port untouched (`undone_createPort`, `undone_claimSession`).
-/

namespace FrameBus

/-- What the roll says about a port. -/
structure Roll.Entry (κ : Type) where
  id : PortId
  closed : Bool
  reaction : Option κ

structure Roll (κ : Type) where
  ports : List (Roll.Entry κ)
  registered : List Handle
  claimed : List PortId

namespace Roll

variable {κ : Type}

def idOf (l : Roll κ) (h : Handle) : PortId := ((l.ports[h]?).map Entry.id).getD .unknown

def ids (l : Roll κ) : List PortId := l.registered.map l.idOf

/-- A new port, registered behind the others. -/
def enrol (l : Roll κ) (id : PortId) (k : κ) : Roll κ :=
  { l with
    ports := l.ports ++ [⟨id, false, some k⟩]
    registered := l.registered ++ [l.ports.length] }

/-- One roll after another: a port is struck off. -/
structure Strikes (l : Roll κ) (h : Handle) (k : Roll κ) : Prop where
  ports : k.ports = l.ports.modify h fun e => { e with closed := true }
  registered : (h :: k.registered).Perm l.registered

theorem idOf_modify (l : Roll κ) (h k : Handle) :
    ({ l with ports := l.ports.modify h fun e => { e with closed := true } } : Roll κ).idOf k =
      l.idOf k := by
  simp only [idOf, List.getElem?_modify]
  cases l.ports[k]? with
  | none => rfl
  | some e => by_cases hk : h = k <;> simp [hk]

/-! ### Rolls that grow -/

variable {l k : Roll κ}

theorem idOf_of_more {more : List (Entry κ)} (ports : k.ports = l.ports ++ more) {h : Handle}
    (known : h < l.ports.length) : k.idOf h = l.idOf h := by
  rw [idOf, ports, List.getElem?_append_left known, idOf]

/-- Ports that nobody registers have no ids there. -/
theorem ids_of_more {more : List (Entry κ)} (known : ∀ h ∈ l.registered, h < l.ports.length)
    (ports : k.ports = l.ports ++ more) (registered : k.registered = l.registered) :
    k.ids = l.ids := by
  rw [ids, registered]
  exact List.map_congr_left fun h hh => idOf_of_more ports (known h hh)

/-- The id of a port that is registered behind the others. -/
theorem ids_concat {e : Entry κ} (known : ∀ h ∈ l.registered, h < l.ports.length)
    (ports : k.ports = l.ports ++ [e])
    (registered : k.registered = l.registered ++ [l.ports.length]) : k.ids = l.ids ++ [e.id] := by
  have last : k.idOf l.ports.length = e.id := by simp [idOf, ports]
  rw [ids, registered, List.map_append, List.map_singleton, last]
  exact congrArg (· ++ [e.id])
    (List.map_congr_left fun h hh => idOf_of_more ports (known h hh))

end Roll

def Port.entry {κ : Type} (p : Port κ) : Roll.Entry κ := ⟨p.id, p.queue.isClosed, p.reaction⟩

namespace Registry

variable {κ : Type} {r s t : Registry κ}

def roll (r : Registry κ) : Roll κ := ⟨r.ports.map Port.entry, r.registered, r.sessions⟩

theorem idOf_roll (r : Registry κ) (h : Handle) : r.roll.idOf h = r.idOf h := by
  simp only [Roll.idOf, roll, List.getElem?_map, Option.map_map, idOf, port?]
  rfl

theorem ids_roll (r : Registry κ) : r.roll.ids = r.ids :=
  List.map_congr_left fun h _ => idOf_roll r h

theorem roll_of_blank (h : s.blank = r.blank) : s.roll = r.roll := by
  have key (t : Registry κ) : t.blank.roll = t.roll := by
    have entry (p : Port κ) : p.blank.entry = p.entry := by simp [Port.entry, Port.blank]
    simp only [roll, blank, List.map_map]
    congr 1
    exact List.map_congr_left fun p _ => entry p
  rw [← key, h, key]

theorem roll_setState (r : Registry κ) (h : Handle) (state : PortState) :
    (r.setState h state).roll = r.roll := by
  have ports : (r.ports.modify h fun p => { p with state }).map Port.entry =
      r.ports.map Port.entry := map_modify_of_same fun _ => rfl
  simp only [roll, setState, modify, ports]

/-! ## Lists that lose an entry -/

theorem perm_swapRemove {α : Type} {l : List α} {i : Nat} (hi : i < l.length) :
    (l[i] :: swapRemove l i).Perm l := by
  refine .trans (.cons _ ?_) (List.getElem_cons_eraseIdx_perm hi)
  obtain ⟨xs, last, rfl⟩ : ∃ xs last, l = xs ++ [last] :=
    ⟨_, _, (List.dropLast_append_getLast (List.ne_nil_of_length_pos (Nat.zero_lt_of_lt hi))).symm⟩
  simp only [swapRemove, List.getLast?_append, List.getLast?_singleton, Option.some_or]
  split
  · next before =>
    have lt : i < xs.length := by simpa using before
    rw [List.set_append_left _ _ lt, List.dropLast_concat, List.eraseIdx_append_of_lt_length lt]
    exact (List.set_perm_cons_eraseIdx lt last).trans (List.perm_append_singleton _ _).symm
  · exact .refl _

theorem swapRemove_concat {α : Type} (l : List α) (a : α) : swapRemove (l ++ [a]) l.length = l := by
  simp [swapRemove, List.eraseIdx_append_of_length_le]

theorem findIdx?_concat {α : Type} {l : List α} {a : α} {p : α → Bool}
    (before : ∀ b ∈ l, p b = false) (last : p a = true) :
    (l ++ [a]).findIdx? p = some l.length := by
  have none : l.findIdx? p = none := List.findIdx?_eq_none_iff.2 before
  simp [List.findIdx?_append, none, last]

/-- A list whose last entry changes. -/
theorem modify_concat {α : Type} (l : List α) (a : α) (F : α → α) :
    (l ++ [a]).modify l.length F = l ++ [F a] := by
  simp [List.modify_eq_set_getElem?]

/-! ## Ports -/

theorem find?_eq_none_iff {id : PortId} : r.find? id = none ↔ id ∉ r.ids := by
  simp [find?, ids, List.find?_eq_none]

theorem eq_of_createPort {id : PortId} {h : Handle} (e : r.createPort id = .ok (h, s)) :
    id.isReserved = false ∧ id ∉ r.ids ∧ h = r.ports.length ∧
      s = { r with ports := r.ports ++ [⟨id, .init, .new r.config, none⟩]
                   registered := r.registered ++ [r.ports.length] } := by
  unfold createPort at e
  split at e
  · cases e
  · next single =>
    split at e
    · cases e
    · next free =>
      cases e
      exact ⟨by simpa using single, find?_eq_none_iff.1 (by simpa using free), rfl, rfl⟩

/-- A port that was just made and got its reaction. -/
theorem eq_of_setReaction {id : PortId} {h : Handle} (e : r.createPort id = .ok (h, s)) (k : κ) :
    s.setReaction h k = { r with ports := r.ports ++ [⟨id, .init, .new r.config, some k⟩]
                                 registered := r.registered ++ [r.ports.length] } := by
  obtain ⟨-, -, rfl, rfl⟩ := eq_of_createPort e
  simp [setReaction, modify, modify_concat]

theorem destroyPort_isOk {id : PortId} (h : id ∈ r.ids) : ∃ s, r.destroyPort id = .ok s := by
  obtain ⟨k, hk, rfl⟩ := List.mem_map.1 h
  unfold destroyPort
  split
  · next none =>
    have absent := List.findIdx?_eq_none_iff.1 none k hk
    simp at absent
  · exact ⟨_, rfl⟩

/-- The registry after a port was destroyed, if there was one with the id. -/
def without (r : Registry κ) (id : PortId) : Registry κ := (r.destroyPort id).toOption.getD r

/-- A port with the id is struck off, and is not connected any more. -/
theorem roll_destroyPort {id : PortId} (e : r.destroyPort id = .ok s) :
    ∃ h, r.idOf h = id ∧ r.roll.Strikes h s.roll ∧ s.sessions = r.sessions ∧
      ∀ j, s.isConnected j = if h = j then false else r.isConnected j := by
  unfold destroyPort at e
  split at e
  · cases e
  · next i hi =>
    cases e
    obtain ⟨lt, own, -⟩ := List.findIdx?_eq_some_iff_getElem.1 hi
    have at_i : r.registered.getD i 0 = r.registered[i] := by simp [lt]
    rw [at_i]
    refine ⟨r.registered[i], by simpa using own, ⟨?_, perm_swapRemove lt⟩, rfl, fun j => ?_⟩
    · exact map_modify fun p => by simp [Port.entry]
    · have closed := port?_modify r r.registered[i] j fun p =>
        { p with state := .exit, queue := p.queue.close }
      simp only [port?] at closed
      simp only [isConnected, port?, closed]
      split
      · cases r.ports[j]? <;> rfl
      · rfl

/-- A port that was just made is destroyed again. -/
theorem undone_createPort {id : PortId} {h : Handle} (e : r.createPort id = .ok (h, s)) (k : κ)
    (known : ∀ j ∈ r.registered, j < r.ports.length) :
    ∃ t, (s.setReaction h k).destroyPort id = .ok t ∧ t.registered = r.registered ∧
      t.sessions = r.sessions ∧
      t.ports = r.ports ++ [⟨id, .exit, (Queue.new r.config).close, some k⟩] := by
  obtain ⟨-, free, -, -⟩ := eq_of_createPort e
  rw [eq_of_setReaction e]
  have old (j : Handle) (hj : j ∈ r.registered) : ((idOf { r with
      ports := r.ports ++ [⟨id, .init, .new r.config, some k⟩]
      registered := r.registered ++ [r.ports.length] } j) == id) = false := by
    simp only [idOf, port?, List.getElem?_append_left (known j hj), beq_eq_false_iff_ne]
    exact fun e => free (List.mem_map.2 ⟨j, hj, e⟩)
  unfold destroyPort
  rw [findIdx?_concat old (by simp [idOf, port?])]
  refine ⟨_, rfl, swapRemove_concat _ _, rfl, ?_⟩
  simp [modify, modify_concat]

/-! ## Claims -/

theorem eq_of_claimSession {id : PortId} (e : r.claimSession id = .ok s) :
    id ∉ r.sessions ∧ s = { r with sessions := r.sessions ++ [id] } := by
  unfold claimSession at e
  split at e
  · cases e
  · split at e
    · cases e
    · next free =>
      cases e
      exact ⟨by simpa using free, rfl⟩

theorem perm_releaseSession {id : PortId} (h : id ∈ r.sessions) :
    ∃ sessions, (r.releaseSession id).2 = { r with sessions } ∧
      (id :: sessions).Perm r.sessions := by
  unfold releaseSession
  split
  · next none =>
    have absent := List.findIdx?_eq_none_iff.1 none id h
    simp at absent
  · next i hi =>
    obtain ⟨lt, own, -⟩ := List.findIdx?_eq_some_iff_getElem.1 hi
    obtain rfl : r.sessions[i] = id := by simpa using own
    exact ⟨_, rfl, perm_swapRemove lt⟩

/-- A claim that was just made is given up again. -/
theorem undone_claimSession {id : PortId} (e : r.claimSession id = .ok s) :
    (s.releaseSession id).2 = r := by
  obtain ⟨free, rfl⟩ := eq_of_claimSession e
  have last : (r.sessions ++ [id]).findIdx? (· == id) = some r.sessions.length :=
    findIdx?_concat (fun c hc => by simpa using fun e : c = id => free (e ▸ hc)) (by simp)
  simp only [releaseSession, last, swapRemove_concat]

end Registry

end FrameBus
