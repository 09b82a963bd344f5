import FrameBus.Proofs.Registry.Changes
import FrameBus.Proofs.Registry.Rolls

/-!
# Calls on a registry

Everything that is called on a registry and on its ports, with the replies (`Registry.answer`). A
call makes a port, destroys one, claims or gives up a session id, or leaves the register as it is
(`Effect`). A call that is refused leaves everything as it is (`answer_of_isRefusal`). What is
called on a handle reads and changes the port of that handle and no other (`local_of_at`), and a
send reaches registered ports alone (`port?_of_send`).
-/

namespace FrameBus.Registry

variable {κ : Type} {r s : Registry κ}

inductive Call (κ : Type) where
  | createPort (id : PortId)
  | get (id : PortId)
  | destroyPort (id : PortId)
  | claimSession (id : PortId)
  | releaseSession (id : PortId)
  | send (sender : Handle) (dest : PortId) (f : Frame)
  | setState (h : Handle) (s : PortState)
  | setReaction (h : Handle) (k : κ)
  | enqueue (h : Handle) (f : Frame)
  | receive (h : Handle)

inductive Reply where
  | port (h : Handle)
  /-- there is no such port -/
  | absent
  | done
  | failed (e : BusError)
  | handedBack (why : Rejected)
  | released (was : Bool)
  | popped (p : Popped Frame)
  /-- the call waits for room at a port; the frame comes there by an `enqueue` later -/
  | waits

/-- Whether a call came to nothing. -/
def Reply.isRefusal : Reply → Bool
  | .port _ | .done | .released true | .popped (.item _) => false
  | _ => true

/-- The handle that a call is made on. -/
def Call.at? : Call κ → Option Handle
  | .setState h _ | .setReaction h _ | .enqueue h _ | .receive h => some h
  | _ => none

/-- A call that changes the registry or fails. -/
def orFail (r : Registry κ) : Except BusError (Registry κ) → Reply × Registry κ
  | .ok s => (.done, s)
  | .error e => (.failed e, r)

def answer (r : Registry κ) : Call κ → Reply × Registry κ
  | .createPort id =>
    match r.createPort id with
    | .ok (h, s) => (.port h, s)
    | .error e => (.failed e, r)
  | .get id => ((r.get? id).elim .absent .port, r)
  | .destroyPort id => r.orFail (r.destroyPort id)
  | .claimSession id => r.orFail (r.claimSession id)
  | .releaseSession id => (.released (r.releaseSession id).1, (r.releaseSession id).2)
  | .send sender dest f =>
    match r.send sender dest f with
    | .sent s => (.done, s)
    | .returned why => (.handedBack why, r)
    | .waiting _ _ => (.waits, r)
  | .setState h state => (.done, r.setState h state)
  | .setReaction h k => (.done, r.setReaction h k)
  | .enqueue h f =>
    match r.enqueue h f with
    | .accepted s => (.done, s)
    | .closed => (.failed .queueClosed, r)
    | .full => (.waits, r)
  | .receive h => (.popped (r.receive h).1, (r.receive h).2)

/-- What can become of the register. -/
inductive Entry where
  | made (id : PortId) (h : Handle)
  | destroyed (id : PortId)
  | claimed (id : PortId)
  | released (id : PortId)

/-- The port that was made, with its id. -/
def Entry.made? : Entry → Option (PortId × Handle)
  | .made id h => some (id, h)
  | _ => none

/-- What a call did to the register, by its reply. -/
def Call.entry? : Call κ → Reply → Option Entry
  | .createPort id, .port h => some (.made id h)
  | .destroyPort id, .done => some (.destroyed id)
  | .claimSession id, .done => some (.claimed id)
  | .releaseSession id, .released true => some (.released id)
  | _, _ => none

/-! ## Calls that come to nothing -/

theorem entry?_of_isRefusal {c : Call κ} {reply : Reply} (h : reply.isRefusal = true) :
    c.entry? reply = none := by
  unfold Call.entry?
  split <;> first | cases h | rfl

theorem modify_of_same {h : Handle} {p : Port κ} {F : Port κ → Port κ} (hp : r.port? h = some p)
    (same : F p = p) : r.modify h F = r := by
  have ports : r.ports.modify h F = r.ports := by
    apply List.ext_getElem?
    intro k
    have here := port?_modify r h k F
    simp only [port?, modify] at here hp
    rw [here]
    split
    · next hk => rw [← hk, hp, Option.map_some, same]
    · rfl
  simp only [modify, ports]

/-- A port that has no frame to give is left as it is. -/
theorem receive_of_none {h : Handle} (none : ∀ f, (r.receive h).1 ≠ .item f) :
    (r.receive h).2 = r := by
  unfold receive at none ⊢
  cases hp : r.port? h with
  | none => rfl
  | some p =>
    simp only [hp] at none ⊢
    rcases Queue.poll_spec p.queue with ⟨f, q, hq, -, -⟩ | ⟨answer, hq, -⟩
    · exact absurd (by rw [hq]) (none f)
    · rw [hq]
      exact modify_of_same hp rfl

theorem isReserved_of_claimSession {id : PortId} (e : r.claimSession id = .ok s) :
    id.isReserved = false := by
  unfold claimSession at e
  split at e
  · cases e
  · next single => simpa using single

theorem releaseSession_of_not_mem {id : PortId} (h : id ∉ r.sessions) :
    r.releaseSession id = (false, r) := by
  have none : r.sessions.findIdx? (· == id) = none := by
    rw [List.findIdx?_eq_none_iff]
    intro c hc
    simpa using fun e : c = id => h (e ▸ hc)
  simp only [releaseSession, none]

theorem releaseSession_of_mem {id : PortId} (h : id ∈ r.sessions) :
    ∃ sessions, r.releaseSession id = (true, { r with sessions }) ∧
      (id :: sessions).Perm r.sessions := by
  obtain ⟨sessions, e, perm⟩ := perm_releaseSession h
  refine ⟨sessions, Prod.ext ?_ e, perm⟩
  unfold releaseSession
  split
  · next none => simpa using List.findIdx?_eq_none_iff.1 none id h
  · rfl

theorem orFail_of_isRefusal {result : Except BusError (Registry κ)}
    (h : (r.orFail result).1.isRefusal = true) : (r.orFail result).2 = r := by
  cases result with
  | ok s => cases h
  | error e => rfl

theorem ok_of_orFail {result : Except BusError (Registry κ)}
    (h : (r.orFail result).1.isRefusal = false) :
    ∃ s, result = .ok s ∧ r.orFail result = (.done, s) := by
  cases result with
  | ok s => exact ⟨s, rfl, rfl⟩
  | error e => cases h

theorem answer_of_isRefusal {c : Call κ} (h : (r.answer c).1.isRefusal = true) :
    (r.answer c).2 = r := by
  cases c with
  | createPort id =>
    simp only [answer] at h ⊢
    split at h
    · cases h
    · rfl
  | get id => rfl
  | destroyPort id => exact orFail_of_isRefusal h
  | claimSession id => exact orFail_of_isRefusal h
  | releaseSession id =>
    by_cases mem : id ∈ r.sessions
    · obtain ⟨sessions, e, -⟩ := releaseSession_of_mem mem
      simp [answer, e, Reply.isRefusal] at h
    · simp only [answer, releaseSession_of_not_mem mem]
  | send sender dest f =>
    simp only [answer] at h ⊢
    split at h
    · cases h
    · rfl
    · rfl
  | setState h state => cases h
  | setReaction h k => cases h
  | enqueue h f =>
    simp only [answer] at h ⊢
    split at h
    · cases h
    · rfl
    · rfl
  | receive k =>
    refine receive_of_none fun f e => ?_
    simp [answer, e, Reply.isRefusal] at h

/-! ## Calls on one port -/

/-- A call that is between it and one port. -/
structure Local (r : Registry κ) (c : Call κ) (h : Handle) : Prop where
  registered : (r.answer c).2.registered = r.registered
  sessions : (r.answer c).2.sessions = r.sessions
  /-- other ports are not changed -/
  others : ∀ k, k ≠ h → (r.answer c).2.port? k = r.port? k
  /-- nor read -/
  reads : ∀ s : Registry κ, s.port? h = r.port? h →
    (s.answer c).1 = (r.answer c).1 ∧ (s.answer c).2.port? h = (r.answer c).2.port? h

theorem port?_modify_of_ne {h k : Handle} (hk : k ≠ h) (F : Port κ → Port κ) :
    (r.modify h F).port? k = r.port? k := by
  rw [port?_modify, if_neg hk.symm]

theorem port?_modify_self (h : Handle) (F : Port κ → Port κ) :
    (r.modify h F).port? h = (r.port? h).map F := by
  rw [port?_modify, if_pos rfl]

/-- A call that answers and changes its port by what it finds there. -/
theorem local_of_modify {c : Call κ} {h : Handle} (reply : Reply) (F : Port κ → Port κ)
    (e : ∀ s : Registry κ, s.port? h = r.port? h → s.answer c = (reply, s.modify h F)) :
    Local r c h where
  registered := by rw [e r rfl]; rfl
  sessions := by rw [e r rfl]; rfl
  others k hk := by rw [e r rfl, port?_modify_of_ne hk]
  reads s hs := by
    rw [e r rfl, e s hs, port?_modify_self, port?_modify_self, hs]
    exact ⟨rfl, rfl⟩

theorem local_of_still {c : Call κ} {h : Handle} (reply : Reply)
    (e : ∀ s : Registry κ, s.port? h = r.port? h → s.answer c = (reply, s)) : Local r c h :=
  local_of_modify reply id fun s hs => by rw [e s hs, modify, List.modify_id]

theorem local_of_at {c : Call κ} {h : Handle} (hc : c.at? = some h) : Local r c h := by
  cases c with
  | setState k state =>
    cases hc
    exact local_of_modify _ _ fun _ _ => rfl
  | setReaction k reaction =>
    cases hc
    exact local_of_modify _ _ fun _ _ => rfl
  | enqueue k f =>
    cases hc
    cases hp : r.port? h with
    | none =>
      refine local_of_still (.failed .queueClosed) fun s hs => ?_
      simp only [answer, enqueue, hs.trans hp]
    | some p =>
      cases hq : p.queue.offer f with
      | accepted q =>
        refine local_of_modify .done (fun p => { p with queue := q }) fun s hs => ?_
        simp only [answer, enqueue, hs.trans hp, hq]
      | closed =>
        refine local_of_still (.failed .queueClosed) fun s hs => ?_
        simp only [answer, enqueue, hs.trans hp, hq]
      | full =>
        refine local_of_still .waits fun s hs => ?_
        simp only [answer, enqueue, hs.trans hp, hq]
  | receive k =>
    cases hc
    cases hp : r.port? h with
    | none =>
      refine local_of_still (.popped .closed) fun s hs => ?_
      simp only [answer, receive, hs.trans hp]
    | some p =>
      refine local_of_modify (.popped p.queue.poll.1)
        (fun q => { q with queue := p.queue.poll.2 }) fun s hs => ?_
      simp only [answer, receive, hs.trans hp]
  | _ => cases hc

/-! ## What calls do to the register -/

theorem mem_registered_of_find? {id : PortId} {h : Handle} (e : r.find? id = some h) :
    h ∈ r.registered ∧ r.idOf h = id :=
  ⟨List.mem_of_find?_eq_some e, by simpa using List.find?_some e⟩

theorem mem_registered_of_resolve {sender h : Handle} {dest : PortId}
    (e : r.resolve sender dest = .ok h) : h ∈ r.registered := by
  have served (k : Handle) (hk : r.target? (r.idOf sender) dest = some k) : k ∈ r.registered := by
    unfold target? at hk
    rcases Option.or_eq_some_iff.1 hk with found | ⟨-, found⟩
    · exact (mem_registered_of_find? found).1
    · obtain ⟨hop, -, found⟩ := Option.bind_eq_some_iff.1 found
      exact (mem_registered_of_find? found).1
  unfold resolve at e
  split at e
  · cases e
  · split at e
    · cases e
    · split at e
      · cases e
      · next k hk =>
        split at e <;> cases e
        exact served h hk

/-- A send comes to a registered port, if anywhere. -/
theorem port?_of_send (sender : Handle) (dest : PortId) (f : Frame) {k : Handle}
    (hk : k ∉ r.registered) : (r.answer (.send sender dest f)).2.port? k = r.port? k := by
  simp only [answer, send]
  cases e : r.resolve sender dest with
  | error e => rfl
  | ok h =>
    have other : k ≠ h := fun same => hk (same ▸ mem_registered_of_resolve e)
    have here := (local_of_at (r := r) (c := .enqueue h f) rfl).others k other
    simp only [answer] at here
    simp only [deliver]
    cases he : r.enqueue h f with
    | accepted s => simpa only [he] using here
    | closed => rfl
    | full => rfl

/-- A port is made and put on the register, behind all others. -/
structure Added (r : Registry κ) (id : PortId) (s : Registry κ) : Prop where
  single : id.isReserved = false
  free : id ∉ r.ids
  registered : s.registered = r.registered ++ [r.ports.length]
  sessions : s.sessions = r.sessions
  port : s.port? r.ports.length = some ⟨id, .init, .new r.config, none⟩
  others : ∀ k, k < r.ports.length → s.port? k = r.port? k
  ports : s.ports.length = r.ports.length + 1

theorem added_of_createPort {id : PortId} {h : Handle} (e : r.createPort id = .ok (h, s)) :
    h = r.ports.length ∧ Added r id s := by
  obtain ⟨single, free, rfl, rfl⟩ := eq_of_createPort e
  exact ⟨rfl, single, free, rfl, rfl, List.getElem?_concat_length,
    fun _ hk => List.getElem?_append_left hk, List.length_append⟩

/-- A port is taken off the register, marked and closed. -/
structure Removed (r : Registry κ) (h : Handle) (s : Registry κ) : Prop where
  registered : (h :: s.registered).Perm r.registered
  sessions : s.sessions = r.sessions
  port : s.port? h = (r.port? h).map fun p => { p with state := .exit, queue := p.queue.close }
  others : ∀ k, k ≠ h → s.port? k = r.port? k
  ports : s.ports.length = r.ports.length

theorem Removed.mem {h : Handle} (removed : Removed r h s) : h ∈ r.registered :=
  removed.registered.subset List.mem_cons_self

theorem removed_of_destroyPort {id : PortId} (e : r.destroyPort id = .ok s) :
    ∃ h, r.idOf h = id ∧ Removed r h s := by
  obtain ⟨i, h, hi, own, rfl⟩ := changes_of_destroyPort e
  obtain ⟨lt, rfl⟩ := List.getElem?_eq_some_iff.1 hi
  refine ⟨_, own, perm_swapRemove lt, rfl, ?_, fun k hk => ?_, ?_⟩
  · rw [closeQueue, port?_modify_self, setState, port?_modify_self, Option.map_map]
    rfl
  · rw [closeQueue, port?_modify_of_ne hk, setState, port?_modify_of_ne hk]
    rfl
  · simp [closeQueue, setState, modify, unregister]

theorem destroyPort_of_not_mem {id : PortId} (h : id ∉ r.ids) :
    r.destroyPort id = .error (.portNotFound id) := by
  have none : (r.registered.findIdx? fun h => r.idOf h == id) = none := by
    rw [List.findIdx?_eq_none_iff]
    intro k hk
    simpa using fun e : r.idOf k = id => h (List.mem_map.2 ⟨k, hk, e⟩)
  simp only [destroyPort, none]

theorem without_of_not_mem {id : PortId} (free : id ∉ r.ids) : r.without id = r := by
  rw [without, destroyPort_of_not_mem free]
  rfl

theorem removed_without {id : PortId} (hid : id ∈ r.ids) :
    ∃ h, r.idOf h = id ∧ Removed r h (r.without id) := by
  obtain ⟨s, hs⟩ := destroyPort_isOk hid
  rw [without, hs]
  exact removed_of_destroyPort hs

/-- Other ports are left as they are. -/
theorem port?_without {id : PortId} {h : Handle} (other : ¬ (h ∈ r.registered ∧ r.idOf h = id)) :
    (r.without id).port? h = r.port? h := by
  by_cases hid : id ∈ r.ids
  · obtain ⟨k, own, removed⟩ := removed_without hid
    refine removed.others h ?_
    rintro rfl
    exact other ⟨removed.mem, own⟩
  · rw [without_of_not_mem hid]

/-- The register is as it was: what is registered and claimed, under which ids, and which ports are
closed. -/
structure Quiet (r s : Registry κ) : Prop where
  registered : s.registered = r.registered
  sessions : s.sessions = r.sessions
  ports : s.ports.length = r.ports.length
  idOf : ∀ h, s.idOf h = r.idOf h
  closed : ∀ h, s.ClosedAt h ↔ r.ClosedAt h

theorem Quiet.refl (r : Registry κ) : Quiet r r := ⟨rfl, rfl, rfl, fun _ => rfl, fun _ => .rfl⟩

theorem quiet_of_blank (h : s.blank = r.blank) : Quiet r s where
  registered := registered_of_blank h
  sessions := show s.blank.sessions = r.blank.sessions from congrArg _ h
  ports := length_ports_of_blank h
  idOf := idOf_of_blank h
  closed _ := ⟨closedAt_of_blank h.symm, closedAt_of_blank h⟩

theorem quiet_modify {h : Handle} {F : Port κ → Port κ} (id : ∀ p, (F p).id = p.id)
    (queue : ∀ p, (F p).queue = p.queue) : Quiet r (r.modify h F) where
  registered := rfl
  sessions := rfl
  ports := by simp [modify]
  idOf k := idOf_modify r h k F id
  closed k := by
    simp only [ClosedAt, port?_modify]
    split
    · cases r.port? k <;> simp [queue]
    · rfl

/-- What a call does to the register. -/
inductive Effect (r : Registry κ) : Call κ → Reply → Registry κ → Prop
  | made {id : PortId} {s : Registry κ} : Added r id s →
      Effect r (.createPort id) (.port r.ports.length) s
  | destroyed {id : PortId} {h : Handle} {s : Registry κ} : r.idOf h = id → Removed r h s →
      Effect r (.destroyPort id) .done s
  | claimed {id : PortId} {s : Registry κ} : r.claimSession id = .ok s →
      Effect r (.claimSession id) .done s
  | released {id : PortId} {sessions : List PortId} : (id :: sessions).Perm r.sessions →
      Effect r (.releaseSession id) (.released true) { r with sessions }
  | quiet {c : Call κ} {reply : Reply} {s : Registry κ} : c.entry? reply = none → Quiet r s →
      Effect r c reply s

theorem effect_of_answer (r : Registry κ) (c : Call κ) :
    Effect r c (r.answer c).1 (r.answer c).2 := by
  -- a refused call does nothing to the register, so only the others are looked at
  by_cases refused : (r.answer c).1.isRefusal = true
  · rw [answer_of_isRefusal refused]
    exact .quiet (entry?_of_isRefusal refused) (.refl r)
  rw [Bool.not_eq_true] at refused
  cases c with
  | createPort id =>
    simp only [answer] at refused ⊢
    split
    · next e =>
      obtain ⟨rfl, added⟩ := added_of_createPort e
      exact .made added
    · next e =>
      rw [e] at refused
      cases refused
  | get id => exact .quiet rfl (.refl r)
  | destroyPort id =>
    obtain ⟨s, e, done⟩ := ok_of_orFail refused
    obtain ⟨h, own, removed⟩ := removed_of_destroyPort e
    rw [answer, done]
    exact .destroyed own removed
  | claimSession id =>
    obtain ⟨s, e, done⟩ := ok_of_orFail refused
    rw [answer, done]
    exact .claimed e
  | releaseSession id =>
    by_cases mem : id ∈ r.sessions
    · obtain ⟨sessions, e, perm⟩ := releaseSession_of_mem mem
      simp only [answer, e]
      exact .released perm
    · simp [answer, releaseSession_of_not_mem mem, Reply.isRefusal] at refused
  | send sender dest f =>
    refine .quiet rfl ?_
    simp only [answer]
    split
    · next e =>
      obtain ⟨target, adds⟩ := adds_send e
      exact quiet_of_blank adds.blank
    · exact .refl r
    · exact .refl r
  | setState h state =>
    exact .quiet rfl (quiet_modify (fun _ => rfl) fun _ => rfl)
  | setReaction h k =>
    exact .quiet rfl (quiet_modify (fun _ => rfl) fun _ => rfl)
  | enqueue h f =>
    refine .quiet rfl ?_
    simp only [answer]
    split
    · next e => exact quiet_of_blank (adds_enqueue e).blank
    · exact .refl r
    · exact .refl r
  | receive h =>
    refine .quiet rfl ?_
    rcases receive_spec r h with ⟨f, s, e, blank, -, -⟩ | ⟨answer', s, e, other⟩
    · simp only [answer, e]
      exact quiet_of_blank blank
    · simp only [answer]
      rw [receive_of_none fun f => by rw [e]; exact other f]
      exact .refl r

end FrameBus.Registry
