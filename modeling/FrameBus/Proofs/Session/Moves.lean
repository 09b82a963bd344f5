import FrameBus.Proofs.Network.Moves
import FrameBus.Proofs.Session.Desk
import FrameBus.Proofs.Stop.Threads

/-!
# The sessions of a network

What a session of a network does in one move, its desk does in some steps (`desk_of_moveSession`):
the frames that the handler sends may come to the session's own port, and come there while the
handler runs.
-/

namespace FrameBus

/-! ## Frames that are put at ports -/

namespace Registry

variable {κ : Type} {r s : Registry κ}

/-- One registry after another, by frames that were put at its ports. -/
def Fills : Registry κ → Registry κ → Prop :=
  Relation.ReflTransGen fun r s => ∃ h f, r.enqueue h f = .accepted s

theorem fills_of_send {sender : Handle} {dest : PortId} {f : Frame}
    (e : r.send sender dest f = .sent s) : Fills r s := by
  unfold send at e
  split at e
  · next h _ =>
    unfold deliver at e
    split at e
    · next s' he =>
      cases e
      exact .single ⟨h, f, he⟩
    · cases e
    · cases e
  · cases e

theorem fills_of_enqueueCopy {h : Handle} {f : Frame} {result : Except BusError Unit}
    (e : r.enqueueCopy h f = some (result, s)) : Fills r s := by
  unfold enqueueCopy at e
  split at e
  · next s' he =>
    cases e
    exact .single ⟨h, _, he⟩
  · cases e
    exact .refl
  · cases e

theorem fills_of_runAll {f : Frame} {ks : List (Handle × Reaction)} {r : Registry Reaction}
    {o : Outcome Reaction} (copies : ∀ k ∈ ks, k.2 = .copy)
    (e : runAll Reaction.run f ks r = some o) : Fills r o.after := by
  induction ks generalizing r o with
  | nil =>
    cases e
    exact .refl
  | cons k ks ih =>
    simp only [runAll, Option.bind_eq_bind, Option.bind_eq_some_iff] at e
    obtain ⟨⟨result, s⟩, hk, o', ho, e⟩ := e
    cases e
    rw [copies k List.mem_cons_self] at hk
    have rest : Fills s o'.after := ih (fun k hk => copies k (List.mem_cons_of_mem _ hk)) ho
    exact (fills_of_enqueueCopy hk).trans rest

theorem fills_of_broadcast {r : Registry Reaction} {sender : Handle} {f : Frame}
    {o : Outcome Reaction} (copies : ∀ k ∈ r.recipients (r.idOf sender), k.2 = .copy)
    (e : r.broadcast Reaction.run sender f = some (.ok o)) : Fills r o.after := by
  unfold broadcast at e
  split at e
  · obtain ⟨o', ho, e⟩ := Option.map_eq_some_iff.1 e
    cases e
    exact fills_of_runAll copies ho
  · cases e

end Registry

namespace Network

variable {n m : Network}

/-- One network after another, by frames that were put at the ports of one node. -/
def FillsAt (i : Nat) (n m : Network) : Prop :=
  m.sessions = n.sessions ∧ ∃ r, (n.node i).Fills r ∧ m.nodes = (n.setNode i r).nodes

theorem fillsAt_refl (n : Network) (i : Nat) : FillsAt i n n :=
  ⟨rfl, n.node i, .refl, by rw [setNode_self]⟩

theorem fillsAt_respond (hc : Copies n) {s : Sender} {r : Response} {what : EventTable.Received}
    {deed : Deed} (h : n.respond s r what = some (deed, m)) : FillsAt s.node n m := by
  rcases sent_of_respond h with rfl | ⟨_, _, _, _, hs⟩ | ⟨_, _, _, hs⟩
  · exact fillsAt_refl _ _
  · rcases sent_of_sendEvent hs with rfl | ⟨f, r, hr, rfl⟩
    · exact fillsAt_refl _ _
    · exact ⟨rfl, r, Registry.fills_of_send hr, rfl⟩
  · rcases sent_of_broadcastEvent hs with rfl | ⟨f, o, ho, rfl⟩
    · exact fillsAt_refl _ _
    · exact ⟨rfl, o.after, Registry.fills_of_broadcast ((hc.copiesAt _).recipients _) ho, rfl⟩

end Network

/-! ## Desks -/

namespace Desk

open Network (Copies)

variable {n m : Network} {d : Desk Response}

/-- Where a worker of a network stands between its moves. -/
def postOf : Worker → Post Response
  | .ended => .ended
  | .polling => .waiting
  | .holding f => .holding f

/-- A session of a network at its desk. -/
structure Shows (n : Network) (s : Session) (d : Desk Response) : Prop where
  queue : ∃ p, (n.node s.node).port? s.port = some p ∧ p.queue = d.queue
  table : d.table = s.table
  running : d.running = s.running
  post : d.post = postOf s.worker

theorem Shows.node_lt {s : Session} (h : Shows n s d) : s.node < n.nodes.length := by
  obtain ⟨p, hp, -⟩ := h.queue
  apply Decidable.byContradiction
  intro out
  rw [Network.node_eq_new out] at hp
  cases hp

/-- Frames that are put at the ports of a node come to the desks there. -/
theorem arrives_of_fills {r r' : Registry Reaction} (h : r.Fills r') {k : Handle}
    {p : Port Reaction} (hp : r.port? k = some p) (hq : p.queue = d.queue) :
    ∃ p' q arrived, r'.port? k = some p' ∧ p'.queue = q ∧
      Relation.ReflTransGen Step d { d with queue := q, arrived := arrived } := by
  induction h with
  | refl => exact ⟨p, d.queue, d.arrived, hp, hq, .refl⟩
  | tail _ step ih =>
    obtain ⟨h, f, e⟩ := step
    obtain ⟨p', q, arrived, hp', hq', run⟩ := ih
    unfold Registry.enqueue at e
    split at e
    · cases e
    · next p'' hp'' =>
      split at e
      · next q' offer =>
        cases e
        rw [Registry.port?_modify]
        by_cases hk : h = k
        · subst hk
          cases hp'.symm.trans hp''
          subst hq'
          exact ⟨{ p' with queue := q' }, q', arrived ++ [f], by simp [hp'], rfl,
            run.tail (.arrive (d := { d with queue := p'.queue, arrived := arrived }) f offer)⟩
        · exact ⟨p', q, arrived, by simp [hk, hp'], hq', run⟩
      · cases e
      · cases e

/-- A session whose worker has come to another stand. -/
theorem shows_modifySession {k : Network} {i : Nat} {s : Session} {e : Desk Response}
    (hs : k.sessions[i]? = some s)
    (queue : ∃ p, (k.node s.node).port? s.port = some p ∧ p.queue = e.queue)
    (table : e.table = s.table) (running : e.running = s.running) {w : Session → Worker}
    (post : e.post = postOf (w s)) :
    ∃ s', (k.modifySession i fun s => { s with worker := w s }).sessions[i]? = some s' ∧
      Shows (k.modifySession i fun s => { s with worker := w s }) s' e := by
  refine ⟨{ s with worker := w s }, ?_, queue, table, running, post⟩
  rw [Network.getElem?_modifySession, if_pos rfl, hs]
  rfl

/-- The worker looks whether the session still runs. -/
theorem resumes (hp : d.post = .checking) :
    Step d { d with post := postOf (Network.afterHandling d.running) } := by
  refine .work ?_
  simp only [work, hp, Network.afterHandling]
  cases d.running <;> rfl

/-- What a look at the session's port does. -/
theorem desk_of_pollPort {s : Session} {w : Worker} (hd : Shows n s d)
    (polls : s.worker = .polling) (hm : n.pollPort s.node s.port s.running = some (w, m)) :
    m.sessions = n.sessions ∧ ∃ q, (∃ p, (m.node s.node).port? s.port = some p ∧ p.queue = q) ∧
      Relation.ReflTransGen Step d { d with queue := q, post := postOf w } := by
  have post : d.post = .waiting := by rw [hd.post, polls]; rfl
  obtain ⟨p, hp, hq⟩ := hd.queue
  simp only [Network.pollPort, Registry.receive, hp] at hm
  rcases hpoll : p.queue.poll with ⟨popped, q⟩
  have look : d.queue.poll = (popped, q) := hq ▸ hpoll
  rw [hpoll] at hm
  cases popped with
  | item f =>
    cases hm
    refine ⟨rfl, q, ⟨{ p with queue := q }, ?_, rfl⟩, .single (.work ?_)⟩
    · rw [Network.node_setNode, if_pos ⟨rfl, hd.node_lt⟩, Registry.port?_modify, if_pos rfl, hp]
      rfl
    · simp only [work, post, look]
      rfl
  | closed =>
    cases hm
    refine ⟨rfl, d.queue, ⟨p, hp, hq⟩, .single (.work ?_)⟩
    simp only [work, post, look]
    rfl
  | timedOut =>
    cases hr : s.running with
    | true => simp [hr] at hm
    | false =>
      simp only [hr] at hm
      cases hm
      have idle : d.running = false := hd.running.trans hr
      refine ⟨rfl, d.queue, ⟨p, hp, hq⟩, ?_⟩
      have back : Step d { d with post := .checking } := .work (by simp only [work, post, look])
      have ends : Step { d with post := .checking } { d with post := .ended } :=
        .work (by simp only [work, idle]; rfl)
      exact (Relation.ReflTransGen.single back).tail ends

/-- What the handling of a frame does. -/
theorem desk_of_handleEvent (hc : Copies n) {i : Nat} {s : Session} {f : Frame}
    (hs : n.sessions[i]? = some s) (hd : Shows n s d) (holds : s.worker = .holding f)
    (hm : n.handleEvent i f = some m) :
    m.sessions = n.sessions ∧ ∃ e : Desk Response, e.table = d.table ∧ e.running = d.running ∧
      e.post = .checking ∧ (∃ p, (m.node s.node).port? s.port = some p ∧ p.queue = e.queue) ∧
      Relation.ReflTransGen Step d e := by
  have post : d.post = .holding f := by rw [hd.post, holds]; rfl
  simp only [Network.handleEvent, hs, Option.bind_eq_bind, Option.bind_some] at hm
  cases hf : s.table.dispatch f with
  | none =>
    rw [hf] at hm
    cases hm
    let past : Desk Response := { d with post := .checking, past := d.past ++ [⟨f, d.edits, []⟩] }
    have passed : Step d past := .work (by simp only [work, post, hd.table, hf, past])
    exact ⟨rfl, past, rfl, rfl, rfl, hd.queue, .single passed⟩
  | some called =>
    obtain ⟨k, what⟩ := called
    rw [hf] at hm
    obtain ⟨⟨deed, m'⟩, hr, e⟩ := Option.bind_eq_some_iff.1 hm
    cases e
    obtain ⟨sessions, r, fills, nodes⟩ := Network.fillsAt_respond hc hr
    let turn : Turn Response := ⟨f, d.edits, [(k, what)]⟩
    have found : Step d { d with post := .found ⟨f, d.edits, []⟩ k what } :=
      .work (by simp only [work, post, hd.table, hf])
    have calls : Step { d with post := .found ⟨f, d.edits, []⟩ k what }
        { d with post := .inside turn } := .work rfl
    obtain ⟨p, hp, hq⟩ := hd.queue
    -- the frames that the handler sends come while it runs
    obtain ⟨p', q, arrived, hp', hq', comes⟩ :=
      arrives_of_fills (d := { d with post := .inside turn }) fills hp hq
    let past : Desk Response :=
      { d with post := .checking, queue := q, arrived := arrived, past := d.past ++ [turn] }
    have returns : Step { d with post := .inside turn, queue := q, arrived := arrived } past :=
      .work rfl
    have run := ((Relation.ReflTransGen.single found).tail calls).trans (comes.tail returns)
    have node : m'.node s.node = r := by
      have moved : m'.node s.node = (n.setNode s.node r).node s.node := by
        simp only [Network.node, nodes]
        rfl
      rw [moved, Network.node_setNode, if_pos ⟨rfl, hd.node_lt⟩]
    refine ⟨sessions, past, rfl, rfl, rfl, ⟨p', ?_, hq'⟩, run⟩
    show (m'.node s.node).port? s.port = some p'
    rw [node]
    exact hp'

/-- A move of a session comes to some steps at its desk. -/
theorem desk_of_moveSession (hc : Copies n) {i : Nat} {s : Session}
    (hs : n.sessions[i]? = some s) (hd : Shows n s d) (hm : n.moveSession i = some m) :
    ∃ s' e, m.sessions[i]? = some s' ∧ Shows m s' e ∧ Relation.ReflTransGen Step d e := by
  simp only [Network.moveSession, hs, Option.bind_eq_bind, Option.bind_some] at hm
  cases hw : s.worker with
  | ended => simp [hw] at hm
  | polling =>
    rw [hw] at hm
    obtain ⟨⟨w, k⟩, hk, e⟩ := Option.bind_eq_some_iff.1 hm
    cases e
    obtain ⟨sessions, q, queue, run⟩ := desk_of_pollPort hd hw hk
    obtain ⟨s', hs', shows'⟩ := shows_modifySession (w := fun _ => w) (sessions ▸ hs)
      (e := { d with queue := q, post := postOf w }) queue hd.table hd.running rfl
    exact ⟨s', _, hs', shows', run⟩
  | holding f =>
    rw [hw] at hm
    obtain ⟨k, hk, e⟩ := Option.bind_eq_some_iff.1 hm
    cases e
    obtain ⟨sessions, e, table, running, checks, queue, run⟩ := desk_of_handleEvent hc hs hd hw hk
    obtain ⟨s', hs', shows'⟩ := shows_modifySession
      (w := fun s => Network.afterHandling s.running) (sessions ▸ hs)
      (e := { e with post := postOf (Network.afterHandling e.running) }) queue
      (table.trans hd.table) (running.trans hd.running) (by rw [running, hd.running])
    exact ⟨s', _, hs', shows', run.tail (resumes checks)⟩

end Desk

end FrameBus
