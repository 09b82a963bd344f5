import FrameBus.Proofs.Lifecycle.Changes
import FrameBus.Proofs.Lifecycle.Histories

/-!
# What a drop takes out

An owner knows the port that was made for it, but its drop takes out whatever is registered under
its id, and a session's drop gives up whatever claim there is on its id. An application that calls
the registry itself can have put another port, or another claim, in the place of the owner's. So a
drop takes out nothing but what the owner made (`TakesOwn`) just if nothing else has its id
(`Unreplaced`), and in every history it takes out what has its id and nothing else (`Takes`).

A history is any sequence of calls for owners, calls on the registry, moves of workers and things
beside (`History`). What each of them does to the roster is one of a few changes (`change_of_turn`).
-/

namespace FrameBus

/-- A call by which an application registers and claims itself. -/
def Registry.Call.Direct : Registry.Call Reaction → Prop
  | .createPort _ | .destroyPort _ | .claimSession _ | .releaseSession _ => True
  | _ => False

namespace Makers

/-- A session that is made claims its id. -/
def called (w : Makers) (n : Network) : Call → Except BusError Unit → Makers
  | .createSession id, .ok () => w.claim [id] (some (.session n.sessions.length))
  | _, _ => w

def told (w : Makers) : Registry.Call Reaction → Registry.Reply → Makers
  | .claimSession id, .done => w.claim [id] none
  | _, _ => w

theorem claim_nil (w : Makers) (maker : Option Owner) : w.claim [] maker = w :=
  funext fun _ => if_neg List.not_mem_nil

end Makers

namespace Network

variable {n m k n₀ : Network} {i : Nat} {o : Owner} {h : Handle} {x : Outline} {w w' : Makers}
  {may : Roster → Registry.Call Reaction → Prop}

/-! ## Beside the register -/

/-- One network after another: nothing at a node has changed but frames, who runs and works, and
the state of one port. -/
structure Aside (i : Nat) (h : Handle) (n m : Network) : Prop where
  nodes : m.nodes.length = n.nodes.length
  roster : m.roster i = n.roster i
  others : ∀ k, k ≠ h →
    ((m.node i).port? k).map Port.blank = ((n.node i).port? k).map Port.blank

theorem Aside.refl (n : Network) : Aside i h n n := ⟨rfl, rfl, fun _ _ => rfl⟩

theorem Aside.trans (a : Aside i h n m) (a' : Aside i h m k) : Aside i h n k :=
  ⟨a'.nodes.trans a.nodes, a'.roster.trans a.roster,
    fun j ne => (a'.others j ne).trans (a.others j ne)⟩

theorem aside_of_nodes (nodes : m.nodes = n.nodes) (roster : m.roster i = n.roster i) :
    Aside i h n m :=
  ⟨congrArg _ nodes, roster, fun _ _ => by rw [node, nodes, ← node]⟩

theorem aside_of_blank (hb : m.blank = n.blank) : Aside i h n m where
  nodes := length_nodes_of_blank hb
  roster := roster_of_blank hb i
  others k _ := by
    rw [← Registry.port?_blank, ← Registry.port?_blank, node_of_blank hb]

theorem aside_links (n : Network) (hubs : List (Hub Receiver)) (sockets : List Datagram.Socket) :
    Aside i h n { n with hubs, sockets } :=
  aside_of_nodes rfl (roster_links n hubs sockets)

theorem aside_setPortState (n : Network) (s : PortState) :
    Aside i h n (n.setPortState i h s) where
  nodes := by rw [setPortState, setNode, List.length_set]
  roster := roster_setPortState n i h s
  others k ne := by
    rw [setPortState, node_setNode]
    split
    · rw [Registry.setState, Registry.port?_modify_of_ne ne]
    · rfl

theorem aside_part (n : Network) (o : Owner) : Aside i h n (n.part i o h) :=
  (aside_of_nodes (by cases o <;> rfl) (roster_setRunning n o false)).trans
    (aside_setPortState _ _)

theorem copiesAt_of_clear (hc : (n.node i).roll.Clear) : n.CopiesAt i := by
  intro h hh p hp k hk
  have entry : (n.node i).roll.ports[h]? = some p.entry := by
    show ((n.node i).ports.map Port.entry)[h]? = _
    rw [List.getElem?_map, show (n.node i).ports[h]? = some p from hp]
    rfl
  exact hc.copies h hh _ entry k hk

theorem aside_runs (hc : (n.roster i).Clear) (hx : n.outline? i o = some x)
    (runs : Relation.ReflTransGen (MovesOf o) n m) : Aside i h n m :=
  aside_of_blank (blank_of_runs (copiesAt_of_clear hc) hx runs).1

theorem Aside.clear (a : Aside i h n m) (hc : (n.roster i).Clear) : (m.roster i).Clear :=
  a.roster ▸ hc

theorem Aside.outline? (a : Aside i h n m) : m.outline? i = n.outline? i :=
  congrArg Roster.owner? a.roster

theorem aside_awaited (hc : (n.roster i).Clear) (hx : n.outline? i o = some x)
    (waited : Awaited o (n.part i o x.port) m) : Aside i x.port n m :=
  have parted : Aside i x.port n (n.part i o x.port) := aside_part n o
  parted.trans (aside_runs (parted.clear hc) (parted.outline? ▸ hx) waited.runs)

/-- A stop leaves the register as it is, and all ports but the owner's. -/
theorem aside_stop (hc : (n.roster i).Clear) (hx : n.outline? i o = some x) :
    Aside i x.port n (n.stop o).2 := by
  obtain ⟨runs, hr⟩ := running?_of_outline hx
  cases runs with
  | false =>
    rw [stop_of_stopped hr]
    exact .refl n
  | true =>
    obtain ⟨hubs, sockets, waited⟩ := awaited_stop hx hr
    have linked : Aside i x.port n { n with hubs, sockets } := aside_links n hubs sockets
    exact linked.trans (aside_awaited (linked.clear hc) (linked.outline? ▸ hx) waited)

theorem aside_of_prepared (way : Relation.ReflTransGen (Prepares i o h) n m) : Aside i h n m := by
  induction way with
  | refl => exact .refl n
  | tail _ last ih =>
    cases last with
    | owner modest =>
      exact ih.trans
        (aside_of_nodes (by cases o <;> rfl) (roster_alter modest.gateway modest.session))
    | port s => exact ih.trans (aside_setPortState _ s)
    | links hubs sockets => exact ih.trans (aside_links _ hubs sockets)

/-- And so does a start. -/
theorem aside_start (threads : Threads) (hc : (n.roster i).Clear) (hx : n.outline? i o = some x) :
    Aside i x.port n (n.start threads o).2 := by
  obtain ⟨runs, hr⟩ := running?_of_outline hx
  cases runs with
  | true =>
    rw [start_of_running threads hr]
    exact .refl n
  | false =>
    obtain ⟨-, agrees, refuses⟩ := start_of_idle threads hx hr
    by_cases ok : n.startAnswer threads o = .ok ()
    · obtain ⟨hubs, sockets, e⟩ := agrees ok
      have launched : Aside i x.port n (n.launch o) :=
        aside_of_nodes (by cases o <;> rfl) (roster_launch n o)
      exact e ▸ (launched.trans (aside_setPortState _ .conn)).trans (aside_links _ hubs sockets)
    · rcases refuses ok with same | ⟨begun, ran, way, runs, waited⟩
      · rw [same]
        exact .refl n
      · have prepared : Aside i x.port n begun := aside_of_prepared way
        have worked : Aside i x.port n ran :=
          prepared.trans (aside_runs (prepared.clear hc) (prepared.outline? ▸ hx) runs)
        exact worked.trans (aside_awaited (worked.clear hc) (worked.outline? ▸ hx) waited)

/-! ## Drops -/

theorem cut_strip {r : Registry Reaction} (hr : r.roll.Clear) (o : Owner) (id : PortId) :
    r.roll.Cut [id] (o.claims id) (strip o id r).roll := by
  have without := Registry.cut_without hr id
  cases o with
  | gateway g => exact without
  | session s => exact without.trans (Registry.cut_releaseSession (hr.cut without) id)

theorem port?_strip (o : Owner) (id : PortId) (r : Registry Reaction) (h : Handle) :
    (strip o id r).port? h = (r.without id).port? h := by
  cases o with
  | gateway g => rfl
  | session s =>
    by_cases hid : id ∈ (r.without id).sessions
    · obtain ⟨sessions, e, -⟩ := Registry.releaseSession_of_mem hid
      simp only [strip, e]
      rfl
    · simp only [strip, Registry.releaseSession_of_not_mem hid]

/-- A drop stops the owner and strips the registry. -/
theorem drop_strips (hi : i < n.nodes.length) (hc : (n.roster i).Clear)
    (hx : n.outline? i o = some x) :
    ∃ k, Aside i x.port n k ∧ (n.drop o).nodes.length = n.nodes.length ∧
      (n.drop o).node i = strip o x.id (k.node i) ∧
      (n.drop o).outline? i = Function.update (n.outline? i) o (some x.gone) := by
  have stopped := aside_stop hc hx
  obtain ⟨hubs, sockets, link, e⟩ := eq_drop hx
  have linked : Aside i x.port n { (n.stop o).2 with hubs, sockets } :=
    stopped.trans (aside_links _ hubs sockets)
  have length : (({ (n.stop o).2 with hubs, sockets } : Network).retire link o).nodes.length =
      n.nodes.length := (by cases o <;> rfl : _ = (n.stop o).2.nodes.length).trans stopped.nodes
  refine ⟨(n.stop o).2, stopped, ?_, ?_, ?_⟩
  · rw [e, setNode, List.length_set, length]
  · rw [e, node_setNode, if_pos ⟨rfl, length ▸ hi⟩]
  · rw [e, ← linked.outline?]
    exact outline?_retire link (linked.outline? ▸ hx)

/-- What a drop takes out: all that has the owner's id. -/
structure Takes (i : Nat) (o : Owner) (x : Outline) (n m : Network) : Prop where
  registered : ∀ h, h ∈ (m.node i).registered ↔
    h ∈ (n.node i).registered ∧ (n.node i).idOf h ≠ x.id
  claimed : ∀ c, c ∈ (m.node i).sessions ↔ c ∈ (n.node i).sessions ∧ c ∉ o.claims x.id
  exits : ∀ h ∈ (n.node i).registered, (n.node i).idOf h = x.id →
    ∃ p, (m.node i).port? h = some p ∧ p.state = .exit ∧ p.queue.isClosed = true
  others : ∀ h, h ≠ x.port → ¬ (h ∈ (n.node i).registered ∧ (n.node i).idOf h = x.id) →
    ((m.node i).port? h).map Port.blank = ((n.node i).port? h).map Port.blank

/-- Nothing is taken out but the owner's port and the claim that it made, and every other port is as
it was but for its frames. -/
structure TakesOwn (i : Nat) (o : Owner) (x : Outline) (w : Makers) (n m : Network) : Prop where
  registered : ∀ h ∈ (n.node i).registered, h ≠ x.port → h ∈ (m.node i).registered
  claimed : ∀ c ∈ (n.node i).sessions, c ∉ (m.node i).sessions → w c = some o
  others : ∀ h, h ≠ x.port →
    ((m.node i).port? h).map Port.blank = ((n.node i).port? h).map Port.blank

/-- Nothing is registered or claimed in the place of what an owner has. -/
structure Unreplaced (n : Network) (i : Nat) (o : Owner) (x : Outline) (w : Makers) : Prop where
  port : ∀ h ∈ (n.node i).registered, (n.node i).idOf h = x.id → h = x.port
  claim : ∀ c ∈ o.claims x.id, c ∈ (n.node i).sessions → w c = some o

theorem takesOwn_iff (t : Takes i o x n m) : TakesOwn i o x w n m ↔ n.Unreplaced i o x w := by
  constructor
  · intro own
    refine ⟨fun h hh id => ?_, fun c hc claimed => ?_⟩
    · apply Decidable.byContradiction
      intro ne
      exact ((t.registered h).1 (own.registered h hh ne)).2 id
    · exact own.claimed c claimed fun kept => ((t.claimed c).1 kept).2 hc
  · intro alone
    refine ⟨fun h hh ne => ?_, fun c claimed lost => ?_, fun h ne => ?_⟩
    · exact (t.registered h).2 ⟨hh, fun id => ne (alone.port h hh id)⟩
    · refine alone.claim c (Decidable.byContradiction fun hc => ?_) claimed
      exact lost ((t.claimed c).2 ⟨claimed, hc⟩)
    · exact t.others h ne fun ⟨hh, id⟩ => ne (alone.port h hh id)

theorem takes_drop (hi : i < n.nodes.length) (hc : (n.roster i).Clear)
    (hx : n.outline? i o = some x) : Takes i o x n (n.drop o) := by
  obtain ⟨k, aside, -, node, -⟩ := drop_strips hi hc hx
  have roll : (k.node i).roll = (n.node i).roll := congrArg Roster.toRoll aside.roster
  have clear : (k.node i).roll.Clear := aside.clear hc
  have registered : (k.node i).registered = (n.node i).registered := congrArg Roll.registered roll
  have idOf (h : Handle) : (k.node i).idOf h = (n.node i).idOf h := by
    rw [← Registry.idOf_roll, roll, Registry.idOf_roll]
  have cut := cut_strip clear o x.id
  refine ⟨fun h => ?_, fun c => ?_, fun h hh id => ?_, fun h ne other => ?_⟩
  · have cut := cut.registered h
    rw [List.mem_singleton, Registry.idOf_roll, idOf] at cut
    rw [node, ← registered]
    exact cut
  · have same : (k.node i).sessions = (n.node i).sessions := congrArg Roll.claimed roll
    rw [node, ← same]
    exact cut.claimed c
  · rw [node, port?_strip]
    exact Registry.exit_without clear (registered ▸ hh) ((idOf h).trans id)
  · rw [node, port?_strip, Registry.port?_without, aside.others h ne]
    rw [registered, idOf]
    exact other

/-! ## Histories -/

/-- An application calls the registry of a node. -/
def callRegistry (n : Network) (i : Nat) (c : Registry.Call Reaction) : Network :=
  n.setNode i ((n.node i).answer c).2

/-- One turn at a node: a call for an owner, a call of the application on the registry, a move of a
worker, or what goes on beside. -/
inductive Turn (i : Nat) (may : Roster → Registry.Call Reaction → Prop) :
    Network → Makers → Network → Makers → Prop
  | call {n m : Network} {w : Makers} (c : Call) {result : Except BusError Unit} :
      n.Admits i c → n.perform i c = (result, m) → Turn i may n w m (w.called n c result)
  | direct {n : Network} {w : Makers} (c : Registry.Call Reaction) : c.Direct →
      may (n.roster i) c → Turn i may n w (n.callRegistry i c) (w.told c ((n.node i).answer c).1)
  | move {n m : Network} {w : Makers} {o : Owner} {x : Outline} {mv : Move} :
      n.outline? i o = some x → mv ∈ o.moves → n.move mv = some m → Turn i may n w m w
  | beside {n m : Network} {w : Makers} : Beside i n m → Turn i may n w m w

/-- Any number of turns, with who made the claims. -/
inductive History (i : Nat) (may : Roster → Registry.Call Reaction → Prop) (n₀ : Network) :
    Network → Makers → Prop
  | start : History i may n₀ n₀ fun _ => none
  | turn {n m : Network} {w w' : Makers} : History i may n₀ n w → Turn i may n w m w' →
      History i may n₀ m w'

/-- A session is made on an id that is not claimed. -/
theorem unclaimed_of_createSession {id : PortId} {s : Nat}
    (h : n.createSession i id = (.ok s, m)) : id ∉ (n.node i).sessions := by
  unfold createSession at h
  split at h
  · cases h
  · split at h
    · cases h
    · next hr => exact (Registry.eq_of_claimSession hr).1

theorem roster_setNode (hi : i < n.nodes.length) (r : Registry Reaction) :
    (n.setNode i r).roster i = ⟨r.roll, n.outline? i⟩ := by
  have owners : (n.setNode i r).outline? i = n.outline? i := by
    funext o
    cases o <;> rfl
  rw [roster, owners, node_setNode, if_pos ⟨rfl, hi⟩]

theorem change_of_added {id : PortId} (added : Added i o id n m)
    (unclaimed : ∀ c ∈ o.claims id, c ∉ (n.node i).sessions) :
    Roster.Change may (n.roster i) w (m.roster i) (w.claim (o.claims id) (some o)) := by
  rw [added.roster]
  refine .added added.new ?_ unclaimed
  exact Registry.ids_roll (n.node i) ▸ added.free

theorem change_of_undone (undone : Undone i n m) :
    Roster.Change may (n.roster i) w (m.roster i) w := by
  obtain ⟨more, entries⟩ := ports_of_undone undone
  exact .more entries undone.registered undone.claimed (outline?_of_undone undone)

theorem change_of_call (hi : i < n.nodes.length) (hc : (n.roster i).Clear) {c : Call}
    {result : Except BusError Unit} (admits : n.Admits i c) (h : n.perform i c = (result, m)) :
    n.nodes.length ≤ m.nodes.length ∧
      Roster.Change may (n.roster i) w (m.roster i) (w.called n c result) := by
  have known : ∀ j ∈ (n.node i).registered, j < (n.node i).ports.length :=
    length_ports_roster n i ▸ hc.known
  cases c with
  | createGateway id link ingress =>
    have made := createGateway_spec hi known id link ingress
    rcases e : n.createGateway i id link ingress with ⟨answer, m'⟩
    simp only [perform, e, Prod.mk.injEq] at h
    obtain ⟨rfl, rfl⟩ := h
    rw [e] at made
    cases answer with
    | ok g =>
      have change : Roster.Change may (n.roster i) w (m'.roster i)
          (w.claim [] (some (.gateway g))) :=
        change_of_added made.2 fun _ hc => absurd hc List.not_mem_nil
      rw [Makers.claim_nil] at change
      exact ⟨Nat.le_of_eq made.2.nodes.symm, change⟩
    | error e => exact ⟨Nat.le_of_eq made.nodes.symm, change_of_undone made⟩
  | createSession id =>
    have made := createSession_spec hi id
    rcases e : n.createSession i id with ⟨answer, m'⟩
    simp only [perform, e, Prod.mk.injEq] at h
    obtain ⟨rfl, rfl⟩ := h
    rw [e] at made
    cases answer with
    | ok s =>
      obtain ⟨rfl, added⟩ := made
      refine ⟨Nat.le_of_eq added.nodes.symm, change_of_added added fun c hc => ?_⟩
      exact List.mem_singleton.1 hc ▸ unclaimed_of_createSession e
    | error e => exact ⟨Nat.le_of_eq made.nodes.symm, change_of_undone made⟩
  | start o threads =>
    obtain ⟨x, hx, -⟩ := admits
    have aside := aside_start threads hc hx
    obtain rfl : (n.start threads o).2 = m := congrArg Prod.snd h
    exact ⟨Nat.le_of_eq aside.nodes.symm, aside.roster ▸ .still⟩
  | stop o =>
    obtain ⟨x, hx, -⟩ := admits
    have aside := aside_stop hc hx
    obtain rfl : (n.stop o).2 = m := congrArg Prod.snd h
    exact ⟨Nat.le_of_eq aside.nodes.symm, aside.roster ▸ .still⟩
  | drop o =>
    obtain ⟨x, hx, live⟩ := admits
    obtain ⟨-, rfl⟩ := Prod.mk.inj h
    -- the stop that comes first is not on the roster, so the registry is stripped as it was
    obtain ⟨k, aside, nodes, node, owners⟩ := drop_strips hi hc hx
    have roll : (k.node i).roll = (n.node i).roll := congrArg Roster.toRoll aside.roster
    refine ⟨Nat.le_of_eq nodes.symm, .left hx live ?_ owners⟩
    show (n.node i).roll.Cut _ _ ((n.drop o).node i).roll
    rw [node, ← roll]
    exact cut_strip (aside.clear hc) o x.id

theorem change_of_direct (hi : i < n.nodes.length) (hc : (n.roster i).Clear)
    {c : Registry.Call Reaction} (direct : c.Direct) (allowed : may (n.roster i) c) :
    Roster.Change may (n.roster i) w ((n.callRegistry i c).roster i)
      (w.told c ((n.node i).answer c).1) := by
  rw [callRegistry, roster_setNode hi]
  cases c with
  | createPort id =>
    simp only [Registry.answer]
    cases hr : (n.node i).createPort id with
    | error e => exact .still
    | ok made =>
      obtain ⟨port, r⟩ := made
      obtain ⟨-, free, -, rfl⟩ := Registry.eq_of_createPort hr
      refine .port (Registry.ids_roll (n.node i) ▸ free) ?_ ?_ rfl rfl
      · simp [roster, Registry.roll, Port.entry]
      · simp [roster, Registry.roll]
  | claimSession id =>
    simp only [Registry.answer]
    cases hr : (n.node i).claimSession id with
    | error e => exact .still
    | ok r =>
      obtain ⟨free, rfl⟩ := Registry.eq_of_claimSession hr
      exact .claim free rfl rfl rfl rfl
  | destroyPort id =>
    have e : ((n.node i).answer (.destroyPort id)).2 = (n.node i).without id := by
      rw [Registry.answer, Registry.without]
      cases (n.node i).destroyPort id <;> rfl
    rw [e]
    exact .destroy allowed (Registry.cut_without hc id) rfl
  | releaseSession id => exact .release allowed (Registry.cut_releaseSession hc id) rfl
  | _ => cases direct

theorem change_of_turn (hi : i < n.nodes.length) (hc : (n.roster i).Clear)
    (h : Turn i may n w m w') :
    n.nodes.length ≤ m.nodes.length ∧ Roster.Change may (n.roster i) w (m.roster i) w' := by
  cases h with
  | call c admits answers => exact change_of_call hi hc admits answers
  | direct c direct allowed =>
    have nodes : (n.callRegistry i c).nodes.length = n.nodes.length := by
      rw [callRegistry, setNode, List.length_set]
    exact ⟨Nat.le_of_eq nodes.symm, change_of_direct hi hc direct allowed⟩
  | move hx hmv moves =>
    have same := blank_of_own_move (copiesAt_of_clear hc) hx hmv moves
    exact ⟨Nat.le_of_eq (length_nodes_of_blank same).symm, roster_of_blank same i ▸ .still⟩
  | beside h => exact ⟨h.nodes, roster_of_beside h ▸ .still⟩

theorem clear_of_history (hf : Fresh n₀ i) (h : History i may n₀ n w) :
    i < n.nodes.length ∧ (n.roster i).Clear := by
  induction h with
  | start =>
    obtain ⟨config, node⟩ := hf.node
    refine ⟨hf.lt, ?_⟩
    show (n₀.node i).roll.Clear
    rw [node]
    exact Roll.clear_new config
  | turn _ last ih =>
    obtain ⟨nodes, change⟩ := change_of_turn ih.1 ih.2 last
    exact ⟨Nat.lt_of_lt_of_le ih.1 nodes, Roster.clear_of_change change ih.2⟩

/-- If the application takes nothing away that owners have, they keep it. -/
theorem backed_of_history (hf : Fresh n₀ i) (h : History i Roster.Mindful n₀ n w) :
    (n.roster i).Backed w := by
  induction h with
  | start =>
    have none {o : Owner} {x : Outline} (hx : n₀.outline? i o = some x) : False := by
      rw [hf.owners] at hx
      cases hx
    exact ⟨fun hx => (none hx).elim, fun hx => (none hx).elim, fun hx => (none hx).elim⟩
  | turn before last ih =>
    obtain ⟨hi, hc⟩ := clear_of_history hf before
    exact Roster.backed_of_change (change_of_turn hi hc last).2 hc ih

theorem unreplaced_of_backed (hc : (n.roster i).Clear) (hb : (n.roster i).Backed w)
    (hx : n.outline? i o = some x) (live : x.live = true) : n.Unreplaced i o x w where
  port h hh id := by
    obtain ⟨registered, own⟩ := hb.port hx live
    exact hc.inj hh registered (((Registry.idOf_roll _ h).trans id).trans own.symm)
  claim c hc _ := (hb.claims hx live c hc).2

/-- A drop takes out what has the owner's id. This is nothing but what the owner made just if
nothing else was put in its place, which does not happen while the application takes nothing away
that a live owner has. -/
theorem drop_takes_own (hf : Fresh n₀ i) :
    (∀ n w, History i (fun _ _ => True) n₀ n w → ∀ o x, n.outline? i o = some x → x.live = true →
      Takes i o x n (n.drop o) ∧ (TakesOwn i o x w n (n.drop o) ↔ n.Unreplaced i o x w)) ∧
    ∀ n w, History i Roster.Mindful n₀ n w → ∀ o x, n.outline? i o = some x → x.live = true →
      TakesOwn i o x w n (n.drop o) := by
  refine ⟨fun n w run o x hx _ => ?_, fun n w run o x hx live => ?_⟩
  · obtain ⟨hi, hc⟩ := clear_of_history hf run
    have takes := takes_drop hi hc hx
    exact ⟨takes, takesOwn_iff takes⟩
  · obtain ⟨hi, hc⟩ := clear_of_history hf run
    exact (takesOwn_iff (takes_drop hi hc hx)).2
      (unreplaced_of_backed hc (backed_of_history hf run) hx live)

/-! ## A session whose port is replaced -/

/-- A session, and a port of the application beside it. -/
def neighbours : Network :=
  (bareNode.createSession 0 (.ofParts 1 3 5)).2.callRegistry 0 (.createPort (.ofParts 1 3 6))

/-- The session takes its own port and claim, and the other port stays. -/
theorem neighbour_stays : Fresh bareNode 0 ∧
    (neighbours.node 0).registered = [0, 1] ∧
    1 ∈ ((neighbours.drop (.session 0)).node 0).registered ∧
    .ofParts 1 3 5 ∉ ((neighbours.drop (.session 0)).node 0).sessions := by
  have run (may : Roster → Registry.Call Reaction → Prop)
      (allowed : ∀ r id, may r (.createPort id)) : ∃ w, History 0 may bareNode neighbours w :=
    ⟨_, .turn (.turn .start (.call (.createSession (.ofParts 1 3 5)) trivial rfl))
      (.direct (.createPort (.ofParts 1 3 6)) trivial (allowed _ _))⟩
  obtain ⟨takes, own⟩ := drop_takes_own fresh_bareNode
  obtain ⟨w, every⟩ := run (fun _ _ => True) fun _ _ => trivial
  obtain ⟨w', mindful⟩ := run Roster.Mindful fun _ _ => trivial
  obtain ⟨taken, -⟩ := takes neighbours w every (.session 0) _ rfl rfl
  have kept := own neighbours w' mindful (.session 0) _ rfl rfl
  refine ⟨fresh_bareNode, rfl, kept.registered 1 (by decide) (by decide), fun claimed => ?_⟩
  exact ((taken.claimed _).1 claimed).2 (List.mem_singleton_self _)

/-- The application destroys the port of a session and registers another one under its id. -/
def replaced : Network :=
  let n := (bareNode.createSession 0 (.ofParts 1 3 5)).2
  let n := n.callRegistry 0 (.destroyPort (.ofParts 1 3 5))
  n.callRegistry 0 (.createPort (.ofParts 1 3 5))

/-- The drop of the session takes the application's port. -/
theorem not_own_taken_in_every_history : ¬ ∀ n w,
    History 0 (fun _ _ => True) bareNode n w → ∀ o x, n.outline? 0 o = some x → x.live = true →
      TakesOwn 0 o x w n (n.drop o) := by
  intro takes
  -- port 0 is the one that was made for the session, and port 1 the application's
  have own := takes replaced _
    (.turn (.turn (.turn .start (.call (.createSession (.ofParts 1 3 5)) trivial rfl))
      (.direct (.destroyPort (.ofParts 1 3 5)) trivial trivial))
      (.direct (.createPort (.ofParts 1 3 5)) trivial trivial)) (.session 0) _ rfl rfl
  have kept : 1 ∈ ((replaced.drop (.session 0)).node 0).registered :=
    own.registered 1 (by decide) (by decide)
  exact absurd kept (by decide)

end Network

end FrameBus
