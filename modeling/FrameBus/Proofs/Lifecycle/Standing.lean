import FrameBus.Network.Lifecycle
import FrameBus.Proofs.Lifecycle.Roster

/-!
# How owners stand

An owner either runs, with its port connected and its workers at work, or does not, with its port
not connected and its workers at rest (`Stands`). What is done to one owner, with its workers making
moves, leaves all others as they stand (`Spares`); no move changes the roster of a node, or a flag,
or the state of a port, and by a move no worker ends while its owner runs, or goes back to work when
its owner does not (`steady_move`).
-/

namespace FrameBus

def Gateway.outline (gw : Gateway) : Outline := ⟨gw.id, gw.port, gw.live, gw.ingress.isClosed⟩

def Session.outline (s : Session) : Outline := ⟨s.id, s.port, s.live, !s.live⟩

/-- What the workers of an owner do. -/
def Owner.moves : Owner → List Network.Move
  | .gateway g => [.uplink g, .downlink g]
  | .session s => [.session s]

theorem Owner.eq_of_moves {o o' : Owner} {mv : Network.Move} (h : mv ∈ o.moves)
    (h' : mv ∈ o'.moves) : o = o' := by
  cases o <;> cases o' <;> cases mv <;> simp_all [Owner.moves]

namespace Network

/-- The outline of an owner that has its port at a node. -/
def outline? (n : Network) (i : Nat) : Owner → Option Outline
  | .gateway g => ((n.gateways[g]?).filter fun gw => gw.node == i).map Gateway.outline
  | .session s => ((n.sessions[s]?).filter fun ss => ss.node == i).map Session.outline

def roster (n : Network) (i : Nat) : Roster := ⟨(n.node i).roll, n.outline? i⟩

def running? (n : Network) : Owner → Option Bool
  | .gateway g => (n.gateways[g]?).map Gateway.running
  | .session s => (n.sessions[s]?).map Session.running

variable {n m k : Network} {i : Nat} {o : Owner} {h : Handle} {x : Outline}

/-- A worker looks at the flag of its owner. -/
theorem runs?_of_moves (n : Network) {mv : Move} (h : mv ∈ o.moves) :
    n.runs? mv = n.running? o := by
  cases o with
  | gateway g => rcases List.mem_pair.1 h with rfl | rfl <;> rfl
  | session s =>
    obtain rfl := List.mem_singleton.1 h
    rfl

/-! ## Rosters -/

theorem length_ports_roster (n : Network) (i : Nat) :
    (n.roster i).ports.length = (n.node i).ports.length := List.length_map _

theorem outline?_gateway {g : Nat} : n.outline? i (.gateway g) = some x ↔
    ∃ gw, n.gateways[g]? = some gw ∧ gw.node = i ∧ gw.outline = x := by
  simp only [outline?, Option.map_eq_some_iff, Option.filter_eq_some_iff, beq_iff_eq, and_assoc]

theorem outline?_session {s : Nat} : n.outline? i (.session s) = some x ↔
    ∃ ss, n.sessions[s]? = some ss ∧ ss.node = i ∧ ss.outline = x := by
  simp only [outline?, Option.map_eq_some_iff, Option.filter_eq_some_iff, beq_iff_eq, and_assoc]

theorem running?_of_outline (hx : n.outline? i o = some x) : ∃ runs, n.running? o = some runs := by
  cases o with
  | gateway g =>
    obtain ⟨gw, hg, -⟩ := outline?_gateway.1 hx
    exact ⟨gw.running, by rw [running?, hg]; rfl⟩
  | session s =>
    obtain ⟨ss, hs, -⟩ := outline?_session.1 hx
    exact ⟨ss.running, by rw [running?, hs]; rfl⟩

theorem copiesAt_of_exact (he : (n.roster i).Exact) : n.CopiesAt i := by
  intro h hh p hp k hk
  obtain ⟨o, x, hx, -, rfl⟩ := (he.registered h).1 hh
  obtain ⟨e, at_port, -, copy, -⟩ := he.own hx
  have entry : (n.roster i).ports[x.port]? = some p.entry := by
    show ((n.node i).ports.map Port.entry)[x.port]? = _
    rw [List.getElem?_map, show (n.node i).ports[x.port]? = some p from hp]
    rfl
  obtain rfl := Option.some.inj (entry.symm.trans at_port)
  exact Option.some.inj (hk.symm.trans copy)

theorem copiesFor_of_copiesAt (copies : n.CopiesAt i) (hx : n.outline? i o = some x) {mv : Move}
    (hmv : mv ∈ o.moves) : n.CopiesFor mv := by
  cases o with
  | gateway g =>
    obtain ⟨gw, hg, rfl, -⟩ := outline?_gateway.1 hx
    rcases List.mem_pair.1 hmv with rfl | rfl
    · trivial
    · intro gv hv
      obtain rfl := Option.some.inj (hg.symm.trans hv)
      exact copies
  | session s =>
    obtain ⟨ss, hs, rfl, -⟩ := outline?_session.1 hx
    obtain rfl := List.mem_singleton.1 hmv
    intro st hst
    obtain rfl := Option.some.inj (hs.symm.trans hst)
    exact copies

/-- The port of a live owner, which is open. -/
theorem port_of_live (he : (n.roster i).Exact) (hx : n.outline? i o = some x)
    (live : x.live = true) :
    ∃ p, (n.node i).port? x.port = some p ∧ p.queue.isClosed = false := by
  obtain ⟨e, at_port, -, -, opened⟩ := he.own hx
  have at_port : ((n.node i).ports.map Port.entry)[x.port]? = some e := at_port
  rw [List.getElem?_map] at at_port
  obtain ⟨p, hp, rfl⟩ := Option.map_eq_some_iff.1 at_port
  exact ⟨p, hp, (opened live).1⟩

theorem openAt_of_live (he : (n.roster i).Exact) (hx : n.outline? i o = some x)
    (live : x.live = true) {mv : Move} (hmv : mv ∈ o.moves) : n.OpenAt mv := by
  have opened := port_of_live he hx live
  obtain ⟨_, -, -, -, own⟩ := he.own hx
  cases o with
  | gateway g =>
    obtain ⟨gw, hg, node, rfl⟩ := outline?_gateway.1 hx
    rcases List.mem_pair.1 hmv with rfl | rfl
    · intro gv hv
      obtain rfl := Option.some.inj (hg.symm.trans hv)
      exact node ▸ opened
    · intro gv hv
      obtain rfl := Option.some.inj (hg.symm.trans hv)
      exact (own live).2
  | session s =>
    obtain ⟨ss, hs, node, rfl⟩ := outline?_session.1 hx
    obtain rfl := List.mem_singleton.1 hmv
    intro st hst
    obtain rfl := Option.some.inj (hs.symm.trans hst)
    exact node ▸ opened

theorem roster_setPortState (n : Network) (i : Nat) (h : Handle) (s : PortState) :
    (n.setPortState i h s).roster i = n.roster i := by
  have roll : ((n.setPortState i h s).node i).roll = (n.node i).roll := by
    rw [setPortState, node_setNode]
    split
    · exact Registry.roll_setState _ _ _
    · rfl
  rw [roster, roll]
  rfl

theorem outline?_of_blank (hb : m.blank = n.blank) (o : Owner) :
    m.outline? i o = n.outline? i o := by
  have key (k : Network) : k.outline? i o = k.blank.outline? i o := by
    cases o with
    | gateway g =>
      simp only [outline?, blank, List.getElem?_map]
      cases k.gateways[g]? with
      | none => rfl
      | some gw => simp [Option.filter, Gateway.outline, Gateway.blank]
    | session s =>
      simp only [outline?, blank, List.getElem?_map]
      cases k.sessions[s]? with
      | none => rfl
      | some ss => simp [Option.filter, Session.outline, Session.blank]
  rw [key, key n, hb]

theorem running?_of_blank (hb : m.blank = n.blank) (o : Owner) : m.running? o = n.running? o := by
  have key (k : Network) : k.running? o = k.blank.running? o := by
    cases o <;> simp only [running?, blank, List.getElem?_map, Option.map_map] <;> rfl
  rw [key, key n, hb]

theorem roster_of_blank (hb : m.blank = n.blank) (i : Nat) : m.roster i = n.roster i := by
  rw [roster, roster, Registry.roll_of_blank (node_of_blank hb i), funext (outline?_of_blank hb)]

/-! ## Standing -/

/-- An owner with its port at a node runs, or it does not. Its workers are at work in the one case.
In the other they take no more frames, though one may hold the last that it took. -/
structure Stands (n : Network) (i : Nat) (o : Owner) (h : Handle) (runs : Bool) : Prop where
  running : n.running? o = some runs
  connected : (n.node i).isConnected h = runs
  work : runs = true → ∀ mv ∈ o.moves, n.worker? mv ≠ some .ended
  rest : runs = false → ∀ mv ∈ o.moves, n.worker? mv ≠ some .polling

theorem Stands.of_same {runs : Bool} (st : n.Stands i o h runs)
    (running : m.running? o = n.running? o)
    (connected : (m.node i).isConnected h = (n.node i).isConnected h)
    (workers : ∀ mv ∈ o.moves, m.worker? mv = n.worker? mv) : m.Stands i o h runs where
  running := running.trans st.running
  connected := connected.trans st.connected
  work runs mv hmv := by rw [workers mv hmv]; exact st.work runs mv hmv
  rest idle mv hmv := by rw [workers mv hmv]; exact st.rest idle mv hmv

/-- Every owner of a node stands, and a dropped one does not run. -/
def Steady (n : Network) (i : Nat) : Prop :=
  ∀ o x, n.outline? i o = some x →
    ∃ runs, n.Stands i o x.port runs ∧ (runs = true → x.live = true)

/-- What is done to one owner does nothing to others. -/
structure Spares (i : Nat) (o : Owner) (h : Handle) (n m : Network) : Prop where
  running : ∀ o', o' ≠ o → m.running? o' = n.running? o'
  workers : ∀ o', o' ≠ o → ∀ mv ∈ o'.moves, m.worker? mv = n.worker? mv
  connected : ∀ j, j ≠ h → (m.node i).isConnected j = (n.node i).isConnected j

theorem Spares.refl (n : Network) : Spares i o h n n where
  running _ _ := rfl
  workers _ _ _ _ := rfl
  connected _ _ := rfl

theorem Spares.trans (s : Spares i o h n m) (s' : Spares i o h m k) : Spares i o h n k where
  running o' ne := (s'.running o' ne).trans (s.running o' ne)
  workers o' ne mv hmv := (s'.workers o' ne mv hmv).trans (s.workers o' ne mv hmv)
  connected j ne := (s'.connected j ne).trans (s.connected j ne)

theorem Spares.stands {o' : Owner} {j : Handle} {runs : Bool} (s : Spares i o h n m) (ne : o' ≠ o)
    (ne' : j ≠ h) (st : n.Stands i o' j runs) : m.Stands i o' j runs :=
  st.of_same (s.running o' ne) (s.connected j ne') (s.workers o' ne)

/-- All stand when the one to which something is done does. -/
theorem steady_of_spares (s : Spares i o h n m) (hs : n.Steady i)
    (same : ∀ o', o' ≠ o → m.outline? i o' = n.outline? i o')
    (apart : ∀ o' y, o' ≠ o → n.outline? i o' = some y → y.port ≠ h)
    (own : ∀ x, m.outline? i o = some x →
      ∃ runs, m.Stands i o x.port runs ∧ (runs = true → x.live = true)) : m.Steady i := by
  intro o' y hy
  by_cases ne : o' = o
  · subst ne
    exact own y hy
  · rw [same o' ne] at hy
    obtain ⟨runs, st, live⟩ := hs o' y hy
    exact ⟨runs, s.stands ne (apart o' y ne hy) st, live⟩

/-! ## Moves -/

theorem blank_of_own_move (copies : n.CopiesAt i) (hx : n.outline? i o = some x) {mv : Move}
    (hmv : mv ∈ o.moves) (h : n.move mv = some m) : m.blank = n.blank :=
  (moved_of_copiesFor (copiesFor_of_copiesAt copies hx hmv) h).same

theorem spares_of_blank (hb : m.blank = n.blank)
    (workers : ∀ o', o' ≠ o → ∀ mv ∈ o'.moves, m.worker? mv = n.worker? mv) :
    Spares i o h n m where
  running o' _ := running?_of_blank hb o'
  workers := workers
  connected j _ := Registry.isConnected_of_blank (node_of_blank hb i) j

theorem spares_move {mv : Move} (hb : m.blank = n.blank) (hmv : mv ∈ o.moves)
    (h' : n.move mv = some m) : Spares i o h n m :=
  spares_of_blank hb fun _ ne mv' hmv' =>
    (made_of_move h').others mv' fun e => ne (Owner.eq_of_moves (e ▸ hmv') hmv)

/-- A move of a worker leaves everyone standing. -/
theorem steady_move (he : (n.roster i).Exact) (hs : n.Steady i) (hx : n.outline? i o = some x)
    {mv : Move} (hmv : mv ∈ o.moves) (h' : n.move mv = some m) : m.Steady i := by
  have hb := blank_of_own_move (copiesAt_of_exact he) hx hmv h'
  refine steady_of_spares (o := o) (h := x.port) (spares_move hb hmv h') hs
    (fun o' _ => outline?_of_blank hb o') (fun o' y ne hy same => ne (he.sole hy hx same)) ?_
  intro y hy
  obtain rfl := Option.some.inj ((outline?_of_blank hb o).symm.trans hy |>.symm.trans hx)
  obtain ⟨runs, st, live⟩ := hs o y hx
  have made := made_of_move h'
  have flag := (runs?_of_moves n hmv).trans st.running
  refine ⟨runs, ⟨(running?_of_blank hb o).trans st.running, ?_, fun runs' mv' hmv' => ?work,
    fun idle mv' hmv' => ?rest⟩, live⟩
  · rw [Registry.isConnected_of_blank (node_of_blank hb i), st.connected]
  case work =>
    by_cases e : mv' = mv
    · subst e
      exact made.after (runs' ▸ flag) (openAt_of_live he hx (live runs') hmv)
    · rw [made.others mv' e]
      exact st.work runs' mv' hmv'
  case rest =>
    by_cases e : mv' = mv
    · subst e
      have falls := Nat.lt_of_lt_of_le (made.falls (idle ▸ flag)) (movesLeft_le n mv')
      intro polling
      simp [movesLeft, polling] at falls
    · rw [made.others mv' e]
      exact st.rest idle mv' hmv'

end Network

end FrameBus
