import FrameBus.Proofs.Lifecycle.Standing
import FrameBus.Proofs.Network.Room

/-!
# Workers that are waited for

Who halts an owner lets its workers run until none of them can move (`Awaited`). As the owner does
not run any more, each worker has few moves left (`workLeft_of_move`), so it ends, or it holds a
frame that waits for room in a bounded queue (`Settled`). Meanwhile nothing changes but frames and
these workers (`blank_of_runs`).
-/

namespace FrameBus.Network

variable {n m : Network} {i : Nat} {o : Owner} {x : Outline}

/-- A worker of an owner makes a move. -/
def MovesOf (o : Owner) (n m : Network) : Prop := ∃ mv ∈ o.moves, n.move mv = some m

theorem movesOf_gateway {g : Nat} (h : (n.moveUplink g).or (n.moveDownlink g) = some m) :
    MovesOf (.gateway g) n m := by
  rcases Option.or_eq_some_iff.1 h with h | ⟨-, h⟩
  · exact ⟨.uplink g, List.mem_cons_self, h⟩
  · exact ⟨.downlink g, List.mem_cons_of_mem _ List.mem_cons_self, h⟩

theorem runs_joinGateway (g fuel : Nat) (n : Network) :
    Relation.ReflTransGen (MovesOf (.gateway g)) n (joinGateway g fuel n) := by
  induction fuel generalizing n with
  | zero => exact .refl
  | succ fuel ih =>
    unfold joinGateway
    split
    · next m h => exact (ih m).head (movesOf_gateway h)
    · exact .refl

theorem runs_joinSession (s fuel : Nat) (n : Network) :
    Relation.ReflTransGen (MovesOf (.session s)) n (joinSession s fuel n) := by
  induction fuel generalizing n with
  | zero => exact .refl
  | succ fuel ih =>
    unfold joinSession
    split
    · next m h => exact (ih m).head ⟨.session s, List.mem_cons_self, h⟩
    · exact .refl

/-- Moves of an owner's workers leave everything but frames and these workers as it is. -/
theorem blank_of_runs (copies : n.CopiesAt i) (hx : n.outline? i o = some x)
    (h : Relation.ReflTransGen (MovesOf o) n m) :
    m.blank = n.blank ∧ ∀ j, Spares i o j n m := by
  induction h with
  | refl => exact ⟨rfl, fun _ => .refl n⟩
  | tail _ last ih =>
    obtain ⟨same, spares⟩ := ih
    obtain ⟨mv, hmv, h⟩ := last
    have hb := blank_of_own_move (copiesAt_of_blank (node_of_blank same i) copies)
      ((outline?_of_blank same o).trans hx) hmv h
    exact ⟨hb.trans same, fun j => (spares j).trans (spares_move hb hmv h)⟩

/-- A worker holds a frame that it cannot pass on: the frame waits for room. -/
def Jammed (n : Network) (mv : Move) : Prop :=
  (∃ f, n.worker? mv = some (.holding f)) ∧ n.move mv = none

/-- The workers of an owner have ended, but for those that wait for room. -/
def Settled (n : Network) (o : Owner) : Prop :=
  ∀ mv ∈ o.moves, n.worker? mv = some .ended ∨ n.Jammed mv

/-- Who has ended, or waits for room, polls nothing. -/
theorem Settled.rest (h : n.Settled o) {mv : Move} (hmv : mv ∈ o.moves) :
    n.worker? mv ≠ some .polling := by
  rcases h mv hmv with ended | ⟨⟨f, holding⟩, -⟩
  · simp [ended]
  · simp [holding]

theorem pollPort_ne_none (n : Network) (i : Nat) (h : Handle) : n.pollPort i h false ≠ none := by
  unfold pollPort
  rcases (n.node i).receive h with ⟨popped, r⟩
  cases popped <;> simp

/-- Who polls a queue can move when the owner does not run: there is a frame, or it ends. -/
theorem move_of_polling (idle : n.running? o = some false) {mv : Move} (hmv : mv ∈ o.moves)
    (polling : n.worker? mv = some .polling) : n.move mv ≠ none := by
  cases o with
  | gateway g =>
    obtain ⟨gw, hg, flag⟩ := Option.map_eq_some_iff.1 idle
    rcases List.mem_pair.1 hmv with rfl | rfl
    · have hw : gw.uplink = .polling := by simpa [worker?, hg] using polling
      obtain ⟨polled, hp⟩ := Option.ne_none_iff_exists'.1 (pollPort_ne_none n gw.node gw.port)
      simp [move, moveUplink, hg, hw, flag, hp]
    · have hw : gw.downlink = .polling := by simpa [worker?, hg] using polling
      rcases hq : gw.ingress.poll with ⟨popped, q⟩
      cases popped <;> simp [move, moveDownlink, hg, hw, hq, flag]
  | session s =>
    obtain ⟨ss, hs, flag⟩ := Option.map_eq_some_iff.1 idle
    obtain rfl := List.mem_singleton.1 hmv
    have hw : ss.worker = .polling := by simpa [worker?, hs] using polling
    obtain ⟨polled, hp⟩ := Option.ne_none_iff_exists'.1 (pollPort_ne_none n ss.node ss.port)
    simp [move, moveSession, hs, hw, flag, hp]

theorem settled_of_stuck (idle : n.running? o = some false)
    (stuck : ∀ mv ∈ o.moves, n.move mv = none) : n.Settled o := by
  intro mv hmv
  obtain ⟨w, hw⟩ := worker_of_runs? ((runs?_of_moves n hmv).trans idle)
  cases w with
  | ended => exact .inl hw
  | polling => exact absurd (stuck mv hmv) (move_of_polling idle hmv hw)
  | holding f => exact .inr ⟨⟨f, hw⟩, stuck mv hmv⟩

/-- Where no queue has a bound, nobody waits for room. -/
theorem not_jammed (hu : n.Unbounded) (he : (n.roster i).Exact) (hx : n.outline? i o = some x)
    {mv : Move} (hmv : mv ∈ o.moves) : ¬ n.Jammed mv := by
  rintro ⟨⟨f, holding⟩, stuck⟩
  have copies := copiesFor_of_copiesAt (copiesAt_of_exact he) hx hmv
  obtain ⟨m, moves⟩ := move_of_holding hu copies holding
  rw [stuck] at moves
  cases moves

/-- How often the workers of an owner can move when it does not run. -/
def workLeft (n : Network) : Owner → Nat
  | .gateway g => n.movesLeft (.uplink g) + n.movesLeft (.downlink g)
  | .session s => n.movesLeft (.session s)

theorem workLeft_le (n : Network) (o : Owner) : n.workLeft o ≤ 4 := by
  have left := movesLeft_le n
  cases o with
  | gateway g => exact Nat.add_le_add (left (.uplink g)) (left (.downlink g))
  | session s => exact Nat.le_trans (left (.session s)) (by decide)

/-- Moves of workers whose owner does not run come to an end. -/
theorem workLeft_of_move (idle : n.running? o = some false) {mv : Move} (hmv : mv ∈ o.moves)
    (h : n.move mv = some m) : m.running? o = some false ∧ m.workLeft o < n.workLeft o := by
  have made := made_of_move h
  have flag := (runs?_of_moves n hmv).trans idle
  have same (mv' : Move) (ne : mv' ≠ mv) : m.movesLeft mv' = n.movesLeft mv' := by
    rw [movesLeft, made.others mv' ne, movesLeft]
  have falls := made.falls flag
  refine ⟨by rw [← runs?_of_moves m hmv, made.flags, flag], ?_⟩
  cases o with
  | gateway g =>
    rcases List.mem_pair.1 hmv with rfl | rfl
    · have other := same (.downlink g) (by simp)
      simp only [workLeft]
      omega
    · have other := same (.uplink g) (by simp)
      simp only [workLeft]
      omega
  | session s =>
    obtain rfl := List.mem_singleton.1 hmv
    exact falls

theorem settled_joinGateway {g fuel : Nat} (idle : n.running? (.gateway g) = some false)
    (enough : n.workLeft (.gateway g) < fuel) :
    (joinGateway g fuel n).Settled (.gateway g) := by
  induction fuel generalizing n with
  | zero => omega
  | succ fuel ih =>
    unfold joinGateway
    split
    · next m h =>
      obtain ⟨mv, hmv, h⟩ := movesOf_gateway h
      obtain ⟨idle', falls⟩ := workLeft_of_move idle hmv h
      exact ih idle' (by omega)
    · next h =>
      obtain ⟨up, down⟩ := Option.or_eq_none_iff.1 h
      refine settled_of_stuck idle fun mv hmv => ?_
      rcases List.mem_pair.1 hmv with rfl | rfl
      · exact up
      · exact down

theorem settled_joinSession {s fuel : Nat} (idle : n.running? (.session s) = some false)
    (enough : n.workLeft (.session s) < fuel) :
    (joinSession s fuel n).Settled (.session s) := by
  induction fuel generalizing n with
  | zero => omega
  | succ fuel ih =>
    unfold joinSession
    split
    · next m h =>
      obtain ⟨idle', falls⟩ := workLeft_of_move idle List.mem_cons_self h
      exact ih idle' (by omega)
    · next h =>
      refine settled_of_stuck idle fun mv hmv => ?_
      obtain rfl := List.mem_singleton.1 hmv
      exact h

/-- One network after another: the workers of an owner were waited for. -/
structure Awaited (o : Owner) (n m : Network) : Prop where
  runs : Relation.ReflTransGen (MovesOf o) n m
  settled : n.running? o = some false → m.Settled o

theorem awaited_gateway (n : Network) (g : Nat) : Awaited (.gateway g) n (joinGateway g 64 n) :=
  ⟨runs_joinGateway g 64 n,
    fun idle => settled_joinGateway idle (Nat.lt_of_le_of_lt (workLeft_le n _) (by omega))⟩

theorem awaited_session (n : Network) (s : Nat) : Awaited (.session s) n (joinSession s 64 n) :=
  ⟨runs_joinSession s 64 n,
    fun idle => settled_joinSession idle (Nat.lt_of_le_of_lt (workLeft_le n _) (by omega))⟩

end FrameBus.Network
