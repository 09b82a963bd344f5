import FrameBus.Proofs.Lifecycle.Members

/-!
# Histories of a node

Whatever is called at a node, in any order, and whatever the links answer and the threads come to,
the registry says who is there and nothing else (`Kept`), and every call keeps its promise. A hub on
which all gateways are made has them as its members (`kept_in_every_history`).
-/

namespace FrameBus.Network

variable {n n₀ : Network} {i : Nat}

/-- What holds of a node in every history. -/
structure Kept (n : Network) (i : Nat) : Prop where
  ids : ∀ id, id ∈ (n.node i).ids ↔ ∃ o x, n.outline? i o = some x ∧ x.live = true ∧ x.id = id
  idsOnce : (n.node i).ids.Nodup
  claims : ∀ id, id ∈ (n.node i).sessions ↔
    ∃ s x, n.outline? i (.session s) = some x ∧ x.live = true ∧ x.id = id
  claimsOnce : (n.node i).sessions.Nodup
  stands : ∀ o x, n.outline? i o = some x → x.live = true → ∃ runs, n.Stands i o x.port runs
  /-- no worker waits for room where no queue has a bound -/
  free : n.Unbounded → ∀ o x, n.outline? i o = some x → ∀ mv ∈ o.moves, ¬ n.Jammed mv

theorem kept_of_tidy (ht : n.Tidy i) : n.Kept i where
  ids id := by
    rw [← Registry.ids_roll]
    exact ht.exact.mem_ids
  idsOnce := by
    rw [← Registry.ids_roll]
    exact ht.exact.ids
  claims id := by
    refine (ht.exact.claimed id).trans ⟨?_, ?_⟩
    · rintro ⟨o, x, hx, live, claims⟩
      cases o with
      | gateway g => cases claims
      | session s => exact ⟨s, x, hx, live, (Owner.eq_of_claims claims).symm⟩
    · rintro ⟨s, x, hx, live, rfl⟩
      exact ⟨.session s, x, hx, live, List.mem_singleton_self x.id⟩
  claimsOnce := ht.exact.once
  stands o x hx _ := by
    obtain ⟨runs, st, -⟩ := ht.steady o x hx
    exact ⟨runs, st⟩
  free hu o x hx mv hmv := not_jammed hu ht.exact hx hmv

/-- Ids are registered and claimed for the live owners alone, who run just when their ports are
connected; calls keep their promises; and the members of a hub are the live gateways. -/
theorem kept_in_every_history (hf : Fresh n₀ i) :
    (∀ n, Relation.ReflTransGen (Step i (fun _ => True) (Beside i)) n₀ n →
      n.Kept i ∧ ∀ c result m, n.Admits i c → n.perform i c = (result, m) →
        Promise i n result m c) ∧
    ∀ h n, h < n₀.hubs.length → n₀.hub h = .empty →
      Relation.ReflTransGen (Step i (Call.OnHub h) (BesideHub i h)) n₀ n →
      (n.hub h).ids.Nodup ∧ ∀ id, id ∈ (n.hub h).ids ↔
        ∃ g x, n.outline? i (.gateway g) = some x ∧ x.live = true ∧ x.id = id := by
  refine ⟨fun n run => ?_, fun h n lt empty run => ?_⟩
  · have tidy := tidy_of_run (fun _ _ beside => beside) hf run
    exact ⟨kept_of_tidy tidy, fun c result m admits performed =>
      (call_spec tidy admits performed).2⟩
  · have attached := attached_of_run hf lt empty run
    exact ⟨attached.once, attached.members⟩

/-! ## One node and one hub -/

def bareNode : Network := { host := .isolated, nodes := [.new {}], hubs := [.empty] }

theorem fresh_bareNode : Fresh bareNode 0 where
  lt := by decide
  node := ⟨{}, rfl⟩
  owners o := by cases o <;> rfl

/-- A gateway is made, whose link does what it has to for a start and then refuses. -/
def refusing : Network :=
  (bareNode.createGateway 0 (.ofParts 0 2 1) (.member 0 {} { start := true }) {}).2

theorem runs_refusing {may : Call → Prop} (beside : Network → Network → Prop)
    (allowed : may (.createGateway (.ofParts 0 2 1) (.member 0 {} { start := true }) {})) :
    Relation.ReflTransGen (Step 0 may beside) bareNode refusing :=
  .single (.call _ allowed trivial rfl)

/-- A session is made. -/
def oneSession : Network := (bareNode.createSession 0 (.ofParts 1 3 5)).2

theorem runs_oneSession (beside : Network → Network → Prop) :
    Relation.ReflTransGen (Step 0 (fun _ => True) beside) bareNode oneSession :=
  .single (.call (.createSession (.ofParts 1 3 5)) trivial trivial rfl)

/-- The gateway is stopped after the start that its link refused, can be started again, and is the
one member of the hub; and so are the gateway whose downlink got no thread, and the session whose
thread was lost. -/
theorem stopped_after_refusal : Fresh bareNode 0 ∧
    (refusing.start {} (.gateway 0)).1 = .error (.transport "start refused") ∧
    (refusing.start {} (.gateway 0)).2.Stands 0 (.gateway 0) 0 false ∧
    (refusing.start {} (.gateway 0)).2.Startable 0 (.gateway 0) 0 ∧
    (refusing.start { downlink := some (.refused "no threads") } (.gateway 0)).1 =
      .error (.spawn "no threads") ∧
    (refusing.start { downlink := some (.refused "no threads") } (.gateway 0)).2.Stands 0
      (.gateway 0) 0 false ∧
    (oneSession.start { worker := some .lost } (.session 0)).1 =
      .error (.spawn "event worker exited during startup") ∧
    (oneSession.start { worker := some .lost } (.session 0)).2.Stands 0 (.session 0) 0 false ∧
    (oneSession.start { worker := some .lost } (.session 0)).2.Startable 0 (.session 0) 0 ∧
    (refusing.hub 0).ids = [.ofParts 0 2 1] ∧ (refusing.hub 0).ids.Nodup := by
  obtain ⟨node, hub⟩ := kept_in_every_history fresh_bareNode
  obtain ⟨-, calls⟩ := node refusing (runs_refusing _ trivial)
  obtain ⟨-, sessionCalls⟩ := node oneSession (runs_oneSession _)
  obtain ⟨once, -⟩ := hub 0 refusing (by decide) rfl (runs_refusing _ ⟨{ start := true }, rfl⟩)
  have linkless := calls (.start (.gateway 0) {}) _ _ ⟨_, rfl, rfl⟩ rfl _ rfl
  have threadless := calls (.start (.gateway 0) { downlink := some (.refused "no threads") }) _ _
    ⟨_, rfl, rfl⟩ rfl _ rfl
  have lost := sessionCalls (.start (.session 0) { worker := some .lost }) _ _ ⟨_, rfl, rfl⟩ rfl _
    rfl
  obtain ⟨stands, -, startable⟩ := (linkless.2 rfl).2.2 (by simp)
  obtain ⟨idle, -, -⟩ := (threadless.2 rfl).2.2 (by simp [ThreadFault.failure])
  obtain ⟨ended, -, again⟩ := (lost.2 rfl).2.2 (by simp [ThreadFault.failure])
  exact ⟨fresh_bareNode, rfl, stands, startable, rfl, idle, rfl, ended, again, rfl, once⟩

/-- A session that runs. -/
def runningSession : Network := (oneSession.startSession 0 {}).2

theorem runs_runningSession :
    Relation.ReflTransGen (Step 0 (fun _ => True) (Beside 0)) bareNode runningSession :=
  (runs_oneSession _).tail (.call (.start (.session 0) {}) trivial ⟨_, rfl, rfl⟩ rfl)

/-- Who runs already is not stopped by a start that fails. -/
theorem not_stopped_by_every_failed_start : ¬ ∀ n,
    Relation.ReflTransGen (Step 0 (fun _ => True) (Beside 0)) bareNode n →
      ∀ o threads m e, n.Admits 0 (.start o threads) →
        n.perform 0 (.start o threads) = (.error e, m) → m.running? o = some false := by
  intro stops
  have stopped := stops runningSession runs_runningSession (.session 0) {} _ _ ⟨_, rfl, rfl⟩ rfl
  cases stopped

end FrameBus.Network
