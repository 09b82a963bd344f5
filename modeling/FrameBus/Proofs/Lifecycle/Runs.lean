import FrameBus.Proofs.Lifecycle.Entries

/-!
# Whole lives

Any number of gateways and sessions are made, started, stopped and dropped at one node, in any order
and over links and threads that fail as they like, while workers make their moves and everything
goes on that is no business of the node's registry (`Beside`). What holds of a node at which nothing
was made yet is kept by every step (`tidy_of_step`): its roster is exact, and every owner stands. On
such a node every call keeps what it promises (`call_spec`).
-/

namespace FrameBus

/-- What an application calls, for a node. -/
inductive Call where
  | createGateway (id : PortId) (link : Link) (ingress : QueueConfig)
  | createSession (id : PortId)
  | start (o : Owner) (threads : Threads)
  | stop (o : Owner)
  | drop (o : Owner)

namespace Network

variable {n m k : Network} {i : Nat} {o : Owner} {x : Outline} {id : PortId}

def perform (n : Network) (i : Nat) : Call → Except BusError Unit × Network
  | .createGateway id link ingress =>
    let (made, m) := n.createGateway i id link ingress
    (made.map fun _ => (), m)
  | .createSession id =>
    let (made, m) := n.createSession i id
    (made.map fun _ => (), m)
  | .start o threads => n.start threads o
  | .stop o => n.stop o
  | .drop o => (.ok (), n.drop o)

/-- Only a live owner is started, stopped and dropped. -/
def Admits (n : Network) (i : Nat) : Call → Prop
  | .start o _ | .stop o | .drop o => ∃ x, n.outline? i o = some x ∧ x.live = true
  | _ => True

/-- One network after another: what is at a node is the same but for frames, and so are flags and
workers there. The links of its gateways are not. -/
structure Beside (i : Nat) (n m : Network) : Prop where
  nodes : n.nodes.length ≤ m.nodes.length
  node : (m.node i).blank = (n.node i).blank
  owners : m.outline? i = n.outline? i
  running : ∀ o x, n.outline? i o = some x → m.running? o = n.running? o
  workers : ∀ o x, n.outline? i o = some x → ∀ mv ∈ o.moves, m.worker? mv = n.worker? mv

/-- One step at a node: a call, a move of a worker, or what goes on beside. A call that waits for
workers is followed by their moves. -/
inductive Step (i : Nat) (may : Call → Prop) (beside : Network → Network → Prop) :
    Network → Network → Prop
  | call {n m : Network} (c : Call) {result : Except BusError Unit} :
      may c → n.Admits i c → n.perform i c = (result, m) → Step i may beside n m
  | move {n m : Network} {o : Owner} {x : Outline} {mv : Move} :
      n.outline? i o = some x → mv ∈ o.moves → n.move mv = some m → Step i may beside n m
  | beside {n m : Network} : beside n m → Step i may beside n m

/-- A node at which nothing was made yet. -/
structure Fresh (n : Network) (i : Nat) : Prop where
  lt : i < n.nodes.length
  node : ∃ config, n.node i = .new config
  owners : ∀ o, n.outline? i o = none

structure Tidy (n : Network) (i : Nat) : Prop where
  lt : i < n.nodes.length
  exact : (n.roster i).Exact
  steady : n.Steady i

theorem tidy_of_fresh (h : Fresh n i) : Tidy n i := by
  obtain ⟨config, node⟩ := h.node
  have owners (o : Owner) : (n.roster i).owner? o = none := h.owners o
  have registered : (n.roster i).registered = [] := congrArg Registry.registered node
  have claimed : (n.roster i).claimed = [] := congrArg Registry.sessions node
  refine ⟨h.lt, ⟨fun e => ?_, fun e => ?_, fun j => ?_, ?_, fun c => ?_, ?_⟩, fun o x hx => ?_⟩
  · rw [owners] at e; cases e
  · rw [owners] at e; cases e
  · simp [registered, owners]
  · simp [Roll.ids, registered]
  · simp [claimed, owners]
  · simp [claimed]
  · rw [h.owners] at hx; cases hx

theorem roster_of_beside (h : Beside i n m) : m.roster i = n.roster i := by
  rw [roster, Registry.roll_of_blank h.node, h.owners, roster]

theorem tidy_of_beside (h : Beside i n m) (ht : n.Tidy i) : m.Tidy i := by
  have same := roster_of_beside h
  refine ⟨Nat.lt_of_lt_of_le ht.lt h.nodes, same ▸ ht.exact, fun o x hx => ?_⟩
  rw [h.owners] at hx
  obtain ⟨runs, st, live⟩ := ht.steady o x hx
  exact ⟨runs, st.of_same (h.running o x hx) (Registry.isConnected_of_blank h.node _)
    (h.workers o x hx), live⟩

theorem outline?_of_undone (h : Undone i n m) : m.outline? i = n.outline? i := by
  funext o
  cases o with
  | gateway g => simp only [outline?, h.gateways]
  | session s => simp only [outline?, h.sessions]

theorem ports_of_undone (h : Undone i n m) :
    ∃ more, (m.roster i).ports = (n.roster i).ports ++ more := by
  obtain ⟨more, ports⟩ := h.ports
  exact ⟨more.map Port.entry, by simp [roster, Registry.roll, ports]⟩

/-- What failed to be made has touched no port that was there. -/
theorem port?_of_undone (h : Undone i n m) {j : Handle} {p : Port Reaction}
    (hp : (n.node i).port? j = some p) : (m.node i).port? j = some p := by
  obtain ⟨more, ports⟩ := h.ports
  rw [Registry.port?, ports, List.getElem?_append_left (List.getElem?_eq_some_iff.1 hp).1]
  exact hp

theorem tidy_of_undone (h : Undone i n m) (ht : n.Tidy i) : m.Tidy i := by
  obtain ⟨more, ports⟩ := h.ports
  obtain ⟨_, entries⟩ := ports_of_undone h
  have owners := outline?_of_undone h
  refine ⟨h.nodes ▸ ht.lt,
    Roster.exact_of_more ht.exact entries h.registered h.claimed owners, fun o x hx => ?_⟩
  rw [owners] at hx
  obtain ⟨runs, st, live⟩ := ht.steady o x hx
  refine ⟨runs, st.of_same ?_ ?_ fun mv _ => ?_, live⟩
  · cases o <;> simp only [running?, h.gateways, h.sessions]
  · have known : x.port < (n.node i).ports.length :=
      length_ports_roster n i ▸ ht.exact.known hx
    rw [Registry.isConnected, Registry.port?, ports, List.getElem?_append_left known]
    rfl
  · cases mv <;> simp only [worker?, h.gateways, h.sessions]

theorem tidy_of_added (h : Added i o id n m) (ht : n.Tidy i) : m.Tidy i := by
  have length := length_ports_roster n i
  have free : id ∉ (n.roster i).ids := by
    have free := h.free
    rwa [← Registry.ids_roll] at free
  have owners (o' : Owner) : m.outline? i o' = ((n.roster i).add o id).owner? o' :=
    congrArg (·.owner? o') h.roster
  refine ⟨h.nodes ▸ ht.lt, h.roster ▸ Roster.exact_add ht.exact h.new free,
    steady_of_spares h.spares ht.steady (fun o' ne => ?_) (fun o' y _ hy => ?_) fun x hx => ?_⟩
  · rw [owners, Roster.owner?_add, if_neg ne]
    rfl
  · exact length ▸ Nat.ne_of_lt (ht.exact.known hy)
  · rw [owners, Roster.owner?_add, if_pos rfl] at hx
    cases hx
    exact ⟨false, length ▸ h.stands, by simp⟩

/-- An owner stands anew. -/
theorem tidy_of_same_roster {runs : Bool} (nodes : m.nodes.length = n.nodes.length)
    (same : m.roster i = n.roster i) (spares : Spares i o x.port n m)
    (hx : n.outline? i o = some x) (st : m.Stands i o x.port runs)
    (live : runs = true → x.live = true) (ht : n.Tidy i) : m.Tidy i := by
  have owners : m.outline? i = n.outline? i := congrArg Roster.owner? same
  refine ⟨nodes ▸ ht.lt, same ▸ ht.exact, steady_of_spares spares ht.steady
    (fun o' _ => congrFun owners o') (fun o' y ne hy same => ne (ht.exact.sole hy hx same)) ?_⟩
  intro y hy
  rw [owners, hx] at hy
  cases hy
  exact ⟨runs, st, live⟩

theorem tidy_of_halted (h : Halted i o x n m) (hx : n.outline? i o = some x) (ht : n.Tidy i) :
    m.Tidy i :=
  tidy_of_same_roster h.nodes h.roster h.spares hx h.stands (by simp) ht

theorem tidy_of_launched (h : Launched i o x n m) (hx : n.outline? i o = some x)
    (live : x.live = true) (ht : n.Tidy i) : m.Tidy i :=
  tidy_of_same_roster h.nodes h.roster h.spares hx h.stands (fun _ => live) ht

theorem tidy_of_dropped (h : Dropped i o x n m) (hx : n.outline? i o = some x)
    (live : x.live = true) (ht : n.Tidy i) : m.Tidy i := by
  have owners : m.outline? i = Function.update (n.outline? i) o (some x.gone) := h.leaves.owner?
  refine ⟨h.nodes ▸ ht.lt, Roster.exact_of_leaves ht.exact hx live h.leaves,
    steady_of_spares h.spares ht.steady (fun o' ne => by rw [owners, Function.update_of_ne ne])
      (fun o' y ne hy same => ne (ht.exact.sole hy hx same)) fun y hy => ?_⟩
  rw [owners, Function.update_self] at hy
  cases hy
  exact ⟨false, h.stands, by simp⟩

theorem tidy_of_move (hx : n.outline? i o = some x) {mv : Move} (hmv : mv ∈ o.moves)
    (h : n.move mv = some m) (ht : n.Tidy i) : m.Tidy i := by
  have same := blank_of_own_move (copiesAt_of_exact ht.exact) hx hmv h
  exact ⟨length_nodes_of_blank same ▸ ht.lt, roster_of_blank same i ▸ ht.exact,
    steady_move ht.exact ht.steady hx hmv h⟩

/-! ## Calls -/

/-- What a failed creation leaves behind. -/
structure Restored (i : Nat) (n m : Network) : Prop where
  ids : (m.node i).ids = (n.node i).ids
  claimed : (m.node i).sessions = (n.node i).sessions
  ports : ∀ h p, (n.node i).port? h = some p → (m.node i).port? h = some p
  owners : m.outline? i = n.outline? i

/-- A start of the owner is up to its threads and its link, and sets it to work if they agree. -/
structure Startable (n : Network) (i : Nat) (o : Owner) (h : Handle) : Prop where
  answer : ∀ threads, (n.start threads o).1 = n.startAnswer threads o
  starts : ∀ threads, n.startAnswer threads o = .ok () → (n.start threads o).2.Stands i o h true

/-- What a call promises. -/
def Promise (i : Nat) (n : Network) (result : Except BusError Unit) (m : Network) : Call → Prop
  | .createGateway _ _ _ | .createSession _ => result ≠ .ok () → Restored i n m
  | .start o threads => ∀ x, n.outline? i o = some x →
      (n.running? o = some true → result = .error .alreadyRunning ∧ m = n) ∧
      (n.running? o = some false → result = n.startAnswer threads o ∧
        (result = .ok () → m.Stands i o x.port true) ∧
        (result ≠ .ok () → m.Stands i o x.port false ∧ (m = n ∨ m.Settled o) ∧
          m.Startable i o x.port))
  | .stop o => ∀ x, n.outline? i o = some x →
      m.Stands i o x.port false ∧ (n.running? o = some true → m.Settled o)
  | .drop o => ∀ x, n.outline? i o = some x →
      m.outline? i o = some x.gone ∧ m.Stands i o x.port false

theorem startable_of_tidy (ht : n.Tidy i) (hx : n.outline? i o = some x)
    (idle : n.running? o = some false) : n.Startable i o x.port where
  answer threads := (start_spec threads ht.lt ht.exact hx idle).1
  starts threads agrees := ((start_spec threads ht.lt ht.exact hx idle).2.1 agrees).stands

theorem restored_of_undone (h : Undone i n m) (ht : n.Tidy i) : Restored i n m where
  ids := by
    obtain ⟨more, entries⟩ := ports_of_undone h
    rw [← Registry.ids_roll, ← Registry.ids_roll]
    exact Roll.ids_of_more ht.exact.lt_of_registered entries h.registered
  claimed := h.claimed
  ports _ _ hp := port?_of_undone h hp
  owners := outline?_of_undone h

theorem start_kept (ht : n.Tidy i) {threads : Threads} {result : Except BusError Unit}
    (hx : n.outline? i o = some x) (live : x.live = true) (h : n.start threads o = (result, m)) :
    m.Tidy i ∧ Promise i n result m (.start o threads) := by
  obtain ⟨runs, st, -⟩ := ht.steady o x hx
  have only {y : Outline} (hy : n.outline? i o = some y) : y = x :=
    Option.some.inj (hy.symm.trans hx)
  cases runs with
  | true =>
    obtain ⟨rfl, rfl⟩ := Prod.mk.inj ((start_of_running threads st.running).symm.trans h)
    refine ⟨ht, fun y hy => ⟨fun _ => ⟨rfl, rfl⟩, fun idle => ?_⟩⟩
    rw [st.running] at idle
    cases idle
  | false =>
    obtain ⟨answer, launched, halted⟩ := start_spec threads ht.lt ht.exact hx st.running
    rw [h] at answer launched halted
    obtain rfl := answer
    suffices kept : m.Tidy i ∧ (n.startAnswer threads o = .ok () → m.Stands i o x.port true) ∧
        (n.startAnswer threads o ≠ .ok () → m.Stands i o x.port false ∧ (m = n ∨ m.Settled o) ∧
          m.Startable i o x.port) by
      obtain ⟨tidy, works, halts⟩ := kept
      refine ⟨tidy, fun y hy => ⟨fun runs => ?_, fun _ => ?_⟩⟩
      · rw [st.running] at runs
        cases runs
      · rw [only hy]
        exact ⟨rfl, works, halts⟩
    by_cases agrees : n.startAnswer threads o = .ok ()
    · have works := launched agrees
      exact ⟨tidy_of_launched works hx live ht, fun _ => works.stands,
        fun refused => absurd agrees refused⟩
    · rcases halted agrees with same | halt
      · obtain rfl : m = n := same
        exact ⟨ht, fun ok => absurd ok agrees,
          fun _ => ⟨st, .inl rfl, startable_of_tidy ht hx st.running⟩⟩
      · have tidy := tidy_of_halted halt hx ht
        have hx' : m.outline? i o = some x := (congrArg (·.owner? o) halt.roster).trans hx
        exact ⟨tidy, fun ok => absurd ok agrees, fun _ => ⟨halt.stands, .inr halt.settled,
          startable_of_tidy tidy hx' halt.stands.running⟩⟩

theorem stop_kept (ht : n.Tidy i) {result : Except BusError Unit} (hx : n.outline? i o = some x)
    (h : n.stop o = (result, m)) : m.Tidy i ∧ Promise i n result m (.stop o) := by
  obtain ⟨runs, st, -⟩ := ht.steady o x hx
  have only {y : Outline} (hy : n.outline? i o = some y) : y = x :=
    Option.some.inj (hy.symm.trans hx)
  cases runs with
  | true =>
    have halt := stop_spec ht.lt ht.exact hx st.running
    rw [h] at halt
    refine ⟨tidy_of_halted halt hx ht, fun y hy => ?_⟩
    rw [only hy]
    exact ⟨halt.stands, fun _ => halt.settled⟩
  | false =>
    obtain ⟨rfl, rfl⟩ := Prod.mk.inj ((stop_of_stopped st.running).symm.trans h)
    refine ⟨ht, fun y hy => ?_⟩
    rw [only hy]
    refine ⟨st, fun runs => ?_⟩
    rw [st.running] at runs
    cases runs

theorem drop_kept (ht : n.Tidy i) (hx : n.outline? i o = some x) (live : x.live = true)
    (result : Except BusError Unit) :
    (n.drop o).Tidy i ∧ Promise i n result (n.drop o) (.drop o) := by
  obtain ⟨runs, st, -⟩ := ht.steady o x hx
  have gone := drop_spec ht.lt ht.exact hx live st
  refine ⟨tidy_of_dropped gone hx live ht, fun y hy => ?_⟩
  obtain rfl := Option.some.inj (hy.symm.trans hx)
  exact ⟨(congrFun gone.leaves.owner? o).trans (Function.update_self ..), gone.stands⟩

/-- A call keeps what it promises, and leaves the node tidy. -/
theorem call_spec (ht : n.Tidy i) {c : Call} {result : Except BusError Unit} (admits : n.Admits i c)
    (h : n.perform i c = (result, m)) : m.Tidy i ∧ Promise i n result m c := by
  cases c with
  | createGateway id link ingress =>
    have made := createGateway_spec ht.lt (known_of_exact ht.exact) id link ingress
    rcases e : n.createGateway i id link ingress with ⟨answer, m'⟩
    simp only [perform, e, Prod.mk.injEq] at h
    obtain ⟨rfl, rfl⟩ := h
    rw [e] at made
    cases answer with
    | ok g => exact ⟨tidy_of_added made.2 ht, fun failed => absurd rfl failed⟩
    | error e => exact ⟨tidy_of_undone made ht, fun _ => restored_of_undone made ht⟩
  | createSession id =>
    have made := createSession_spec ht.lt id
    rcases e : n.createSession i id with ⟨answer, m'⟩
    simp only [perform, e, Prod.mk.injEq] at h
    obtain ⟨rfl, rfl⟩ := h
    rw [e] at made
    cases answer with
    | ok g => exact ⟨tidy_of_added made.2 ht, fun failed => absurd rfl failed⟩
    | error e => exact ⟨tidy_of_undone made ht, fun _ => restored_of_undone made ht⟩
  | start o threads =>
    obtain ⟨x, hx, live⟩ := admits
    exact start_kept ht hx live h
  | stop o =>
    obtain ⟨x, hx, -⟩ := admits
    exact stop_kept ht hx h
  | drop o =>
    obtain ⟨x, hx, live⟩ := admits
    obtain ⟨-, rfl⟩ := Prod.mk.inj h
    exact drop_kept ht hx live result

theorem tidy_of_step {may : Call → Prop} {beside : Network → Network → Prop}
    (besides : ∀ n m, beside n m → Beside i n m) (h : Step i may beside n m) (ht : n.Tidy i) :
    m.Tidy i := by
  cases h with
  | call c _ admits answers => exact (call_spec ht admits answers).1
  | move hx hmv moves => exact tidy_of_move hx hmv moves ht
  | beside h => exact tidy_of_beside (besides n m h) ht

theorem tidy_of_run {may : Call → Prop} {beside : Network → Network → Prop}
    (besides : ∀ n m, beside n m → Beside i n m) (hf : Fresh n i)
    (h : Relation.ReflTransGen (Step i may beside) n m) : m.Tidy i := by
  induction h with
  | refl => exact tidy_of_fresh hf
  | tail _ last ih => exact tidy_of_step besides last ih

end Network

end FrameBus
