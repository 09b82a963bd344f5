import FrameBus.Proofs.Registry.Targets

/-!
# Whom a broadcast serves

A broadcast takes note of the other connected ports that have reactions, each with its reaction
(`Registry.Snapshot`), and runs these reactions one after another, each once, in the order of the
register and on the frame as it is (`Registry.Runs`). What a reaction does to the registry is for
the later ones to find, but it changes nothing about which of them are run: a port that was
destroyed meanwhile still has its turn (`broadcast_serves_snapshot`).

The reactions are any function of the port, the frame and the registry. Since a port has one turn in
a broadcast, this stands for whatever reactions may do, also for such that remember.
-/

namespace FrameBus.Registry

variable {κ : Type} {r s : Registry κ} {p q : Port κ} {sender h : Handle} {id : PortId} {f : Frame}
  {run : Runner κ}

/-! ## Snapshots -/

/-- A connected port under another id has a reaction. -/
def Hears (r : Registry κ) (id : PortId) (h : Handle) (k : κ) : Prop :=
  ∃ p, r.port? h = some p ∧ p.id ≠ id ∧ p.state = .conn ∧ p.reaction = some k

/-- The registered ports that hear an id, with their reactions. -/
structure Snapshot (r : Registry κ) (id : PortId) (l : List (Handle × κ)) : Prop where
  order : (l.map Prod.fst).Sublist r.registered
  once : (l.map Prod.fst).Nodup
  members : ∀ h k, (h, k) ∈ l ↔ h ∈ r.registered ∧ r.Hears id h k

/-- What a port adds to the recipients. -/
def hearer (r : Registry κ) (id : PortId) (h : Handle) : Option (Handle × κ) :=
  match r.port? h with
  | some p => if p.id != id && p.isConnected then p.reaction.map fun k => (h, k) else none
  | none => none

theorem hears_iff {k : κ} (port : r.port? h = some p) :
    r.Hears id h k ↔ (p.id != id && p.isConnected) = true ∧ p.reaction = some k := by
  rw [Bool.and_eq_true, bne_iff_ne, Port.isConnected, beq_iff_eq, and_assoc]
  constructor
  · rintro ⟨q, at_h, hears⟩
    obtain rfl := Option.some.inj (port.symm.trans at_h)
    exact hears
  · exact fun hears => ⟨p, port, hears⟩

theorem hearer_eq_some_iff {x : Handle × κ} :
    r.hearer id h = some x ↔ x.1 = h ∧ r.Hears id h x.2 := by
  obtain ⟨g, k⟩ := x
  cases port : r.port? h with
  | none =>
    refine ⟨fun e => ?_, fun ⟨_, q, at_h, _⟩ => ?_⟩
    · simp [hearer, port] at e
    · cases port.symm.trans at_h
  | some p =>
    rw [hears_iff port]
    simp only [hearer, port]
    cases p.id != id && p.isConnected with
    | false => exact ⟨nofun, fun hears => absurd hears.2.1 Bool.false_ne_true⟩
    | true =>
      rw [if_pos rfl, Option.map_eq_some_iff]
      constructor
      · rintro ⟨_, reacts, same⟩
        cases same
        exact ⟨rfl, rfl, reacts⟩
      · rintro ⟨rfl, -, reacts⟩
        exact ⟨k, reacts, rfl⟩

theorem recipients_eq (r : Registry κ) (id : PortId) :
    r.recipients id = r.registered.filterMap (r.hearer id) := rfl

/-- The places that a list of them keeps are some of it, in its order. -/
theorem sublist_filterMap {α β : Type} {g : α → Option (α × β)}
    (same : ∀ a x, g a = some x → x.1 = a) (l : List α) :
    ((l.filterMap g).map Prod.fst).Sublist l := by
  induction l with
  | nil => exact .slnil
  | cons a l ih =>
    cases e : g a with
    | none => rw [List.filterMap_cons_none e]; exact ih.cons a
    | some x =>
      rw [List.filterMap_cons_some e, List.map_cons, same a x e]
      exact ih.cons_cons a

theorem snapshot_recipients (nodup : r.registered.Nodup) (id : PortId) :
    r.Snapshot id (r.recipients id) := by
  have order : ((r.recipients id).map Prod.fst).Sublist r.registered :=
    sublist_filterMap (fun h x e => (hearer_eq_some_iff.1 e).1) _
  refine ⟨order, order.nodup nodup, fun h k => ?_⟩
  rw [recipients_eq, List.mem_filterMap]
  constructor
  · rintro ⟨g, known, e⟩
    obtain ⟨rfl, hears⟩ := hearer_eq_some_iff.1 e
    exact ⟨known, hears⟩
  · rintro ⟨known, hears⟩
    exact ⟨h, known, hearer_eq_some_iff.2 ⟨rfl, hears⟩⟩

/-! ## Runs of reactions -/

/-- A reaction that was run: on what, and what it found, answered and left. -/
structure Run (κ : Type) where
  port : Handle
  reaction : κ
  frame : Frame
  before : Registry κ
  answer : Except BusError Unit
  after : Registry κ

def Run.turn (x : Run κ) : Handle × κ := (x.port, x.reaction)

/-- Reactions run one after another, each where the one before it left off. -/
inductive Runs (run : Runner κ) : Registry κ → List (Run κ) → Registry κ → Prop
  | done (r : Registry κ) : Runs run r [] r
  | next {x : Run κ} {rest : List (Run κ)} {s : Registry κ} :
      run x.reaction x.port x.frame x.before = some (x.answer, x.after) →
      Runs run x.after rest s → Runs run x.before (x :: rest) s

/-- The reactions of a list ran on one frame, in this order. -/
structure Rounds (run : Runner κ) (f : Frame) (r : Registry κ) (l : List (Handle × κ))
    (runs : List (Run κ)) (s : Registry κ) : Prop where
  ran : Runs run r runs s
  turns : runs.map Run.turn = l
  frame : ∀ x ∈ runs, x.frame = f

theorem Rounds.nil (run : Runner κ) (f : Frame) (r : Registry κ) : Rounds run f r [] [] r :=
  ⟨.done r, rfl, fun _ hx => absurd hx List.not_mem_nil⟩

theorem Rounds.cons {k : κ} {l : List (Handle × κ)} {runs : List (Run κ)} {t : Registry κ}
    {answer : Except BusError Unit} (ran : run k h f r = some (answer, t))
    (rest : Rounds run f t l runs s) :
    Rounds run f r ((h, k) :: l) (⟨h, k, f, r, answer, t⟩ :: runs) s where
  ran := .next (x := ⟨h, k, f, r, answer, t⟩) ran rest.ran
  turns := by rw [List.map_cons, rest.turns]; rfl
  frame x hx := by
    rcases List.mem_cons.1 hx with rfl | hx
    · rfl
    · exact rest.frame x hx

theorem Rounds.uncons {k : κ} {l : List (Handle × κ)} {runs : List (Run κ)}
    (rounds : Rounds run f r ((h, k) :: l) runs s) :
    ∃ answer t rest, runs = ⟨h, k, f, r, answer, t⟩ :: rest ∧ run k h f r = some (answer, t) ∧
      Rounds run f t l rest s := by
  obtain ⟨all, turns, frame⟩ := rounds
  cases all with
  | done => cases turns
  | @next x rest _ ran later =>
    obtain ⟨port, reaction, frame', before, answer, after⟩ := x
    obtain rfl : frame' = f := frame _ List.mem_cons_self
    simp only [List.map_cons, Run.turn, List.cons.injEq, Prod.mk.injEq] at turns
    obtain ⟨⟨rfl, rfl⟩, turns⟩ := turns
    exact ⟨answer, after, rest, rfl, ran, later, turns, fun x hx =>
      frame x (List.mem_cons_of_mem _ hx)⟩

theorem runAll_cons (k : Handle × κ) (l : List (Handle × κ)) :
    runAll run f (k :: l) r = (run k.2 k.1 f r).bind fun x =>
      (runAll run f l x.2).map fun o => { o with calls := (k.1, x.1) :: o.calls } := by
  simp only [runAll, Option.bind_eq_bind]
  congr 1
  funext x
  cases runAll run f l x.2 <;> rfl

theorem runAll_eq_some_iff {l : List (Handle × κ)} {o : Outcome κ} :
    runAll run f l r = some o ↔ ∃ runs, Rounds run f r l runs o.after ∧
      o.calls = runs.map fun x => (x.port, x.answer) := by
  induction l generalizing r o with
  | nil =>
    constructor
    · intro e
      cases e
      exact ⟨[], .nil run f r, rfl⟩
    · rintro ⟨runs, ⟨all, turns, -⟩, calls⟩
      obtain rfl := List.map_eq_nil_iff.1 turns
      obtain ⟨calls', after⟩ := o
      cases all
      cases calls
      rfl
  | cons k l ih =>
    rw [runAll_cons, Option.bind_eq_some_iff]
    constructor
    · rintro ⟨⟨answer, t⟩, ran, rest⟩
      obtain ⟨o', later, rfl⟩ := Option.map_eq_some_iff.1 rest
      obtain ⟨runs, rounds, calls⟩ := ih.1 later
      exact ⟨_, rounds.cons ran, by simp [calls]⟩
    · rintro ⟨runs, rounds, calls⟩
      obtain ⟨answer, t, rest, rfl, ran, later⟩ := rounds.uncons
      have tail : runAll run f l t = some ⟨rest.map fun x => (x.port, x.answer), o.after⟩ :=
        ih.2 ⟨rest, later, rfl⟩
      refine ⟨(answer, t), ran, ?_⟩
      simp only [tail, Option.map_some, Option.some.injEq]
      rw [List.map_cons] at calls
      rw [← calls]

/-- A reaction that does not come back has its turn after others that did. -/
theorem runAll_eq_none_iff {l : List (Handle × κ)} :
    runAll run f l r = none ↔ ∃ before h k after runs s, l = before ++ (h, k) :: after ∧
      Rounds run f r before runs s ∧ run k h f s = none := by
  induction l generalizing r with
  | nil =>
    refine ⟨nofun, ?_⟩
    rintro ⟨before, h, k, after, runs, s, split, -⟩
    cases before <;> cases split
  | cons k l ih =>
    rw [runAll_cons]
    constructor
    · intro stuck
      cases ran : run k.2 k.1 f r with
      | none => exact ⟨[], k.1, k.2, l, [], r, rfl, .nil run f r, ran⟩
      | some x =>
        obtain ⟨answer, t⟩ := x
        rw [ran, Option.bind_some, Option.map_eq_none_iff] at stuck
        obtain ⟨before, h, k', after, runs, s, rfl, rounds, never⟩ := ih.1 stuck
        exact ⟨k :: before, h, k', after, _, s, rfl, rounds.cons ran, never⟩
    · rintro ⟨before, h, k', after, runs, s, split, rounds, never⟩
      cases before with
      | nil =>
        obtain ⟨all, turns, -⟩ := rounds
        obtain rfl := List.map_eq_nil_iff.1 turns
        cases all
        cases split
        rw [never, Option.bind_none]
      | cons k'' before =>
        cases split
        obtain ⟨answer, t, rest, rfl, ran, later⟩ := rounds.uncons
        rw [ran, Option.bind_some, Option.map_eq_none_iff]
        exact ih.2 ⟨before, h, k', after, rest, s, rfl, later, never⟩

/-! ## Copies -/

/-- One registry after another: some ports took a copy of a frame, and nothing else changed. -/
structure Copied (r : Registry κ) (hs : List Handle) (f : Frame) (s : Registry κ) : Prop where
  took : ∀ h ∈ hs, ∃ q g, r.port? h = some q ∧
    s.port? h = some { q with queue := q.queue.add g } ∧ s.frames h = r.frames h ++ [g] ∧
      g.window = f.window ∧ g.headRoom = 32
  others : ∀ h ∉ hs, s.port? h = r.port? h
  registered : s.registered = r.registered
  sessions : s.sessions = r.sessions
  config : s.config = r.config

theorem frames_of_port? (same : s.port? h = r.port? h) : s.frames h = r.frames h := by
  rw [frames, same, frames]

theorem Copied.cons {t : Registry κ} {hs : List Handle} (port : r.port? h = some q)
    (gains : Gains r h q f.duplicate t) (fresh : h ∉ hs) (rest : Copied t hs f s) :
    Copied r (h :: hs) f s where
  took k hk := by
    rcases List.mem_cons.1 hk with rfl | hk
    · have still := rest.others k fresh
      refine ⟨q, f.duplicate, port, still.trans gains.port, ?_, rfl, by
        simp [Frame.duplicate, Frame.withHeadRoom, Frame.headRoom, Frame.defaultHeadRoom]⟩
      rw [frames_of_port? still, gains.frames]
    · have other : k ≠ h := fun same => fresh (same ▸ hk)
      have still := gains.others k other
      obtain ⟨q', g, at_k, took⟩ := rest.took k hk
      rw [frames_of_port? still] at took
      exact ⟨q', g, still ▸ at_k, took⟩
  others k hk := by
    obtain ⟨other, hk⟩ := not_or.1 (mt List.mem_cons.2 hk)
    rw [rest.others k hk, gains.others k other]
  registered := rest.registered.trans gains.registered
  sessions := rest.sessions.trans gains.sessions
  config := rest.config.trans gains.config

theorem copied_of_runAll {l : List (Handle × κ)} (once : (l.map Prod.fst).Nodup)
    (copies : ∀ x ∈ l, ∀ s, run x.2 x.1 f s = s.enqueueCopy x.1 f)
    (room : ∀ x ∈ l, ∃ q, r.port? x.1 = some q ∧ q.queue.isClosed = false ∧
      q.queue.isFull = false) :
    ∃ o, runAll run f l r = some o ∧ o.accepted = l.length ∧
      Copied r (l.map Prod.fst) f o.after := by
  induction l generalizing r with
  | nil => exact ⟨⟨[], r⟩, rfl, rfl, nofun, fun _ _ => rfl, rfl, rfl, rfl⟩
  | cons x l ih =>
    obtain ⟨fresh, once⟩ := List.nodup_cons.1 once
    obtain ⟨q, port, opened, free⟩ := room x List.mem_cons_self
    obtain ⟨t, put, gains⟩ := gains_of_room port opened free f.duplicate
    have ran : run x.2 x.1 f r = some (.ok (), t) := by
      rw [copies x List.mem_cons_self, enqueueCopy, put]
    have later (y : Handle × κ) (hy : y ∈ l) : t.port? y.1 = r.port? y.1 :=
      gains.others y.1 fun same => fresh (same ▸ List.mem_map_of_mem hy)
    obtain ⟨o, rest, count, copied⟩ := ih once (fun y hy => copies y (List.mem_cons_of_mem _ hy))
      fun y hy => by rw [later y hy]; exact room y (List.mem_cons_of_mem _ hy)
    refine ⟨{ o with calls := (x.1, .ok ()) :: o.calls }, ?_, ?_, copied.cons port gains fresh⟩
    · rw [runAll_cons, ran, Option.bind_some]
      simp only [rest, Option.map_some]
    · rw [Outcome.accepted, List.countP_cons_of_pos rfl, List.length_cons]
      exact congrArg (· + 1) count

/-! ## Broadcasts -/

/-- What a broadcast does, by the register when it is called. -/
structure ServesSnapshot (run : Runner κ) (r : Registry κ) (sender : Handle) (p : Port κ)
    (f : Frame) : Prop where
  snapshot : r.Snapshot p.id (r.recipients p.id)
  refused : p.state ≠ .conn → r.spread run sender f = some (.error (.notConnected p.id), r)
  served : p.state = .conn → ∀ result s, r.spread run sender f = some (result, s) ↔
    ∃ runs, Rounds run f r (r.recipients p.id) runs s ∧
      result = .ok (runs.countP fun x => x.answer.isOk)
  /-- it comes back unless a reaction does not -/
  stuck : p.state = .conn → (r.spread run sender f = none ↔
    ∃ before h k after runs s, r.recipients p.id = before ++ (h, k) :: after ∧
      Rounds run f r before runs s ∧ run k h f s = none)
  /-- where all recipients copy and have room -/
  copied : p.state = .conn →
    (∀ h ∈ r.registered, ∀ k, r.Hears p.id h k → ∀ s, run k h f s = s.enqueueCopy h f) →
    (∀ h ∈ r.registered, ∀ k q, r.Hears p.id h k → r.port? h = some q →
      q.queue.isFull = false) →
    ∃ s, r.spread run sender f = some (.ok (r.recipients p.id).length, s) ∧
      Copied r ((r.recipients p.id).map Prod.fst) f s

theorem spread_of_connected (hp : r.port? sender = some p) (joined : p.state = .conn) :
    r.spread run sender f =
      (runAll run f (r.recipients p.id) r).map fun o => (.ok o.accepted, o.after) := by
  rw [spread, broadcast, if_pos ((isConnected_of_port? hp).2 joined), idOf_eq hp, Option.map_map]
  rfl

theorem spread_of_unconnected (hp : r.port? sender = some p) (idle : p.state ≠ .conn) :
    r.spread run sender f = some (.error (.notConnected p.id), r) := by
  rw [spread, broadcast, if_neg (mt (isConnected_of_port? hp).1 idle), idOf_eq hp]
  rfl

theorem accepted_eq_countP {o : Outcome κ} {runs : List (Run κ)}
    (calls : o.calls = runs.map fun x => (x.port, x.answer)) :
    o.accepted = runs.countP fun x => x.answer.isOk := by
  rw [Outcome.accepted, calls, List.countP_map]
  rfl

theorem broadcast_serves_snapshot {config : QueueConfig} {log : List (Event κ)}
    (course : Course (new config) log r) (hp : r.port? sender = some p) (run : Runner κ)
    (f : Frame) : ServesSnapshot run r sender p f := by
  have kept : Kept (made log) r := (kept_new config).calls (calls_of_course course)
  have snapshot : r.Snapshot p.id (r.recipients p.id) :=
    snapshot_recipients (List.Nodup.of_map _ kept.ids) p.id
  refine ⟨snapshot, spread_of_unconnected hp, fun joined result s => ?_, fun joined => ?_,
    fun joined copies room => ?_⟩
  · rw [spread_of_connected hp joined, Option.map_eq_some_iff]
    constructor
    · rintro ⟨o, ran, same⟩
      cases same
      obtain ⟨runs, rounds, calls⟩ := runAll_eq_some_iff.1 ran
      exact ⟨runs, rounds, by rw [accepted_eq_countP calls]⟩
    · rintro ⟨runs, rounds, rfl⟩
      let o : Outcome κ := ⟨runs.map fun x => (x.port, x.answer), s⟩
      refine ⟨o, runAll_eq_some_iff.2 ⟨runs, rounds, rfl⟩, ?_⟩
      rw [accepted_eq_countP (o := o) rfl]
  · rw [spread_of_connected hp joined, Option.map_eq_none_iff, runAll_eq_none_iff]
  · have heard (x : Handle × κ) (hx : x ∈ r.recipients p.id) := (snapshot.members x.1 x.2).1 hx
    obtain ⟨o, ran, count, copied⟩ := copied_of_runAll snapshot.once
      (fun x hx => copies x.1 (heard x hx).1 x.2 (heard x hx).2) fun x hx => by
        obtain ⟨known, hears⟩ := heard x hx
        obtain ⟨q, port, opened⟩ := kept.opened known
        exact ⟨q, port, opened, room x.1 known x.2 q hears port⟩
    refine ⟨o.after, ?_, copied⟩
    rw [spread_of_connected hp joined, ran, Option.map_some, count]

/-- The first of three recipients destroys the second, which has its turn all the same, and the
third takes a copy. -/
theorem broadcast_over_destruction :
    let gone := PortId.ofParts 1 1 4
    let f := Frame.ofBytes [1, 2]
    ∃ (log : List (Event Reaction)) (r s : Registry Reaction) (p : Port Reaction),
      Course (new ⟨.double, some 1⟩) log r ∧ r.port? 0 = some p ∧ p.state = .conn ∧
        ServesSnapshot Reaction.run r 0 p f ∧ r.spread Reaction.run 0 f = some (.ok 2, s) ∧
        gone ∈ r.ids ∧ gone ∉ s.ids ∧ (s.frames 3).length = 1 ∧
        ∃ runs, Rounds Reaction.run f r [(1, .destroy gone), (2, .copy), (3, .copy)] runs s := by
  intro gone f
  let calls : List (Call Reaction) :=
    [.createPort (.ofParts 1 1 2), .createPort (.ofParts 1 1 3), .createPort gone,
      .createPort (.ofParts 1 1 5), .setReaction 1 (.destroy gone), .setReaction 2 .copy,
      .setReaction 3 .copy, .setState 0 .conn, .setState 1 .conn, .setState 2 .conn,
      .setState 3 .conn]
  let r : Registry Reaction := (callAll (new ⟨.double, some 1⟩) [] calls).2
  have course : Course (new ⟨.double, some 1⟩) _ r := course_callAll (.start _) calls
  have sender : (r.port? 0).map (fun p => (p.id, p.state)) = some (.ofParts 1 1 2, .conn) := by
    decide +kernel
  obtain ⟨p, port, sender⟩ := Option.map_eq_some_iff.1 sender
  obtain ⟨own, joined⟩ := Prod.mk.inj sender
  have serves := broadcast_serves_snapshot course port Reaction.run f
  have recipients :
      r.recipients (.ofParts 1 1 2) = [(1, .destroy gone), (2, .copy), (3, .copy)] := by
    decide +kernel
  have left : (r.spread Reaction.run 0 f).map (fun x => (x.1, x.2.ids, (x.2.frames 3).length)) =
      some (.ok 2, [.ofParts 1 1 2, .ofParts 1 1 3, .ofParts 1 1 5], 1) := by decide +kernel
  obtain ⟨⟨result, s⟩, spread, left⟩ := Option.map_eq_some_iff.1 left
  simp only [Prod.mk.injEq] at left
  obtain ⟨rfl, ids, frames⟩ := left
  obtain ⟨runs, rounds, -⟩ := (serves.served joined _ _).1 spread
  rw [own, recipients] at rounds
  refine ⟨_, r, s, p, course, port, joined, serves, spread, by decide +kernel, ?_, frames, runs,
    rounds⟩
  rw [ids]
  decide +kernel

end FrameBus.Registry
