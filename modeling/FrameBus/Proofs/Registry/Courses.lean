import FrameBus.Proofs.Log
import FrameBus.Proofs.Registry.Calls
import Mathlib.Data.List.Nodup

/-!
# Courses of registries

A registry is called any number of times, also from the reactions that a broadcast runs, which may
be anything that calls the registry in turn (`Course`). The log of a course has the calls with their
replies; a broadcast stands there behind what its reactions called. A broadcast that never comes
back is not in a log as such, what its reactions called before is.

However a course goes, the register stays in order (`inOrder_of_course`). Nothing is registered or
claimed twice, or under a reserved id; the queues of registered ports are open, and those of
destroyed ports closed for good, whatever is called on old handles; an id leads to the port that was
made under it last, unless that one is destroyed; a session id is claimed until it is given up; what
is entered or removed is the named entry and nothing else, however a removal orders what is left.
Each of this is kept by every single call (`Kept.effect`, `Recorded.effect`).
-/

namespace FrameBus.Registry

variable {κ : Type} {r s t : Registry κ}

/-! ## Courses -/

inductive Event (κ : Type) where
  | called (c : Call κ) (reply : Reply)
  | broadcast (sender : Handle) (f : Frame) (result : Except BusError Nat)

/-- What a broadcast returns, with what it leaves. -/
def spread (run : Runner κ) (r : Registry κ) (sender : Handle) (f : Frame) :
    Option (Except BusError Nat × Registry κ) :=
  (r.broadcast run sender f).map fun
    | .ok o => (.ok o.accepted, o.after)
    | .error e => (.error e, r)

/-- What reactions log that run one after another. -/
def logAll (run : Runner κ) (logs : κ → Handle → Frame → Registry κ → List (Event κ)) (f : Frame) :
    List (Handle × κ) → Registry κ → List (Event κ)
  | [], _ => []
  | (h, k) :: rest, r =>
    logs k h f r ++ ((run k h f r).map fun (_, s) => logAll run logs f rest s).getD []

/-- What the reactions log that a broadcast runs. -/
def spreadLog (run : Runner κ) (logs : κ → Handle → Frame → Registry κ → List (Event κ))
    (r : Registry κ) (sender : Handle) (f : Frame) : List (Event κ) :=
  if r.isConnected sender then logAll run logs f (r.recipients (r.idOf sender)) r else []

/-- One registry after another, with what was called between. -/
inductive Course : Registry κ → List (Event κ) → Registry κ → Prop
  | start (r : Registry κ) : Course r [] r
  | call {r s : Registry κ} {log : List (Event κ)} (c : Call κ) : Course r log s →
      Course r (log ++ [.called c (s.answer c).1]) (s.answer c).2
  | broadcast {r s t : Registry κ} {log : List (Event κ)} {run : Runner κ}
      {result : Except BusError Nat} (logs : κ → Handle → Frame → Registry κ → List (Event κ))
      (sender : Handle) (f : Frame) : Course r log s →
      (∀ k h u v answer, run k h f u = some (answer, v) → Course u (logs k h f u) v) →
      s.spread run sender f = some (result, t) →
      Course r (log ++ s.spreadLog run logs sender f ++ [.broadcast sender f result]) t

/-- What was done to the register, the oldest first. -/
def entries (log : List (Event κ)) : List Entry :=
  log.filterMap fun
    | .called c reply => c.entry? reply
    | .broadcast _ _ _ => none

/-- The ports that were made, each with its id. -/
def made (log : List (Event κ)) : List (PortId × Handle) := (entries log).filterMap Entry.made?

@[simp] theorem entries_nil : entries ([] : List (Event κ)) = [] := rfl

@[simp] theorem made_nil : made ([] : List (Event κ)) = [] := rfl

/-! ## Courses with the reactions of a node -/

/-- Calls in a row, on a registry that has a log. -/
def callAll (r : Registry κ) (log : List (Event κ)) : List (Call κ) → List (Event κ) × Registry κ
  | [] => (log, r)
  | c :: cs => callAll (r.answer c).2 (log ++ [.called c (r.answer c).1]) cs

theorem course_callAll {log : List (Event κ)} (h : Course r log s) (cs : List (Call κ)) :
    Course r (s.callAll log cs).1 (s.callAll log cs).2 := by
  induction cs generalizing s log with
  | nil => exact h
  | cons c cs ih => exact ih (h.call c)

/-- What a reaction calls. -/
def calledBy (h : Handle) (f : Frame) : Reaction → List (Call Reaction)
  | .copy => [.enqueue h f.duplicate]
  | .send dest => [.send h dest f.duplicate]
  | .destroy id => [.destroyPort id]
  | .refuse | .ignore => []

theorem course_of_reaction {u v : Registry Reaction} {k : Reaction} {h : Handle} {f : Frame}
    {answer : Except BusError Unit} (e : k.run h f u = some (answer, v)) :
    Course u (u.callAll [] (calledBy h f k)).1 v := by
  have course := course_callAll (.start u) (calledBy h f k)
  suffices (u.callAll [] (calledBy h f k)).2 = v from this ▸ course
  cases k with
  | copy =>
    simp only [Reaction.run, enqueueCopy] at e
    simp only [calledBy, callAll, Registry.answer]
    split at e <;> cases e <;> simp [*]
  | send dest =>
    simp only [Reaction.run] at e
    simp only [calledBy, callAll, Registry.answer]
    split at e <;> cases e <;> simp [*]
  | destroy id =>
    simp only [Reaction.run] at e
    simp only [calledBy, callAll, Registry.answer]
    split at e <;> cases e <;> simp [*, orFail]
  | refuse => cases e; rfl
  | ignore => cases e; rfl

/-! ## Courses as calls -/

/-- A course in which what reactions call stands like any call. -/
inductive Calls : Registry κ → List (Event κ) → Registry κ → Prop
  | start (r : Registry κ) : Calls r [] r
  | call {r s : Registry κ} {log : List (Event κ)} (c : Call κ) : Calls r log s →
      Calls r (log ++ [.called c (s.answer c).1]) (s.answer c).2
  | ended {r s : Registry κ} {log : List (Event κ)} (sender : Handle) (f : Frame)
      (result : Except BusError Nat) : Calls r log s →
      Calls r (log ++ [.broadcast sender f result]) s

theorem Calls.trans {log more : List (Event κ)} (h : Calls r log s) (k : Calls s more t) :
    Calls r (log ++ more) t := by
  induction k with
  | start => simpa using h
  | call c _ ih => simpa using ih.call c
  | ended sender f result _ ih => simpa using ih.ended sender f result

theorem calls_of_runAll {run : Runner κ} {logs : κ → Handle → Frame → Registry κ → List (Event κ)}
    {f : Frame} (each : ∀ k h u v answer, run k h f u = some (answer, v) → Calls u (logs k h f u) v)
    {ks : List (Handle × κ)} {o : Outcome κ} (e : runAll run f ks r = some o) :
    Calls r (logAll run logs f ks r) o.after := by
  induction ks generalizing r o with
  | nil =>
    cases e
    exact .start r
  | cons k ks ih =>
    simp only [runAll, Option.bind_eq_bind, Option.bind_eq_some_iff] at e
    obtain ⟨⟨result, u⟩, hk, o', ho, e⟩ := e
    cases e
    simp only [logAll, hk, Option.map_some, Option.getD_some]
    exact (each k.2 k.1 r u result hk).trans (ih ho)

theorem calls_of_spread {run : Runner κ} {logs : κ → Handle → Frame → Registry κ → List (Event κ)}
    {sender : Handle} {f : Frame} {result : Except BusError Nat}
    (each : ∀ k h u v answer, run k h f u = some (answer, v) → Calls u (logs k h f u) v)
    (e : r.spread run sender f = some (result, s)) : Calls r (r.spreadLog run logs sender f) s := by
  unfold spread broadcast at e
  unfold spreadLog
  split
  · next connected =>
    rw [if_pos connected, Option.map_map] at e
    obtain ⟨o, ho, e⟩ := Option.map_eq_some_iff.1 e
    cases e
    exact calls_of_runAll each ho
  · next connected =>
    rw [if_neg connected] at e
    cases e
    exact .start r

theorem calls_of_course {log : List (Event κ)} (h : Course r log s) : Calls r log s := by
  induction h with
  | start r => exact .start r
  | call c _ ih => exact ih.call c
  | broadcast _ _ _ _ _ e ih each =>
    have spread := calls_of_spread (fun k h u v answer run => each k h u v answer run) e
    simpa using (ih.trans spread).ended _ _ _

/-! ## What every call keeps -/

/-- The register of a registry that made ports, in this order. -/
structure Kept (ports : List (PortId × Handle)) (r : Registry κ) : Prop where
  known : ∀ h ∈ r.registered, h < r.ports.length
  ids : r.ids.Nodup
  single : ∀ id ∈ r.ids, id.isReserved = false
  sessions : r.sessions.Nodup
  claimed : ∀ id ∈ r.sessions, id.isReserved = false
  /-- a port is closed from when it is destroyed -/
  closed : ∀ h, h < r.ports.length → (r.ClosedAt h ↔ h ∉ r.registered)
  handles : ports.map Prod.snd = List.range r.ports.length
  /-- no later port was made under the id of a registered one -/
  latest : ∀ h ∈ r.registered, Since (r.idOf h, h) (fun m => m.1 = r.idOf h) ports

theorem kept_new (config : QueueConfig) : Kept [] (new config : Registry κ) where
  known _ h := nomatch h
  ids := .nil
  single _ h := nomatch h
  sessions := .nil
  claimed _ h := nomatch h
  closed _ h := nomatch h
  handles := rfl
  latest _ h := nomatch h

variable {ports : List (PortId × Handle)}

/-- No two registered ports have one id. -/
theorem Kept.unique (h : Kept ports r) {j k : Handle} (hj : j ∈ r.registered)
    (hk : k ∈ r.registered) (same : r.idOf j = r.idOf k) : j = k :=
  List.inj_on_of_nodup_map h.ids hj hk same

theorem Quiet.ids (q : Quiet r s) : s.ids = r.ids := by
  rw [Registry.ids, Registry.ids, q.registered]
  exact List.map_congr_left fun k _ => q.idOf k

theorem Kept.quiet (h : Kept ports r) (q : Quiet r s) : Kept ports s where
  known k hk := by
    rw [q.ports]
    exact h.known k (q.registered ▸ hk)
  ids := q.ids ▸ h.ids
  single := q.ids ▸ h.single
  sessions := q.sessions ▸ h.sessions
  claimed := q.sessions ▸ h.claimed
  closed k hk := by
    rw [q.closed, q.registered]
    exact h.closed k (q.ports ▸ hk)
  handles := by rw [q.ports, h.handles]
  latest k hk := by
    rw [q.idOf]
    exact h.latest k (q.registered ▸ hk)

theorem idOf_of_port? {h : Handle} (e : s.port? h = r.port? h) : s.idOf h = r.idOf h := by
  rw [idOf, e, idOf]

theorem closedAt_of_port? {h : Handle} (e : s.port? h = r.port? h) :
    s.ClosedAt h ↔ r.ClosedAt h := by
  rw [ClosedAt, e, ClosedAt]

theorem Added.idOf {id : PortId} (added : Added r id s) : s.idOf r.ports.length = id := by
  rw [Registry.idOf, added.port]
  rfl

theorem Kept.added (h : Kept ports r) {id : PortId} (added : Added r id s) :
    Kept (ports ++ [(id, r.ports.length)]) s := by
  have old (k : Handle) (hk : k ∈ r.registered) : s.idOf k = r.idOf k :=
    idOf_of_port? (added.others k (h.known k hk))
  have new := added.idOf
  have ids : s.ids = r.ids ++ [id] := by
    rw [Registry.ids, added.registered, List.map_append, List.map_singleton, new]
    exact congrArg (· ++ [id]) (List.map_congr_left old)
  refine ⟨fun k hk => ?_, ?_, fun c hc => ?_, ?_, ?_, fun k hk => ?_, ?_, fun k hk => ?_⟩
  · rw [added.ports]
    rcases List.mem_append.1 (added.registered ▸ hk) with hk | hk
    · exact Nat.lt_succ_of_lt (h.known k hk)
    · rw [List.mem_singleton.1 hk]
      exact Nat.lt_succ_self _
  · rw [ids, List.nodup_append]
    refine ⟨h.ids, by simp, fun c hc d hd => ?_⟩
    rw [List.mem_singleton.1 hd]
    exact fun same => added.free (same ▸ hc)
  · rcases List.mem_append.1 (ids ▸ hc) with hc | hc
    · exact h.single c hc
    · rw [List.mem_singleton.1 hc]
      exact added.single
  · exact added.sessions ▸ h.sessions
  · exact added.sessions ▸ h.claimed
  · rw [added.registered, List.mem_append, List.mem_singleton, not_or]
    rcases Nat.lt_succ_iff_lt_or_eq.1 (added.ports ▸ hk) with hk | rfl
    · rw [closedAt_of_port? (added.others k hk), h.closed k hk]
      exact ⟨fun out => ⟨out, Nat.ne_of_lt hk⟩, And.left⟩
    · constructor
      · rintro ⟨p, hp, closed⟩
        cases added.port.symm.trans hp
        simp at closed
      · exact fun out => absurd rfl out.2
  · rw [List.map_append, h.handles, added.ports, List.range_succ]
    rfl
  · rw [since_concat]
    rcases List.mem_append.1 (added.registered ▸ hk) with hk | hk
    · rw [old k hk]
      exact .inr ⟨h.latest k hk, fun same => added.free (List.mem_map.2 ⟨k, hk, same.symm⟩)⟩
    · rw [List.mem_singleton.1 hk, new]
      exact .inl rfl

theorem Removed.idOf {h : Handle} (removed : Removed r h s) (k : Handle) : s.idOf k = r.idOf k := by
  by_cases hk : k = h
  · subst hk
    rw [Registry.idOf, removed.port, Registry.idOf, Option.map_map]
    rfl
  · exact idOf_of_port? (removed.others k hk)

theorem Removed.ids {h : Handle} (removed : Removed r h s) : (r.idOf h :: s.ids).Perm r.ids := by
  have ids : s.ids = s.registered.map r.idOf := List.map_congr_left fun k _ => removed.idOf k
  rw [ids]
  exact removed.registered.map r.idOf

theorem Removed.closed {h : Handle} (removed : Removed r h s) (known : h < r.ports.length) :
    s.ClosedAt h :=
  ⟨_, by rw [removed.port, port?, List.getElem?_eq_getElem known]; rfl, Queue.isClosed_close _⟩

theorem Removed.mem_iff {h : Handle} (removed : Removed r h s) {k : Handle} :
    k ∈ r.registered ↔ k = h ∨ k ∈ s.registered := by
  rw [← removed.registered.mem_iff, List.mem_cons]

theorem Kept.not_mem_of_removed (h : Kept ports r) {k : Handle} (removed : Removed r k s) :
    k ∉ s.registered :=
  (List.nodup_cons.1 (removed.registered.nodup_iff.2 (List.Nodup.of_map _ h.ids))).1

theorem Kept.removed (h : Kept ports r) {k : Handle} (removed : Removed r k s) : Kept ports s := by
  have ids : (r.idOf k :: s.ids).Nodup := removed.ids.nodup_iff.2 h.ids
  refine ⟨fun j hj => ?_, (List.nodup_cons.1 ids).2, fun c hc => ?_, ?_, ?_, fun j hj => ?_, ?_,
    fun j hj => ?_⟩
  · rw [removed.ports]
    exact h.known j (removed.mem_iff.2 (.inr hj))
  · exact h.single c (removed.ids.subset (List.mem_cons_of_mem _ hc))
  · exact removed.sessions ▸ h.sessions
  · exact removed.sessions ▸ h.claimed
  · by_cases same : j = k
    · subst same
      exact iff_of_true (removed.closed (removed.ports ▸ hj)) (h.not_mem_of_removed removed)
    · rw [closedAt_of_port? (removed.others j same), h.closed j (removed.ports ▸ hj),
        removed.mem_iff]
      simp [same]
  · rw [removed.ports, h.handles]
  · rw [removed.idOf]
    exact h.latest j (removed.mem_iff.2 (.inr hj))

theorem Kept.claim (h : Kept ports r) {id : PortId} (e : r.claimSession id = .ok s) :
    Kept ports s := by
  obtain ⟨free, rfl⟩ := eq_of_claimSession e
  refine ⟨h.known, h.ids, h.single, ?_, fun c hc => ?_, h.closed, h.handles, h.latest⟩
  · refine List.nodup_append.2 ⟨h.sessions, by simp, fun c hc d hd => ?_⟩
    rw [List.mem_singleton.1 hd]
    exact fun same => free (same ▸ hc)
  · rcases List.mem_append.1 hc with hc | hc
    · exact h.claimed c hc
    · rw [List.mem_singleton.1 hc]
      exact isReserved_of_claimSession e

theorem Kept.release (h : Kept ports r) {id : PortId} {sessions : List PortId}
    (perm : (id :: sessions).Perm r.sessions) : Kept ports { r with sessions } where
  known := h.known
  ids := h.ids
  single := h.single
  sessions := (List.nodup_cons.1 (perm.nodup_iff.2 h.sessions)).2
  claimed c hc := h.claimed c (perm.subset (List.mem_cons_of_mem _ hc))
  closed := h.closed
  handles := h.handles
  latest := h.latest

theorem Kept.effect (h : Kept ports r) {c : Call κ} {reply : Reply} (e : Effect r c reply s) :
    Kept (ports ++ ((c.entry? reply).bind Entry.made?).toList) s := by
  cases e with
  | made added => exact h.added added
  | destroyed _ removed => simpa [Call.entry?, Entry.made?] using h.removed removed
  | claimed e => simpa [Call.entry?, Entry.made?] using h.claim e
  | released perm => simpa [Call.entry?, Entry.made?] using h.release perm
  | quiet none q => simpa [none] using h.quiet q

theorem entries_concat_called (log : List (Event κ)) (c : Call κ) (reply : Reply) :
    entries (log ++ [.called c reply]) = entries log ++ (c.entry? reply).toList := by
  cases h : c.entry? reply <;> simp [entries, h]

theorem entries_concat_broadcast (log : List (Event κ)) (sender : Handle) (f : Frame)
    (result : Except BusError Nat) :
    entries (log ++ [.broadcast sender f result]) = entries log := by
  simp [entries]

theorem made_concat_called (log : List (Event κ)) (c : Call κ) (reply : Reply) :
    made (log ++ [.called c reply]) =
      made log ++ ((c.entry? reply).bind Entry.made?).toList := by
  rw [made, entries_concat_called, List.filterMap_append]
  cases c.entry? reply with
  | none => rfl
  | some e => cases h : e.made? <;> simp [made, h]

theorem Kept.calls (h : Kept ports r) {log : List (Event κ)} (hc : Calls r log s) :
    Kept (ports ++ made log) s := by
  induction hc with
  | start => simpa using h
  | call c _ ih =>
    rw [made_concat_called, ← List.append_assoc]
    exact ih.effect (effect_of_answer _ c)
  | ended sender f result _ ih => simpa only [made, entries_concat_broadcast] using ih

/-! ## The register and its log -/

/-- The register is what entries have made of it. -/
structure Recorded (log : List Entry) (r : Registry κ) : Prop where
  ports : ∀ id h, h ∈ r.registered ∧ r.idOf h = id ↔
    Since (.made id h) (fun e => e = .destroyed id) log
  sessions : ∀ id, id ∈ r.sessions ↔ Since (.claimed id) (fun e => e = .released id) log

theorem recorded_new (config : QueueConfig) : Recorded [] (new config : Registry κ) where
  ports id h := by simp [new]
  sessions id := by simp [new]

variable {log : List Entry}

theorem Recorded.added (h : Recorded log r) (kept : Kept ports r) {id : PortId}
    (added : Added r id s) : Recorded (log ++ [.made id r.ports.length]) s where
  ports c k := by
    rw [since_concat, ← h.ports, added.registered, List.mem_append, List.mem_singleton]
    constructor
    · rintro ⟨hk | rfl, own⟩
      · rw [idOf_of_port? (added.others k (kept.known k hk))] at own
        exact .inr ⟨⟨hk, own⟩, by simp⟩
      · exact .inl (by rw [← own, added.idOf])
    · rintro (e | ⟨⟨hk, own⟩, -⟩)
      · cases e
        exact ⟨.inr rfl, added.idOf⟩
      · rw [idOf_of_port? (added.others k (kept.known k hk))]
        exact ⟨.inl hk, own⟩
  sessions c := by
    rw [since_concat, ← h.sessions, added.sessions]
    simp

theorem Recorded.removed (h : Recorded log r) (kept : Kept ports r) {k : Handle}
    (removed : Removed r k s) : Recorded (log ++ [.destroyed (r.idOf k)]) s where
  ports c j := by
    rw [since_concat, ← h.ports, removed.idOf, removed.mem_iff]
    constructor
    · rintro ⟨hj, rfl⟩
      refine .inr ⟨⟨.inr hj, rfl⟩, fun e => ?_⟩
      have same := Entry.destroyed.inj e
      obtain rfl := kept.unique removed.mem (removed.mem_iff.2 (.inr hj)) same
      exact kept.not_mem_of_removed removed hj
    · rintro (e | ⟨⟨rfl | hj, rfl⟩, other⟩)
      · cases e
      · exact absurd rfl other
      · exact ⟨hj, rfl⟩
  sessions c := by
    rw [since_concat, ← h.sessions, removed.sessions]
    simp

theorem Recorded.claim (h : Recorded log r) {id : PortId} (e : r.claimSession id = .ok s) :
    Recorded (log ++ [.claimed id]) s := by
  obtain ⟨-, rfl⟩ := eq_of_claimSession e
  constructor
  · intro c k
    rw [since_concat, ← h.ports]
    simp [Registry.idOf, port?]
  · intro c
    rw [since_concat, ← h.sessions, List.mem_append, List.mem_singleton]
    simp only [Entry.claimed.injEq, reduceCtorEq, not_false_eq_true, and_true]
    rw [or_comm, eq_comm]

theorem Recorded.release (h : Recorded log r) (kept : Kept ports r) {id : PortId}
    {sessions : List PortId} (perm : (id :: sessions).Perm r.sessions) :
    Recorded (log ++ [.released id]) { r with sessions } where
  ports c k := by
    rw [since_concat, ← h.ports]
    simp [Registry.idOf, port?]
  sessions c := by
    have once := List.nodup_cons.1 (perm.nodup_iff.2 kept.sessions)
    rw [since_concat, ← h.sessions, ← perm.mem_iff, List.mem_cons]
    simp only [Entry.released.injEq, reduceCtorEq, false_or]
    constructor
    · rintro hc
      exact ⟨.inr hc, fun same => once.1 (same ▸ hc)⟩
    · rintro ⟨rfl | hc, other⟩
      · exact absurd rfl other
      · exact hc

theorem Recorded.quiet (h : Recorded log r) (q : Quiet r s) : Recorded log s where
  ports c k := by rw [q.registered, q.idOf, h.ports]
  sessions c := by rw [q.sessions, h.sessions]

theorem Recorded.effect (h : Recorded log r) (kept : Kept ports r) {c : Call κ} {reply : Reply}
    (e : Effect r c reply s) : Recorded (log ++ (c.entry? reply).toList) s := by
  cases e with
  | made added => exact h.added kept added
  | destroyed own removed => exact own ▸ h.removed kept removed
  | claimed e => exact h.claim e
  | released perm => exact h.release kept perm
  | quiet none q => simpa [none] using h.quiet q

theorem Recorded.calls (h : Recorded log r) (kept : Kept ports r) {events : List (Event κ)}
    (hc : Calls r events s) : Recorded (log ++ entries events) s := by
  induction hc with
  | start => simpa using h
  | call c told ih =>
    rw [entries_concat_called, ← List.append_assoc]
    exact ih.effect (kept.calls told) (effect_of_answer _ c)
  | ended sender f result _ ih => simpa only [entries_concat_broadcast] using ih

/-! ## Ports that are gone -/

theorem not_mem_of_effect {k : Handle} (known : k < r.ports.length) (out : k ∉ r.registered)
    {c : Call κ} {reply : Reply} (e : Effect r c reply s) :
    k < s.ports.length ∧ k ∉ s.registered := by
  cases e with
  | made added =>
    rw [added.ports, added.registered, List.mem_append, List.mem_singleton, not_or]
    exact ⟨Nat.lt_succ_of_lt known, out, Nat.ne_of_lt known⟩
  | destroyed _ removed =>
    rw [removed.ports]
    exact ⟨known, fun hk => out (removed.registered.subset (List.mem_cons_of_mem _ hk))⟩
  | claimed e =>
    obtain ⟨-, rfl⟩ := eq_of_claimSession e
    exact ⟨known, out⟩
  | released perm => exact ⟨known, out⟩
  | quiet none q =>
    rw [q.ports, q.registered]
    exact ⟨known, out⟩

theorem not_mem_of_calls {k : Handle} (known : k < r.ports.length) (out : k ∉ r.registered)
    {log : List (Event κ)} (h : Calls r log s) : k < s.ports.length ∧ k ∉ s.registered := by
  induction h with
  | start => exact ⟨known, out⟩
  | call c _ ih => exact not_mem_of_effect ih.1 ih.2 (effect_of_answer _ c)
  | ended _ _ _ _ ih => exact ih

/-! ## Registries in order -/

/-- A registry as a course with this log leaves it. -/
structure InOrder (log : List (Event κ)) (r : Registry κ) : Prop where
  ids : r.ids.Nodup ∧ ∀ id ∈ r.ids, id.isReserved = false
  sessions : r.sessions.Nodup ∧ ∀ id ∈ r.sessions, id.isReserved = false
  opened : ∀ h ∈ r.registered, ∃ p, r.port? h = some p ∧ p.queue.isClosed = false
  /-- a destroyed port stays so, however the course goes on -/
  gone : ∀ m ∈ made log, m.2 ∉ r.registered →
    ∀ more s, Course r more s → m.2 ∉ s.registered ∧ s.ClosedAt m.2
  /-- no port is made twice -/
  handles : ((made log).map Prod.snd).Nodup
  get : ∀ id, (r.get? id).isSome ↔ id ∈ r.ids
  latest : ∀ id h, r.get? id = some h → Since (id, h) (fun m => m.1 = id) (made log)
  /-- an id leads to the port that was made under it and not destroyed since -/
  held : ∀ id h, r.get? id = some h ↔
    Since (.made id h) (fun e => e = .destroyed id) (entries log)
  /-- a session id is claimed from when it was claimed until it is released -/
  claims : ∀ id, id ∈ r.sessions ↔
    Since (.claimed id) (fun e => e = .released id) (entries log)
  /-- ports share nothing -/
  apart : ∀ (c : Call κ) h, c.at? = some h → Local r c h
  sends : ∀ sender dest f, ∀ h ∉ r.registered,
    (r.answer (.send sender dest f)).2.port? h = r.port? h
  destroyed : ∀ id ∈ r.ids, ∃ h s, r.get? id = some h ∧ r.destroyPort id = .ok s ∧
    Removed r h s ∧ (id :: s.ids).Perm r.ids ∧ s.ClosedAt h
  undestroyed : ∀ id ∉ r.ids, r.destroyPort id = .error (.portNotFound id)
  created : ∀ id ∉ r.ids, id.isReserved = false →
    ∃ s, r.createPort id = .ok (r.ports.length, s) ∧ Added r id s
  uncreated : ∀ id ∈ r.ids, r.createPort id = .error (.portExists id)
  claimed : ∀ id ∉ r.sessions, id.isReserved = false →
    r.claimSession id = .ok { r with sessions := r.sessions ++ [id] }
  unclaimed : ∀ id ∈ r.sessions, r.claimSession id = .error (.sessionExists id)
  released : ∀ id ∈ r.sessions, ∃ sessions, r.releaseSession id = (true, { r with sessions }) ∧
    (id :: sessions).Perm r.sessions
  unreleased : ∀ id ∉ r.sessions, r.releaseSession id = (false, r)
  refused : ∀ c : Call κ, (r.answer c).1.isRefusal → (r.answer c).2 = r
  unspread : ∀ (run : Runner κ) sender f e s, r.spread run sender f = some (.error e, s) → s = r

theorem find?_of_get? {id : PortId} {h : Handle} (e : r.get? id = some h) :
    r.find? id = some h := by
  unfold get? at e
  split at e
  · cases e
  · exact e

theorem Kept.get? (h : Kept ports r) {id : PortId} (mem : id ∈ r.ids) :
    ∃ k ∈ r.registered, r.get? id = some k ∧ r.idOf k = id := by
  cases e : r.find? id with
  | none => exact absurd mem (find?_eq_none_iff.1 e)
  | some k =>
    obtain ⟨known, own⟩ := mem_registered_of_find? e
    exact ⟨k, known, by simp [Registry.get?, h.single id mem, e], own⟩

theorem Kept.destroyed (h : Kept ports r) {id : PortId} (mem : id ∈ r.ids) :
    ∃ k s, r.get? id = some k ∧ r.destroyPort id = .ok s ∧ Removed r k s ∧
      (id :: s.ids).Perm r.ids ∧ s.ClosedAt k := by
  obtain ⟨k, hk, get, own⟩ := h.get? mem
  obtain ⟨s, e⟩ := destroyPort_isOk mem
  obtain ⟨j, hj, removed⟩ := removed_of_destroyPort e
  obtain rfl : j = k :=
    h.unique removed.mem hk (hj.trans own.symm)
  exact ⟨j, s, get, e, removed, hj ▸ removed.ids, removed.closed (h.known j hk)⟩

theorem Kept.opened (h : Kept ports r) {k : Handle} (hk : k ∈ r.registered) :
    ∃ p, r.port? k = some p ∧ p.queue.isClosed = false := by
  have known := h.known k hk
  refine ⟨r.ports[k], List.getElem?_eq_getElem known, ?_⟩
  rw [← Bool.not_eq_true]
  exact fun closed => (h.closed k known).1 ⟨_, List.getElem?_eq_getElem known, closed⟩ hk

theorem Kept.gone (h : Kept ports r) {k : Handle} (known : k < r.ports.length)
    (out : k ∉ r.registered) {log : List (Event κ)} (hc : Calls r log s) :
    k ∉ s.registered ∧ s.ClosedAt k := by
  obtain ⟨known, out⟩ := not_mem_of_calls known out hc
  exact ⟨out, ((h.calls hc).closed k known).2 out⟩

theorem Kept.lt (h : Kept ports r) {m : PortId × Handle} (hm : m ∈ ports) : m.2 < r.ports.length :=
  List.mem_range.1 (h.handles ▸ List.mem_map_of_mem hm)

theorem createPort_of_not_mem {id : PortId} (out : id ∉ r.ids) (single : id.isReserved = false) :
    ∃ s, r.createPort id = .ok (r.ports.length, s) ∧ Added r id s := by
  have e : r.createPort id = .ok (r.ports.length,
      { r with ports := r.ports ++ [⟨id, .init, .new r.config, none⟩]
               registered := r.registered ++ [r.ports.length] }) := by
    rw [createPort, if_neg (by simp [single]), if_neg (by simp [find?_eq_none_iff.2 out])]
  exact ⟨_, e, (added_of_createPort e).2⟩

theorem Kept.createPort_of_mem (h : Kept ports r) {id : PortId} (mem : id ∈ r.ids) :
    r.createPort id = .error (.portExists id) := by
  have found : (r.find? id).isSome = true := by
    rw [Option.isSome_iff_ne_none]
    exact fun none => find?_eq_none_iff.1 none mem
  rw [createPort, if_neg (by simp [h.single id mem]), if_pos found]

theorem claimSession_of_not_mem {id : PortId} (out : id ∉ r.sessions)
    (single : id.isReserved = false) :
    r.claimSession id = .ok { r with sessions := r.sessions ++ [id] } := by
  rw [claimSession, if_neg (by simp [single]), if_neg (by simpa using out)]

theorem Kept.claimSession_of_mem (h : Kept ports r) {id : PortId} (mem : id ∈ r.sessions) :
    r.claimSession id = .error (.sessionExists id) := by
  rw [claimSession, if_neg (by simp [h.claimed id mem]), if_pos (by simpa using mem)]

/-- An id leads to the registered port that has it. -/
theorem Kept.get?_eq_some_iff (h : Kept ports r) {id : PortId} {k : Handle} :
    r.get? id = some k ↔ k ∈ r.registered ∧ r.idOf k = id := by
  refine ⟨fun e => mem_registered_of_find? (find?_of_get? e), ?_⟩
  rintro ⟨hk, rfl⟩
  obtain ⟨j, hj, get, own⟩ := h.get? (List.mem_map_of_mem hk)
  rw [get, h.unique hj hk own]

theorem eq_of_spread_error {run : Runner κ} {sender : Handle} {f : Frame} {e : BusError}
    (h : r.spread run sender f = some (.error e, s)) : s = r := by
  obtain ⟨result, -, h⟩ := Option.map_eq_some_iff.1 h
  cases result with
  | ok o => cases h
  | error e => cases h; rfl

theorem inOrder_of_course {config : QueueConfig} {log : List (Event κ)}
    (h : Course (new config) log r) : InOrder log r := by
  have kept : Kept (made log) r := (kept_new config).calls (calls_of_course h)
  have recorded : Recorded (entries log) r :=
    (recorded_new config).calls (kept_new config) (calls_of_course h)
  exact {
    ids := ⟨kept.ids, kept.single⟩
    sessions := ⟨kept.sessions, kept.claimed⟩
    opened := fun k hk => kept.opened hk
    gone := fun m hm out more s hs => kept.gone (kept.lt hm) out (calls_of_course hs)
    handles := kept.handles ▸ List.nodup_range
    get := fun id => by
      refine ⟨fun some => ?_, fun mem => ?_⟩
      · obtain ⟨k, hk⟩ := Option.isSome_iff_exists.1 some
        obtain ⟨hk, own⟩ := mem_registered_of_find? (find?_of_get? hk)
        exact List.mem_map.2 ⟨k, hk, own⟩
      · obtain ⟨k, -, get, -⟩ := kept.get? mem
        rw [get]
        rfl
    latest := fun id k e => by
      obtain ⟨hk, rfl⟩ := mem_registered_of_find? (find?_of_get? e)
      exact kept.latest k hk
    held := fun id k => kept.get?_eq_some_iff.trans (recorded.ports id k)
    claims := recorded.sessions
    apart := fun _ _ => local_of_at
    sends := fun sender dest f k out => port?_of_send sender dest f out
    destroyed := fun id mem => kept.destroyed mem
    undestroyed := fun id out => destroyPort_of_not_mem out
    created := fun id => createPort_of_not_mem
    uncreated := fun id => kept.createPort_of_mem
    claimed := fun id => claimSession_of_not_mem
    unclaimed := fun id => kept.claimSession_of_mem
    released := fun id mem => releaseSession_of_mem mem
    unreleased := fun id out => releaseSession_of_not_mem out
    refused := fun _ => answer_of_isRefusal
    unspread := fun _ _ _ _ _ => eq_of_spread_error }

/-- The first of three ports gets back its connection after it was destroyed and made anew; of two
claims one is given up. -/
theorem inOrder_of_course_after_recreation :
    let a := PortId.ofParts 1 1 2
    let b := PortId.ofParts 1 1 3
    let c := PortId.ofParts 1 1 4
    ∃ (log : List (Event Reaction)) (r : Registry Reaction),
      Course (new ⟨.double, some 1⟩) log r ∧ made log = [(a, 0), (b, 1), (c, 2), (a, 3)] ∧
        r.ids = [c, b, a] ∧ r.sessions = [b] ∧ r.get? a = some 3 ∧ r.isConnected 0 = true ∧
        r.ClosedAt 0 ∧ (r.frames 1).length = 1 ∧ InOrder log r := by
  intro a b c
  have before := course_callAll (.start (new ⟨.double, some 1⟩ : Registry Reaction))
    [.createPort a, .createPort b, .createPort c, .setReaction 1 .copy, .setState 0 .conn,
      .setState 1 .conn]
  have told := before.broadcast (fun k h f u => (u.callAll [] (calledBy h f k)).1) 0 (.ofBytes [])
    (fun _ _ _ _ _ => course_of_reaction) rfl
  have after := course_callAll told [.destroyPort a, .setState 0 .conn, .createPort a,
    .claimSession a, .claimSession b, .releaseSession a]
  have order := inOrder_of_course after
  have gone := order.gone (a, 0) (by decide +kernel) (by decide +kernel) _ _ (.start _)
  exact ⟨_, _, after, by decide +kernel, by decide +kernel, by decide +kernel, by decide +kernel,
    by decide +kernel, gone.2, by decide +kernel, order⟩

end FrameBus.Registry
