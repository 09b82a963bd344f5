import FrameBus.Proofs.Queue.Sections
import Mathlib.Logic.Relation

/-!
# One caller at a queue

Requests that are made one after the other meet nobody else at the queue. A lone call goes through
its sections until it has an answer (`Comes`) or waits for what nobody will bring (`Blocks`), and
which of the two it is can be told at once (`comes_iff`, `blocks_iff`). To such a caller the two
designs are one: a `double` queue answers whatever the `single` one answers, because its back list
is never longer than the one list of the other (`Agree.full`).

    ¬ Halts (new single) rs → ¬ Halts (new double) rs, with the same responses   (designs_agree)
-/

namespace FrameBus.Queue

variable {α : Type}

/-! ## A lone call -/

/-- A step of a thread that is there already. -/
inductive World.Goes : World α → World α → Prop
  | run {w v : World α} (t pick : Nat) : w.run t pick = some v → Goes w v
  | expire {w v : World α} (t : Nat) : w.expire t = some v → Goes w v

/-- A lone call comes to its answer and leaves the queue `r`. -/
def Comes (q : Queue α) (call : Call α) (answer : Answer α) (r : Queue α) : Prop :=
  ∃ w, Relation.ReflTransGen World.Goes ⟨q, [.ready call], [], []⟩ w ∧
    w.threads = [.done answer] ∧ w.queue = r

/-- A lone call comes to a place from where it never goes on. -/
def Blocks (q : Queue α) (call : Call α) : Prop :=
  ∃ w, Relation.ReflTransGen World.Goes ⟨q, [.ready call], [], []⟩ w ∧
    (∀ v, ¬ World.Goes w v) ∧ ∀ answer, w.threads ≠ [.done answer]

/-- What a lone call comes to: its answer and the queue behind it, or nothing if it blocks. -/
def visit (q : Queue α) : Call α → Option (Answer α × Queue α)
  | .push a =>
    match q.offer a with
    | .accepted r => some (.accepted, r)
    | .closed => some (.rejected a, q)
    | .full => none
  | .pop timed =>
    match q.poll with
    | (.item a, r) => some (.popped a, r)
    | (.closed, _) => some (.drained, q)
    | (.timedOut, _) => if timed then some (.timedOut, q) else none
  | .close => some (.closed, q.close)

/-- What a lone thread does next: a section, or, parked for a limited time, the end of it. -/
def next? (q : Queue α) (s : Stand α) : Option (Queue α × Stand α) :=
  match advance q s, s with
  | some e, _ => some (e.queue, e.stand)
  | none, .parked (.pop true) => some (q, .expired (.pop true))
  | none, _ => none

/-- One step of a lone thread. -/
def LoneStep (a b : Queue α × Stand α) : Prop := next? a.1 a.2 = some b

theorem unlocked_lone (q : Queue α) (s : Stand α) (xs ys : List α) :
    World.unlocked ⟨q, [s], xs, ys⟩ s = true := by
  cases q with
  | single => rfl
  | double => cases s <;> first | rfl | next call => cases call <;> rfl

theorem Double.wake_of_cross (q : Double α) (s : Stand α) :
    (q.cross s).signal = .nobody ∨ (q.cross s).stand.wake = (q.cross s).stand := by
  unfold cross
  split
  · exact .inl rfl
  · exact .inr rfl

/-- A section that parks its thread notifies nobody. -/
theorem wake_of_advance {q : Queue α} {s : Stand α} {e : Effect α} (h : advance q s = some e) :
    e.signal = .nobody ∨ e.stand.wake = e.stand := by
  cases q with
  | single q =>
    replace h : Single.advance q s = some e := h
    revert h
    fun_cases Single.advance q s <;> intro h <;> cases h <;>
      first | exact .inr rfl | exact .inl rfl
  | double q =>
    replace h : Double.advance q s = some e := h
    revert h
    fun_cases Double.advance q s <;> intro h <;> cases h <;>
      first | exact .inr rfl | exact .inl rfl | exact Double.wake_of_cross q _

theorem wakeOne_of_wake {kind : Stand α → Bool} {s : Stand α} (h : s.wake = s) (pick : Nat) :
    World.wakeOne kind pick [s] = [s] := by
  unfold World.wakeOne
  split
  · cases pick
    · rw [h]
    · rfl
  · rfl

/-- Nobody but the thread itself could hear a notification. -/
theorem notify_lone {s : Stand α} {signal : Signal} (h : signal = .nobody ∨ s.wake = s)
    (pick : Nat) : World.notify pick [s] signal = [s] := by
  rcases h with rfl | h
  · rfl
  · cases signal with
    | nobody => rfl
    | oneConsumer => exact wakeOne_of_wake h _
    | oneProducer => exact wakeOne_of_wake h _
    | allProducers => simp [World.notify, h]
    | everyone => simp [World.notify, h]

theorem advance_parked (q : Queue α) (call : Call α) : advance q (.parked call) = none := by
  cases q <;> rfl

theorem loneStep_of_goes {w v : World α} {s : Stand α} (hw : w.threads = [s])
    (h : World.Goes w v) : ∃ t, v.threads = [t] ∧ LoneStep (w.queue, s) (v.queue, t) := by
  obtain ⟨q, threads, xs, ys⟩ := w
  cases hw
  cases h with
  | run t pick hr =>
    obtain ⟨s', e, ht, -, he, rfl⟩ := World.run_eq_some hr
    obtain ⟨rfl, rfl⟩ : t = 0 ∧ s = s' := by
      simpa [List.getElem?_eq_some_iff] using ht
    refine ⟨e.stand, notify_lone (wake_of_advance he) pick, ?_⟩
    show next? q s = some (e.queue, e.stand)
    simp only [next?, he]
  | expire t he =>
    obtain ⟨ht, rfl⟩ := World.expire_eq_some he
    obtain ⟨rfl, rfl⟩ : t = 0 ∧ s = .parked (.pop true) := by
      simpa [List.getElem?_eq_some_iff] using ht
    refine ⟨.expired (.pop true), rfl, ?_⟩
    show next? q (.parked (.pop true)) = some (q, .expired (.pop true))
    simp only [next?, advance_parked]

theorem goes_of_loneStep {w : World α} {s t : Stand α} {r : Queue α} (hw : w.threads = [s])
    (h : LoneStep (w.queue, s) (r, t)) :
    ∃ v, World.Goes w v ∧ v.threads = [t] ∧ v.queue = r := by
  obtain ⟨q, threads, xs, ys⟩ := w
  cases hw
  replace h : next? q s = some (r, t) := h
  unfold next? at h
  split at h
  · next e he =>
    cases h
    refine ⟨⟨e.queue, World.notify 0 [e.stand] e.signal, xs ++ e.accepted, ys ++ e.handed⟩,
      .run 0 0 ?_, notify_lone (wake_of_advance he) 0, rfl⟩
    simp only [World.run, List.getElem?_cons_zero, Option.bind_eq_bind, Option.bind_some,
      unlocked_lone, ↓reduceIte, he]
    rfl
  · cases h
    exact ⟨_, .expire 0 rfl, rfl, rfl⟩
  · cases h

theorem walk_of_goes {w v : World α} {s : Stand α} (hw : w.threads = [s])
    (h : Relation.ReflTransGen World.Goes w v) :
    ∃ t, v.threads = [t] ∧ Relation.ReflTransGen LoneStep (w.queue, s) (v.queue, t) := by
  induction h with
  | refl => exact ⟨s, hw, .refl⟩
  | tail _ hs ih =>
    obtain ⟨t, ht, path⟩ := ih
    obtain ⟨t', ht', last⟩ := loneStep_of_goes ht hs
    exact ⟨t', ht', path.tail last⟩

theorem goes_of_walk {w : World α} {s : Stand α} {b : Queue α × Stand α} (hw : w.threads = [s])
    (h : Relation.ReflTransGen LoneStep (w.queue, s) b) :
    ∃ v, Relation.ReflTransGen World.Goes w v ∧ v.threads = [b.2] ∧ v.queue = b.1 := by
  induction h with
  | refl => exact ⟨w, .refl, hw, rfl⟩
  | @tail b c _ hs ih =>
    obtain ⟨u, path, ht, hq⟩ := ih
    have hs : LoneStep (u.queue, b.2) (c.1, c.2) := hq ▸ hs
    obtain ⟨v, last, ht', hq'⟩ := goes_of_loneStep ht hs
    exact ⟨v, path.tail last, ht', hq'⟩

/-! ## What a lone call comes to -/

theorem next?_done (q : Queue α) (answer : Answer α) : next? q (.done answer) = none := by
  cases q <;> rfl

/-- The end of the way of a lone call. -/
def Rests (q : Queue α) (call : Call α) : Option (Answer α × Queue α) → Prop
  | some (answer, r) => Relation.ReflTransGen LoneStep (q, .ready call) (r, .done answer)
  | none => ∃ r, Relation.ReflTransGen LoneStep (q, .ready call) (r, .parked call) ∧
      next? r (.parked call) = none

theorem loneStep_of_parked (q : Queue α) :
    LoneStep (q, .parked (.pop true)) (q, .expired (.pop true)) := by
  simp [LoneStep, next?, advance_parked]

theorem next?_parked (q : Queue α) {call : Call α} (h : call ≠ .pop true) :
    next? q (.parked call) = none := by
  unfold next?
  split
  · next he => simp [advance_parked] at he
  · next he => cases he; exact absurd rfl h
  · rfl

/-- A pop that finds nothing in an open queue waits, and comes back if its time is limited. -/
theorem rests_of_parked {q : Queue α} {timed : Bool}
    (parks : Relation.ReflTransGen LoneStep (q, .ready (.pop timed)) (q, .parked (.pop timed)))
    (misses : LoneStep (q, .expired (.pop true)) (q, .done .timedOut)) :
    Rests q (.pop timed) (if timed then some (.timedOut, q) else none) := by
  cases timed with
  | false => exact ⟨q, parks, next?_parked q nofun⟩
  | true => exact (parks.tail (loneStep_of_parked q)).tail misses

theorem Single.rests_push (q : Single α) (a : α) :
    Rests (.single q) (.push a) (visit (.single q) (.push a)) := by
  cases hc : q.closed with
  | true =>
    have answer : visit (.single q) (.push a) = some (.rejected a, .single q) := by
      simp [visit, offer, isClosed, hc]
    rw [answer]
    exact .single (by simp [LoneStep, next?, Queue.advance, advance, hc])
  | false =>
    cases hf : q.full with
    | true =>
      have answer : visit (.single q) (.push a) = none := by
        simp [visit, offer, isClosed, isFull, hc, hf]
      rw [answer]
      have parks : LoneStep (.single q, .ready (.push a)) (.single q, .parked (.push a)) := by
        simp [LoneStep, next?, Queue.advance, advance, hc, hf]
      exact ⟨_, .single parks, next?_parked _ (by simp)⟩
    | false =>
      have answer : visit (.single q) (.push a) = some (.accepted, .single (q.append a)) := by
        simp [visit, offer, isClosed, isFull, hc, hf, add]
      rw [answer]
      exact .single (by simp [LoneStep, next?, Queue.advance, advance, hc, hf])

theorem Single.rests_pop (q : Single α) (timed : Bool) :
    Rests (.single q) (.pop timed) (visit (.single q) (.pop timed)) := by
  cases ht : q.take? with
  | some p =>
    obtain ⟨a, r⟩ := p
    have answer : visit (.single q) (.pop timed) = some (.popped a, .single r) := by
      simp [visit, poll, Queue.take?, ht]
    rw [answer]
    exact .single (by simp [LoneStep, next?, Queue.advance, advance, ht])
  | none =>
    cases hc : q.closed with
    | true =>
      have answer : visit (.single q) (.pop timed) = some (.drained, .single q) := by
        simp [visit, poll, Queue.take?, ht, isClosed, hc]
      rw [answer]
      exact .single (by simp [LoneStep, next?, Queue.advance, advance, ht, hc])
    | false =>
      have answer : visit (.single q) (.pop timed) =
          if timed then some (.timedOut, .single q) else none := by
        simp [visit, poll, Queue.take?, ht, isClosed, hc]
      rw [answer]
      exact rests_of_parked
        (.single (by simp [LoneStep, next?, Queue.advance, advance, ht, hc]))
        (by simp [LoneStep, next?, Queue.advance, advance, ht])

theorem Double.rests_push (q : Double α) (a : α) :
    Rests (.double q) (.push a) (visit (.double q) (.push a)) := by
  cases hc : q.closed with
  | true =>
    have answer : visit (.double q) (.push a) = some (.rejected a, .double q) := by
      simp [visit, offer, isClosed, hc]
    rw [answer]
    exact .single (by simp [LoneStep, next?, Queue.advance, advance, hc])
  | false =>
    cases hf : q.full with
    | true =>
      have answer : visit (.double q) (.push a) = none := by
        simp [visit, offer, isClosed, isFull, hc, hf]
      rw [answer]
      have parks : LoneStep (.double q, .ready (.push a)) (.double q, .parked (.push a)) := by
        simp [LoneStep, next?, Queue.advance, advance, hc, hf]
      exact ⟨_, .single parks, next?_parked _ (by simp)⟩
    | false =>
      have answer : visit (.double q) (.push a) =
          some (.accepted, .double (q.stage a).countUp) := by
        simp [visit, offer, isClosed, isFull, hc, hf, add]
      rw [answer]
      have stages : LoneStep (.double q, .ready (.push a)) (.double (q.stage a), .counting) := by
        simp [LoneStep, next?, Queue.advance, advance, hc, hf]
      exact (Relation.ReflTransGen.single stages).tail rfl

/-- A consumer that has an item before it takes and counts it. -/
theorem Double.walk_of_taking {q : Double α} {s : Stand α} {a : α} {rest : List α}
    (hs : s = .taking ∨ ∃ timed, s = .ready (.pop timed)) (hf : q.front = a :: rest) :
    Relation.ReflTransGen LoneStep (.double q, s)
      (.double { q with front := rest }.countDown, .done (.popped a)) := by
  have takes : LoneStep (.double q, s) (.double { q with front := rest }, .uncounting a) := by
    rcases hs with rfl | ⟨timed, rfl⟩ <;>
    simp [LoneStep, next?, Queue.advance, advance, takeFront?, hf]
  exact (Relation.ReflTransGen.single takes).tail rfl

theorem Double.rests_pop (q : Double α) (timed : Bool) :
    Rests (.double q) (.pop timed) (visit (.double q) (.pop timed)) := by
  cases hf : q.front with
  | cons a rest =>
    have answer : visit (.double q) (.pop timed) =
        some (.popped a, .double { q with front := rest }.countDown) := by
      simp [visit, poll, Queue.take?, take?, takeFront?, hf]
    rw [answer]
    exact walk_of_taking (.inr ⟨timed, rfl⟩) hf
  | nil =>
    have crosses :
        LoneStep (.double q, .ready (.pop timed)) (.double q, .crossing (.pop timed)) := by
      simp [LoneStep, next?, Queue.advance, advance, takeFront?, hf]
    cases hb : q.back with
    | cons a rest =>
      have answer : visit (.double q) (.pop timed) =
          some (.popped a, .double { q.swap with front := rest }.countDown) := by
        simp [visit, poll, Queue.take?, take?, takeFront?, swap, hf, hb]
      rw [answer]
      have swaps : LoneStep (.double q, .crossing (.pop timed)) (.double q.swap, .taking) := by
        simp [LoneStep, next?, Queue.advance, advance, cross, hb]
      exact .head crosses (.head swaps (walk_of_taking (.inl rfl) hb))
    | nil =>
      cases hc : q.closed with
      | true =>
        have answer : visit (.double q) (.pop timed) = some (.drained, .double q) := by
          simp [visit, poll, Queue.take?, take?, takeFront?, swap, hf, hb, isClosed, hc]
        rw [answer]
        exact .head crosses
          (.single (by simp [LoneStep, next?, Queue.advance, advance, cross, hb, hc]))
      | false =>
        have answer : visit (.double q) (.pop timed) =
            if timed then some (.timedOut, .double q) else none := by
          simp [visit, poll, Queue.take?, take?, takeFront?, swap, hf, hb, isClosed, hc]
        rw [answer]
        exact rests_of_parked
          (.head crosses
            (.single (by simp [LoneStep, next?, Queue.advance, advance, cross, hb, hc])))
          (by simp [LoneStep, next?, Queue.advance, advance, cross, hb])

theorem rests (q : Queue α) (call : Call α) : Rests q call (q.visit call) := by
  cases call with
  | push a =>
    cases q with
    | single q => exact q.rests_push a
    | double q => exact q.rests_push a
  | pop timed =>
    cases q with
    | single q => exact q.rests_pop timed
    | double q => exact q.rests_pop timed
  | close => cases q <;> exact .single rfl

theorem rightUnique_loneStep : Relator.RightUnique (LoneStep (α := α)) := by
  intro a b c hb hc
  exact Option.some.inj (hb.symm.trans hc)

/-- A way that has come to its end is the whole way. -/
theorem eq_of_loneStep {a b c : Queue α × Stand α} (hb : Relation.ReflTransGen LoneStep a b)
    (hc : Relation.ReflTransGen LoneStep a c) (endB : next? b.1 b.2 = none)
    (endC : next? c.1 c.2 = none) : b = c := by
  have stop {b c : Queue α × Stand α} (endB : next? b.1 b.2 = none)
      (h : Relation.ReflTransGen LoneStep b c) : b = c := by
    rcases Relation.ReflTransGen.cases_head h with e | ⟨d, hd, -⟩
    · exact e
    · cases endB.symm.trans hd
  rcases Relation.ReflTransGen.total_of_right_unique rightUnique_loneStep hb hc with h | h
  · exact stop endB h
  · exact (stop endC h).symm

theorem comes_iff {q r : Queue α} {call : Call α} {answer : Answer α} :
    Comes q call answer r ↔ q.visit call = some (answer, r) := by
  have rest := rests q call
  constructor
  · rintro ⟨w, path, ht, rfl⟩
    obtain ⟨t, ht', walk⟩ := walk_of_goes rfl path
    obtain rfl : .done answer = t := by simpa [ht] using ht'
    cases hv : q.visit call with
    | none =>
      rw [hv] at rest
      obtain ⟨r, walk', stuck⟩ := rest
      cases eq_of_loneStep walk walk' (next?_done _ _) stuck
    | some p =>
      rw [hv] at rest
      have same := eq_of_loneStep walk rest (next?_done _ _) (next?_done _ _)
      obtain ⟨queue, stand⟩ := Prod.mk.inj same
      cases stand
      rw [queue]
  · intro hv
    rw [hv] at rest
    obtain ⟨w, path, ht, hq⟩ := goes_of_walk (w := ⟨q, [.ready call], [], []⟩) rfl rest
    exact ⟨w, path, ht, hq⟩

theorem blocks_iff {q : Queue α} {call : Call α} : Blocks q call ↔ q.visit call = none := by
  have rest := rests q call
  constructor
  · rintro ⟨w, path, stuck, unanswered⟩
    obtain ⟨t, ht, walk⟩ := walk_of_goes rfl path
    have ended : next? w.queue t = none := by
      rw [Option.eq_none_iff_forall_ne_some]
      intro b hb
      obtain ⟨v, hv, -⟩ := goes_of_loneStep ht (hb : LoneStep (w.queue, t) (b.1, b.2))
      exact stuck v hv
    cases hv : q.visit call with
    | none => rfl
    | some p =>
      rw [hv] at rest
      obtain ⟨-, rfl⟩ := Prod.mk.inj (eq_of_loneStep walk rest ended (next?_done _ _))
      exact absurd ht (unanswered _)
  · intro hv
    rw [hv] at rest
    obtain ⟨r, walk, ended⟩ := rest
    obtain ⟨w, path, ht, rfl⟩ := goes_of_walk (w := ⟨q, [.ready call], [], []⟩) rfl walk
    refine ⟨w, path, fun v hg => ?_, fun answer => ?_⟩
    · obtain ⟨t, -, hs⟩ := loneStep_of_goes ht hg
      cases ended.symm.trans hs
    · simp [ht]

/-! ## Requests one after the other -/

/-- What can be asked of a queue without ever waiting. -/
inductive Question where
  | length
  | isEmpty
  | isClosed
  | capacity
deriving DecidableEq, Repr

inductive Fact where
  | count (n : Nat)
  | flag (b : Bool)
  /-- nothing for a queue without a bound -/
  | bound (capacity : Option Nat)
deriving DecidableEq, Repr

def look (q : Queue α) : Question → Fact
  | .length => .count q.length
  | .isEmpty => .flag (q.length == 0)
  | .isClosed => .flag q.isClosed
  | .capacity => .bound q.capacity

inductive Request (α : Type) where
  | call (call : Call α)
  | ask (question : Question)
deriving DecidableEq, Repr

inductive Response (α : Type) where
  | answer (answer : Answer α)
  | fact (fact : Fact)
deriving DecidableEq, Repr

/-- Requests that are made one after the other, and what each of them comes to. -/
inductive Talk : Queue α → List (Request α) → List (Response α) → Queue α → Prop
  | nil (q : Queue α) : Talk q [] [] q
  | call {q r t : Queue α} {call : Call α} {answer : Answer α} {rs : List (Request α)}
      {as : List (Response α)} : Comes q call answer r → Talk r rs as t →
      Talk q (.call call :: rs) (.answer answer :: as) t
  | ask {q t : Queue α} (question : Question) {rs : List (Request α)} {as : List (Response α)} :
      Talk q rs as t → Talk q (.ask question :: rs) (.fact (q.look question) :: as) t

/-- One of the requests is a call that blocks. -/
def Halts (q : Queue α) (rs : List (Request α)) : Prop :=
  ∃ before call behind as r, rs = before ++ .call call :: behind ∧ Talk q before as r ∧
    r.Blocks call

/-- The responses to requests, if none of them blocks. -/
def responses (q : Queue α) : List (Request α) → Option (List (Response α))
  | [] => some []
  | .call call :: rs =>
    (q.visit call).bind fun (answer, r) => (r.responses rs).map (.answer answer :: ·)
  | .ask question :: rs => (q.responses rs).map (.fact (q.look question) :: ·)

theorem responses_of_talk {q t : Queue α} {rs : List (Request α)} {as : List (Response α)}
    (h : Talk q rs as t) : q.responses rs = some as := by
  induction h with
  | nil => rfl
  | call hc _ ih => simp [responses, comes_iff.1 hc, ih]
  | ask question _ ih => simp [responses, ih]

theorem talk_of_responses {q : Queue α} {rs : List (Request α)} {as : List (Response α)}
    (h : q.responses rs = some as) : ∃ t, Talk q rs as t := by
  induction rs generalizing q as with
  | nil =>
    cases h
    exact ⟨q, .nil q⟩
  | cons request rs ih =>
    cases request with
    | call call =>
      obtain ⟨⟨answer, r⟩, hv, h⟩ := Option.bind_eq_some_iff.1 h
      obtain ⟨as', ha, rfl⟩ := Option.map_eq_some_iff.1 h
      obtain ⟨t, talk⟩ := ih ha
      exact ⟨t, .call (comes_iff.2 hv) talk⟩
    | ask question =>
      obtain ⟨as', ha, rfl⟩ := Option.map_eq_some_iff.1 h
      obtain ⟨t, talk⟩ := ih ha
      exact ⟨t, .ask question talk⟩

theorem halts_iff {q : Queue α} {rs : List (Request α)} :
    q.Halts rs ↔ q.responses rs = none := by
  constructor
  · rintro ⟨before, call, behind, as, r, rfl, talk, blocks⟩
    induction talk with
    | nil => simp [responses, blocks_iff.1 blocks]
    | call hc _ ih => simp [responses, comes_iff.1 hc, ih blocks]
    | ask question _ ih => simp [responses, ih blocks]
  · intro h
    induction rs generalizing q with
    | nil => cases h
    | cons request rs ih =>
      cases request with
      | call call =>
        cases hv : q.visit call with
        | none => exact ⟨[], call, rs, [], q, rfl, .nil q, blocks_iff.2 hv⟩
        | some p =>
          obtain ⟨answer, r⟩ := p
          have later : r.responses rs = none := by simpa [responses, hv] using h
          obtain ⟨before, call', behind, as, u, rfl, talk, blocks⟩ := ih later
          exact ⟨_ :: before, call', behind, _, u, rfl, .call (comes_iff.2 hv) talk, blocks⟩
      | ask question =>
        have later : q.responses rs = none := by simpa [responses] using h
        obtain ⟨before, call, behind, as, u, rfl, talk, blocks⟩ := ih later
        exact ⟨_ :: before, call, behind, _, u, rfl, .ask question talk, blocks⟩

/-! ## The two designs -/

/-- The designs hold the same items, in different shapes. -/
structure Agree (s : Single α) (d : Double α) : Prop where
  items : s.items = d.front ++ d.back
  total : d.total = s.items.length
  closed : d.closed = s.closed
  capacity : d.capacity = s.capacity

namespace Agree

variable {s : Single α} {d : Double α}

theorem new (capacity : Option Nat) : Agree (Single.new capacity : Single α) (.new capacity) :=
  ⟨rfl, rfl, rfl, rfl⟩

/-- The bound of the `double` design is for the back list alone, and comes later. -/
theorem full (h : Agree s d) (hf : s.full = false) : d.full = false := by
  unfold Single.full atBound at hf
  unfold Double.full atBound
  rw [h.capacity]
  cases hc : s.capacity with
  | none => rfl
  | some c =>
    have room : ¬ c ≤ s.items.length := by simpa [hc] using hf
    have shorter : d.back.length ≤ s.items.length := by rw [h.items, List.length_append]; omega
    simp only [decide_eq_false_iff_not]
    omega

theorem look (h : Agree s d) (question : Question) :
    (Queue.double d).look question = (Queue.single s).look question := by
  cases question <;>
    simp [Queue.look, length, isClosed, Queue.capacity, h.total, h.closed, h.capacity]

theorem add (h : Agree s d) (a : α) : Agree (s.append a) (d.stage a).countUp where
  items := by simp [Single.append, Double.stage, Double.countUp, h.items]
  total := by simp [Single.append, Double.stage, Double.countUp, h.total]
  closed := h.closed
  capacity := h.capacity

/-- Taking an item: from the front list, or from the back list if that has run dry. -/
theorem take? (h : Agree s d) :
    (s.take? = none ∧ d.take? = none) ∨
      ∃ a s' d', s.take? = some (a, s') ∧ d.take? = some (a, d') ∧ Agree s' d' := by
  obtain ⟨items, total, closed, capacity⟩ := h
  cases hf : d.front with
  | cons a rest =>
    have hi : s.items = a :: (rest ++ d.back) := by rw [items, hf, List.cons_append]
    refine .inr ⟨a, { s with items := rest ++ d.back }, { d with front := rest }.countDown,
      by simp [Single.take?, hi], by simp [Double.take?, Double.takeFront?, hf], ?_⟩
    exact ⟨rfl, by simp [Double.countDown, total, hi], closed, capacity⟩
  | nil =>
    cases hb : d.back with
    | nil =>
      have hi : s.items = [] := by rw [items, hf, hb, List.nil_append]
      exact .inl ⟨by simp [Single.take?, hi],
        by simp [Double.take?, Double.takeFront?, Double.swap, hf, hb]⟩
    | cons a rest =>
      have hi : s.items = a :: rest := by rw [items, hf, hb, List.nil_append]
      refine .inr ⟨a, { s with items := rest }, { d.swap with front := rest }.countDown,
        by simp [Single.take?, hi],
        by simp [Double.take?, Double.takeFront?, Double.swap, hf, hb], ?_⟩
      exact ⟨by simp [Double.countDown, Double.swap, hf],
        by simp [Double.countDown, Double.swap, total, hi], closed, capacity⟩

theorem visit_pop_of_none {q : Queue α} (h : q.take? = none) (timed : Bool) :
    q.visit (.pop timed) = if q.isClosed then some (.drained, q)
      else if timed then some (.timedOut, q) else none := by
  cases hc : q.isClosed <;> simp [Queue.visit, poll, h, hc]

/-- A call that does not block on the one design is answered alike on the other. -/
theorem visit (h : Agree s d) {call : Call α} {answer : Answer α} {r : Queue α}
    (hv : (Queue.single s).visit call = some (answer, r)) :
    ∃ s' d', r = .single s' ∧ (Queue.double d).visit call = some (answer, .double d') ∧
      Agree s' d' := by
  cases call with
  | push a =>
    cases hc : s.closed with
    | true =>
      obtain ⟨rfl, rfl⟩ : .rejected a = answer ∧ .single s = r := by
        simpa [Queue.visit, offer, isClosed, hc] using hv
      exact ⟨s, d, rfl, by simp [Queue.visit, offer, isClosed, h.closed, hc], h⟩
    | false =>
      cases hf : s.full with
      | true => simp [Queue.visit, offer, isClosed, isFull, hc, hf] at hv
      | false =>
        obtain ⟨rfl, rfl⟩ : .accepted = answer ∧ .single (s.append a) = r := by
          simpa [Queue.visit, offer, isClosed, isFull, hc, hf, Queue.add] using hv
        refine ⟨_, _, rfl, ?_, h.add a⟩
        simp [Queue.visit, offer, isClosed, isFull, h.closed, hc, h.full hf, Queue.add]
  | pop timed =>
    rcases h.take? with ⟨hs, hd⟩ | ⟨a, s', d', hs, hd, h'⟩
    · rw [visit_pop_of_none (by simp [Queue.take?, hs]), isClosed] at hv
      rw [visit_pop_of_none (by simp [Queue.take?, hd]), isClosed, h.closed]
      split at hv
      · next hc =>
        cases hv
        exact ⟨s, d, rfl, if_pos hc, h⟩
      · next hc =>
        split at hv
        · next timed =>
          cases hv
          exact ⟨s, d, rfl, by rw [if_neg hc, if_pos timed], h⟩
        · cases hv
    · obtain ⟨rfl, rfl⟩ : .popped a = answer ∧ .single s' = r := by
        simpa [Queue.visit, poll, Queue.take?, hs] using hv
      exact ⟨s', d', rfl, by simp [Queue.visit, poll, Queue.take?, hd], h'⟩
  | close =>
    obtain ⟨rfl, rfl⟩ : .closed = answer ∧ .single s.close = r := by
      simpa [Queue.visit, Queue.close] using hv
    exact ⟨s.close, d.close, rfl, rfl, ⟨h.items, h.total, rfl, h.capacity⟩⟩

theorem responses (h : Agree s d) {rs : List (Request α)} {as : List (Response α)}
    (hs : (Queue.single s).responses rs = some as) : (Queue.double d).responses rs = some as := by
  induction rs generalizing s d as with
  | nil => exact hs
  | cons request rs ih =>
    cases request with
    | call call =>
      obtain ⟨⟨answer, r⟩, hv, hs⟩ := Option.bind_eq_some_iff.1 hs
      obtain ⟨as', ha, rfl⟩ := Option.map_eq_some_iff.1 hs
      obtain ⟨s', d', rfl, hd, h'⟩ := h.visit hv
      simp [Queue.responses, hd, ih h' ha]
    | ask question =>
      obtain ⟨as', ha, rfl⟩ := Option.map_eq_some_iff.1 hs
      simp [Queue.responses, ih h ha, h.look]

end Agree

/-- If no call blocks at a `single` queue then none blocks at a `double` one, and both give the same
responses to every request. -/
theorem designs_agree (capacity : Option Nat) (rs : List (Request α))
    (passes : ¬ (new ⟨.single, capacity⟩ : Queue α).Halts rs) :
    ¬ (new ⟨.double, capacity⟩ : Queue α).Halts rs ∧
      ∃ as, ∀ kind, (∃ r, Talk (new ⟨kind, capacity⟩) rs as r) ∧
        ∀ bs r, Talk (new ⟨kind, capacity⟩) rs bs r → bs = as := by
  rw [halts_iff, ← ne_eq, Option.ne_none_iff_exists'] at passes
  obtain ⟨as, single⟩ := passes
  have double : (new ⟨.double, capacity⟩ : Queue α).responses rs = some as :=
    (Agree.new capacity).responses single
  have both (kind : QueueKind) : (new ⟨kind, capacity⟩ : Queue α).responses rs = some as := by
    cases kind
    · exact single
    · exact double
  refine ⟨?_, as, fun kind => ⟨talk_of_responses (both kind), fun bs r talk => ?_⟩⟩
  · rw [halts_iff, double]
    nofun
  · exact Option.some.inj ((responses_of_talk talk).symm.trans (both kind))

/-- With a bound of two, a third item comes while the second still waits, before and after the swap
of a `double` queue; then the queue is closed and drained. -/
theorem designs_agree_over_swap :
    let rs : List (Request Nat) := [.call (.push 1), .call (.push 2), .call (.pop false),
      .call (.push 3), .ask .length, .call .close, .call (.push 4), .call (.pop true),
      .call (.pop false), .ask .isEmpty, .call (.pop true)]
    let as : List (Response Nat) := [.answer .accepted, .answer .accepted, .answer (.popped 1),
      .answer .accepted, .fact (.count 2), .answer .closed, .answer (.rejected 4),
      .answer (.popped 2), .answer (.popped 3), .fact (.flag true), .answer .drained]
    ¬ (new ⟨.single, some 2⟩ : Queue Nat).Halts rs ∧
      ¬ (new ⟨.double, some 2⟩ : Queue Nat).Halts rs ∧
      ∃ r, Talk (new ⟨.double, some 2⟩) rs as r := by
  intro rs as
  have single : (new ⟨.single, some 2⟩ : Queue Nat).responses rs = some as := by decide
  have passes : ¬ (new ⟨.single, some 2⟩ : Queue Nat).Halts rs := by
    rw [halts_iff, single]
    nofun
  obtain ⟨passes', as', both⟩ := designs_agree (some 2) rs passes
  obtain ⟨r, talk⟩ := talk_of_responses single
  obtain rfl : as = as' := (both .single).2 as r talk
  exact ⟨passes, passes', (both .double).1⟩

end FrameBus.Queue
