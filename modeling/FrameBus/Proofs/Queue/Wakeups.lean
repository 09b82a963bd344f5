import FrameBus.Proofs.Queue.Order
import FrameBus.Proofs.Queue.Parking

/-!
# Who is woken

No thread at a queue is left parked while there is something for it to do
(`attended_of_reachable`).
-/

namespace FrameBus.Queue

variable {α : Type}

/-! ## Runs -/

/-- What is kept of the parked threads, in either design. -/
def Watched (w : World α) : Prop :=
  match w.queue with
  | .single q => q.Watched w.threads
  | .double q => q.Watched w.threads

section

variable {config : QueueConfig} {calls : List (Call α)} {w v : World α}

theorem watched_start : Watched (World.start config : World α) := by
  unfold Watched World.start new
  cases config.kind with
  | single => exact ⟨fun h => absurd h (by simp), fun h => absurd h (by simp), rfl⟩
  | double => exact ⟨fun h => absurd h (by simp), fun h => absurd h (by simp)⟩

/-- A step that parks nobody and wakes nobody. -/
theorem Watched.congr (hw : Watched w) (hq : v.queue = w.queue)
    (hc : v.threads.countP Stand.isConsumer ≤ w.threads.countP Stand.isConsumer)
    (hp : v.threads.countP Stand.isProducer ≤ w.threads.countP Stand.isProducer)
    (hwc : v.threads.countP Stand.isWokenConsumer = w.threads.countP Stand.isWokenConsumer)
    (hwp : v.threads.countP Stand.isWokenProducer = w.threads.countP Stand.isWokenProducer)
    (hb : v.threads.countP Stand.holdsBack = w.threads.countP Stand.holdsBack)
    (hi : v.threads.countP Stand.isInside = w.threads.countP Stand.isInside) : Watched v := by
  unfold Watched at hw ⊢
  rw [hq]
  split at hw
  · obtain ⟨consumer, producer, outside⟩ := hw
    refine ⟨fun h => ?_, fun h => ?_, hi.trans outside⟩
    · rw [hwc]
      exact consumer (by omega)
    · rw [hwp]
      exact producer (by omega)
  · obtain ⟨consumer, producer⟩ := hw
    refine ⟨fun h => ?_, fun h => producer (by omega)⟩
    rw [hb]
    exact consumer (by omega)

theorem watched_enter (hw : Watched w) (call : Call α) : Watched (w.enter call) := by
  have same (p : Stand α → Bool) (hp : p (.ready call) = false) :
      (w.enter call).threads.countP p = w.threads.countP p := by
    simp [World.enter, hp]
  exact hw.congr rfl (Nat.le_of_eq (same _ rfl)) (Nat.le_of_eq (same _ rfl)) (same _ rfl)
    (same _ rfl) (same _ rfl) (same _ rfl)

theorem watched_expire (hw : Watched w) {t : Nat} (h : w.expire t = some v) : Watched v := by
  obtain ⟨ht, rfl⟩ := World.expire_eq_some h
  have count (p : Stand α → Bool) := World.countP_set (p := p) ht (.expired (.pop true))
  have same (p : Stand α → Bool) (hp : p (.expired (.pop true)) = p (.parked (.pop true))) :
      (w.threads.set t (.expired (.pop true))).countP p = w.threads.countP p := by
    have := count p
    rw [hp] at this
    omega
  have fewer : (w.threads.set t (.expired (.pop true))).countP Stand.isConsumer + 1 =
      w.threads.countP Stand.isConsumer := count Stand.isConsumer
  refine hw.congr rfl ?_ (Nat.le_of_eq (same _ rfl)) (same _ rfl) (same _ rfl) (same _ rfl)
    (same _ rfl)
  show (w.threads.set t _).countP Stand.isConsumer ≤ _
  omega

theorem watched_run (hk : Kept calls w) (hf : Fits config w) (hw : Watched w) {t pick : Nat}
    (h : w.run t pick = some v) : Watched v := by
  have hfv := (step_run hk hf h).2
  obtain ⟨s, e, ht, hu, he, rfl⟩ := World.run_eq_some h
  obtain ⟨call, hs⟩ := hk.serves_of_getElem? ht
  unfold Watched at hw
  unfold Fits at hf
  split at hw
  · next q hq =>
    have sec := Single.section_of_advance hs (by simpa only [hq, advance] using he)
    obtain ⟨r, hr, hwr⟩ := Single.watched_of_section hw sec ht pick
    unfold Watched
    rw [hr]
    exact hwr
  · next q hq =>
    simp only [hq] at hf
    obtain ⟨_, _, hi⟩ := hf
    have sec := Double.section_of_advance hs (by simpa only [hq, advance] using he)
    obtain ⟨hback, _⟩ := Double.free_of_unlocked hq hu
    unfold Fits at hfv
    unfold Watched
    split at hfv
    · next r hr =>
      have kind : e.queue = .single r := hr
      cases sec <;> cases kind
    · next r hr =>
      have hr : e.queue = .double r := hr
      rw [hr]
      exact Double.watched_of_section hi hw sec ht hback pick hr hfv.2.2

theorem invariants_of_reachable (h : World.Reachable config w) :
    ∃ calls, Kept calls w ∧ Fits config w ∧ Watched w := by
  induction h with
  | start => exact ⟨[], Kept.start config, fits_start, watched_start⟩
  | step _ hs ih =>
    obtain ⟨calls, hk, hf, hw⟩ := ih
    cases hs with
    | enter call => exact ⟨_, hk.enter call, fits_enter hf call, watched_enter hw call⟩
    | run t pick h =>
      obtain ⟨hk', hf'⟩ := step_run hk hf h
      exact ⟨calls, hk', hf', watched_run hk hf hw h⟩
    | expire t h =>
      obtain ⟨hk', hf'⟩ := step_expire hk hf h
      exact ⟨calls, hk', hf', watched_expire hw h⟩

end

/-! ## Nobody waits in vain -/

/-- The thread is parked, or its call is over. -/
inductive Stand.Idle : Stand α → Prop
  | consumer (timed : Bool) : Idle (.parked (.pop timed))
  | producer (a : α) : Idle (.parked (.push a))
  | done (answer : Answer α) : Idle (.done answer)

theorem Single.idle_of_advance {q : Single α} {call : Call α} {s : Stand α} (h : Serves call s)
    (hi : s.isInside = false) (hn : q.advance s = none) : s.Idle := by
  have pushes (a : α) (hs : s.Pushing a) : q.advance s ≠ none := by
    cases hs <;>
    · simp only [advance]
      split
      · simp
      · split <;> simp
  have pops (timed : Bool) (hs : s.Popping timed) : q.advance s ≠ none := by
    cases hs <;>
    · simp only [advance]
      split <;> simp
  cases h with
  | ready call =>
    cases call with
    | push a => exact absurd hn (pushes a .ready)
    | pop timed => exact absurd hn (pops timed .ready)
    | close => cases hn
  | woken hc =>
    cases call with
    | push a => exact absurd hn (pushes a .woken)
    | pop timed => exact absurd hn (pops timed .woken)
    | close => exact absurd rfl hc
  | parked hc =>
    cases call with
    | push a => exact .producer a
    | pop timed => exact .consumer timed
    | close => exact absurd rfl hc
  | expired =>
    simp only [advance] at hn
    split at hn <;> cases hn
  | counting | crossing | taking | uncounting => cases hi
  | _ => exact .done _

theorem Double.idle_of_advance {q : Double α} {call : Call α} {s : Stand α} (h : Serves call s)
    (hn : q.advance s = none) : s.Idle := by
  have pushes (a : α) (hs : s.Pushing a) : q.advance s ≠ none := by
    cases hs <;>
    · simp only [advance]
      split
      · simp
      · split <;> simp
  cases h with
  | ready call =>
    cases call with
    | push a => exact absurd hn (pushes a .ready)
    | pop timed =>
      simp only [advance] at hn
      split at hn <;> cases hn
    | close => cases hn
  | woken hc =>
    cases call with
    | push a => exact absurd hn (pushes a .woken)
    | pop timed => cases hn
    | close => exact absurd rfl hc
  | parked hc =>
    cases call with
    | push a => exact .producer a
    | pop timed => exact .consumer timed
    | close => exact absurd rfl hc
  | taking =>
    simp only [advance] at hn
    split at hn <;> cases hn
  | expired | counting | crossing | uncounting => cases hn
  | _ => exact .done _

/-- No thread can go on but by a new call or by the end of a timed wait. -/
def World.Stuck (w : World α) : Prop := ∀ t pick, w.run t pick = none

theorem World.Stuck.advance_eq_none {w : World α} (h : w.Stuck) {s : Stand α} (hs : s ∈ w.threads)
    (hu : w.unlocked s = true) : advance w.queue s = none := by
  obtain ⟨t, ht⟩ := List.mem_iff_getElem?.1 hs
  have := h t 0
  cases he : advance w.queue s with
  | none => rfl
  | some e => simp [run, ht, hu, he] at this

/-- Nobody who has something to do is left parked. -/
structure Attended (w : World α) : Prop where
  /-- consumers wait for more than the woken ones will take, producers for more than these fill -/
  single : ∀ q, w.queue = .single q →
    (0 < w.threads.countP Stand.isConsumer →
      q.closed = false ∧ q.items.length ≤ w.threads.countP Stand.isWokenConsumer) ∧
    (0 < w.threads.countP Stand.isProducer →
      q.closed = false ∧ ∃ c, q.capacity = some c ∧
        c - q.items.length ≤ w.threads.countP Stand.isWokenProducer)
  /-- consumers wait for an item on either list, producers for the back list to be swapped -/
  double : ∀ q, w.queue = .double q →
    w.threads.countP Stand.isConsumer ≤ 1 ∧
    (0 < w.threads.countP Stand.isConsumer →
      q.closed = false ∧ q.front = [] ∧ q.back.length = w.threads.countP Stand.holdsBack ∧
        -- no producer is inside of its section
        (.counting ∉ w.threads → q.back = [])) ∧
    (0 < w.threads.countP Stand.isProducer →
      q.closed = false ∧ ∃ c, q.capacity = some c ∧ q.back.length = c)
  /-- an item is left for someone who was woken, or whose waker has not left its section -/
  item : w.queue.toList ≠ [] → 0 < w.threads.countP Stand.isConsumer →
    0 < w.threads.countP Stand.isWokenConsumer ∨ .counting ∈ w.threads
  slot : w.queue.isFull = false → 0 < w.threads.countP Stand.isProducer →
    0 < w.threads.countP Stand.isWokenProducer
  closed : w.queue.isClosed = true →
    w.threads.countP Stand.isConsumer = 0 ∧ w.threads.countP Stand.isProducer = 0
  stuck : w.Stuck → ∀ s ∈ w.threads,
    (s.seeksItem = true → w.queue.isClosed = false ∧ w.queue.toList = []) ∧
      (s.seeksRoom = true → w.queue.isClosed = false ∧ w.queue.isFull = true)

section

variable {w : World α} {calls : List (Call α)}

/-- At a single queue whoever was woken can go on. -/
theorem Single.idle_of_stuck {q : Single α} (hk : Kept calls w) (hq : w.queue = .single q)
    (hw : q.Watched w.threads) (stuck : w.Stuck) {s : Stand α} (hs : s ∈ w.threads) : s.Idle := by
  obtain ⟨t, ht⟩ := List.mem_iff_getElem?.1 hs
  obtain ⟨call, serves⟩ := hk.serves_of_getElem? ht
  have none := stuck.advance_eq_none hs (by simp [World.unlocked, hq])
  rw [hq] at none
  have outside : ¬ s.isInside = true := List.countP_eq_zero.1 hw.outside s hs
  exact idle_of_advance serves (by simpa using outside) none

theorem Single.attended {q : Single α} (hk : Kept calls w) (hq : w.queue = .single q)
    (hw : q.Watched w.threads) : Attended w := by
  have idle {s : Stand α} (stuck : w.Stuck) (hs : s ∈ w.threads) : s.Idle :=
    Single.idle_of_stuck hk hq hw stuck hs
  obtain ⟨consumer, producer, outside⟩ := hw
  constructor
  case single =>
    intro r hr
    cases hq.symm.trans hr
    exact ⟨consumer, producer⟩
  case double =>
    intro r hr
    cases hq.symm.trans hr
  case item =>
    intro hi h
    have : 0 < q.items.length := List.length_pos_iff.2 (by simpa [hq, toList] using hi)
    have := (consumer h).2
    exact .inl (by omega)
  case slot =>
    intro hf h
    obtain ⟨_, c, hcap, hle⟩ := producer h
    have : ¬ c ≤ q.items.length := by simpa [hq, isFull, full, atBound, hcap] using hf
    omega
  case closed =>
    intro hc
    have hc : q.closed = true := by simpa [hq, isClosed] using hc
    refine ⟨?_, ?_⟩
    · by_contra h
      simpa [hc] using (consumer (by omega)).1
    · by_contra h
      simpa [hc] using (producer (by omega)).1
  case stuck =>
    intro stuck s hs
    have noneWoken : w.threads.countP Stand.isWokenConsumer = 0 ∧
        w.threads.countP Stand.isWokenProducer = 0 := by
      refine ⟨List.countP_eq_zero.2 fun r hr => ?_, List.countP_eq_zero.2 fun r hr => ?_⟩
      · cases idle stuck hr <;> simp [Stand.isWokenConsumer]
      · cases idle stuck hr <;> simp [Stand.isWokenProducer]
    refine ⟨fun seeks => ?_, fun seeks => ?_⟩
    · cases idle stuck hs with
      | consumer timed =>
        obtain ⟨hc, hle⟩ := consumer (List.countP_pos_iff.2 ⟨_, hs, rfl⟩)
        have : q.items = [] := List.length_eq_zero_iff.1 (by omega)
        simpa [hq, toList, isClosed] using ⟨hc, this⟩
      | producer a => cases seeks
      | done answer => cases seeks
    · cases idle stuck hs with
      | consumer timed => cases seeks
      | producer a =>
        obtain ⟨hc, c, hcap, hle⟩ := producer (List.countP_pos_iff.2 ⟨_, hs, rfl⟩)
        have : q.full = true := full_iff.2 ⟨c, hcap, by omega⟩
        simpa [hq, isFull, isClosed] using ⟨hc, this⟩
      | done answer => cases seeks

/-- At a double queue a thread that is neither parked nor done waits for the lock of the front list,
which a parked consumer keeps. -/
theorem Double.idle_of_stuck {q : Double α} (hk : Kept calls w) (hq : w.queue = .double q)
    (stuck : w.Stuck) : .counting ∉ w.threads ∧ ∀ s ∈ w.threads, s.Idle ∨
      s.needsFront = true ∧ 0 < w.threads.countP Stand.isConsumer := by
  have idle {s : Stand α} (hs : s ∈ w.threads) (hu : w.unlocked s = true) : s.Idle := by
    obtain ⟨t, ht⟩ := List.mem_iff_getElem?.1 hs
    obtain ⟨call, serves⟩ := hk.serves_of_getElem? ht
    have none := stuck.advance_eq_none hs hu
    rw [hq] at none
    exact idle_of_advance serves none
  have notCounting : .counting ∉ w.threads := by
    intro h
    cases idle h (by simp [World.unlocked, hq, Stand.needsBack, Stand.needsFront])
  have back : w.threads.any Stand.holdsBack = false := by
    rw [List.any_eq_false]
    intro s hs hb
    cases s with
    | counting => exact notCounting hs
    | _ => cases hb
  have outside {s : Stand α} (hs : s ∈ w.threads) (hn : s.needsFront = false) : s.Idle :=
    idle hs (by simp [World.unlocked, hq, back, hn])
  refine ⟨notCounting, fun s hs => ?_⟩
  by_cases hn : s.needsFront = true
  · by_cases hf : w.threads.any Stand.holdsFront = true
    · obtain ⟨r, hr, holds⟩ := List.any_eq_true.1 hf
      have : r.Idle := outside hr (by cases r <;> first | rfl | cases holds)
      cases this with
      | consumer timed => exact .inr ⟨hn, List.countP_pos_iff.2 ⟨_, hr, rfl⟩⟩
      | producer a => cases holds
      | done answer => cases holds
    · exact .inl (idle hs (by simp [World.unlocked, hq, back, hf]))
  · exact .inl (outside hs (by simpa using hn))

theorem Double.attended {q : Double α} (hk : Kept calls w) (hq : w.queue = .double q)
    (hi : q.Inv w.threads) (hw : q.Watched w.threads) : Attended w := by
  have alone := hi.consumers_le
  obtain ⟨consumer, producer⟩ := hw
  have front (h : 0 < w.threads.countP Stand.isConsumer) : q.front = [] := by
    have := consumers_le_dry w.threads
    exact List.length_eq_zero_iff.1 (hi.dry (by omega))
  have back (h : 0 < w.threads.countP Stand.isConsumer) (hn : .counting ∉ w.threads) :
      q.back = [] := by
    have : w.threads.countP Stand.holdsBack = 0 := by
      apply List.countP_eq_zero.2
      intro s hs hb
      cases s with
      | counting => exact hn hs
      | _ => cases hb
    exact List.length_eq_zero_iff.1 ((consumer h).2.trans this)
  constructor
  case single =>
    intro r hr
    cases hq.symm.trans hr
  case double =>
    intro r hr
    cases hq.symm.trans hr
    refine ⟨by omega, fun h => ?_, fun h => ?_⟩
    · obtain ⟨hc, hlen⟩ := consumer h
      exact ⟨hc, front h, hlen, back h⟩
    · obtain ⟨hc, hf⟩ := producer h
      obtain ⟨c, hcap, hle⟩ := full_iff.1 hf
      exact ⟨hc, c, hcap, Nat.le_antisymm (hi.back_le c hcap) hle⟩
  case item =>
    intro hne h
    refine .inr ?_
    by_contra hn
    exact hne (by simp [hq, toList, front h, back h hn])
  case slot =>
    intro hf h
    simp [hq, isFull, (producer h).2] at hf
  case closed =>
    intro hc
    have hc : q.closed = true := by simpa [hq, isClosed] using hc
    refine ⟨?_, ?_⟩
    · by_contra h
      simpa [hc] using (consumer (by omega)).1
    · by_contra h
      simpa [hc] using (producer (by omega)).1
  case stuck =>
    intro stuck s hs
    obtain ⟨notCounting, idle⟩ := Double.idle_of_stuck hk hq stuck
    have nothing (h : 0 < w.threads.countP Stand.isConsumer) :
        w.queue.isClosed = false ∧ w.queue.toList = [] := by
      simp [hq, isClosed, toList, (consumer h).1, front h, back h notCounting]
    refine ⟨fun seeks => ?_, fun seeks => ?_⟩
    · rcases idle s hs with h | ⟨_, h⟩
      · cases h with
        | consumer timed => exact nothing (List.countP_pos_iff.2 ⟨_, hs, rfl⟩)
        | producer a => cases seeks
        | done answer => cases seeks
      · exact nothing h
    · rcases idle s hs with h | ⟨hn, _⟩
      · cases h with
        | consumer timed => cases seeks
        | producer a =>
          obtain ⟨hc, hf⟩ := producer (List.countP_pos_iff.2 ⟨_, hs, rfl⟩)
          simp [hq, isClosed, isFull, hc, hf]
        | done answer => cases seeks
      · cases s with
        | ready call =>
          cases call with
          | push a => cases hn
          | pop timed => cases seeks
          | close => cases hn
        | _ => cases hn

end

/-- In every world that threads can bring a queue to, nobody who has something to do is parked
without another who was woken for it. -/
theorem attended_of_reachable {config : QueueConfig} {w : World α}
    (h : World.Reachable config w) : Attended w := by
  obtain ⟨calls, hk, hf, hw⟩ := invariants_of_reachable h
  unfold Fits at hf
  unfold Watched at hw
  split at hw
  · next q hq => exact Single.attended hk hq hw
  · next q hq =>
    simp only [hq] at hf
    exact Double.attended hk hq hf.2.2 hw

/-- Of two parked consumers the second is woken by a push and has not run yet; the first stays
parked beside the item. -/
theorem attended_beside_item :
    let w : World Nat := ⟨.single ⟨[5], false, none⟩,
      [.parked (.pop false), .woken (.pop true), .done .accepted], [5], []⟩
    World.Reachable ⟨.single, none⟩ w ∧ Attended w := by
  have h : World.Reachable ⟨.single, none⟩ (⟨.single ⟨[5], false, none⟩,
      [.parked (.pop false), .woken (.pop true), .done .accepted], [5], []⟩ : World Nat) :=
    World.reachable_iff_play.2 ⟨[.enter (.pop false), .run 0 0, .enter (.pop true), .run 1 0,
      .enter (.push 5), .run 2 1], rfl⟩
  exact ⟨h, attended_of_reachable h⟩

end FrameBus.Queue
