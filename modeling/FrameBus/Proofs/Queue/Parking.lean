import FrameBus.Proofs.Queue.Locks

/-!
# Parked threads

In the single design a notification is one for one: consumers that are woken and have not run yet
make up for the items that came in since (`Single.Watched`). In the double design one consumer at
most is parked, and producers are woken all at once when a full back list is swapped away
(`Double.Watched`).
-/

namespace FrameBus.Queue

variable {α : Type}

/-! ## Counting the parked and the woken -/

namespace Stand

/-- A consumer that was notified and has not run yet. -/
def isWokenConsumer : Stand α → Bool
  | .woken (.pop _) => true
  | _ => false

/-- A producer that was notified and has not run yet. -/
def isWokenProducer : Stand α → Bool
  | .woken (.push _) => true
  | _ => false

/-- Between two sections of a call at a double queue. -/
def isInside : Stand α → Bool
  | .counting | .crossing _ | .taking | .uncounting _ => true
  | _ => false

@[simp] theorem isInside_wake (s : Stand α) : s.wake.isInside = s.isInside := by
  cases s <;> rfl

/-- A consumer that still has to find its item, wherever it is. -/
def seeksItem : Stand α → Bool
  | .ready (.pop _) | .parked (.pop _) | .woken (.pop _) => true
  | .expired _ | .crossing _ | .taking => true
  | _ => false

/-- A producer that still has to bring in its item. -/
def seeksRoom : Stand α → Bool
  | .ready (.push _) | .parked (.push _) | .woken (.push _) => true
  | _ => false

end Stand

/-- How many of `n` parked consumers a signal leaves parked. -/
def Signal.consumersLeft : Signal → (n : Nat) → Nat
  | .oneConsumer, n => n - 1
  | .everyone, _ => 0
  | _, n => n

/-- How many of `n` parked producers a signal leaves parked. -/
def Signal.producersLeft : Signal → (n : Nat) → Nat
  | .oneProducer, n => n - 1
  | .allProducers, _ | .everyone, _ => 0
  | _, n => n

namespace World

/-- What a thread of the kind does not change by being notified is counted as before. -/
theorem countP_wakeOne_of_eq {kind p : Stand α → Bool} (hp : ∀ s, kind s = true → p s.wake = p s)
    (n : Nat) (l : List (Stand α)) : (wakeOne kind n l).countP p = l.countP p := by
  induction l generalizing n with
  | nil => rfl
  | cons a rest ih =>
    unfold wakeOne
    split
    · next ha =>
      split
      · simp [List.countP_cons, hp a ha]
      · simp [List.countP_cons, ih]
    · simp [List.countP_cons, ih]

/-- Of the threads of a kind, one less is left. -/
theorem countP_wakeOne {kind : Stand α → Bool} (hk : ∀ s, kind s = true → kind s.wake = false)
    {n : Nat} {l : List (Stand α)} (hn : n < l.countP kind) :
    (wakeOne kind n l).countP kind + 1 = l.countP kind := by
  induction l generalizing n with
  | nil => simp at hn
  | cons a rest ih =>
    unfold wakeOne
    split
    · next ha =>
      rw [List.countP_cons_of_pos ha] at hn
      split
      · simp [ha, hk a ha]
      · have := ih (Nat.lt_of_succ_lt_succ hn)
        simp [ha, this]
    · next ha =>
      rw [List.countP_cons_of_neg ha] at hn
      have := ih hn
      simp [ha, this]

theorem wakeOne_eq_self {kind : Stand α → Bool} {n : Nat} {l : List (Stand α)}
    (h : l.countP kind = 0) : wakeOne kind n l = l := by
  induction l generalizing n with
  | nil => rfl
  | cons a rest ih =>
    rw [List.countP_eq_zero] at h
    have ha : ¬ kind a = true := h a List.mem_cons_self
    simp only [wakeOne, if_neg ha]
    rw [ih (List.countP_eq_zero.2 fun s hs => h s (List.mem_cons_of_mem _ hs))]

/-- Whichever thread is picked, one of the kind is notified if there is one. -/
theorem countP_wakeOne_pick {kind : Stand α → Bool}
    (hk : ∀ s, kind s = true → kind s.wake = false) (pick : Nat) (l : List (Stand α)) :
    (wakeOne kind (pick % max 1 (l.countP kind)) l).countP kind = l.countP kind - 1 := by
  by_cases h : l.countP kind = 0
  · rw [wakeOne_eq_self h, h]
  · have hpos : 0 < max 1 (l.countP kind) := by omega
    have hlt := Nat.mod_lt pick hpos
    have := countP_wakeOne hk (n := pick % max 1 (l.countP kind)) (l := l) (by omega)
    omega

theorem countP_isConsumer_notify (pick : Nat) (l : List (Stand α)) (signal : Signal) :
    (notify pick l signal).countP Stand.isConsumer =
      signal.consumersLeft (l.countP Stand.isConsumer) := by
  cases signal with
  | nobody => rfl
  | oneConsumer =>
    refine countP_wakeOne_pick (fun s hs => ?_) pick l
    cases s with
    | parked call => rfl
    | _ => cases hs
  | oneProducer =>
    refine countP_wakeOne_of_eq (fun s hs => ?_) _ l
    cases s with
    | parked call => cases call <;> first | rfl | cases hs
    | _ => cases hs
  | allProducers =>
    simp only [notify, List.countP_map]
    apply List.countP_congr
    intro s _
    cases s with
    | parked call => cases call <;> rfl
    | _ => rfl
  | everyone =>
    simp only [notify, List.countP_map, Signal.consumersLeft]
    apply List.countP_eq_zero.2
    intro s _
    cases s <;> simp [Stand.wake, Stand.isConsumer]

theorem countP_isProducer_notify (pick : Nat) (l : List (Stand α)) (signal : Signal) :
    (notify pick l signal).countP Stand.isProducer =
      signal.producersLeft (l.countP Stand.isProducer) := by
  cases signal with
  | nobody => rfl
  | oneConsumer =>
    refine countP_wakeOne_of_eq (fun s hs => ?_) _ l
    cases s with
    | parked call => cases call <;> first | rfl | cases hs
    | _ => cases hs
  | oneProducer =>
    refine countP_wakeOne_pick (fun s hs => ?_) pick l
    cases s with
    | parked call => rfl
    | _ => cases hs
  | allProducers =>
    simp only [notify, List.countP_map, Signal.producersLeft]
    apply List.countP_eq_zero.2
    intro s _
    cases s with
    | parked call => cases call <;> simp [Stand.wake, Stand.isProducer]
    | _ => simp [Stand.isProducer]
  | everyone =>
    simp only [notify, List.countP_map, Signal.producersLeft]
    apply List.countP_eq_zero.2
    intro s _
    cases s <;> simp [Stand.wake, Stand.isProducer]

/-- Kinds of which no thread is both, where the one becomes the other by being notified. -/
theorem countP_add_notify {p q : Stand α → Bool} (hpq : ∀ s, p s = true → q s = false)
    (hw : ∀ s, (p s.wake || q s.wake) = (p s || q s)) (pick : Nat) (l : List (Stand α))
    (signal : Signal) :
    (notify pick l signal).countP p + (notify pick l signal).countP q =
      l.countP p + l.countP q := by
  have sum (l : List (Stand α)) : l.countP p + l.countP q = l.countP fun s => p s || q s := by
    induction l with
    | nil => rfl
    | cons s rest ih =>
      have := hpq s
      simp only [List.countP_cons, ← ih]
      revert this
      cases p s <;> cases q s <;> simp <;> omega
  rw [sum, sum, countP_notify hw]

/-- Whom a notification finds parked, it leaves woken. -/
theorem countP_consumers_notify (pick : Nat) (l : List (Stand α)) (signal : Signal) :
    (notify pick l signal).countP Stand.isConsumer +
        (notify pick l signal).countP Stand.isWokenConsumer =
      l.countP Stand.isConsumer + l.countP Stand.isWokenConsumer := by
  refine countP_add_notify (fun s hs => ?_) (fun s => ?_) pick l signal
  · cases s <;> first | rfl | cases hs
  · cases s with
    | parked call => cases call <;> rfl
    | _ => rfl

theorem countP_producers_notify (pick : Nat) (l : List (Stand α)) (signal : Signal) :
    (notify pick l signal).countP Stand.isProducer +
        (notify pick l signal).countP Stand.isWokenProducer =
      l.countP Stand.isProducer + l.countP Stand.isWokenProducer := by
  refine countP_add_notify (fun s hs => ?_) (fun s => ?_) pick l signal
  · cases s <;> first | rfl | cases hs
  · cases s with
    | parked call => cases call <;> rfl
    | _ => rfl

end World

/-- Consumers before and after a section, which parks its own thread or nobody. -/
theorem World.consumers_section {l : List (Stand α)} {t : Nat} {s : Stand α} (ht : l[t]? = some s)
    (hs : s.isConsumer = false) {e : Stand α} (he : e.isWokenConsumer = false) (pick : Nat)
    (signal : Signal) :
    (notify pick (l.set t e) signal).countP Stand.isConsumer =
        signal.consumersLeft (l.countP Stand.isConsumer + e.isConsumer.toNat) ∧
      (notify pick (l.set t e) signal).countP Stand.isConsumer +
          (notify pick (l.set t e) signal).countP Stand.isWokenConsumer + s.isWokenConsumer.toNat =
        l.countP Stand.isConsumer + l.countP Stand.isWokenConsumer + e.isConsumer.toNat := by
  have parked := countP_set (p := Stand.isConsumer) ht e
  have woken := countP_set (p := Stand.isWokenConsumer) ht e
  rw [hs] at parked
  rw [he] at woken
  simp only [Bool.toNat_false, Nat.add_zero] at parked woken
  refine ⟨?_, ?_⟩
  · rw [countP_isConsumer_notify, parked]
  · rw [countP_consumers_notify]
    omega

theorem World.producers_section {l : List (Stand α)} {t : Nat} {s : Stand α} (ht : l[t]? = some s)
    (hs : s.isProducer = false) {e : Stand α} (he : e.isWokenProducer = false) (pick : Nat)
    (signal : Signal) :
    (notify pick (l.set t e) signal).countP Stand.isProducer =
        signal.producersLeft (l.countP Stand.isProducer + e.isProducer.toNat) ∧
      (notify pick (l.set t e) signal).countP Stand.isProducer +
          (notify pick (l.set t e) signal).countP Stand.isWokenProducer + s.isWokenProducer.toNat =
        l.countP Stand.isProducer + l.countP Stand.isWokenProducer + e.isProducer.toNat := by
  have parked := countP_set (p := Stand.isProducer) ht e
  have woken := countP_set (p := Stand.isWokenProducer) ht e
  rw [hs] at parked
  rw [he] at woken
  simp only [Bool.toNat_false, Nat.add_zero] at parked woken
  refine ⟨?_, ?_⟩
  · rw [countP_isProducer_notify, parked]
  · rw [countP_producers_notify]
    omega

theorem Stand.Pushing.isWokenConsumer {s : Stand α} {a : α} (h : s.Pushing a) :
    s.isWokenConsumer = false := by
  cases h <;> rfl

theorem Stand.Popping.isWokenProducer {s : Stand α} {timed : Bool} (h : s.Popping timed) :
    s.isWokenProducer = false := by
  cases h <;> rfl

/-! ## One list -/

/-- Whoever is parked at a single queue waits for no more than others are woken for. -/
structure Single.Watched (q : Single α) (threads : List (Stand α)) : Prop where
  consumer : 0 < threads.countP Stand.isConsumer →
    q.closed = false ∧ q.items.length ≤ threads.countP Stand.isWokenConsumer
  producer : 0 < threads.countP Stand.isProducer →
    q.closed = false ∧
      ∃ c, q.capacity = some c ∧ c - q.items.length ≤ threads.countP Stand.isWokenProducer
  outside : threads.countP Stand.isInside = 0

namespace Single

variable {q : Single α} {threads : List (Stand α)}

theorem full_iff : q.full = true ↔ ∃ c, q.capacity = some c ∧ c ≤ q.items.length := by
  unfold full atBound
  split <;> simp_all

/-- A thread that has a next section is not parked, and the section does not wake it. -/
theorem Section.awake {s : Stand α} {e : Effect α} (h : q.Section s e) :
    s.isConsumer = false ∧ s.isProducer = false ∧ e.stand.isWokenConsumer = false ∧
      e.stand.isWokenProducer = false ∧ e.stand.isInside = false := by
  cases h with
  | reject hs _ | parkPush hs _ _ | append hs _ _ => cases hs <;> exact ⟨rfl, rfl, rfl, rfl, rfl⟩
  | drain hs _ _ | parkPop hs _ _ => cases hs <;> exact ⟨rfl, rfl, rfl, rfl, rfl⟩
  | take hs _ =>
    rcases hs with hs | rfl
    · cases hs <;> exact ⟨rfl, rfl, rfl, rfl, rfl⟩
    · exact ⟨rfl, rfl, rfl, rfl, rfl⟩
  | timeOut _ | close => exact ⟨rfl, rfl, rfl, rfl, rfl⟩

/-- Nobody is parked at a closed queue. -/
theorem Watched.nobody (hq : q.Watched threads) (hc : q.closed = true) :
    threads.countP Stand.isConsumer = 0 ∧ threads.countP Stand.isProducer = 0 := by
  constructor
  · refine Nat.eq_zero_of_not_pos fun h => ?_
    have := (hq.consumer h).1
    rw [hc] at this
    cases this
  · refine Nat.eq_zero_of_not_pos fun h => ?_
    have := (hq.producer h).1
    rw [hc] at this
    cases this

section

variable {after : List (Stand α)}

theorem watched_of_nobody (consumers : after.countP Stand.isConsumer = 0)
    (producers : after.countP Stand.isProducer = 0) (outside : after.countP Stand.isInside = 0) :
    q.Watched after :=
  ⟨fun h => by omega, fun h => by omega, outside⟩

theorem Watched.shut (hq : q.Watched threads) (hc : q.closed = true)
    (consumers : after.countP Stand.isConsumer = threads.countP Stand.isConsumer)
    (producers : after.countP Stand.isProducer = threads.countP Stand.isProducer)
    (outside : after.countP Stand.isInside = 0) : q.Watched after := by
  obtain ⟨noC, noP⟩ := hq.nobody hc
  exact watched_of_nobody (consumers.trans noC) (producers.trans noP) outside

/-- A producer is parked when the queue is full. -/
theorem Watched.parkPush (hq : q.Watched threads) (hc : q.closed = false) (hf : q.full = true)
    (consumers : after.countP Stand.isConsumer = threads.countP Stand.isConsumer)
    (woken : after.countP Stand.isConsumer + after.countP Stand.isWokenConsumer =
      threads.countP Stand.isConsumer + threads.countP Stand.isWokenConsumer)
    (outside : after.countP Stand.isInside = 0) : q.Watched after := by
  refine ⟨fun h => ?_, fun _ => ?_, outside⟩
  · have := (hq.consumer (by omega)).2
    exact ⟨hc, by omega⟩
  · obtain ⟨c, hcap, hle⟩ := full_iff.1 hf
    exact ⟨hc, c, hcap, by omega⟩

/-- With an item more, a consumer more is woken; the producer that brings it in may be one that was
woken. -/
theorem Watched.append (hq : q.Watched threads) (hc : q.closed = false) (a : α)
    (consumers : after.countP Stand.isConsumer = threads.countP Stand.isConsumer - 1)
    (producers : after.countP Stand.isProducer = threads.countP Stand.isProducer)
    (woken : after.countP Stand.isConsumer + after.countP Stand.isWokenConsumer =
      threads.countP Stand.isConsumer + threads.countP Stand.isWokenConsumer)
    (lost : threads.countP Stand.isProducer + threads.countP Stand.isWokenProducer ≤
      after.countP Stand.isProducer + after.countP Stand.isWokenProducer + 1)
    (outside : after.countP Stand.isInside = 0) : (q.append a).Watched after := by
  have len : (q.append a).items.length = q.items.length + 1 := by simp [Single.append]
  refine ⟨fun h => ?_, fun h => ?_, outside⟩
  · have := (hq.consumer (by omega)).2
    exact ⟨hc, by omega⟩
  · obtain ⟨_, c, hcap, hle⟩ := hq.producer (by omega)
    exact ⟨hc, c, hcap, by omega⟩

/-- With an item less, a producer more is woken if there is a bound; the consumer that takes it may
be one that was woken. -/
theorem Watched.take (hq : q.Watched threads) {a : α} {rest : List α} (hi : q.items = a :: rest)
    (consumers : after.countP Stand.isConsumer = threads.countP Stand.isConsumer)
    (producers : after.countP Stand.isProducer =
      (if q.capacity.isSome then Signal.oneProducer else .nobody).producersLeft
        (threads.countP Stand.isProducer))
    (lost : threads.countP Stand.isConsumer + threads.countP Stand.isWokenConsumer ≤
      after.countP Stand.isConsumer + after.countP Stand.isWokenConsumer + 1)
    (woken : after.countP Stand.isProducer + after.countP Stand.isWokenProducer =
      threads.countP Stand.isProducer + threads.countP Stand.isWokenProducer)
    (outside : after.countP Stand.isInside = 0) : { q with items := rest }.Watched after := by
  have len : q.items.length = rest.length + 1 := by simp [hi]
  refine ⟨fun h => ?_, fun h => ?_, outside⟩
  · obtain ⟨hc, hle⟩ := hq.consumer (by omega)
    refine ⟨hc, ?_⟩
    show rest.length ≤ _
    omega
  · have parked : 0 < threads.countP Stand.isProducer := by
      refine Nat.pos_of_ne_zero fun none => ?_
      rw [none] at producers
      split at producers <;> exact absurd producers (Nat.ne_of_gt h)
    obtain ⟨hc, c, hcap, hle⟩ := hq.producer parked
    rw [hcap] at producers
    have producers : after.countP Stand.isProducer = threads.countP Stand.isProducer - 1 :=
      producers
    refine ⟨hc, c, hcap, ?_⟩
    show c - rest.length ≤ _
    omega

/-- A consumer is parked when there is no item. -/
theorem Watched.parkPop (hq : q.Watched threads) (hc : q.closed = false) (hi : q.items = [])
    (producers : after.countP Stand.isProducer = threads.countP Stand.isProducer)
    (woken : after.countP Stand.isProducer + after.countP Stand.isWokenProducer =
      threads.countP Stand.isProducer + threads.countP Stand.isWokenProducer)
    (outside : after.countP Stand.isInside = 0) : q.Watched after := by
  refine ⟨fun _ => ⟨hc, by simp [hi]⟩, fun h => ?_, outside⟩
  obtain ⟨_, c, hcap, hle⟩ := hq.producer (by omega)
  exact ⟨hc, c, hcap, by omega⟩

theorem Watched.timeOut (hq : q.Watched threads) (hi : q.items = [])
    (consumers : after.countP Stand.isConsumer = threads.countP Stand.isConsumer)
    (producers : after.countP Stand.isProducer = threads.countP Stand.isProducer)
    (woken : after.countP Stand.isProducer + after.countP Stand.isWokenProducer =
      threads.countP Stand.isProducer + threads.countP Stand.isWokenProducer)
    (outside : after.countP Stand.isInside = 0) : q.Watched after := by
  refine ⟨fun h => ?_, fun h => ?_, outside⟩
  · exact ⟨(hq.consumer (by omega)).1, by simp [hi]⟩
  · obtain ⟨hc, c, hcap, hle⟩ := hq.producer (by omega)
    exact ⟨hc, c, hcap, by omega⟩

end

theorem watched_of_section (hq : q.Watched threads) {t : Nat} {s : Stand α} {e : Effect α}
    (h : q.Section s e) (ht : threads[t]? = some s) (pick : Nat) :
    ∃ r, e.queue = .single r ∧
      r.Watched (World.notify pick (threads.set t e.stand) e.signal) := by
  obtain ⟨hsC, hsP, heC, heP, heI⟩ := h.awake
  obtain ⟨parkedC, wokenC⟩ := World.consumers_section ht hsC heC pick e.signal
  obtain ⟨parkedP, wokenP⟩ := World.producers_section ht hsP heP pick e.signal
  have oneC := Bool.toNat_le s.isWokenConsumer
  have oneP := Bool.toNat_le s.isWokenProducer
  have inside := World.countP_section Stand.isInside_wake ht pick e.stand e.signal
  rw [heI, hq.outside] at inside
  generalize World.notify pick (threads.set t e.stand) e.signal = after at *
  have outside : after.countP Stand.isInside = 0 := (Nat.add_eq_zero_iff.1 inside).1
  have lostC : threads.countP Stand.isConsumer + threads.countP Stand.isWokenConsumer ≤
      after.countP Stand.isConsumer + after.countP Stand.isWokenConsumer + 1 := by omega
  have lostP : threads.countP Stand.isProducer + threads.countP Stand.isWokenProducer ≤
      after.countP Stand.isProducer + after.countP Stand.isWokenProducer + 1 := by omega
  cases h with
  | reject hs hc => exact ⟨q, rfl, hq.shut hc parkedC parkedP outside⟩
  | parkPush hs hc hf =>
    rw [hs.isWokenConsumer] at wokenC
    exact ⟨q, rfl, hq.parkPush hc hf parkedC wokenC outside⟩
  | @append _ a hs hc hf =>
    rw [hs.isWokenConsumer] at wokenC
    exact ⟨q.append a, rfl, hq.append hc a parkedC parkedP wokenC lostP outside⟩
  | @take _ timed a rest hs hi =>
    have notProducer : s.isWokenProducer = false := by
      rcases hs with hs | rfl
      · exact hs.isWokenProducer
      · rfl
    rw [notProducer] at wokenP
    have parkedC : after.countP Stand.isConsumer = threads.countP Stand.isConsumer := by
      cases hcap : q.capacity <;> (rw [hcap] at parkedC; exact parkedC)
    exact ⟨_, rfl, hq.take hi parkedC parkedP lostC wokenP outside⟩
  | drain hs hi hc => exact ⟨q, rfl, hq.shut hc parkedC parkedP outside⟩
  | parkPop hs hi hc =>
    rw [hs.isWokenProducer] at wokenP
    exact ⟨q, rfl, hq.parkPop hc hi parkedP wokenP outside⟩
  | timeOut hi => exact ⟨q, rfl, hq.timeOut hi parkedC parkedP wokenP outside⟩
  | close => exact ⟨q.close, rfl, watched_of_nobody parkedC parkedP outside⟩

end Single

/-! ## Two lists -/

/-- A consumer is parked at a double queue when there is nothing on the back list but what a
producer is staging, and producers when the back list is full. -/
structure Double.Watched (q : Double α) (threads : List (Stand α)) : Prop where
  consumer : 0 < threads.countP Stand.isConsumer →
    q.closed = false ∧ q.back.length = threads.countP Stand.holdsBack
  producer : 0 < threads.countP Stand.isProducer → q.closed = false ∧ q.full = true

namespace Double

variable {q r : Double α} {threads : List (Stand α)}

theorem Section.awake {s : Stand α} {e : Effect α} (h : q.Section s e) :
    s.isConsumer = false ∧ s.isProducer = false ∧ e.stand.isWokenConsumer = false ∧
      e.stand.isWokenProducer = false := by
  cases h with
  | reject hs _ | parkPush hs _ _ | stage hs _ _ => cases hs <;> exact ⟨rfl, rfl, rfl, rfl⟩
  | drain hs _ _ | parkPop hs _ _ => cases hs <;> exact ⟨rfl, rfl, rfl, rfl⟩
  | take hs _ => rcases hs with rfl | rfl <;> exact ⟨rfl, rfl, rfl, rfl⟩
  | swap hs _ =>
    rcases hs with hs | rfl
    · cases hs <;> exact ⟨rfl, rfl, rfl, rfl⟩
    · exact ⟨rfl, rfl, rfl, rfl⟩
  | count | cross _ | timeOut _ | miss _ | uncount | close => exact ⟨rfl, rfl, rfl, rfl⟩

theorem full_iff : q.full = true ↔ ∃ c, q.capacity = some c ∧ c ≤ q.back.length := by
  unfold full atBound
  split <;> simp_all

theorem consumers_le_dry (threads : List (Stand α)) :
    threads.countP Stand.isConsumer ≤ threads.countP Stand.isDry := by
  apply List.countP_mono_left
  intro s _ hs
  cases s with
  | parked call => cases call <;> first | rfl | cases hs
  | _ => cases hs

/-- A parked consumer keeps the lock of the front list, so there is one at most. -/
theorem Inv.consumers_le (h : q.Inv threads) : threads.countP Stand.isConsumer +
    threads.countP Stand.isTaking + threads.countP Stand.isUncounting ≤ 1 := by
  have := consumers_le_dry threads
  have := h.frontLock
  omega

section

variable {after : List (Stand α)}

/-- The back list is left, and nobody is parked or notified. -/
theorem Watched.still (hq : q.Watched threads) (closed : r.closed = q.closed)
    (back : r.back = q.back) (capacity : r.capacity = q.capacity)
    (consumers : after.countP Stand.isConsumer = threads.countP Stand.isConsumer)
    (producers : after.countP Stand.isProducer = threads.countP Stand.isProducer)
    (holds : after.countP Stand.holdsBack = threads.countP Stand.holdsBack) : r.Watched after := by
  refine ⟨fun h => ?_, fun h => ?_⟩
  · rw [closed, back, holds]
    exact hq.consumer (by omega)
  · rw [closed, full, back, capacity]
    exact hq.producer (by omega)

/-- A producer is parked when the back list is full. -/
theorem Watched.parkPush (hq : q.Watched threads) (hc : q.closed = false) (hf : q.full = true)
    (consumers : after.countP Stand.isConsumer = threads.countP Stand.isConsumer)
    (holds : after.countP Stand.holdsBack = threads.countP Stand.holdsBack) : q.Watched after := by
  refine ⟨fun h => ?_, fun _ => ⟨hc, hf⟩⟩
  rw [holds]
  exact hq.consumer (by omega)

/-- What is staged is on the back list, and the producer has not counted it. -/
theorem Watched.stage (hq : q.Watched threads) (hc : q.closed = false) (hf : q.full = false) (a : α)
    (consumers : after.countP Stand.isConsumer = threads.countP Stand.isConsumer)
    (producers : after.countP Stand.isProducer = threads.countP Stand.isProducer)
    (holds : after.countP Stand.holdsBack = threads.countP Stand.holdsBack + 1) :
    (q.stage a).Watched after := by
  refine ⟨fun h => ?_, fun h => ?_⟩
  · obtain ⟨_, hlen⟩ := hq.consumer (by omega)
    exact ⟨hc, by simp [Double.stage]; omega⟩
  · exact absurd (hq.producer (by omega)).2 (by simp [hf])

/-- No consumer is parked, and what producers wait for is left. -/
theorem Watched.unparked (hq : q.Watched threads) (closed : r.closed = q.closed)
    (full : r.full = q.full) (consumers : after.countP Stand.isConsumer = 0)
    (producers : after.countP Stand.isProducer = threads.countP Stand.isProducer) :
    r.Watched after := by
  refine ⟨fun h => by omega, fun h => ?_⟩
  rw [closed, full]
  exact hq.producer (by omega)

/-- A full back list that is swapped away wakes all producers, and at another one nobody waits. -/
theorem Watched.swap (hq : q.Watched threads) (consumers : after.countP Stand.isConsumer = 0)
    (producers : after.countP Stand.isProducer =
      (if q.full then Signal.allProducers else .nobody).producersLeft
        (threads.countP Stand.isProducer)) : q.swap.Watched after := by
  refine ⟨fun h => by omega, fun h => ?_⟩
  cases hf : q.full with
  | true =>
    rw [hf] at producers
    exact absurd producers (Nat.ne_of_gt h)
  | false =>
    rw [hf] at producers
    have producers : after.countP Stand.isProducer = threads.countP Stand.isProducer := producers
    exact absurd (hq.producer (by omega)).2 (by simp [hf])

/-- A consumer is parked when there is nothing on the back list. -/
theorem Watched.parkPop (hq : q.Watched threads) (hc : q.closed = false) (hb : q.back = [])
    (producers : after.countP Stand.isProducer = threads.countP Stand.isProducer)
    (holds : after.countP Stand.holdsBack = 0) : q.Watched after :=
  ⟨fun _ => ⟨hc, by rw [hb, holds]; rfl⟩, fun h => hq.producer (by omega)⟩

theorem watched_of_nobody (consumers : after.countP Stand.isConsumer = 0)
    (producers : after.countP Stand.isProducer = 0) : q.Watched after :=
  ⟨fun h => by omega, fun h => by omega⟩

end

theorem watched_of_section (hi : q.Inv threads) (hq : q.Watched threads) {t : Nat} {s : Stand α}
    {e : Effect α} (h : q.Section s e) (ht : threads[t]? = some s)
    (back : s.needsBack = true → threads.countP Stand.holdsBack = 0) (pick : Nat)
    (hr : e.queue = .double r)
    (hri : r.Inv (World.notify pick (threads.set t e.stand) e.signal)) :
    r.Watched (World.notify pick (threads.set t e.stand) e.signal) := by
  obtain ⟨hsC, hsP, heC, heP⟩ := h.awake
  obtain ⟨parkedC, -⟩ := World.consumers_section ht hsC heC pick e.signal
  obtain ⟨parkedP, -⟩ := World.producers_section ht hsP heP pick e.signal
  have holds := World.countP_section Stand.holdsBack_wake ht pick e.stand e.signal
  have takes := World.countP_section Stand.isTaking_wake ht pick e.stand e.signal
  have uncounts := World.countP_section Stand.isUncounting_wake ht pick e.stand e.signal
  have lock := hri.consumers_le
  have locked := hi.consumers_le
  generalize World.notify pick (threads.set t e.stand) e.signal = after at *
  cases h with
  | reject hs hc =>
    cases hr
    cases hs <;> exact hq.still rfl rfl rfl parkedC parkedP holds
  | parkPush hs hc hf =>
    cases hr
    cases hs <;> exact hq.parkPush hc hf parkedC holds
  | @stage _ a hs hc hf =>
    cases hr
    cases hs <;> exact hq.stage hc hf a parkedC parkedP holds
  | count =>
    cases hr
    -- the one consumer that may be parked is woken
    have parkedC : after.countP Stand.isConsumer = threads.countP Stand.isConsumer - 1 := parkedC
    exact hq.unparked rfl rfl (by omega) parkedP
  | take hs hf =>
    cases hr
    -- who takes keeps the front list, so no consumer is parked
    have uncounts : after.countP Stand.isUncounting = threads.countP Stand.isUncounting + 1 := by
      rcases hs with rfl | rfl <;> exact uncounts
    exact hq.unparked rfl rfl (by omega) parkedP
  | cross hf =>
    cases hr
    exact hq.still rfl rfl rfl parkedC parkedP holds
  | swap hs hne =>
    cases hr
    have takes : after.countP Stand.isTaking = threads.countP Stand.isTaking + 1 := by
      rcases hs with hs | rfl
      · cases hs <;> exact takes
      · exact takes
    exact hq.swap (by omega) parkedP
  | drain hs hb hc =>
    cases hr
    cases hs <;> exact hq.still rfl rfl rfl parkedC parkedP holds
  | parkPop hs hb hc =>
    cases hr
    have free : threads.countP Stand.holdsBack = 0 := back (by cases hs <;> rfl)
    have holds : after.countP Stand.holdsBack = threads.countP Stand.holdsBack := by
      cases hs <;> exact holds
    exact hq.parkPop hc hb parkedP (holds.trans free)
  | timeOut hb =>
    cases hr
    exact hq.still rfl rfl rfl parkedC parkedP holds
  | miss hf =>
    cases hr
    exact hq.still rfl rfl rfl parkedC parkedP holds
  | uncount =>
    cases hr
    exact hq.still rfl rfl rfl parkedC parkedP holds
  | close =>
    cases hr
    exact watched_of_nobody parkedC parkedP

end Double

end FrameBus.Queue
