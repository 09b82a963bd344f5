import FrameBus.Proofs.Queue.Locks

/-!
# First in, first out

Under every interleaving of any number of threads both designs give items out in the order in which
they came in, lose none and double none (`orderly_of_play`, with what a call is answered and how
much is ever queued).
-/

namespace FrameBus.Queue

variable {α : Type}

/-! ## Runs keep the order -/

/-- How the queue is made, and what its design keeps. -/
def Fits (config : QueueConfig) (w : World α) : Prop :=
  match w.queue with
  | .single q =>
    config.kind = .single ∧ q.capacity = QueueConfig.bound config.capacity ∧
      ∀ c, q.capacity = some c → q.items.length ≤ c
  | .double q =>
    config.kind = .double ∧ q.capacity = QueueConfig.bound config.capacity ∧ q.Inv w.threads

theorem Single.fits_of_section {q : Single α} {s : Stand α} {e : Effect α} (h : q.Section s e)
    (hq : ∀ c, q.capacity = some c → q.items.length ≤ c) :
    ∃ r, e.queue = .single r ∧ r.capacity = q.capacity ∧
      ∀ c, r.capacity = some c → r.items.length ≤ c := by
  cases h with
  | @append _ a _ _ hf =>
    refine ⟨q.append a, rfl, rfl, fun c hc => ?_⟩
    have : ¬ c ≤ q.items.length := by
      simpa [full, atBound, show q.capacity = some c from hc] using hf
    show (q.items ++ [a]).length ≤ c
    simp
    omega
  | @take _ _ a rest _ hi =>
    refine ⟨{ q with items := rest }, rfl, rfl, fun c hc => ?_⟩
    have := hq c hc
    simp only [hi, List.length_cons] at this
    show rest.length ≤ c
    omega
  | close => exact ⟨q.close, rfl, rfl, hq⟩
  | _ => exact ⟨q, rfl, rfl, hq⟩

section

variable {config : QueueConfig} {calls : List (Call α)} {w v : World α}

theorem fits_start : Fits config (World.start config : World α) := by
  unfold Fits World.start new
  cases config.kind with
  | single => exact ⟨rfl, rfl, fun c _ => Nat.zero_le c⟩
  | double => exact ⟨rfl, rfl, Double.inv_new _⟩

theorem fits_enter (hf : Fits config w) (call : Call α) : Fits config (w.enter call) := by
  unfold Fits at hf ⊢
  show match w.queue with
    | .single q => _
    | .double q => config.kind = .double ∧ _ ∧ q.Inv (w.threads ++ [.ready call])
  split at hf
  · exact hf
  · obtain ⟨hk, hc, hi⟩ := hf
    exact ⟨hk, hc, hi.congr (by simp [Stand.isDry]) (by simp [Stand.isTaking])
      (by simp [Stand.isUncounting]) (by simp [Stand.holdsBack])⟩

theorem step_expire (hk : Kept calls w) (hf : Fits config w) {t : Nat} (h : w.expire t = some v) :
    Kept calls v ∧ Fits config v := by
  obtain ⟨ht, rfl⟩ := World.expire_eq_some h
  refine ⟨hk.expire ht, ?_⟩
  unfold Fits at hf ⊢
  split at hf
  · next q hq => simpa only [hq] using hf
  · next q hq =>
    obtain ⟨hk, hc, hi⟩ := hf
    simp only [hq]
    have same (p : Stand α → Bool) (hp : p (.expired (.pop true)) = p (.parked (.pop true))) :
        (w.threads.set t (.expired (.pop true))).countP p = w.threads.countP p := by
      have := World.countP_set (p := p) ht (.expired (.pop true))
      rw [hp] at this
      omega
    exact ⟨hk, hc, hi.congr (same _ rfl) (same _ rfl) (same _ rfl) (same _ rfl)⟩

theorem step_run (hk : Kept calls w) (hf : Fits config w) {t pick : Nat}
    (h : w.run t pick = some v) : Kept calls v ∧ Fits config v := by
  obtain ⟨s, e, ht, hu, he, rfl⟩ := World.run_eq_some h
  obtain ⟨call, hs⟩ := hk.serves_of_getElem? ht
  unfold Fits at hf
  split at hf
  · next q hq =>
    obtain ⟨hkind, hc, hi⟩ := hf
    have sec := Single.section_of_advance hs (by simpa only [hq, advance] using he)
    obtain ⟨r, hr, hrc, hri⟩ := Single.fits_of_section sec hi
    refine ⟨hk.advance ht (hq ▸ Single.sound_of_section sec) pick, ?_⟩
    simp only [Fits, hr]
    exact ⟨hkind, hrc.trans hc, hri⟩
  · next q hq =>
    obtain ⟨hkind, hc, hi⟩ := hf
    have sec := Double.section_of_advance hs (by simpa only [hq, advance] using he)
    obtain ⟨hback, hfront⟩ := Double.free_of_unlocked hq hu
    rw [Double.countP_holdsFront hk.serves] at hfront
    obtain ⟨r, hr, hrc, hri⟩ := Double.inv_of_section hi sec ht hback hfront pick
    have some_of {p : Stand α → Bool} (hp : p s = true) : 0 < w.threads.countP p :=
      List.countP_pos_iff.2 ⟨s, List.mem_of_getElem? ht, hp⟩
    have sound : Sound (.double q) s e := Double.sound_of_section sec
      (fun h => List.length_eq_zero_iff.1 (hi.dry (some_of h)))
      (fun h => List.length_pos_iff.1 (hi.laden (some_of h)))
    refine ⟨hk.advance ht (hq ▸ sound) pick, ?_⟩
    simp only [Fits, hr]
    exact ⟨hkind, hrc.trans hc, hri⟩

theorem kept_of_play (hk : Kept calls w) (hf : Fits config w) {ms : List (World.Move α)}
    (h : w.play ms = some v) : Kept (calls ++ World.calls ms) v ∧ Fits config v := by
  induction ms generalizing calls w with
  | nil =>
    cases h
    exact ⟨by simpa [World.calls] using hk, hf⟩
  | cons m ms ih =>
    obtain ⟨u, hu, hrest⟩ := Option.bind_eq_some_iff.1 h
    cases m with
    | enter call =>
      cases hu
      simpa [World.calls, World.Move.call?] using ih (hk.enter call) (fits_enter hf call) hrest
    | run t pick =>
      obtain ⟨hk', hf'⟩ := step_run hk hf hu
      exact ih hk' hf' hrest
    | expire t =>
      obtain ⟨hk', hf'⟩ := step_expire hk hf hu
      exact ih hk' hf' hrest

end

/-! ## Refusals -/

/-- A push that comes to the queue: it is refused exactly when the queue is closed, and then leaves
no trace there. -/
structure Refuses (q : Queue α) (a : α) (e : Effect α) : Prop where
  rejected_iff : e.stand = .done (.rejected a) ↔ q.isClosed = true
  untouched : q.isClosed = true → e.queue = q ∧ e.accepted = []

theorem refuses_of_advance {q : Queue α} {s : Stand α} {a : α} {e : Effect α} (hs : s.Pushing a)
    (h : q.advance s = some e) : Refuses q a e := by
  cases q with
  | single q =>
    cases hs <;>
    · simp only [advance, Single.advance] at h
      split at h
      · next hc => cases h; exact ⟨iff_of_true rfl hc, fun _ => ⟨rfl, rfl⟩⟩
      · next hc =>
        split at h <;> cases h <;> exact ⟨iff_of_false (by simp) hc, fun h => absurd h hc⟩
  | double q =>
    cases hs <;>
    · simp only [advance, Double.advance] at h
      split at h
      · next hc => cases h; exact ⟨iff_of_true rfl hc, fun _ => ⟨rfl, rfl⟩⟩
      · next hc =>
        split at h <;> cases h <;> exact ⟨iff_of_false (by simp) hc, fun h => absurd h hc⟩

theorem rejected_iff_of_run {w v : World α} {t pick : Nat} {s : Stand α} {a : α}
    (ht : w.threads[t]? = some s) (hs : s.Pushing a) (h : w.run t pick = some v) :
    (v.threads[t]? = some (.done (.rejected a)) ↔ w.queue.isClosed = true) ∧
      (w.queue.isClosed = true → v.queue = w.queue ∧ v.accepted = w.accepted) := by
  obtain ⟨s', e, ht', -, he, rfl⟩ := World.run_eq_some h
  obtain rfl : s = s' := Option.some.inj (ht.symm.trans ht')
  have hr := refuses_of_advance hs he
  have hlt : t < w.threads.length := (List.getElem?_eq_some_iff.1 ht).1
  refine ⟨?_, fun hc => ?_⟩
  · rw [getElem?_notify_done, List.getElem?_set_self hlt, Option.some.injEq]
    exact hr.rejected_iff
  · obtain ⟨hq, ha⟩ := hr.untouched hc
    exact ⟨hq, by simp [ha]⟩

/-! ## The whole contract -/

/-- How much the queue holds, and what its total says. -/
def Bounded (capacity : Option Nat) (threads : List (Stand α)) : Queue α → Prop
  | .single q => ∀ c, capacity = some c → q.items.length ≤ c
  | .double q =>
    (∀ c, capacity = some c → q.front.length ≤ c ∧ q.back.length ≤ c ∧ q.total ≤ 2 * c) ∧
    -- whoever is about to count down finds something to count
    (∀ a, .uncounting a ∈ threads → 0 < q.total) ∧
    ((∀ s ∈ threads, s ≠ .counting ∧ ∀ a, s ≠ .uncounting a) →
      q.total = q.front.length + q.back.length)

/-- A queue that loses nothing, doubles nothing, and gives items out in the order they came in, for
threads that made `calls`. -/
structure Orderly (config : QueueConfig) (calls : List (Call α)) (w : World α) : Prop where
  /-- every thread stands somewhere in its own call -/
  serves : List.Forall₂ Serves calls w.threads
  order : w.accepted = w.handed ++ w.queue.toList
  /-- what came in are the items of the pushes that were let in, each once -/
  entered : (gather Call.entered calls w.threads).Perm w.accepted
  /-- what went out are the items that pops were given, each once -/
  taken : (gather Call.taken calls w.threads).Perm w.handed
  rejected_iff : ∀ t pick s a v, w.threads[t]? = some s → s.Pushing a → w.run t pick = some v →
    (v.threads[t]? = some (.done (.rejected a)) ↔ w.queue.isClosed = true) ∧
      (w.queue.isClosed = true → v.queue = w.queue ∧ v.accepted = w.accepted)
  drained : .done .drained ∈ w.threads → w.queue.isClosed = true ∧ w.queue.toList = []
  bounded : Bounded (QueueConfig.bound config.capacity) w.threads w.queue

theorem bounded_of_fits {config : QueueConfig} {w : World α} (h : Fits config w) :
    Bounded (QueueConfig.bound config.capacity) w.threads w.queue := by
  unfold Fits at h
  split at h
  · next q hq =>
    obtain ⟨_, hc, hi⟩ := h
    rw [hq, ← hc]
    exact hi
  · next q hq =>
    obtain ⟨_, hc, hi⟩ := h
    rw [hq, ← hc]
    have total := hi.total
    have staged := hi.staged
    refine ⟨fun c h => ?_, fun a ha => ?_, fun free => ?_⟩
    · have front := hi.front_le c h
      have back := hi.back_le c h
      exact ⟨by omega, back, by omega⟩
    · have : 0 < w.threads.countP Stand.isUncounting := List.countP_pos_iff.2 ⟨_, ha, rfl⟩
      omega
    · have hb : w.threads.countP Stand.holdsBack = 0 := by
        apply List.countP_eq_zero.2
        intro s hs
        cases s <;> simp [Stand.holdsBack]
        exact (free _ hs).1 rfl
      have hu : w.threads.countP Stand.isUncounting = 0 := by
        apply List.countP_eq_zero.2
        intro s hs
        cases s <;> simp [Stand.isUncounting]
        exact (free _ hs).2 _ rfl
      omega

/-- Both designs are first in, first out, without loss and without duplication, under every
interleaving of any number of threads. -/
theorem orderly_of_play {config : QueueConfig} {ms : List (World.Move α)} {w : World α}
    (h : (World.start config).play ms = some w) : Orderly config (World.calls ms) w := by
  obtain ⟨hk, hf⟩ := kept_of_play (Kept.start config) fits_start h
  exact ⟨hk.serves, hk.order, hk.entered, hk.taken,
    fun t pick s a v ht hs hv => rejected_iff_of_run ht hs hv, hk.drained, bounded_of_fits hf⟩

/-- A producer waits at a back list of one until a consumer swaps it away; here the one has staged
its item and the other has taken one, and neither has counted yet. -/
theorem orderly_handover :
    let ms : List (World.Move Nat) := [.enter (.push 1), .run 0 0, .run 0 0, .enter (.push 2),
      .run 1 0, .enter (.pop false), .run 2 0, .run 2 0, .run 1 0, .run 2 0]
    let w : World Nat := ⟨.double ⟨[], [2], 1, false, some 1⟩,
      [.done .accepted, .counting, .uncounting 1], [1, 2], [1]⟩
    (World.start ⟨.double, some 1⟩).play ms = some w ∧
      Orderly ⟨.double, some 1⟩ (World.calls ms) w :=
  ⟨rfl, orderly_of_play rfl⟩

end FrameBus.Queue
