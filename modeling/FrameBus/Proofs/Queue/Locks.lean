import FrameBus.Proofs.Queue.Accounts

/-!
# The two locks of a double queue

A consumer that keeps the lock of the front list is alone with it, and finds the list as it left it;
items on the two lists and the total differ by the threads that stand between a list and the total
(`Double.Inv`, kept by every section: `Double.inv_of_section`).
-/

namespace FrameBus.Queue

variable {α : Type}

/-- How the two lists, the total and the threads inside of a section belong together. -/
structure Double.Inv (q : Double α) (threads : List (Stand α)) : Prop where
  /-- one thread keeps the lock of the front list -/
  frontLock : threads.countP Stand.isDry + threads.countP Stand.isTaking +
    threads.countP Stand.isUncounting ≤ 1
  /-- one thread keeps the lock of the back list -/
  backLock : threads.countP Stand.holdsBack ≤ 1
  dry : 0 < threads.countP Stand.isDry → q.front.length = 0
  laden : 0 < threads.countP Stand.isTaking → 0 < q.front.length
  total : q.total + threads.countP Stand.holdsBack =
    q.front.length + q.back.length + threads.countP Stand.isUncounting
  staged : threads.countP Stand.holdsBack ≤ q.back.length
  front_le : ∀ c, q.capacity = some c → q.front.length + threads.countP Stand.isUncounting ≤ c
  back_le : ∀ c, q.capacity = some c → q.back.length ≤ c

namespace Double

variable {q : Double α} {threads : List (Stand α)}

theorem inv_new (capacity : Option Nat) : (new capacity : Double α).Inv [] := by
  constructor <;> simp [new]

theorem countP_holdsFront {calls : List (Call α)} (h : List.Forall₂ Serves calls threads) :
    threads.countP Stand.holdsFront = threads.countP Stand.isDry + threads.countP Stand.isTaking +
      threads.countP Stand.isUncounting := by
  induction h with
  | nil => rfl
  | @cons call s _ _ hc _ ih =>
    have : s.holdsFront.toNat = s.isDry.toNat + s.isTaking.toNat + s.isUncounting.toNat := by
      cases hc with
      | ready call => cases call <;> rfl
      | @parked call hc => cases call <;> rfl
      | @woken call hc => cases call <;> rfl
      | _ => rfl
    simp only [List.countP_cons, ih]
    revert this
    cases s.holdsFront <;> cases s.isDry <;> cases s.isTaking <;> cases s.isUncounting <;> simp <;>
      omega

/-- A thread that gets the locks it needs finds nobody who keeps them. -/
theorem free_of_unlocked {w : World α} {s : Stand α} (hq : w.queue = .double q)
    (h : w.unlocked s = true) :
    (s.needsBack = true → w.threads.countP Stand.holdsBack = 0) ∧
      (s.needsFront = true → w.threads.countP Stand.holdsFront = 0) := by
  have none_of_any {p : Stand α → Bool} (h : w.threads.any p = false) : w.threads.countP p = 0 := by
    rw [List.countP_eq_zero]
    intro s hs hp
    exact absurd (List.any_eq_true.2 ⟨s, hs, hp⟩) (by simp [h])
  simp only [World.unlocked, hq, Bool.and_eq_true, Bool.not_eq_true', Bool.and_eq_false_iff] at h
  refine ⟨fun hn => none_of_any ?_, fun hn => none_of_any ?_⟩
  · simpa [hn] using h.1
  · simpa [hn] using h.2

/-! ## What a section keeps -/

section

variable {after : List (Stand α)}

/-- A section that moves no item, and whose thread is not left between an item and the total. -/
theorem Inv.still (hq : q.Inv threads)
    (hd : after.countP Stand.isDry ≤ threads.countP Stand.isDry ∨
      q.front.length = 0 ∧ after.countP Stand.isDry = 1 ∧
        threads.countP Stand.isTaking + threads.countP Stand.isUncounting = 0)
    (hl : after.countP Stand.isTaking = threads.countP Stand.isTaking)
    (hu : after.countP Stand.isUncounting = threads.countP Stand.isUncounting)
    (hb : after.countP Stand.holdsBack = threads.countP Stand.holdsBack) : q.Inv after := by
  obtain ⟨frontLock, backLock, dry, laden, total, staged, front_le, back_le⟩ := hq
  refine ⟨by omega, by omega, by omega, by omega, by omega, by omega, fun c hc => ?_, back_le⟩
  rw [hu]
  exact front_le c hc

theorem Inv.congr (hq : q.Inv threads)
    (hd : after.countP Stand.isDry = threads.countP Stand.isDry)
    (hl : after.countP Stand.isTaking = threads.countP Stand.isTaking)
    (hu : after.countP Stand.isUncounting = threads.countP Stand.isUncounting)
    (hb : after.countP Stand.holdsBack = threads.countP Stand.holdsBack) : q.Inv after :=
  hq.still (.inl (Nat.le_of_eq hd)) hl hu hb

/-- A producer puts an item on the back list, which nobody kept. -/
theorem Inv.stage (hq : q.Inv threads) {a : α} (hf : q.full = false)
    (hn : threads.countP Stand.holdsBack = 0)
    (hd : after.countP Stand.isDry = threads.countP Stand.isDry)
    (hl : after.countP Stand.isTaking = threads.countP Stand.isTaking)
    (hu : after.countP Stand.isUncounting = threads.countP Stand.isUncounting)
    (hb : after.countP Stand.holdsBack = threads.countP Stand.holdsBack + 1) :
    (q.stage a).Inv after := by
  obtain ⟨frontLock, backLock, dry, laden, total, staged, front_le, back_le⟩ := hq
  have len : (q.back ++ [a]).length = q.back.length + 1 := by simp
  refine ⟨by omega, by omega, fun h => dry (by omega), fun h => laden (by omega), ?_, ?_,
    fun c hc => ?_, fun c hc => ?_⟩
  · show q.total + _ = q.front.length + (q.back ++ [a]).length + _
    omega
  · show _ ≤ (q.back ++ [a]).length
    omega
  · rw [hu]
    exact front_le c hc
  · have : ¬ c ≤ q.back.length := by
      simpa [full, atBound, show q.capacity = some c from hc] using hf
    show (q.back ++ [a]).length ≤ c
    omega

/-- It counts the item. -/
theorem Inv.countUp (hq : q.Inv threads)
    (hd : after.countP Stand.isDry = threads.countP Stand.isDry)
    (hl : after.countP Stand.isTaking = threads.countP Stand.isTaking)
    (hu : after.countP Stand.isUncounting = threads.countP Stand.isUncounting)
    (hb : after.countP Stand.holdsBack + 1 = threads.countP Stand.holdsBack) :
    q.countUp.Inv after := by
  obtain ⟨frontLock, backLock, dry, laden, total, staged, front_le, back_le⟩ := hq
  refine ⟨by omega, by omega, fun h => dry (by omega), fun h => laden (by omega), ?_, ?_,
    fun c hc => ?_, back_le⟩
  · show q.total + 1 + _ = q.front.length + q.back.length + _
    omega
  · show _ ≤ q.back.length
    omega
  · rw [hu]
    exact front_le c hc

/-- A consumer takes an item from the front list, which nobody else kept. -/
theorem Inv.take (hq : q.Inv threads) {a : α} {rest : List α} (hf : q.front = a :: rest)
    (alone : threads.countP Stand.isDry + after.countP Stand.isTaking +
      threads.countP Stand.isUncounting = 0)
    (hd : after.countP Stand.isDry = threads.countP Stand.isDry)
    (hu : after.countP Stand.isUncounting = threads.countP Stand.isUncounting + 1)
    (hb : after.countP Stand.holdsBack = threads.countP Stand.holdsBack) :
    Inv { q with front := rest } after := by
  obtain ⟨frontLock, backLock, dry, laden, total, staged, front_le, back_le⟩ := hq
  have len : q.front.length = rest.length + 1 := by simp [hf]
  refine ⟨by omega, by omega, by omega, by omega, ?_, ?_, fun c hc => ?_, back_le⟩
  · show q.total + _ = rest.length + q.back.length + _
    omega
  · show _ ≤ q.back.length
    omega
  · have := front_le c hc
    show rest.length + _ ≤ c
    omega

/-- It uncounts the item. -/
theorem Inv.countDown (hq : q.Inv threads)
    (hd : after.countP Stand.isDry = threads.countP Stand.isDry)
    (hl : after.countP Stand.isTaking = threads.countP Stand.isTaking)
    (hu : after.countP Stand.isUncounting + 1 = threads.countP Stand.isUncounting)
    (hb : after.countP Stand.holdsBack = threads.countP Stand.holdsBack) :
    q.countDown.Inv after := by
  obtain ⟨frontLock, backLock, dry, laden, total, staged, front_le, back_le⟩ := hq
  refine ⟨by omega, by omega, by omega, by omega, ?_, ?_, fun c hc => ?_, back_le⟩
  · show q.total - 1 + _ = q.front.length + q.back.length + _
    omega
  · show _ ≤ q.back.length
    omega
  · have := front_le c hc
    show q.front.length + _ ≤ c
    omega

/-- A consumer that found the front list empty swaps the back list across, which nobody kept. -/
theorem Inv.swap (hq : q.Inv threads) (hne : q.back ≠ [])
    (hn : threads.countP Stand.holdsBack = 0)
    (hd : after.countP Stand.isDry + 1 = threads.countP Stand.isDry)
    (hl : after.countP Stand.isTaking = threads.countP Stand.isTaking + 1)
    (hu : after.countP Stand.isUncounting = threads.countP Stand.isUncounting)
    (hb : after.countP Stand.holdsBack = threads.countP Stand.holdsBack) : q.swap.Inv after := by
  obtain ⟨frontLock, backLock, dry, laden, total, staged, front_le, back_le⟩ := hq
  have len : 0 < q.back.length := List.length_pos_iff.2 hne
  refine ⟨by omega, by omega, by omega, fun _ => len, ?_, ?_, fun c hc => ?_, fun c hc => ?_⟩
  · show q.total + _ = q.back.length + q.front.length + _
    omega
  · show _ ≤ q.front.length
    omega
  · have := back_le c hc
    show q.back.length + _ ≤ c
    omega
  · have := front_le c hc
    show q.front.length ≤ c
    omega

theorem Inv.close (hq : q.Inv threads) : q.close.Inv threads := by
  obtain ⟨frontLock, backLock, dry, laden, total, staged, front_le, back_le⟩ := hq
  exact ⟨frontLock, backLock, dry, laden, total, staged, front_le, back_le⟩

end

theorem inv_of_section (hq : q.Inv threads) {t : Nat} {s : Stand α} {e : Effect α}
    (h : q.Section s e) (ht : threads[t]? = some s)
    (back : s.needsBack = true → threads.countP Stand.holdsBack = 0)
    (front : s.needsFront = true → threads.countP Stand.isDry + threads.countP Stand.isTaking +
      threads.countP Stand.isUncounting = 0) (pick : Nat) :
    ∃ r, e.queue = .double r ∧ r.capacity = q.capacity ∧
      r.Inv (World.notify pick (threads.set t e.stand) e.signal) := by
  have hd := World.countP_section Stand.isDry_wake ht pick e.stand e.signal
  have hl := World.countP_section Stand.isTaking_wake ht pick e.stand e.signal
  have hu := World.countP_section Stand.isUncounting_wake ht pick e.stand e.signal
  have hb := World.countP_section Stand.holdsBack_wake ht pick e.stand e.signal
  generalize World.notify pick (threads.set t e.stand) e.signal = after at hd hl hu hb ⊢
  cases h with
  | reject hs _ =>
    refine ⟨q, rfl, rfl, ?_⟩
    cases hs <;> exact hq.still (.inl (Nat.le_of_eq hd)) hl hu hb
  | parkPush hs _ _ =>
    refine ⟨q, rfl, rfl, ?_⟩
    cases hs <;> exact hq.still (.inl (Nat.le_of_eq hd)) hl hu hb
  | @stage _ a hs _ hf =>
    refine ⟨q.stage a, rfl, rfl, ?_⟩
    cases hs <;> exact hq.stage hf (back rfl) hd hl hu hb
  | count => exact ⟨q.countUp, rfl, rfl, hq.countUp hd hl hu hb⟩
  | @take _ timed a rest hs hf =>
    refine ⟨{ q with front := rest }, rfl, rfl, ?_⟩
    rcases hs with rfl | rfl
    · have hl : after.countP Stand.isTaking = threads.countP Stand.isTaking := hl
      have := front rfl
      exact hq.take hf (by omega) hd hu hb
    · have hl : after.countP Stand.isTaking + 1 = threads.countP Stand.isTaking := hl
      have := hq.frontLock
      exact hq.take hf (by omega) hd hu hb
  | cross hf =>
    have hd : after.countP Stand.isDry = threads.countP Stand.isDry + 1 := hd
    have := front rfl
    exact ⟨q, rfl, rfl, hq.still (.inr ⟨by simp [hf], by omega, by omega⟩) hl hu hb⟩
  | @swap _ timed hs hne =>
    refine ⟨q.swap, rfl, rfl, ?_⟩
    rcases hs with hs | rfl
    · cases hs <;> exact hq.swap hne (back rfl) hd hl hu hb
    · exact hq.swap hne (back rfl) hd hl hu hb
  | drain hs _ _ =>
    refine ⟨q, rfl, rfl, ?_⟩
    cases hs <;>
    · have hd : after.countP Stand.isDry + 1 = threads.countP Stand.isDry := hd
      exact hq.still (.inl (by omega)) hl hu hb
  | parkPop hs _ _ =>
    refine ⟨q, rfl, rfl, ?_⟩
    cases hs <;>
    · have hd : after.countP Stand.isDry + 1 = threads.countP Stand.isDry + 1 := hd
      exact hq.still (.inl (by omega)) hl hu hb
  | timeOut _ =>
    have hd : after.countP Stand.isDry + 1 = threads.countP Stand.isDry := hd
    exact ⟨q, rfl, rfl, hq.still (.inl (by omega)) hl hu hb⟩
  | miss hf =>
    -- whoever is about to take finds something to take
    have hl : after.countP Stand.isTaking + 1 = threads.countP Stand.isTaking := hl
    have := hq.laden (by omega)
    simp [hf] at this
  | uncount => exact ⟨q.countDown, rfl, rfl, hq.countDown hd hl hu hb⟩
  | close => exact ⟨q.close, rfl, rfl, (hq.still (.inl (Nat.le_of_eq hd)) hl hu hb).close⟩

end Double

end FrameBus.Queue
