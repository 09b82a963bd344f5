import FrameBus.Probe.Latency
import FrameBus.Proofs.Decimal.TotalOrder

/-!
# Order statistics

The smallest latency, the greatest and the percentiles are samples, and which ones they are depends
on the samples alone: a sample has rank `k` if at most `k` of them are below it and more than `k`
are not above it (`Ranked`), which says nothing of sorting. Since the total order tells NaNs and
zeros apart, there is one way to put samples in order (`eq_ordered`), and what stands at a place is
the sample of that rank (`ranked_iff`). So every figure is a sample, between the least and the
greatest one, and the order in which the samples came makes no difference
(`order_statistics_of_samples`).
-/

namespace FrameBus.Probe

open Decimal (TotalOrder place)
open LatencyStats (ofSamples)

variable {samples other sorted : List UInt64} {v w : UInt64} {j k : Nat}

/-! ## The samples in order -/

theorem orderKey_eq (bits : UInt64) : (orderKey bits : Int) = place bits + 0x8000000000000000 := by
  have lt := bits.toNat_lt
  by_cases sign : Decimal.Negative bits
  · rw [Decimal.place_of_negative sign, orderKey, if_neg (Nat.not_lt.2 sign)]
    unfold Decimal.Negative Decimal.unsigned at *
    omega
  · rw [Decimal.place_of_not_negative sign, orderKey, if_pos (Nat.not_le.1 sign)]
    unfold Decimal.Negative Decimal.unsigned at *
    omega

/-- The samples are compared in the total order. -/
theorem orderKey_le_iff {a b : UInt64} : orderKey a ≤ orderKey b ↔ TotalOrder a b := by
  have := orderKey_eq a
  have := orderKey_eq b
  rw [Decimal.totalOrder_iff]
  omega

theorem ordered_perm (samples : List UInt64) : (ordered samples).Perm samples :=
  List.mergeSort_perm _ _

theorem length_ordered (samples : List UInt64) : (ordered samples).length = samples.length :=
  (ordered_perm samples).length_eq

theorem pairwise_ordered (samples : List UInt64) : (ordered samples).Pairwise TotalOrder := by
  have trans (a b c : UInt64) (h : decide (orderKey a ≤ orderKey b) = true)
      (h' : decide (orderKey b ≤ orderKey c) = true) : decide (orderKey a ≤ orderKey c) = true :=
    decide_eq_true ((of_decide_eq_true h).trans (of_decide_eq_true h'))
  have total (a b : UInt64) :
      (decide (orderKey a ≤ orderKey b) || decide (orderKey b ≤ orderKey a)) = true := by
    simpa using Nat.le_total (orderKey a) (orderKey b)
  have rising := List.pairwise_mergeSort trans total samples
  exact rising.imp fun h => orderKey_le_iff.1 (of_decide_eq_true h)

/-- There is one way to put samples in order. -/
theorem eq_ordered (perm : sorted.Perm samples) (rising : sorted.Pairwise TotalOrder) :
    sorted = ordered samples :=
  List.Perm.eq_of_pairwise (fun _ _ _ _ => TotalOrder.antisymm) rising (pairwise_ordered samples)
    (perm.trans (ordered_perm samples).symm)

theorem ordered_of_perm (perm : other.Perm samples) : ordered other = ordered samples :=
  eq_ordered ((ordered_perm other).trans perm) (pairwise_ordered other)

/-! ## Ranks -/

/-- The samples that are below a value. -/
def below (samples : List UInt64) (v : UInt64) : Nat :=
  samples.countP fun x => decide (TotalOrder x v ∧ x ≠ v)

/-- The samples that are not above a value. -/
def upTo (samples : List UInt64) (v : UInt64) : Nat :=
  samples.countP fun x => decide (TotalOrder x v)

/-- The value has rank `k` among the samples, counted from 0. -/
def Ranked (samples : List UInt64) (k : Nat) (v : UInt64) : Prop :=
  below samples v ≤ k ∧ k < upTo samples v

instance : Decidable (Ranked samples k v) := inferInstanceAs (Decidable (_ ∧ _))

theorem Ranked.mem (h : Ranked samples k v) : v ∈ samples := by
  by_contra foreign
  have same : upTo samples v ≤ below samples v :=
    List.countP_mono_left fun x mem le =>
      decide_eq_true ⟨of_decide_eq_true le, fun e => foreign (e ▸ mem)⟩
  exact absurd (h.2.trans_le (same.trans h.1)) (Nat.lt_irrefl k)

/-- What is up to one value is below another one that is greater. -/
theorem upTo_le_below (h : TotalOrder v w) (ne : v ≠ w) : upTo samples v ≤ below samples w := by
  refine List.countP_mono_left fun x _ upTo => ?_
  have le : TotalOrder x v := of_decide_eq_true upTo
  refine decide_eq_true ⟨le.trans h, ?_⟩
  rintro rfl
  exact ne (h.antisymm le)

theorem Ranked.le (hv : Ranked samples j v) (hw : Ranked samples k w) (le : j ≤ k) :
    TotalOrder v w := by
  by_contra above
  have falls : TotalOrder w v := (TotalOrder.total v w).resolve_left above
  have ne : w ≠ v := fun e => above (e ▸ falls)
  have behind : upTo samples w ≤ below samples v := upTo_le_below falls ne
  exact absurd (hw.2.trans_le (behind.trans (hv.1.trans le))) (Nat.lt_irrefl k)

theorem Ranked.unique (hv : Ranked samples k v) (hw : Ranked samples k w) : v = w :=
  (hv.le hw (Nat.le_refl k)).antisymm (hw.le hv (Nat.le_refl k))

theorem Ranked.of_perm (perm : samples.Perm other) (h : Ranked samples k v) : Ranked other k v := by
  unfold Ranked below upTo at h ⊢
  rwa [perm.countP_eq, perm.countP_eq] at h

theorem below_eq_zero_iff : below samples v = 0 ↔ ∀ x ∈ samples, TotalOrder v x := by
  rw [below, List.countP_eq_zero]
  constructor
  · intro none x mem
    by_cases same : x = v
    · rw [same]
      exact TotalOrder.refl v
    · refine (TotalOrder.total v x).resolve_right fun le => none x mem ?_
      exact decide_eq_true ⟨le, same⟩
  · intro least x mem less
    obtain ⟨le, ne⟩ := of_decide_eq_true less
    exact ne (le.antisymm (least x mem))

/-- No sample is below the first one. -/
theorem Ranked.least (h : Ranked samples 0 v) : ∀ x ∈ samples, TotalOrder v x :=
  below_eq_zero_iff.1 (Nat.le_zero.1 h.1)

/-- No sample is above the last one. -/
theorem Ranked.greatest (h : Ranked samples (samples.length - 1) v) :
    ∀ x ∈ samples, TotalOrder x v := by
  intro x mem
  have at_most : upTo samples v ≤ samples.length := List.countP_le_length
  have last := h.2
  have all : upTo samples v = samples.length := by omega
  exact of_decide_eq_true (List.countP_eq_length.1 all x mem)

theorem below_cons_le (x : UInt64) (samples : List UInt64) (v : UInt64) :
    below (x :: samples) v ≤ below samples v + 1 := by
  rw [below, List.countP_cons]
  split <;> simp [below]

theorem upTo_cons {x : UInt64} (le : TotalOrder x v) :
    upTo (x :: samples) v = upTo samples v + 1 := by
  rw [upTo, List.countP_cons, if_pos (decide_eq_true le)]
  rfl

/-- Where samples are in order, the rank of each is its place. -/
theorem ranked_of_getElem? (rising : sorted.Pairwise TotalOrder) (h : sorted[k]? = some v) :
    Ranked sorted k v := by
  induction sorted generalizing k with
  | nil => cases h
  | cons x rest ih =>
    obtain ⟨first, rising⟩ := List.pairwise_cons.1 rising
    cases k with
    | zero =>
      obtain rfl : x = v := Option.some.inj h
      have none_below : below (x :: rest) x = 0 :=
        below_eq_zero_iff.2 (List.forall_mem_cons.2 ⟨.refl x, first⟩)
      refine ⟨none_below.le, ?_⟩
      rw [upTo_cons (.refl x)]
      exact Nat.succ_pos _
    | succ k =>
      rw [List.getElem?_cons_succ] at h
      obtain ⟨few, many⟩ := ih rising h
      refine ⟨(below_cons_le x rest v).trans (Nat.succ_le_succ few), ?_⟩
      rw [upTo_cons (first v (List.mem_of_getElem? h))]
      exact Nat.succ_lt_succ many

theorem ranked_of_ordered (h : (ordered samples)[k]? = some v) : Ranked samples k v :=
  (ranked_of_getElem? (pairwise_ordered samples) h).of_perm (ordered_perm samples)

/-- The sample of a rank is the one at that place of the ordered list. -/
theorem ranked_iff : Ranked samples k v ↔ (ordered samples)[k]? = some v := by
  refine ⟨fun ranked => ?_, ranked_of_ordered⟩
  have at_most : upTo samples v ≤ samples.length := List.countP_le_length
  have inside : k < (ordered samples).length := by
    rw [length_ordered]
    exact Nat.lt_of_lt_of_le ranked.2 at_most
  have found := List.getElem?_eq_getElem inside
  rw [found, (ranked_of_ordered found).unique ranked]

/-! ## Figures -/

theorem getElem?_select (nonempty : sorted ≠ []) (i : Nat) :
    sorted[min i (sorted.length - 1)]? = some (select sorted i) := by
  have pos := List.length_pos_of_ne_nil nonempty
  have inside : min i (sorted.length - 1) < sorted.length := by omega
  rw [select, List.getD_eq_getElem?_getD, List.getElem?_eq_getElem inside, Option.getD_some]

theorem getElem?_select_ordered (nonempty : samples ≠ []) (i : Nat) :
    (ordered samples)[min i (samples.length - 1)]? = some (select (ordered samples) i) := by
  have some_ordered : ordered samples ≠ [] := by
    intro none
    exact nonempty (List.Perm.eq_nil (none ▸ ordered_perm samples).symm)
  rw [← length_ordered samples]
  exact getElem?_select some_ordered i

/-- Whatever place is asked for, there is a sample of that rank, or the last one is taken. -/
theorem ranked_select (nonempty : samples ≠ []) (i : Nat) :
    Ranked samples (min i (samples.length - 1)) (select (ordered samples) i) :=
  ranked_of_ordered (getElem?_select_ordered nonempty i)

/-- The figures that are samples. -/
def LatencyStats.figures (s : LatencyStats) : List UInt64 := [s.min, s.max, s.p50, s.p90, s.p99]

/-- The places of the figures among `n` samples in order. -/
def places (n : Nat) : List Nat :=
  [0, n - 1, percentilePlace 50 n, percentilePlace 90 n, percentilePlace 99 n]

theorem figures_ofSamples (nonempty : samples ≠ []) (lost : Nat) :
    (ofSamples samples lost).figures = (places samples.length).map (select (ordered samples)) := by
  rw [ofSamples, if_neg (by simpa using nonempty), ← length_ordered samples]
  rfl

theorem count_ofSamples (samples : List UInt64) (lost : Nat) :
    (ofSamples samples lost).count = samples.length := by
  rw [ofSamples]
  split
  · next none => rw [List.isEmpty_iff.1 none]; rfl
  · exact length_ordered samples

theorem lost_ofSamples (samples : List UInt64) (lost : Nat) :
    (ofSamples samples lost).lost = lost := by
  rw [ofSamples]
  split <;> rfl

/-- Every figure is the sample of its rank. -/
theorem ranks_ofSamples (nonempty : samples ≠ []) (lost : Nat) :
    List.Forall₂ (fun i v => Ranked samples (min i (samples.length - 1)) v)
      (places samples.length) (ofSamples samples lost).figures := by
  rw [figures_ofSamples nonempty, List.forall₂_map_right_iff]
  exact List.forall₂_same.2 fun i _ => ranked_select nonempty i

/-- What the figures say of the samples. -/
structure Summarizes (s : LatencyStats) (samples : List UInt64) (lost : Nat) : Prop where
  count : s.count = samples.length
  lost : s.lost = lost
  /-- each figure is a sample, bit for bit -/
  members : ∀ v ∈ s.figures, v ∈ samples
  between : ∀ v ∈ s.figures, TotalOrder s.min v ∧ TotalOrder v s.max
  bounds : ∀ x ∈ samples, TotalOrder s.min x ∧ TotalOrder x s.max
  /-- a percentile is the sample of its rank, and nothing else that lies between -/
  ranks : List.Forall₂ (fun i v => Ranked samples (min i (samples.length - 1)) v)
    (places samples.length) s.figures

theorem summarizes_ofSamples (nonempty : samples ≠ []) (lost : Nat) :
    Summarizes (ofSamples samples lost) samples lost := by
  have ranks := ranks_ofSamples nonempty lost
  have members : ∀ v ∈ (ofSamples samples lost).figures, v ∈ samples := by
    rw [figures_ofSamples nonempty]
    intro v mem
    obtain ⟨i, -, rfl⟩ := List.mem_map.1 mem
    exact (ranked_select nonempty i).mem
  have bounds : ∀ x ∈ samples, TotalOrder (ofSamples samples lost).min x ∧
      TotalOrder x (ofSamples samples lost).max := by
    obtain _ | ⟨first, _ | ⟨last, -⟩⟩ := ranks
    rw [Nat.zero_min] at first
    rw [Nat.min_self] at last
    exact fun x mem => ⟨first.least x mem, last.greatest x mem⟩
  exact {
    count := count_ofSamples samples lost
    lost := lost_ofSamples samples lost
    members := members
    between := fun v mem => bounds v (members v mem)
    bounds := bounds
    ranks := ranks }

/-- **The figures of samples are samples of their ranks, in the total order; the order in which the
samples came makes no difference, and no place is beyond the samples.** -/
theorem order_statistics_of_samples (nonempty : samples ≠ []) (lost : Nat) :
    Summarizes (ofSamples samples lost) samples lost ∧
    (∀ other : List UInt64, other.Perm samples →
      (ofSamples other lost).figures = (ofSamples samples lost).figures ∧
      (ofSamples other lost).count = (ofSamples samples lost).count ∧
      (ofSamples other lost).lost = (ofSamples samples lost).lost) ∧
    ∀ i, min i (samples.length - 1) < (ordered samples).length ∧
      (ordered samples)[min i (samples.length - 1)]? = some (select (ordered samples) i) := by
  refine ⟨summarizes_ofSamples nonempty lost, fun other perm => ⟨?_, ?_, ?_⟩, fun i => ?_⟩
  · have nonempty' : other ≠ [] := by
      rintro rfl
      exact nonempty perm.nil_eq.symm
    rw [figures_ofSamples nonempty, figures_ofSamples nonempty', perm.length_eq,
      ordered_of_perm perm]
  · rw [count_ofSamples, count_ofSamples, perm.length_eq]
  · rw [lost_ofSamples, lost_ofSamples]
  · have found := getElem?_select_ordered nonempty i
    exact ⟨(List.getElem?_eq_some_iff.1 found).1, found⟩

/-- NaNs with either sign, an infinity and both zeros, in two orders. -/
theorem order_statistics_of_specials :
    let samples : List UInt64 := [0x8000000000000000, 0x7FF0000000000001, 0, 0x7FF0000000000000,
      0xFFF8000000000000]
    samples ≠ [] ∧ (ofSamples samples 3).min = 0xFFF8000000000000 ∧
      (ofSamples samples 3).max = 0x7FF0000000000001 ∧ (ofSamples samples 3).p50 ∈ samples ∧
      (ofSamples samples.reverse 3).figures = (ofSamples samples 3).figures := by
  intro samples
  have nonempty : samples ≠ [] := List.cons_ne_nil _ _
  obtain ⟨summary, same, -⟩ := order_statistics_of_samples nonempty 3
  obtain _ | ⟨first, _ | ⟨last, -⟩⟩ := summary.ranks
  refine ⟨nonempty, ?_, ?_, ?_, (same _ samples.reverse_perm).1⟩
  · exact first.unique (k := 0) (by decide)
  · exact last.unique (k := 4) (by decide)
  · exact summary.members _ (.tail _ (.tail _ (.head _)))

end FrameBus.Probe
