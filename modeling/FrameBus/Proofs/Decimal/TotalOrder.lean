import FrameBus.Decimal.Binary64
import Mathlib.Data.EReal.Operations
import Mathlib.Order.Monotone.Basic
import Mathlib.Tactic.Linarith
import Mathlib.Tactic.Positivity

/-!
# The total order of binary64 numbers

Every bit pattern has a place in the total order of IEEE 754. A number goes by its value among the
extended reals, and of two zeros the negative one is first. A NaN has no value: it is below every
number or above every number, as its sign says, and the NaNs of one side are told apart by their
bits.

    -NaN (quiet, signalling)   -∞   ..   -0   +0   ..   +∞   NaN (signalling, quiet)

The bits without the sign, read as a whole number, grow with what they stand for
(`strictMono_finite`). So the whole order is that of one signed number to each bit pattern
(`totalOrder_iff`), and a linear one.
-/

namespace FrameBus.Decimal

/-! ## The order -/

/-- A value with the sign that goes with it. -/
noncomputable def withSign (negative : Bool) (x : EReal) : EReal := if negative then -x else x

/-- The number among the extended reals. -/
noncomputable def Binary64.value? : Binary64 → Option EReal
  | .nan => none
  | .infinite negative => some (withSign negative ⊤)
  | .finite negative mantissa exponent =>
    some (withSign negative ((mantissa * 2 ^ exponent : ℝ) : EReal))

/-- What a bit pattern stands for, unless it is a NaN. -/
noncomputable def value? (bits : UInt64) : Option EReal := (Binary64.ofBits bits).value?

def Negative (bits : UInt64) : Prop := 0x8000000000000000 ≤ bits.toNat

instance : DecidablePred Negative := fun bits => Nat.decLe 0x8000000000000000 bits.toNat

/-- The bit that tells a quiet NaN from a signalling one. -/
def quietBit (bits : UInt64) : Nat := bits.toNat / 0x8000000000000 % 2

def payload (bits : UInt64) : Nat := bits.toNat % 0x8000000000000

/-- Of two NaNs on one side, `a` is as near to the numbers as `b`: a signalling NaN is nearer than a
quiet one, and then the lesser payload. -/
def Nearer (a b : UInt64) : Prop :=
  quietBit a < quietBit b ∨ quietBit a = quietBit b ∧ payload a ≤ payload b

/-- The total order of IEEE 754, in which `a` comes before `b` or is the same. -/
inductive TotalOrder : UInt64 → UInt64 → Prop
  | less {a b : UInt64} {x y : EReal} : value? a = some x → value? b = some y → x < y →
      TotalOrder a b
  /-- only zeros have one value and two signs -/
  | equal {a b : UInt64} {x : EReal} : value? a = some x → value? b = some x →
      (Negative b → Negative a) → TotalOrder a b
  | below {a b : UInt64} {y : EReal} : value? a = none → value? b = some y → Negative a →
      TotalOrder a b
  | above {a b : UInt64} {x : EReal} : value? a = some x → value? b = none → ¬ Negative b →
      TotalOrder a b
  | apart {a b : UInt64} : value? a = none → value? b = none → Negative a → ¬ Negative b →
      TotalOrder a b
  | negative {a b : UInt64} : value? a = none → value? b = none → Negative a → Negative b →
      Nearer b a → TotalOrder a b
  | positive {a b : UInt64} : value? a = none → value? b = none → ¬ Negative a →
      ¬ Negative b → Nearer a b → TotalOrder a b

variable {bits a b c : UInt64} {x y : EReal}

theorem TotalOrder.total (a b : UInt64) : TotalOrder a b ∨ TotalOrder b a := by
  cases ha : value? a with
  | none =>
    cases hb : value? b with
    | none =>
      have side : Nearer a b ∨ Nearer b a := by unfold Nearer; omega
      by_cases na : Negative a <;> by_cases nb : Negative b
      · exact side.symm.imp (.negative ha hb na nb) (.negative hb ha nb na)
      · exact .inl (.apart ha hb na nb)
      · exact .inr (.apart hb ha nb na)
      · exact side.imp (.positive ha hb na nb) (.positive hb ha nb na)
    | some y =>
      by_cases na : Negative a
      · exact .inl (.below ha hb na)
      · exact .inr (.above hb ha na)
  | some x =>
    cases hb : value? b with
    | none =>
      by_cases nb : Negative b
      · exact .inr (.below hb ha nb)
      · exact .inl (.above ha hb nb)
    | some y =>
      rcases lt_trichotomy x y with lt | rfl | lt
      · exact .inl (.less ha hb lt)
      · by_cases na : Negative a
        · exact .inl (.equal ha hb fun _ => na)
        · exact .inr (.equal hb ha fun negative => absurd negative na)
      · exact .inr (.less hb ha lt)

/-! ## Values by their bits -/

/-- The bits without the sign. -/
def unsigned (bits : UInt64) : Nat := bits.toNat % 0x8000000000000000

/-- What the unsigned bits of a finite number stand for. From the infinity on it goes on as
before. -/
noncomputable def finite (n : Nat) : ℝ :=
  if n < 0x10000000000000 then n * 2 ^ (-1074 : ℤ)
  else ((0x10000000000000 + n % 0x10000000000000 : ℕ) : ℝ) *
    2 ^ ((n / 0x10000000000000 : ℕ) - 1075 : ℤ)

theorem finite_of_le {n : Nat} (h : 0x10000000000000 ≤ n) :
    finite n = ((0x10000000000000 + n % 0x10000000000000 : ℕ) : ℝ) *
      2 ^ ((n / 0x10000000000000 : ℕ) - 1075 : ℤ) := if_neg (Nat.not_lt.2 h)

/-- The least exponent of normal numbers is that of the subnormal ones. -/
theorem finite_of_lt {n : Nat} (h : n < 0x20000000000000) : finite n = n * 2 ^ (-1074 : ℤ) := by
  by_cases subnormal : n < 0x10000000000000
  · exact if_pos subnormal
  · have significand : 0x10000000000000 + n % 0x10000000000000 = n := by omega
    have exponent : n / 0x10000000000000 = 1 := by omega
    rw [finite_of_le (Nat.not_lt.1 subnormal), significand, exponent]
    norm_num

theorem finite_lt_succ (n : Nat) : finite n < finite (n + 1) := by
  have pos (e : ℤ) : (0 : ℝ) < 2 ^ e := zpow_pos (by norm_num) e
  by_cases least : n + 1 < 0x20000000000000
  · rw [finite_of_lt (by omega), finite_of_lt least]
    exact mul_lt_mul_of_pos_right (by exact_mod_cast Nat.lt_succ_self n) (pos _)
  · rw [finite_of_le (by omega), finite_of_le (by omega : 0x10000000000000 ≤ n + 1)]
    by_cases room : n % 0x10000000000000 + 1 < 0x10000000000000
    · have exponent : (n + 1) / 0x10000000000000 = n / 0x10000000000000 := by omega
      have fraction : (n + 1) % 0x10000000000000 = n % 0x10000000000000 + 1 := by omega
      rw [exponent, fraction]
      exact mul_lt_mul_of_pos_right (by exact_mod_cast Nat.lt_succ_self _) (pos _)
    · -- the fraction is full, so the next exponent begins, which counts twice as much
      have full : n % 0x10000000000000 = 0xFFFFFFFFFFFFF := by omega
      have fraction : (n + 1) % 0x10000000000000 = 0 := by omega
      have exponent : ((n + 1) / 0x10000000000000 : ℕ) - 1075 =
          ((n / 0x10000000000000 : ℕ) - 1075 : ℤ) + 1 := by omega
      rw [full, fraction, exponent, zpow_add_one₀ (by norm_num), mul_left_comm]
      linarith [pos ((n / 0x10000000000000 : ℕ) - 1075 : ℤ)]

theorem strictMono_finite : StrictMono finite := strictMono_nat_of_lt_succ finite_lt_succ

theorem finite_nonneg (n : Nat) : 0 ≤ finite n := by
  have zero : finite 0 = 0 := by simp [finite]
  rw [← zero]
  exact strictMono_finite.monotone (Nat.zero_le n)

/-- What the unsigned bits of a number stand for. -/
noncomputable def magnitude (n : Nat) : EReal := if n < 0x7FF0000000000000 then finite n else ⊤

theorem magnitude_nonneg (n : Nat) : 0 ≤ magnitude n := by
  unfold magnitude
  split
  · exact_mod_cast finite_nonneg n
  · exact le_top

theorem magnitude_lt {m n : Nat} (lt : m < n) (h : n ≤ 0x7FF0000000000000) :
    magnitude m < magnitude n := by
  rw [magnitude, if_pos (by omega), magnitude]
  split
  · exact_mod_cast strictMono_finite lt
  · exact EReal.coe_lt_top _

theorem value?_eq (bits : UInt64) : value? bits =
    if unsigned bits ≤ 0x7FF0000000000000 then
      some (withSign (decide (Negative bits)) (magnitude (unsigned bits)))
    else none := by
  have whole : bits.toNat / 0x10000000000000 % 2048 = unsigned bits / 0x10000000000000 ∧
      bits.toNat % 0x10000000000000 = unsigned bits % 0x10000000000000 := by
    unfold unsigned
    omega
  have sign : decide (0x8000000000000000 ≤ bits.toNat) = decide (Negative bits) := rfl
  have lt : unsigned bits < 0x8000000000000000 := Nat.mod_lt _ (by decide)
  simp only [value?, Binary64.ofBits, whole, sign, magnitude]
  by_cases special : unsigned bits / 0x10000000000000 = 2047
  · rw [if_pos special]
    by_cases infinite : unsigned bits % 0x10000000000000 = 0
    · rw [if_pos infinite, if_pos (by omega), if_neg (by omega)]
      rfl
    · rw [if_neg infinite, if_neg (by omega)]
      rfl
  · have number : unsigned bits < 0x7FF0000000000000 := by omega
    rw [if_neg special, if_pos number.le, if_pos number]
    by_cases subnormal : unsigned bits / 0x10000000000000 = 0
    · have all : unsigned bits % 0x10000000000000 = unsigned bits := by omega
      rw [if_pos subnormal, finite_of_lt (by omega), all]
      rfl
    · rw [if_neg subnormal, finite_of_le (by omega)]
      rfl

theorem value?_eq_none_iff : value? bits = none ↔ 0x7FF0000000000000 < unsigned bits := by
  rw [value?_eq]
  split
  · next number =>
    simp only [reduceCtorEq, false_iff]
    exact Nat.not_lt.2 number
  · next nan =>
    simp only [true_iff]
    exact Nat.not_le.1 nan

theorem value?_eq_some_iff :
    value? bits = some x ↔ unsigned bits ≤ 0x7FF0000000000000 ∧
      x = withSign (decide (Negative bits)) (magnitude (unsigned bits)) := by
  rw [value?_eq]
  split
  · next number => simp only [Option.some.injEq, number, true_and, eq_comm]
  · next nan => simp only [reduceCtorEq, nan, false_and]

/-! ## Places -/

/-- The bits as a signed number, which falls with the unsigned bits where the sign is set. -/
def place (bits : UInt64) : Int :=
  if Negative bits then -(unsigned bits : Int) - 1 else unsigned bits

theorem place_of_negative (h : Negative bits) : place bits = -(unsigned bits : Int) - 1 := if_pos h

theorem place_of_not_negative (h : ¬ Negative bits) : place bits = unsigned bits := if_neg h

theorem place_injective : Function.Injective place := by
  intro a b same
  have := a.toNat_lt
  have := b.toNat_lt
  apply UInt64.toNat_inj.1
  unfold place Negative unsigned at same
  omega

/-- Numbers with places apart have values apart, or are zeros. -/
theorem value_of_place_lt (ha : value? a = some x) (hb : value? b = some y)
    (h : place a < place b) :
    x < y ∨ x = y ∧ Negative a ∧ ¬ Negative b := by
  obtain ⟨na, rfl⟩ := value?_eq_some_iff.1 ha
  obtain ⟨nb, rfl⟩ := value?_eq_some_iff.1 hb
  by_cases sa : Negative a <;> by_cases sb : Negative b
  · rw [place_of_negative sa, place_of_negative sb] at h
    left
    simpa [withSign, sa, sb] using magnitude_lt (by omega : unsigned b < unsigned a) na
  · have down : -magnitude (unsigned a) ≤ 0 := by
      rw [EReal.neg_le, neg_zero]
      exact magnitude_nonneg _
    have across : -magnitude (unsigned a) ≤ magnitude (unsigned b) :=
      down.trans (magnitude_nonneg _)
    simpa [withSign, sa, sb] using across.lt_or_eq
  · rw [place_of_not_negative sa, place_of_negative sb] at h
    omega
  · rw [place_of_not_negative sa, place_of_not_negative sb] at h
    left
    simpa [withSign, sa, sb] using magnitude_lt (by omega : unsigned a < unsigned b) nb

/-- The bits of NaNs without the sign say which one is nearer to the numbers. -/
theorem nearer_iff (ha : value? a = none) (hb : value? b = none) :
    Nearer a b ↔ unsigned a ≤ unsigned b := by
  have := value?_eq_none_iff.1 ha
  have := value?_eq_none_iff.1 hb
  unfold Nearer quietBit payload unsigned at *
  omega

theorem TotalOrder.place_le (h : TotalOrder a b) : place a ≤ place b := by
  cases h with
  | less ha hb lt =>
    by_contra falls
    rcases value_of_place_lt hb ha (not_le.1 falls) with lt' | ⟨rfl, -, -⟩
    · exact lt_asymm lt lt'
    · exact lt_irrefl _ lt
  | equal ha hb first =>
    by_contra falls
    rcases value_of_place_lt hb ha (not_le.1 falls) with lt | ⟨-, sb, sa⟩
    · exact lt_irrefl _ lt
    · exact sa (first sb)
  | below ha hb sa =>
    have beyond := value?_eq_none_iff.1 ha
    have within := (value?_eq_some_iff.1 hb).1
    rw [place_of_negative sa, place]
    split <;> omega
  | above ha hb sb =>
    have within := (value?_eq_some_iff.1 ha).1
    have beyond := value?_eq_none_iff.1 hb
    rw [place_of_not_negative sb, place]
    split <;> omega
  | apart _ _ sa sb =>
    rw [place_of_negative sa, place_of_not_negative sb]
    omega
  | negative ha hb sa sb near =>
    have := (nearer_iff hb ha).1 near
    rw [place_of_negative sa, place_of_negative sb]
    omega
  | positive ha hb sa sb near =>
    have := (nearer_iff ha hb).1 near
    rw [place_of_not_negative sa, place_of_not_negative sb]
    omega

/-- The total order is the order of places. -/
theorem totalOrder_iff : TotalOrder a b ↔ place a ≤ place b := by
  refine ⟨TotalOrder.place_le, fun h => ?_⟩
  rcases TotalOrder.total a b with h' | h'
  · exact h'
  · obtain rfl := place_injective (le_antisymm h h'.place_le)
    exact h'

instance : DecidableRel TotalOrder := fun _ _ => decidable_of_iff _ totalOrder_iff.symm

-- NaNs (quiet, signalling) with the sign, infinity, -1, the zeros, 1, and so on to the other end
example : [0xFFF8000000000000, 0xFFF0000000000001, 0xFFF0000000000000, 0xBFF0000000000000,
    0x8000000000000000, 0, 0x3FF0000000000000, 0x7FF0000000000000, 0x7FF0000000000001,
    0x7FF8000000000000].Pairwise fun a b => TotalOrder a b ∧ ¬ TotalOrder b a := by
  decide

theorem TotalOrder.refl (a : UInt64) : TotalOrder a a := totalOrder_iff.2 le_rfl

theorem TotalOrder.trans (h : TotalOrder a b) (h' : TotalOrder b c) : TotalOrder a c :=
  totalOrder_iff.2 (le_trans h.place_le h'.place_le)

theorem TotalOrder.antisymm (h : TotalOrder a b) (h' : TotalOrder b a) : a = b :=
  place_injective (le_antisymm h.place_le h'.place_le)

end FrameBus.Decimal
