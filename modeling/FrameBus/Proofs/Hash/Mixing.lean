import FrameBus.Hash.Murmur
import FrameBus.Hash.XX32
import Mathlib.Logic.Function.Basic

/-!
# No step of a hash loses anything

Both hashes take a byte string apart into words and mix these, one after the other, into a state.
Each step is injective in the state for a fixed word, and in the word for a fixed state: it is made
of products with odd numbers, rotations, sums, and words combined with their own shifts. So what is
changed in one word comes through to the end, whatever follows it.

    a full word, at a multiple of four bytes    hash_ne_of_word, of both hashes
    all bytes behind the last full word         Murmur.hash_ne_of_tail
    one byte behind the last full word          XX32.hash_ne_of_byte
-/

namespace FrameBus.Hash

open Function (Injective)

/-! ## Steps -/

theorem mul_injective {c inverse : UInt32} (h : c * inverse = 1) :
    Injective fun x : UInt32 => x * c := by
  intro x y e
  have e := congrArg (· * inverse) e
  simpa only [UInt32.mul_assoc, h, UInt32.mul_one] using e

theorem rotl_injective {n : UInt32} (h0 : 0 < n.toNat) (hn : n.toNat < 32) :
    Injective (rotl · n) := by
  intro x y h
  have turn (z : UInt32) : (rotl z n).toBitVec = z.toBitVec.rotateLeft n.toNat := by
    have left : (n.toBitVec % 32).toNat = n.toNat := by simpa using hn
    have right : ((32 - n).toBitVec % 32).toNat = 32 - n.toNat := by
      simp
      omega
    rw [rotl, UInt32.toBitVec_or, UInt32.toBitVec_shiftLeft, UInt32.toBitVec_shiftRight,
      BitVec.shiftLeft_eq', BitVec.ushiftRight_eq', left, right, BitVec.rotateLeft_def,
      Nat.mod_eq_of_lt hn]
  have turned : x.toBitVec.rotateLeft n.toNat = y.toBitVec.rotateLeft n.toNat := by
    simpa only [turn] using congrArg UInt32.toBitVec h
  have bit (j : Nat) := congrArg (fun b : BitVec 32 => b.getLsbD j) turned
  simp only [BitVec.getLsbD_rotateLeft, Nat.mod_eq_of_lt hn] at bit
  apply UInt32.toBitVec_inj.1
  apply BitVec.eq_of_getLsbD_eq
  intro i hi
  -- bit `i` comes to the place `i + n`, or goes round the end
  by_cases inside : i + n.toNat < 32
  · simpa [inside, show ¬ i + n.toNat < n.toNat by omega] using bit (i + n.toNat)
  · have lt : i + n.toNat - 32 < n.toNat := by omega
    have back : 32 - n.toNat + (i + n.toNat - 32) = i := by omega
    simpa [lt, back] using bit (i + n.toNat - 32)

theorem xorShift_injective {n : UInt32} (h0 : 0 < n.toNat) (hn : n.toNat < 32) :
    Injective fun x : UInt32 => x ^^^ (x >>> n) := by
  intro x y e
  have e : x ^^^ (x >>> n) = y ^^^ (y >>> n) := e
  -- what differs is its own shift, so there is nothing that differs
  have fixed : x ^^^ y = (x ^^^ y) >>> n := by
    rw [UInt32.shiftRight_xor]
    apply UInt32.xor_eq_zero_iff.1
    calc x ^^^ y ^^^ (x >>> n ^^^ y >>> n) = (x ^^^ x >>> n) ^^^ (y ^^^ y >>> n) := by ac_rfl
      _ = 0 := UInt32.xor_eq_zero_iff.2 e
  have small := congrArg UInt32.toNat fixed
  rw [UInt32.toNat_shiftRight, Nat.mod_eq_of_lt hn, Nat.shiftRight_eq_div_pow] at small
  have zero : (x ^^^ y).toNat = 0 := by
    have := Nat.div_lt_self (n := (x ^^^ y).toNat) (k := 2 ^ n.toNat)
    have := Nat.one_lt_two_pow (n := n.toNat) (by omega)
    omega
  exact UInt32.xor_eq_zero_iff.1 (UInt32.toNat_inj.1 zero)

section

variable {σ β : Type} {f : σ → β → σ}

theorem foldl_injective (state : ∀ b, Injective (f · b)) (l : List β) :
    Injective fun s => l.foldl f s := by
  induction l with
  | nil => exact fun _ _ h => h
  | cons b l ih => exact ih.comp (state b)

/-- A change of one item comes through a fold. -/
theorem foldl_ne (state : ∀ b, Injective (f · b)) (item : ∀ s, Injective (f s)) {a b : β}
    (h : a ≠ b) (before after : List β) (s : σ) :
    (before ++ a :: after).foldl f s ≠ (before ++ b :: after).foldl f s := by
  rw [List.foldl_append, List.foldl_append]
  intro e
  exact h (item _ (foldl_injective state after e))

end

/-! ## Words -/

theorem toNat_word (a b c d : UInt8) :
    (word a b c d).toNat = a.toNat + b.toNat * 256 + c.toNat * 65536 + d.toNat * 16777216 := by
  have ha := a.toNat_lt
  have hb := b.toNat_lt
  have hc := c.toNat_lt
  have shift (byte : UInt8) {n : UInt32} (hn : n.toNat ≤ 24) :
      (byte.toUInt32 <<< n).toNat = byte.toNat <<< n.toNat := by
    have le : 2 ^ n.toNat ≤ 2 ^ 24 := Nat.pow_le_pow_right (by omega) hn
    have lt : byte.toNat * 2 ^ n.toNat < 2 ^ 8 * 2 ^ 24 :=
      Nat.mul_lt_mul_of_lt_of_le byte.toNat_lt le (by omega)
    rw [UInt32.toNat_shiftLeft, UInt8.toNat_toUInt32, Nat.mod_eq_of_lt (by omega : n.toNat < 32),
      Nat.mod_eq_of_lt (by rwa [Nat.shiftLeft_eq])]
  -- each byte lies behind the end of those before it
  have join {low k : Nat} (byte : Nat) (h : low < 2 ^ k) :
      low ||| byte <<< k = low + byte * 2 ^ k := by
    rw [Nat.or_comm, ← Nat.shiftLeft_add_eq_or_of_lt h, Nat.shiftLeft_eq, Nat.add_comm]
  have two : a.toNat ||| b.toNat <<< 8 = a.toNat + b.toNat * 256 := join _ (by omega)
  have three : a.toNat + b.toNat * 256 ||| c.toNat <<< 16 =
      a.toNat + b.toNat * 256 + c.toNat * 65536 := join _ (by omega)
  rw [word, UInt32.toNat_or, UInt32.toNat_or, UInt32.toNat_or, UInt8.toNat_toUInt32,
    shift b (by decide), shift c (by decide), shift d (by decide)]
  show a.toNat ||| b.toNat <<< 8 ||| c.toNat <<< 16 ||| d.toNat <<< 24 = _
  rw [two, three]
  exact join _ (by omega)

theorem eq_of_word_eq {a b c d a' b' c' d' : UInt8} (h : word a b c d = word a' b' c' d') :
    a = a' ∧ b = b' ∧ c = c' ∧ d = d' := by
  have h := congrArg UInt32.toNat h
  rw [toNat_word, toNat_word] at h
  have ha := a.toNat_lt
  have hb := b.toNat_lt
  have hc := c.toNat_lt
  have ha' := a'.toNat_lt
  have hb' := b'.toNat_lt
  have hc' := c'.toNat_lt
  refine ⟨?_, ?_, ?_, ?_⟩ <;> apply UInt8.toNat_inj.1 <;> omega

theorem words_append {before : List UInt8} (h : before.length % 4 = 0) (rest : List UInt8) :
    words (before ++ rest) = ((words before).1 ++ (words rest).1, (words rest).2) := by
  match before, h with
  | [], _ => rfl
  | a :: b :: c :: d :: before, h =>
    have aligned : before.length % 4 = 0 := by simp at h; omega
    have ih := words_append aligned rest
    simp [words, ih]
  | [_], h | [_, _], h | [_, _, _], h => simp at h

/-- Of strings that differ in four bytes at a multiple of four, one word differs. -/
theorem words_of_ne {before old new : List UInt8} (aligned : before.length % 4 = 0)
    (ho : old.length = 4) (hn : new.length = 4) (h : old ≠ new) (after : List UInt8) :
    ∃ w x, w ≠ x ∧
      words (before ++ old ++ after) =
        ((words before).1 ++ w :: (words after).1, (words after).2) ∧
      words (before ++ new ++ after) =
        ((words before).1 ++ x :: (words after).1, (words after).2) := by
  match old, new, ho, hn with
  | [a, b, c, d], [a', b', c', d'], _, _ =>
    refine ⟨word a b c d, word a' b' c' d', ?_, ?_, ?_⟩
    · intro e
      obtain ⟨rfl, rfl, rfl, rfl⟩ := eq_of_word_eq e
      exact h rfl
    · rw [List.append_assoc, words_append aligned]
      rfl
    · rw [List.append_assoc, words_append aligned]
      rfl

theorem words_of_short {bytes : List UInt8} (h : bytes.length < 4) : words bytes = ([], bytes) := by
  match bytes, h with
  | [], _ | [_], _ | [_, _], _ | [_, _, _], _ => rfl
  | _ :: _ :: _ :: _ :: _, h => simp at h; omega

/-! ## MurmurHash3 -/

namespace Murmur

theorem scramble_injective : Injective scramble := by
  have first : Injective fun k : UInt32 => k * 0xCC9E2D51 :=
    mul_injective (show _ * 0xDEE13BB1 = _ from rfl)
  have last : Injective fun k : UInt32 => k * 0x1B873593 :=
    mul_injective (show _ * 0x56ED309B = _ from rfl)
  exact last.comp ((rotl_injective (by decide) (by decide)).comp first)

/-- What `mix` does to the word in which a state and a scrambled word meet. -/
theorem mixed_injective : Injective fun h : UInt32 => rotl h 13 * 5 + 0xE6546B64 := by
  have times : Injective fun h : UInt32 => h * 5 := mul_injective (show _ * 0xCCCCCCCD = _ from rfl)
  have plus : Injective fun h : UInt32 => h + 0xE6546B64 := fun _ _ => (UInt32.add_left_inj _).1
  exact plus.comp (times.comp (rotl_injective (by decide) (by decide)))

theorem mix_injective_state (k : UInt32) : Injective (mix · k) :=
  mixed_injective.comp fun _ _ => (UInt32.xor_left_inj (scramble k)).1

theorem mix_injective_word (h : UInt32) : Injective (mix h) :=
  mixed_injective.comp fun _ _ e => scramble_injective ((UInt32.xor_right_inj h).1 e)

theorem finish_injective : Injective finish := by
  have first : Injective fun h : UInt32 => h * 0x85EBCA6B :=
    mul_injective (show _ * 0xA5CB9243 = _ from rfl)
  have second : Injective fun h : UInt32 => h * 0xC2B2AE35 :=
    mul_injective (show _ * 0x7ED1B41D = _ from rfl)
  have fold16 : Injective fun h : UInt32 => h ^^^ (h >>> 16) :=
    xorShift_injective (by decide) (by decide)
  have fold13 : Injective fun h : UInt32 => h ^^^ (h >>> 13) :=
    xorShift_injective (by decide) (by decide)
  exact fold16.comp (second.comp (fold13.comp (first.comp fold16)))

theorem tailWord_injOn {s t : List UInt8} (hs : s.length < 4) (ht : t.length = s.length)
    (h : tailWord s = tailWord t) : s = t := by
  match s, t, hs, ht with
  | [], [], _, _ => rfl
  | [a], [a'], _, _ =>
    obtain ⟨rfl, -⟩ := eq_of_word_eq h
    rfl
  | [a, b], [a', b'], _, _ =>
    obtain ⟨rfl, rfl, -⟩ := eq_of_word_eq h
    rfl
  | [a, b, c], [a', b', c'], _, _ =>
    obtain ⟨rfl, rfl, rfl, -⟩ := eq_of_word_eq h
    rfl
  | _ :: _ :: _ :: _ :: _, _, hs, _ => simp at hs; omega

variable {seed : UInt32} {before old new after : List UInt8}

theorem hash_ne_of_word (aligned : before.length % 4 = 0) (ho : old.length = 4)
    (hn : new.length = 4) (h : old ≠ new) :
    hash seed (before ++ old ++ after) ≠ hash seed (before ++ new ++ after) := by
  obtain ⟨w, x, hne, hw, hx⟩ := words_of_ne aligned ho hn h after
  have len : (before ++ new ++ after).length = (before ++ old ++ after).length := by simp [ho, hn]
  intro e
  simp only [hash, hw, hx, len] at e
  have e := (UInt32.xor_left_inj _).1 ((UInt32.xor_left_inj _).1 (finish_injective e))
  exact foldl_ne mix_injective_state mix_injective_word hne _ _ _ e

theorem hash_ne_of_tail (aligned : before.length % 4 = 0) (ho : old.length < 4)
    (hn : new.length = old.length) (h : old ≠ new) :
    hash seed (before ++ old) ≠ hash seed (before ++ new) := by
  have len : (before ++ new).length = (before ++ old).length := by simp [hn]
  intro e
  simp only [hash, words_append aligned, words_of_short ho, words_of_short (hn ▸ ho), len] at e
  have e := (UInt32.xor_right_inj _).1 ((UInt32.xor_left_inj _).1 (finish_injective e))
  exact h (tailWord_injOn ho hn (scramble_injective e))

end Murmur

/-! ## XXH32 -/

namespace XX32

theorem p1_injective : Injective fun h : UInt32 => h * p1 :=
  mul_injective (show _ * 0x0E8B2F51 = _ from rfl)

theorem p2_injective : Injective fun h : UInt32 => h * p2 :=
  mul_injective (show _ * 0xB6C92F47 = _ from rfl)

theorem p3_injective : Injective fun h : UInt32 => h * p3 :=
  mul_injective (show _ * 0xA89ED915 = _ from rfl)

theorem p4_injective : Injective fun h : UInt32 => h * p4 :=
  mul_injective (show _ * 0xA0FE3BCF = _ from rfl)

theorem p5_injective : Injective fun h : UInt32 => h * p5 :=
  mul_injective (show _ * 0xAE398151 = _ from rfl)

theorem rotl_mul_injective {n c : UInt32} (h0 : 0 < n.toNat) (hn : n.toNat < 32)
    (hc : Injective fun h : UInt32 => h * c) : Injective fun h : UInt32 => rotl h n * c :=
  hc.comp (rotl_injective h0 hn)

theorem round_injective_word (acc : UInt32) : Injective (round acc) :=
  (rotl_mul_injective (by decide) (by decide) p1_injective).comp fun _ _ e =>
    p2_injective ((UInt32.add_right_inj acc).1 e)

theorem round_injective_state (k : UInt32) : Injective (round · k) :=
  (rotl_mul_injective (by decide) (by decide) p1_injective).comp fun _ _ =>
    (UInt32.add_left_inj (k * p2)).1

theorem takeWord_injective_word (h : UInt32) : Injective (takeWord h) :=
  (rotl_mul_injective (by decide) (by decide) p4_injective).comp fun _ _ e =>
    p3_injective ((UInt32.add_right_inj h).1 e)

theorem takeWord_injective_state (k : UInt32) : Injective (takeWord · k) :=
  (rotl_mul_injective (by decide) (by decide) p4_injective).comp fun _ _ =>
    (UInt32.add_left_inj (k * p3)).1

theorem takeByte_injective_byte (h : UInt32) : Injective (takeByte h) := by
  have wide : Injective UInt8.toUInt32 := fun a b e =>
    UInt8.toNat_inj.1 (by simpa using congrArg UInt32.toNat e)
  exact (rotl_mul_injective (by decide) (by decide) p1_injective).comp fun _ _ e =>
    wide (p5_injective ((UInt32.add_right_inj h).1 e))

theorem takeByte_injective_state (b : UInt8) : Injective (takeByte · b) :=
  (rotl_mul_injective (by decide) (by decide) p1_injective).comp fun _ _ =>
    (UInt32.add_left_inj (b.toUInt32 * p5)).1

theorem avalanche_injective : Injective avalanche := by
  have fold15 : Injective fun h : UInt32 => h ^^^ (h >>> 15) :=
    xorShift_injective (by decide) (by decide)
  have fold13 : Injective fun h : UInt32 => h ^^^ (h >>> 13) :=
    xorShift_injective (by decide) (by decide)
  have fold16 : Injective fun h : UInt32 => h ^^^ (h >>> 16) :=
    xorShift_injective (by decide) (by decide)
  exact fold16.comp (p3_injective.comp (fold13.comp (p2_injective.comp fold15)))

/-! ### Lanes -/

/-- The accumulators differ in one lane. -/
inductive Lanes.Apart : Lanes → Lanes → Prop
  | a {x y : UInt32} (b c d : UInt32) : x ≠ y → Apart ⟨x, b, c, d⟩ ⟨y, b, c, d⟩
  | b {x y : UInt32} (a c d : UInt32) : x ≠ y → Apart ⟨a, x, c, d⟩ ⟨a, y, c, d⟩
  | c {x y : UInt32} (a b d : UInt32) : x ≠ y → Apart ⟨a, b, x, d⟩ ⟨a, b, y, d⟩
  | d {x y : UInt32} (a b c : UInt32) : x ≠ y → Apart ⟨a, b, c, x⟩ ⟨a, b, c, y⟩

theorem Lanes.Apart.merge_ne {l m : Lanes} (h : l.Apart m) : l.merge ≠ m.merge := by
  have turn {n x y : UInt32} (h0 : 0 < n.toNat) (hn : n.toNat < 32) (h : x ≠ y) :
      rotl x n ≠ rotl y n := (rotl_injective h0 hn).ne h
  cases h with
  | a b c d h => simpa [Lanes.merge] using turn (by decide) (by decide) h
  | b a c d h => simpa [Lanes.merge] using turn (by decide) (by decide) h
  | c a b d h => simpa [Lanes.merge] using turn (by decide) (by decide) h
  | d a b c h => simpa [Lanes.merge] using turn (by decide) (by decide) h

/-- Lanes that differ in one stay so, whatever comes to them. -/
theorem stripes_apart {l m : Lanes} (h : l.Apart m) (ws : List UInt32) :
    (stripes l ws).1.Apart (stripes m ws).1 ∧ (stripes l ws).2 = (stripes m ws).2 := by
  match ws with
  | w :: x :: y :: z :: rest =>
    rw [stripes, stripes]
    apply stripes_apart
    cases h with
    | a b c d h => exact .a _ _ _ ((round_injective_state w).ne h)
    | b a c d h => exact .b _ _ _ ((round_injective_state x).ne h)
    | c a b d h => exact .c _ _ _ ((round_injective_state y).ne h)
    | d a b c h => exact .d _ _ _ ((round_injective_state z).ne h)
  | [] | [_] | [_, _] | [_, _, _] => exact ⟨h, rfl⟩

/-- A word that differs makes one lane differ, or is among the words that no stripe takes. -/
theorem stripes_of_ne {w x : UInt32} (h : w ≠ x) (l : Lanes) (before after : List UInt32) :
    ((stripes l (before ++ w :: after)).1.Apart (stripes l (before ++ x :: after)).1 ∧
      (stripes l (before ++ w :: after)).2 = (stripes l (before ++ x :: after)).2) ∨
    ((stripes l (before ++ w :: after)).1 = (stripes l (before ++ x :: after)).1 ∧
      ∃ p q, (stripes l (before ++ w :: after)).2 = p ++ w :: q ∧
        (stripes l (before ++ x :: after)).2 = p ++ x :: q) := by
  have word (acc : UInt32) : round acc w ≠ round acc x := (round_injective_word acc).ne h
  match before, after with
  | p :: q :: r :: s :: before, after => exact stripes_of_ne h _ before after
  | [], _ :: _ :: _ :: rest => exact .inl (stripes_apart (.a _ _ _ (word _)) rest)
  | [_], _ :: _ :: rest => exact .inl (stripes_apart (.b _ _ _ (word _)) rest)
  | [_, _], _ :: rest => exact .inl (stripes_apart (.c _ _ _ (word _)) rest)
  | [_, _, _], rest => exact .inl (stripes_apart (.d _ _ _ (word _)) rest)
  | [], [] => exact .inr ⟨rfl, [], [], rfl, rfl⟩
  | [], [y] => exact .inr ⟨rfl, [], [y], rfl, rfl⟩
  | [], [y, z] => exact .inr ⟨rfl, [], [y, z], rfl, rfl⟩
  | [u], [] => exact .inr ⟨rfl, [u], [], rfl, rfl⟩
  | [u], [y] => exact .inr ⟨rfl, [u], [y], rfl, rfl⟩
  | [u, v], [] => exact .inr ⟨rfl, [u, v], [], rfl, rfl⟩

/-! ### The hash -/

/-- The state that the words of a string of `length` bytes lead to. -/
def absorb (seed length : UInt32) (ws : List UInt32) : UInt32 :=
  if 4 ≤ ws.length then
    (stripes (.start seed) ws).2.foldl takeWord ((stripes (.start seed) ws).1.merge + length)
  else ws.foldl takeWord (seed + p5 + length)

theorem hash_eq (seed : UInt32) (bytes : List UInt8) :
    hash seed bytes = avalanche ((words bytes).2.foldl takeByte
      (absorb seed (UInt32.ofNat bytes.length) (words bytes).1)) := by
  simp only [hash, absorb]
  by_cases long : 4 ≤ (words bytes).1.length
  · simp only [if_pos long]
  · simp only [if_neg long]

theorem absorb_ne {w x : UInt32} (h : w ≠ x) (seed length : UInt32) (before after : List UInt32) :
    absorb seed length (before ++ w :: after) ≠ absorb seed length (before ++ x :: after) := by
  have len : (before ++ x :: after).length = (before ++ w :: after).length := by simp
  have folds := foldl_ne takeWord_injective_state takeWord_injective_word h
  rw [absorb, absorb, len]
  by_cases long : 4 ≤ (before ++ w :: after).length
  · rw [if_pos long, if_pos long]
    rcases stripes_of_ne h (.start seed) before after with ⟨apart, rest⟩ | ⟨same, p, q, hw, hx⟩
    · rw [rest]
      exact (foldl_injective takeWord_injective_state _).ne
        fun e => apart.merge_ne ((UInt32.add_left_inj _).1 e)
    · rw [same, hw, hx]
      exact folds p q _
  · rw [if_neg long, if_neg long]
    exact folds before after _

variable {seed : UInt32} {before old new after : List UInt8}

theorem hash_ne_of_word (aligned : before.length % 4 = 0) (ho : old.length = 4)
    (hn : new.length = 4) (h : old ≠ new) :
    hash seed (before ++ old ++ after) ≠ hash seed (before ++ new ++ after) := by
  obtain ⟨w, x, hne, hw, hx⟩ := words_of_ne aligned ho hn h after
  have len : (before ++ new ++ after).length = (before ++ old ++ after).length := by simp [ho, hn]
  rw [hash_eq, hash_eq, hw, hx, len]
  intro e
  have e := foldl_injective takeByte_injective_state _ (avalanche_injective e)
  exact absorb_ne hne _ _ _ _ e

theorem hash_ne_of_byte {a b : UInt8} (aligned : before.length % 4 = 0)
    (short : old.length + 1 + after.length < 4) (h : a ≠ b) :
    hash seed (before ++ (old ++ a :: after)) ≠ hash seed (before ++ (old ++ b :: after)) := by
  have len : (before ++ (old ++ b :: after)).length = (before ++ (old ++ a :: after)).length := by
    simp
  have tail (c : UInt8) : words (old ++ c :: after) = ([], old ++ c :: after) :=
    words_of_short (by simp; omega)
  rw [hash_eq, hash_eq, words_append aligned, words_append aligned, tail, tail, len]
  intro e
  exact foldl_ne takeByte_injective_state takeByte_injective_byte h _ _ _ (avalanche_injective e)

end XX32

end FrameBus.Hash
