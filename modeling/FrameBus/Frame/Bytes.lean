/-!
# Numbers as bytes

A number as a fixed count of bytes, the high byte first, and back.

    ofBig (big width n) = n % 256 ^ width   (ofBig_big)
-/

namespace FrameBus.Bytes

/-! ## Algorithm -/

/-- The number whose high byte comes first. -/
def ofBig (bytes : List UInt8) : Nat := bytes.foldl (fun n b => n * 256 + b.toNat) 0

/-- The number whose low byte comes first. -/
def ofLittle (bytes : List UInt8) : Nat := ofBig bytes.reverse

/-- The lowest `width` bytes of a number, the high one first. -/
def big : (width : Nat) → Nat → List UInt8
  | 0, _ => []
  | width + 1, n => big width (n / 256) ++ [UInt8.ofNat (n % 256)]

/-- The lowest `width` bytes of a number, the low one first. -/
def little (width n : Nat) : List UInt8 := (big width n).reverse

/-! ## Lemmas -/

@[simp] theorem length_big (width n : Nat) : (big width n).length = width := by
  induction width generalizing n with
  | zero => rfl
  | succ w ih => simp [big, ih]

theorem ofBig_append_one (bytes : List UInt8) (b : UInt8) :
    ofBig (bytes ++ [b]) = ofBig bytes * 256 + b.toNat := by
  simp [ofBig, List.foldl_append]

theorem ofBig_big (width n : Nat) : ofBig (big width n) = n % Nat.pow 256 width := by
  induction width generalizing n with
  | zero => simp [big, ofBig, Nat.mod_one]
  | succ w ih =>
    have hb : (UInt8.ofNat (n % 256)).toNat = n % 256 := by
      rw [UInt8.toNat_ofNat', Nat.mod_eq_of_lt (by omega)]
    show _ = n % (Nat.pow 256 w * 256)
    rw [big, ofBig_append_one, ih, hb, Nat.mul_comm (Nat.pow 256 w), Nat.mod_mul,
      Nat.mul_comm (n / 256 % Nat.pow 256 w), Nat.add_comm]

end FrameBus.Bytes
