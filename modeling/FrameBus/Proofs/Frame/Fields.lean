import FrameBus.Frame.Basic

/-!
# Numbers in a window

Which number a frame has at a place of its window (`u16`, `u32`), for any bytes. The operations
that read one answer it if the window reaches that far, and a frame whose window begins further on
(`past`) has the same numbers at lower places:

    f.peekU16 i         = f.u16 i                 (peekU16_eq)
    f.pullU16           = f.u16 0, f.past 2       (pullU16_eq)
    (f.past n).u16 i    = f.u16 (n + i)           (u16_past)
-/

namespace FrameBus

namespace Bytes

theorem ofBig_two (a b : UInt8) : ofBig [a, b] = 256 * a.toNat + b.toNat := by
  simp [ofBig, Nat.mul_comm]

theorem ofBig_four (a b c d : UInt8) :
    ofBig [a, b, c, d] = 256 * (256 * (256 * a.toNat + b.toNat) + c.toNat) + d.toNat := by
  simp [ofBig, Nat.mul_comm]

/-- The bytes from a place on, one after another. -/
theorem take_drop_succ {bytes : List UInt8} {i : Nat} (n : Nat) (h : i < bytes.length) :
    (bytes.drop i).take (n + 1) = bytes.getD i 0 :: (bytes.drop (i + 1)).take n := by
  rw [List.drop_eq_getElem_cons h, List.take_succ_cons]
  simp [h]

end Bytes

namespace Frame

/-- The number in two bytes of the window. -/
def u16 (f : Frame) (i : Nat) : UInt16 := UInt16.ofNat (Bytes.ofBig ((f.window.drop i).take 2))

/-- The number in four bytes of the window. -/
def u32 (f : Frame) (i : Nat) : UInt32 := UInt32.ofNat (Bytes.ofBig ((f.window.drop i).take 4))

/-- The frame whose window begins `n` bytes further on. -/
def past (f : Frame) (n : Nat) : Frame := ⟨f.head ++ f.window.take n, f.window.drop n, f.tail⟩

variable {f : Frame} {i n : Nat}

@[simp] theorem window_past (f : Frame) (n : Nat) : (f.past n).window = f.window.drop n := rfl

@[simp] theorem length_past (f : Frame) (n : Nat) : (f.past n).length = f.length - n := by
  simp [past, length]

theorem headRoom_past (h : n ≤ f.length) : (f.past n).headRoom = f.headRoom + n := by
  simp [past, headRoom, length] at h ⊢
  omega

@[simp] theorem past_past (f : Frame) (m n : Nat) : (f.past m).past n = f.past (m + n) := by
  simp [past, List.take_add]

@[simp] theorem u16_past (f : Frame) (n i : Nat) : (f.past n).u16 i = f.u16 (n + i) := by
  simp [u16, past]

@[simp] theorem u32_past (f : Frame) (n i : Nat) : (f.past n).u32 i = f.u32 (n + i) := by
  simp [u32, past]

theorem slice_eq (h : i + n ≤ f.length) : f.slice i n = .ok ((f.window.drop i).take n) := if_pos h

theorem slice_of_short (h : f.length < i + n) :
    f.slice i n = .error (.noSpace (min (i + n) sizeLimit) f.length) := if_neg (by omega)

theorem peekU16_eq (h : i + 2 ≤ f.length) : f.peekU16 i = .ok (f.u16 i) := by
  rw [peekU16, slice_eq h]
  rfl

theorem peekU32_eq (h : i + 4 ≤ f.length) : f.peekU32 i = .ok (f.u32 i) := by
  rw [peekU32, slice_eq h]
  rfl

theorem peekU16_of_short (h : f.length < i + 2) :
    f.peekU16 i = .error (.noSpace (min (i + 2) sizeLimit) f.length) := by
  rw [peekU16, slice_of_short h]
  rfl

theorem peekU32_of_short (h : f.length < i + 4) :
    f.peekU32 i = .error (.noSpace (min (i + 4) sizeLimit) f.length) := by
  rw [peekU32, slice_of_short h]
  rfl

theorem pullFront_eq (h : n ≤ f.length) : f.pullFront n = .ok (f.past n) := by
  rw [pullFront, if_neg (by omega)]
  rfl

theorem pullFront_of_short (h : f.length < n) : f.pullFront n = .error (.noSpace n f.length) :=
  if_pos h

theorem pullU16_eq (h : 2 ≤ f.length) : f.pullU16 = .ok (f.u16 0, f.past 2) := by
  rw [pullU16, peekU16_eq (by omega), pullFront_eq h]
  rfl

theorem pullU32_eq (h : 4 ≤ f.length) : f.pullU32 = .ok (f.u32 0, f.past 4) := by
  rw [pullU32, peekU32_eq (by omega), pullFront_eq h]
  rfl

theorem pullU16_of_short (h : f.length < 2) : f.pullU16 = .error (.noSpace 2 f.length) := by
  rw [pullU16, peekU16_of_short h]
  rfl

theorem pullU32_of_short (h : f.length < 4) : f.pullU32 = .error (.noSpace 4 f.length) := by
  rw [pullU32, peekU32_of_short h]
  rfl

theorem toNat_u16 (h : i + 2 ≤ f.length) :
    (f.u16 i).toNat = 256 * (f.window.getD i 0).toNat + (f.window.getD (i + 1) 0).toNat := by
  rw [length] at h
  rw [u16, Bytes.take_drop_succ 1 (by omega), Bytes.take_drop_succ 0 (by omega), List.take_zero,
    Bytes.ofBig_two, UInt16.toNat_ofNat', Nat.mod_eq_of_lt]
  have high := (f.window.getD i 0).toNat_lt
  have low := (f.window.getD (i + 1) 0).toNat_lt
  omega

theorem toNat_u32 (h : i + 4 ≤ f.length) :
    (f.u32 i).toNat = 256 * (256 * (256 * (f.window.getD i 0).toNat +
      (f.window.getD (i + 1) 0).toNat) + (f.window.getD (i + 2) 0).toNat) +
      (f.window.getD (i + 3) 0).toNat := by
  rw [length] at h
  rw [u32, Bytes.take_drop_succ 3 (by omega), Bytes.take_drop_succ 2 (by omega),
    Bytes.take_drop_succ 1 (by omega), Bytes.take_drop_succ 0 (by omega), List.take_zero,
    Bytes.ofBig_four, UInt32.toNat_ofNat', Nat.mod_eq_of_lt]
  have first := (f.window.getD i 0).toNat_lt
  have second := (f.window.getD (i + 1) 0).toNat_lt
  have third := (f.window.getD (i + 1 + 1) 0).toNat_lt
  have fourth := (f.window.getD (i + 1 + 1 + 1) 0).toNat_lt
  omega

end Frame

end FrameBus
