import FrameBus.Text.Utf8
import Mathlib.Data.List.Basic

/-!
# Bytes that are a text

The reader takes the form of every character (`decodeOne?_eq_some_iff`), and so of every text
(`decode?_eq_some_iff`), and takes nothing else: an overlong form would be of a smaller code point,
a surrogate is no character, and a form that is cut off is no form. The form is that of `String`
(`encode_eq`).
-/

namespace FrameBus.Text.Utf8

variable {n low high : Nat} {b : UInt8} {c : Char} {bytes rest : List UInt8}

/-! ## Characters and bytes -/

theorem toNat_lead (h : high + n < 256) : (lead high n).toNat = high + n := by
  rw [lead, UInt8.toNat_ofNat', Nat.mod_eq_of_lt h]

/-- A byte from `high` on, by what it has above that. -/
theorem eq_lead (h : high ≤ b.toNat) : b = lead high (b.toNat - high) := by
  rw [lead, Nat.add_sub_cancel' h, UInt8.ofNat_toNat]

theorem continued?_eq_some_iff : continued? b = some n ↔ n < 64 ∧ b = lead 0x80 n := by
  unfold continued?
  split
  · next inside =>
    rw [Option.some.injEq]
    constructor
    · rintro rfl
      exact ⟨by omega, eq_lead inside.1⟩
    · rintro ⟨lt, rfl⟩
      rw [toNat_lead (by omega), Nat.add_sub_cancel_left]
  · next outside =>
    refine iff_of_false (fun h => nomatch h) ?_
    rintro ⟨lt, rfl⟩
    rw [toNat_lead (by omega)] at outside
    omega

/-- The code point of a character is none of a surrogate, and there is a last one. -/
theorem isScalar (c : Char) : c.toNat < 0x110000 ∧ ¬ (0xD800 ≤ c.toNat ∧ c.toNat < 0xE000) := by
  have valid : c.toNat < 0xD800 ∨ 0xDFFF < c.toNat ∧ c.toNat < 0x110000 := c.valid
  omega

theorem scalar?_eq_some_iff (most : high ≤ 0x110000) :
    scalar? low high n = some c ↔ n = c.toNat ∧ low ≤ n ∧ n < high := by
  unfold scalar?
  split
  · next inside =>
    have valid : n.isValidChar := by
      show n < 0xD800 ∨ 0xDFFF < n ∧ n < 0x110000
      omega
    rw [Option.some.injEq, and_iff_left ⟨inside.1, inside.2.1⟩]
    constructor
    · rintro rfl
      rw [Char.ofNat, dif_pos valid]
      rfl
    · rintro rfl
      exact Char.ofNat_toNat c
  · next outside =>
    refine iff_of_false (fun h => nomatch h) ?_
    rintro ⟨rfl, le, lt⟩
    exact outside ⟨le, lt, (isScalar c).2⟩

/-! ## One character -/

/-- The form of a character is that of `String`. -/
theorem encodeChar_eq (c : Char) : encodeChar c = String.utf8EncodeChar c := by
  have most := (isScalar c).1
  have point : c.val.toNat = c.toNat := rfl
  simp only [encodeChar, String.utf8EncodeChar, lead, point]
  split
  · rw [if_pos (by omega), Nat.zero_add]
  split
  · rw [if_neg (by omega), if_pos (by omega), Nat.mod_eq_of_lt (by omega : c.toNat / 64 < 32),
      Nat.add_comm 0xC0, Nat.add_comm 0x80]
  split
  · rw [if_neg (by omega), if_neg (by omega), if_pos (by omega),
      Nat.mod_eq_of_lt (by omega : c.toNat / 4096 < 16), Nat.add_comm 0xE0, Nat.add_comm 0x80,
      Nat.add_comm 0x80]
  · rw [if_neg (by omega), if_neg (by omega), if_neg (by omega),
      Nat.mod_eq_of_lt (by omega : c.toNat / 262144 < 8), Nat.add_comm 0xF0, Nat.add_comm 0x80,
      Nat.add_comm 0x80, Nat.add_comm 0x80]

/-- The form of a character is read, whatever comes behind it. -/
theorem decodeOne?_encodeChar (c : Char) (rest : List UInt8) :
    decodeOne? (encodeChar c ++ rest) = some (c, rest) := by
  have most := (isScalar c).1
  have tail (m : Nat) : continued? (lead 0x80 (m % 64)) = some (m % 64) :=
    continued?_eq_some_iff.2 ⟨Nat.mod_lt _ (by decide), rfl⟩
  simp only [encodeChar]
  split
  · next one =>
    have scalar : scalar? 0 0x80 c.toNat = some c :=
      (scalar?_eq_some_iff (by decide)).2 ⟨rfl, Nat.zero_le _, one⟩
    simp [decodeOne?, toNat_lead (by omega : 0 + c.toNat < 256), one, scalar]
  split
  · next two =>
    have front := toNat_lead (by omega : 0xC0 + c.toNat / 64 < 256)
    have scalar : scalar? 0x80 0x800 (c.toNat / 64 * 64 + c.toNat % 64) = some c :=
      (scalar?_eq_some_iff (by decide)).2 (by omega)
    simp only [List.cons_append, List.nil_append, decodeOne?, front]
    rw [if_neg (by omega), if_neg (by omega), if_pos (by omega), Nat.add_sub_cancel_left]
    simp only [Option.bind_eq_bind, Option.bind_eq_some_iff]
    exact ⟨_, tail _, c, scalar, rfl⟩
  split
  · next three =>
    have front := toNat_lead (by omega : 0xE0 + c.toNat / 4096 < 256)
    have scalar : scalar? 0x800 0x10000
        (c.toNat / 4096 * 4096 + c.toNat / 64 % 64 * 64 + c.toNat % 64) = some c :=
      (scalar?_eq_some_iff (by decide)).2 (by omega)
    simp only [List.cons_append, List.nil_append, decodeOne?, front]
    rw [if_neg (by omega), if_neg (by omega), if_neg (by omega), if_pos (by omega),
      Nat.add_sub_cancel_left]
    simp only [Option.bind_eq_bind, Option.bind_eq_some_iff]
    exact ⟨_, tail _, _, tail _, c, scalar, rfl⟩
  · next four =>
    have front := toNat_lead (by omega : 0xF0 + c.toNat / 262144 < 256)
    have scalar : scalar? 0x10000 0x110000 (c.toNat / 262144 * 262144 +
        c.toNat / 4096 % 64 * 4096 + c.toNat / 64 % 64 * 64 + c.toNat % 64) = some c :=
      (scalar?_eq_some_iff (by decide)).2 (by omega)
    simp only [List.cons_append, List.nil_append, decodeOne?, front]
    rw [if_neg (by omega), if_neg (by omega), if_neg (by omega), if_neg (by omega),
      Nat.add_sub_cancel_left]
    simp only [Option.bind_eq_bind, Option.bind_eq_some_iff]
    exact ⟨_, tail _, _, tail _, _, tail _, c, scalar, rfl⟩

/-- What is read is the form of the character. -/
theorem eq_encodeChar_of_decodeOne? (h : decodeOne? bytes = some (c, rest)) :
    bytes = encodeChar c ++ rest := by
  unfold decodeOne? at h
  split at h
  · cases h
  next a bytes =>
  split at h
  · next one =>
    obtain ⟨c', hc, e⟩ := Option.map_eq_some_iff.1 h
    cases e
    obtain ⟨point, -, -⟩ := (scalar?_eq_some_iff (by decide)).1 hc
    rw [encodeChar, if_pos (by omega), ← point, ← Nat.sub_zero a.toNat, ← eq_lead (Nat.zero_le _)]
    rfl
  split at h
  · cases h
  next none_of_one none_of_tails =>
  split at h
  · next two =>
    split at h
    · next b rest' =>
      simp only [Option.bind_eq_bind, Option.bind_eq_some_iff] at h
      obtain ⟨y, hy, c', hc, e⟩ := h
      cases e
      obtain ⟨y_lt, rfl⟩ := continued?_eq_some_iff.1 hy
      obtain ⟨point, low, high⟩ := (scalar?_eq_some_iff (by decide)).1 hc
      rw [encodeChar, if_neg (by omega), if_pos (by omega), ← point,
        show ((a.toNat - 0xC0) * 64 + y) / 64 = a.toNat - 0xC0 by omega,
        show ((a.toNat - 0xC0) * 64 + y) % 64 = y by omega, ← eq_lead (by omega)]
      rfl
    · cases h
  split at h
  · next three =>
    split at h
    · next b d rest' =>
      simp only [Option.bind_eq_bind, Option.bind_eq_some_iff] at h
      obtain ⟨x, hx, y, hy, c', hc, e⟩ := h
      cases e
      obtain ⟨x_lt, rfl⟩ := continued?_eq_some_iff.1 hx
      obtain ⟨y_lt, rfl⟩ := continued?_eq_some_iff.1 hy
      obtain ⟨point, low, high⟩ := (scalar?_eq_some_iff (by decide)).1 hc
      rw [encodeChar, if_neg (by omega), if_neg (by omega), if_pos (by omega), ← point,
        show ((a.toNat - 0xE0) * 4096 + x * 64 + y) / 4096 = a.toNat - 0xE0 by omega,
        show ((a.toNat - 0xE0) * 4096 + x * 64 + y) / 64 % 64 = x by omega,
        show ((a.toNat - 0xE0) * 4096 + x * 64 + y) % 64 = y by omega, ← eq_lead (by omega)]
      rfl
    · cases h
  · split at h
    · next b d e rest' =>
      simp only [Option.bind_eq_bind, Option.bind_eq_some_iff] at h
      obtain ⟨w, hw, x, hx, y, hy, c', hc, e⟩ := h
      cases e
      obtain ⟨w_lt, rfl⟩ := continued?_eq_some_iff.1 hw
      obtain ⟨x_lt, rfl⟩ := continued?_eq_some_iff.1 hx
      obtain ⟨y_lt, rfl⟩ := continued?_eq_some_iff.1 hy
      obtain ⟨point, low, high⟩ := (scalar?_eq_some_iff (by decide)).1 hc
      rw [encodeChar, if_neg (by omega), if_neg (by omega), if_neg (by omega), ← point,
        show ((a.toNat - 0xF0) * 262144 + w * 4096 + x * 64 + y) / 262144 = a.toNat - 0xF0 by omega,
        show ((a.toNat - 0xF0) * 262144 + w * 4096 + x * 64 + y) / 4096 % 64 = w by omega,
        show ((a.toNat - 0xF0) * 262144 + w * 4096 + x * 64 + y) / 64 % 64 = x by omega,
        show ((a.toNat - 0xF0) * 262144 + w * 4096 + x * 64 + y) % 64 = y by omega,
        ← eq_lead (by omega)]
      rfl
    · cases h

/-- The reader of a character takes its form off the front and nothing else. -/
theorem decodeOne?_eq_some_iff :
    decodeOne? bytes = some (c, rest) ↔ bytes = encodeChar c ++ rest := by
  refine ⟨eq_encodeChar_of_decodeOne?, ?_⟩
  rintro rfl
  exact decodeOne?_encodeChar c rest

theorem encodeChar_ne_nil (c : Char) : encodeChar c ≠ [] := by
  rw [encodeChar_eq]
  exact String.utf8EncodeChar_ne_nil

/-! ## Texts -/

/-- The form of a text is that of `String`. -/
theorem encode_eq (cs : List Char) : encode cs = cs.flatMap String.utf8EncodeChar :=
  congrArg (cs.flatMap ·) (funext encodeChar_eq)

theorem encode_cons (c : Char) (cs : List Char) : encode (c :: cs) = encodeChar c ++ encode cs :=
  List.flatMap_cons

/-- The form of a character takes room. -/
theorem encode_cons_ne_nil (c : Char) (cs : List Char) : encode (c :: cs) ≠ [] := by
  rw [encode_cons]
  exact List.append_ne_nil_of_left_ne_nil (encodeChar_ne_nil c) _

theorem decodeFrom?_nil (fuel : Nat) : decodeFrom? fuel [] = some [] := by
  cases fuel <;> rfl

theorem decodeFrom?_eq_some_iff {fuel : Nat} {cs : List Char} (enough : bytes.length ≤ fuel) :
    decodeFrom? fuel bytes = some cs ↔ bytes = encode cs := by
  induction fuel generalizing bytes cs with
  | zero =>
    obtain rfl := List.length_eq_zero_iff.1 (Nat.le_zero.1 enough)
    cases cs with
    | nil => simp [decodeFrom?, encode]
    | cons c cs => simp [decodeFrom?, (encode_cons_ne_nil c cs).symm]
  | succ fuel ih =>
    have shorter (c : Char) {rest : List UInt8} (whole : bytes = encodeChar c ++ rest) :
        rest.length ≤ fuel := by
      have room := List.length_pos_iff.2 (encodeChar_ne_nil c)
      rw [whole, List.length_append] at enough
      omega
    cases bytes with
    | nil =>
      rw [decodeFrom?_nil]
      cases cs with
      | nil => simp [encode]
      | cons c cs => simp [(encode_cons_ne_nil c cs).symm]
    | cons b bytes =>
      simp only [decodeFrom?, Option.bind_eq_bind, Option.bind_eq_some_iff, Prod.exists,
        decodeOne?_eq_some_iff]
      constructor
      · rintro ⟨c, rest, whole, tail, ht, e⟩
        cases e
        rw [encode_cons, whole, (ih (shorter c whole)).1 ht]
      · intro whole
        cases cs with
        | nil => cases whole
        | cons c cs =>
          rw [encode_cons] at whole
          exact ⟨c, encode cs, whole, cs, (ih (shorter c whole)).2 rfl, rfl⟩

/-- Bytes are read as a text exactly if they are its form. -/
theorem decode?_eq_some_iff {cs : List Char} : decode? bytes = some cs ↔ bytes = encode cs :=
  decodeFrom?_eq_some_iff (Nat.le_refl _)

end FrameBus.Text.Utf8
