import FrameBus.Proofs.Frame.Wire
import FrameBus.Proofs.Hash.Mixing
import Mathlib.Data.List.Induction

/-!
# Changed frames are refused

A header stores a hash of the bytes behind it. A change of these bytes in one word changes the hash,
and a change of the stored hash leaves that of the bytes, so in both cases the two do not agree any
more and the reader refuses the frame, which it leaves as it is:

    Envelope.unwrap     after a change of the hash, a full word, or all that is behind the words
    EventFrame.decode   after a change of the hash, a full word, or a byte that is left behind them

The readers look at the hash before they look at anything else, also at the declared length.
-/

namespace FrameBus

/-! ## Changes -/

/-- A byte string after a change of another one: as long as that one, and different from it, but
only in the `width` bytes from `start` on. -/
structure Altered (start width : Nat) (before after : List UInt8) : Prop where
  length : after.length = before.length
  differs : after ≠ before
  elsewhere : ∀ i, i < start ∨ start + width ≤ i → after[i]? = before[i]?

/-- A byte with one of its bits turned over. -/
def flipBit (bit : Fin 8) (b : UInt8) : UInt8 := b ^^^ (1 <<< UInt8.ofNat bit)

theorem flipBit_ne (bit : Fin 8) (b : UInt8) : flipBit bit b ≠ b := by
  have mask : ∀ bit : Fin 8, (1 : UInt8) <<< UInt8.ofNat bit ≠ 0 := by decide
  intro h
  have h : b ^^^ (1 <<< UInt8.ofNat bit) = b ^^^ 0 := h.trans UInt8.xor_zero.symm
  exact mask bit ((UInt8.xor_right_inj b).1 h)

namespace Altered

variable {start width : Nat} {b c : List UInt8}

/-- What is changed in a stretch is changed in every stretch around it. -/
theorem widen (h : Altered start width b c) {start' width' : Nat} (hs : start' ≤ start)
    (hw : start + width ≤ start' + width') : Altered start' width' b c :=
  ⟨h.length, h.differs, fun i hi => h.elsewhere i (by omega)⟩

theorem flip {i : Nat} (hi : i < b.length) (bit : Fin 8) :
    Altered i 1 b (b.modify i (flipBit bit)) := by
  refine ⟨List.length_modify _ _ _, fun h => ?_, fun j hj => ?_⟩
  · have := congrArg (·[i]?) h
    simp [List.getElem?_eq_getElem hi, flipBit_ne] at this
  · simp [show i ≠ j by omega]

theorem replace (before old new after : List UInt8) (hn : new.length = old.length)
    (hne : new ≠ old) :
    Altered before.length old.length (before ++ (old ++ after)) (before ++ (new ++ after)) := by
  refine ⟨by simp [hn], by simpa using hne, fun i hi => ?_⟩
  rcases hi with hi | hi
  · rw [List.getElem?_append_left hi, List.getElem?_append_left hi]
  · rw [List.getElem?_append_right (by omega), List.getElem?_append_right (by omega),
      List.getElem?_append_right (by omega), List.getElem?_append_right (by omega), hn]

/-- The bytes around a change are the same, and those that were changed are as many. -/
theorem split (h : Altered start width b c) (hb : start + width ≤ b.length) :
    ∃ before old new after, before.length = start ∧ old.length = width ∧ new.length = width ∧
      old ≠ new ∧ b = before ++ old ++ after ∧ c = before ++ new ++ after := by
  have parts (l : List UInt8) :
      l = l.take start ++ (l.drop start).take width ++ l.drop (start + width) := by
    rw [List.append_assoc, ← List.drop_drop, List.take_append_drop, List.take_append_drop]
  have front : c.take start = b.take start := by
    apply List.ext_getElem?
    intro i
    rw [List.getElem?_take, List.getElem?_take]
    split
    · next hi => exact h.elsewhere i (.inl hi)
    · rfl
  have back : c.drop (start + width) = b.drop (start + width) := by
    apply List.ext_getElem?
    intro i
    rw [List.getElem?_drop, List.getElem?_drop]
    exact h.elsewhere _ (.inr (by omega))
  have hc := h.length
  refine ⟨b.take start, (b.drop start).take width, (c.drop start).take width,
    b.drop (start + width), by simp; omega, by simp; omega, by simp; omega, fun e => h.differs ?_,
    parts b, ?_⟩
  · rw [parts c, parts b, front, back, e]
  · rw [← front, ← back]
    exact parts c

/-- What every change in some places does, every bit that is turned over in one of them does. -/
theorem forall_flip {f : Frame} {P : Frame → Prop} {site : Nat → Nat → Prop}
    (one : ∀ h start width, site start width → Altered start width f.window h.window → P h)
    (cover : ∀ i < f.length, ∃ start width, site start width ∧ start ≤ i ∧ i < start + width)
    (i : Nat) (bit : Fin 8) (hi : i < f.length) :
    ∃ h, f.modify? i (flipBit bit) = some h ∧ P h := by
  obtain ⟨start, width, hs, low, high⟩ := cover i hi
  exact ⟨_, if_pos hi, one _ start width hs ((Altered.flip hi bit).widen low high)⟩

/-- A change behind a prefix. -/
theorem behind {front : List UInt8} (h : Altered (front.length + start) width (front ++ b) c) :
    ∃ d, c = front ++ d ∧ Altered start width b d := by
  have hc := h.length
  have same : c.take front.length = front := by
    apply List.ext_getElem?
    intro i
    rw [List.getElem?_take]
    split
    · next hi => rw [h.elsewhere i (.inl (by omega)), List.getElem?_append_left hi]
    · next hi => rw [List.getElem?_eq_none (by omega)]
  have cut : c = front ++ c.drop front.length := by
    have := List.take_append_drop front.length c
    rw [same] at this
    exact this.symm
  refine ⟨_, cut, by simp [hc], fun e => h.differs (by rw [cut, e]), fun i hi => ?_⟩
  rw [List.getElem?_drop, h.elsewhere _ (by omega), List.getElem?_append_right (by omega),
    Nat.add_sub_cancel_left]

/-- A change of a prefix alone. -/
theorem ahead {back : List UInt8} (h : Altered 0 b.length (b ++ back) c) :
    ∃ d, c = d ++ back ∧ d.length = b.length ∧ d ≠ b := by
  obtain ⟨before, old, new, after, hb, ho, hn, hne, eb, ec⟩ := h.split (by simp)
  obtain rfl := List.length_eq_zero_iff.1 hb
  obtain ⟨rfl, rfl⟩ := List.append_inj eb ho.symm
  exact ⟨new, ec, hn, fun e => hne e.symm⟩

end Altered

/-! ## Hashes -/

namespace Hash

variable {start width : Nat} {b c : List UInt8}

theorem gatewayHash_ne_of_word {k : Nat} (h : Altered (4 * k) 4 b c) (hk : 4 * k + 4 ≤ b.length) :
    gatewayHash b ≠ gatewayHash c := by
  obtain ⟨before, old, new, after, hb, ho, hn, hne, rfl, rfl⟩ := h.split hk
  exact Murmur.hash_ne_of_word (by omega) ho hn hne

theorem gatewayHash_ne_of_tail (h : Altered (b.length / 4 * 4) (b.length % 4) b c) :
    gatewayHash b ≠ gatewayHash c := by
  obtain ⟨before, old, new, after, hb, ho, hn, hne, eb, ec⟩ := h.split (by omega)
  have none : after.length = 0 := by
    have := congrArg List.length eb
    simp only [List.length_append] at this
    omega
  obtain rfl := List.length_eq_zero_iff.1 none
  rw [List.append_nil] at eb ec
  rw [eb, ec]
  exact Murmur.hash_ne_of_tail (by omega) (by omega) (hn.trans ho.symm) hne

theorem eventHash_ne_of_word {k : Nat} (h : Altered (4 * k) 4 b c) (hk : 4 * k + 4 ≤ b.length) :
    eventHash b ≠ eventHash c := by
  obtain ⟨before, old, new, after, hb, ho, hn, hne, rfl, rfl⟩ := h.split hk
  exact XX32.hash_ne_of_word (by omega) ho hn hne

theorem eventHash_ne_of_byte {i : Nat} (h : Altered i 1 b c) (hs : b.length / 4 * 4 ≤ i)
    (hi : i < b.length) : eventHash b ≠ eventHash c := by
  obtain ⟨before, old, new, after, hb, ho, hn, hne, eb, ec⟩ := h.split (by omega)
  obtain ⟨x, rfl⟩ := List.length_eq_one_iff.1 ho
  obtain ⟨y, rfl⟩ := List.length_eq_one_iff.1 hn
  -- the bytes before the change are full words and the start of the tail
  have len := congrArg List.length eb
  simp only [List.length_append, List.length_singleton] at len
  rw [← List.take_append_drop (b.length / 4 * 4) before] at eb ec
  simp only [List.append_assoc, List.singleton_append] at eb ec
  rw [eb, ec]
  exact XX32.hash_ne_of_byte (by simp; omega) (by simp; omega) fun e => hne (by rw [e])

end Hash

/-! ## Stored hashes -/

namespace Bytes

theorem big_ofBig (bytes : List UInt8) : big bytes.length (ofBig bytes) = bytes := by
  induction bytes using List.reverseRecOn with
  | nil => rfl
  | append_singleton bytes b ih =>
    have hb := b.toNat_lt
    have high : (ofBig bytes * 256 + b.toNat) / 256 = ofBig bytes := by omega
    have low : (ofBig bytes * 256 + b.toNat) % 256 = b.toNat := by omega
    rw [ofBig_append_one, List.length_append, List.length_singleton, big, high, low, ih,
      UInt8.ofNat_toNat]

/-- Only its own bytes are read as a number. -/
theorem ofNat_ofBig_ne {field : List UInt8} (hf : field.length = 4) {n : UInt32}
    (h : field ≠ big 4 n.toNat) : UInt32.ofNat (ofBig field) ≠ n := by
  intro e
  have back := big_ofBig field
  rw [hf] at back
  have small : ofBig field < 4294967296 := by
    rw [← back, ofBig_big]
    exact Nat.mod_lt _ (by decide)
  have e := congrArg UInt32.toNat e
  rw [UInt32.toNat_ofNat', Nat.mod_eq_of_lt small] at e
  exact h (by rw [← e, back])

end Bytes

/-- A change of a stored hash, or of the bytes behind it that the hash can tell, makes the two
disagree. -/
theorem Altered.disagree {H : List UInt8 → UInt32} {body c : List UInt8} {start width : Nat}
    (h : Altered start width (Bytes.big 4 (H body).toNat ++ body) c)
    (site : start = 0 ∧ width = 4 ∨
      ∃ s, start = 4 + s ∧ ∀ d, Altered s width body d → H body ≠ H d) :
    ∃ field covered, field.length = 4 ∧ covered.length = body.length ∧ c = field ++ covered ∧
      UInt32.ofNat (Bytes.ofBig field) ≠ H covered := by
  have four := Bytes.length_big 4 (H body).toNat
  rcases site with ⟨rfl, rfl⟩ | ⟨s, rfl, tells⟩
  · rw [← four] at h
    obtain ⟨field, rfl, hf, hne⟩ := h.ahead
    exact ⟨field, body, hf.trans four, rfl, rfl, Bytes.ofNat_ofBig_ne (hf.trans four) hne⟩
  · rw [← four] at h
    obtain ⟨covered, rfl, hc⟩ := h.behind
    refine ⟨_, covered, four, hc.length, rfl, ?_⟩
    rw [Bytes.ofBig_big, show (H body).toNat % Nat.pow 256 4 = (H body).toNat from
      Nat.mod_eq_of_lt (H body).toNat_lt, UInt32.ofNat_toNat]
    exact tells covered hc

/-! ## Envelopes -/

theorem Frame.window_of_pushFront {f g : Frame} {bytes : List UInt8}
    (h : f.pushFront bytes = .ok g) : g.window = bytes ++ f.window := by
  simp only [pushFront] at h
  split at h <;> cases h
  rfl

theorem Frame.peekU32_field {f : Frame} {field rest : List UInt8} (hf : field.length = 4)
    (h : f.window = field ++ rest) : f.peekU32 0 = .ok (UInt32.ofNat (Bytes.ofBig field)) := by
  rw [peekU32, slice_append (List.length_nil : [].length = 0) hf h]
  rfl

namespace Envelope

theorem orReject_eq_ok {before f : Frame} {r : Except BusError Frame} :
    orReject before r = .ok f ↔ r = .ok f := by
  cases r <;> simp [orReject]

theorem window_of_wrap {f g : Frame} {route : Addresses} (h : wrap f route = .ok g) :
    g.window = sealed route f.window := by
  simp only [wrap, bind, Except.bind] at h
  split at h
  · cases h
  · next f₁ h₁ =>
    split at h
    · cases h
    · next f₂ h₂ =>
      have w₁ := Frame.window_of_pushFront (orReject_eq_ok.1 h₁)
      have w₂ := Frame.window_of_pushFront (orReject_eq_ok.1 h₂)
      have w₃ := Frame.window_of_pushFront (orReject_eq_ok.1 h)
      rw [w₁, ← List.append_assoc] at w₂
      rw [w₃, w₂]
      rfl

theorem unwrap_of_disagree {f : Frame} {field covered : List UInt8} (hf : field.length = 4)
    (hc : 4 ≤ covered.length) (hw : f.window = field ++ covered)
    (h : UInt32.ofNat (Bytes.ofBig field) ≠ Hash.gatewayHash covered) :
    unwrap f =
      .error (.integrity (UInt32.ofNat (Bytes.ofBig field)) (Hash.gatewayHash covered)) := by
  have long : ¬ f.length < size := by simp [Frame.length, hw, size]; omega
  have behind : f.window.drop 4 = covered := by simp [hw, ← hf]
  simp only [unwrap, if_neg long, Frame.peekU32_field hf hw, behind, bind, Except.bind, ne_eq, h,
    not_false_eq_true, if_true]

/-- Where a change of sealed bytes shows, by the number of bytes that the hash covers. -/
inductive Site (covered : Nat) : (start width : Nat) → Prop
  | hash : Site covered 0 4
  | word (k : Nat) : 4 * k + 4 ≤ covered → Site covered (4 + 4 * k) 4
  /-- all bytes behind the last full word -/
  | tail : Site covered (4 + covered / 4 * 4) (covered % 4)

/-- A reader refuses the frame for its hash, and whoever calls it has the frame as it was. -/
def Refuses (f : Frame) : Prop :=
  ∃ expected actual, expected ≠ actual ∧ unwrap f = .error (.integrity expected actual) ∧
    orReject f ((unwrap f).map Prod.snd) = .error ⟨.integrity expected actual, f⟩

theorem refuses_of_altered {route : Addresses} {window : List UInt8} {f : Frame} {start width : Nat}
    (site : Site ((sealed route window).length - 4) start width)
    (h : Altered start width (sealed route window) f.window) : Refuses f := by
  have covered : (sealed route window).length - 4 = (body route window).length := by
    simp [sealed]
  rw [covered] at site
  have told : start = 0 ∧ width = 4 ∨ ∃ s, start = 4 + s ∧
      ∀ d, Altered s width (body route window) d →
        Hash.gatewayHash (body route window) ≠ Hash.gatewayHash d := by
    cases site with
    | hash => exact .inl ⟨rfl, rfl⟩
    | word k hk => exact .inr ⟨_, rfl, fun d hd => Hash.gatewayHash_ne_of_word hd hk⟩
    | tail => exact .inr ⟨_, rfl, fun d hd => Hash.gatewayHash_ne_of_tail hd⟩
  obtain ⟨field, rest, hf, hr, hw, hne⟩ := h.disagree told
  have refused := unwrap_of_disagree hf (by rw [hr]; simp [body]; omega) hw hne
  exact ⟨_, _, hne, refused, by rw [refused]; rfl⟩

/-- Every byte of a sealed frame lies in a place where a change of it shows. -/
theorem site_of_lt {length i : Nat} (four : 4 ≤ length) (h : i < length) :
    ∃ start width, Site (length - 4) start width ∧ start ≤ i ∧ i < start + width := by
  by_cases first : i < 4
  · exact ⟨_, _, .hash, by omega, by omega⟩
  · by_cases full : i - 4 < (length - 4) / 4 * 4
    · exact ⟨_, _, .word ((i - 4) / 4) (by omega), by omega, by omega⟩
    · exact ⟨_, _, .tail, by omega, by omega⟩

/-- No change of a sealed frame in one place goes unnoticed, nor any bit that is turned over. -/
theorem refuses_one_place {f g : Frame} {route : Addresses} (hg : wrap f route = .ok g) :
    (∀ (h : Frame) (start width : Nat), Site (g.length - 4) start width →
        Altered start width g.window h.window → Refuses h) ∧
      ∀ i bit, i < g.length → ∃ h, g.modify? i (flipBit bit) = some h ∧ Refuses h := by
  have window := window_of_wrap hg
  have one (h : Frame) (start width : Nat) (site : Site (g.length - 4) start width)
      (altered : Altered start width g.window h.window) : Refuses h := by
    rw [Frame.length, window] at site
    rw [window] at altered
    exact refuses_of_altered site altered
  have long : 4 ≤ g.length := by
    rw [Frame.length, window, length_sealed]
    simp only [size]
    omega
  exact ⟨one, Altered.forall_flip one fun _ => site_of_lt long⟩

/-- Seven bytes in an envelope: the last three are behind the words that the hash covers. -/
theorem refuses_changed_tail :
    Refuses (.ofBytes [197, 219, 6, 133, 0x81, 1, 0, 0x81, 1, 2, 3, 4, 7, 6, 5]) := by
  have hg : wrap (.withHeadRoom 8 [1, 2, 3, 4, 5, 6, 7]) ⟨⟨0x8101⟩, ⟨0x0081⟩⟩ =
      .ok ⟨[], [197, 219, 6, 133, 0x81, 1, 0, 0x81, 1, 2, 3, 4, 5, 6, 7], []⟩ := by
    decide +kernel
  have altered := Altered.replace [197, 219, 6, 133, 0x81, 1, 0, 0x81, 1, 2, 3, 4] [5, 6, 7]
    [7, 6, 5] [] rfl (by decide)
  exact (refuses_one_place hg).1 _ 12 3 .tail altered

end Envelope

/-! ## Event frames -/

namespace EventFrame

theorem window_of_encode {source dest : PortId} {event : UInt32} {payload : List UInt8} {g : Frame}
    (h : encode source dest event payload = .ok g) :
    g.window = bytes source dest event payload := by
  by_cases small : payload.length < 0x100000000
  · rw [encode_eq small] at h
    cases h
    rfl
  · rw [encode, if_pos (by omega)] at h
    cases h

theorem decode_of_disagree {f : Frame} {field covered : List UInt8} (hf : field.length = 4)
    (hc : 12 ≤ covered.length) (hw : f.window = field ++ covered)
    (h : UInt32.ofNat (Bytes.ofBig field) ≠ Hash.eventHash covered) :
    decode f =
      .error ⟨.integrity (UInt32.ofNat (Bytes.ofBig field)) (Hash.eventHash covered), f⟩ := by
  have long : ¬ f.length < headerSize := by simp [Frame.length, hw, headerSize]; omega
  have behind : f.window.drop 4 = covered := by simp [hw, ← hf]
  have refused : check f =
      .error (.integrity (UInt32.ofNat (Bytes.ofBig field)) (Hash.eventHash covered)) := by
    simp only [check, if_neg long, Frame.peekU32_field hf hw, behind, bind, Except.bind, ne_eq, h,
      not_false_eq_true, if_true]
  rw [decode, refused]

/-- Where a change of an event's bytes shows, by the number of bytes that the hash covers. -/
inductive Site (covered : Nat) : (start width : Nat) → Prop
  | hash : Site covered 0 4
  | word (k : Nat) : 4 * k + 4 ≤ covered → Site covered (4 + 4 * k) 4
  /-- a byte behind the last full word -/
  | byte (i : Nat) : covered / 4 * 4 ≤ i → i < covered → Site covered (4 + i) 1

/-- A reader refuses the frame for its hash, and gives it back as it was. -/
def Refuses (f : Frame) : Prop :=
  ∃ expected actual, expected ≠ actual ∧ decode f = .error ⟨.integrity expected actual, f⟩

theorem refuses_of_altered {source dest : PortId} {event : UInt32} {payload : List UInt8}
    {f : Frame} {start width : Nat}
    (site : Site ((bytes source dest event payload).length - 4) start width)
    (h : Altered start width (bytes source dest event payload) f.window) : Refuses f := by
  have covered : (bytes source dest event payload).length - 4 =
      (body source dest event payload).length := by
    simp [bytes]
  rw [covered] at site
  have told : start = 0 ∧ width = 4 ∨ ∃ s, start = 4 + s ∧
      ∀ d, Altered s width (body source dest event payload) d →
        Hash.eventHash (body source dest event payload) ≠ Hash.eventHash d := by
    cases site with
    | hash => exact .inl ⟨rfl, rfl⟩
    | word k hk => exact .inr ⟨_, rfl, fun d hd => Hash.eventHash_ne_of_word hd hk⟩
    | byte i hs hi => exact .inr ⟨_, rfl, fun d hd => Hash.eventHash_ne_of_byte hd hs hi⟩
  obtain ⟨field, rest, hf, hr, hw, hne⟩ := h.disagree told
  exact ⟨_, _, hne, decode_of_disagree hf (by rw [hr]; simp [body]; omega) hw hne⟩

theorem site_of_lt {length i : Nat} (four : 4 ≤ length) (h : i < length) :
    ∃ start width, Site (length - 4) start width ∧ start ≤ i ∧ i < start + width := by
  by_cases first : i < 4
  · exact ⟨_, _, .hash, by omega, by omega⟩
  · by_cases full : i - 4 < (length - 4) / 4 * 4
    · exact ⟨_, _, .word ((i - 4) / 4) (by omega), by omega, by omega⟩
    · exact ⟨_, _, .byte (i - 4) (by omega) (by omega), by omega, by omega⟩

/-- No change of an event frame in one place goes unnoticed, nor any bit that is turned over. -/
theorem refuses_single_change {source dest : PortId} {event : UInt32} {payload : List UInt8}
    {g : Frame} (hg : encode source dest event payload = .ok g) :
    (∀ (h : Frame) (start width : Nat), Site (g.length - 4) start width →
        Altered start width g.window h.window → Refuses h) ∧
      ∀ i bit, i < g.length → ∃ h, g.modify? i (flipBit bit) = some h ∧ Refuses h := by
  have window := window_of_encode hg
  have one (h : Frame) (start width : Nat) (site : Site (g.length - 4) start width)
      (altered : Altered start width g.window h.window) : Refuses h := by
    rw [Frame.length, window] at site
    rw [window] at altered
    exact refuses_of_altered site altered
  have long : 4 ≤ g.length := by
    rw [Frame.length, window, length_bytes]
    simp only [headerSize]
    omega
  exact ⟨one, Altered.forall_flip one fun _ => site_of_lt long⟩

/-- A declared length that is not that of the payload: the reader tells it from the hash, before it
looks whether the frame is long enough. -/
theorem refuses_changed_length :
    Refuses (.ofBytes
      [68, 2, 84, 134, 0x81, 5, 0, 0x81, 0, 0, 0, 7, 0, 1, 0, 0, 1, 2, 3, 4, 5, 6, 7]) := by
  have hg : encode ⟨0x8105⟩ ⟨0x0081⟩ 7 [1, 2, 3, 4, 5, 6, 7] = .ok ⟨List.replicate 16 0,
      [68, 2, 84, 134, 0x81, 5, 0, 0x81, 0, 0, 0, 7, 0, 0, 0, 7, 1, 2, 3, 4, 5, 6, 7], []⟩ := by
    decide +kernel
  have altered := Altered.replace [68, 2, 84, 134, 0x81, 5, 0, 0x81, 0, 0, 0, 7] [0, 0, 0, 7]
    [0, 1, 0, 0] [1, 2, 3, 4, 5, 6, 7] rfl (by decide)
  exact (refuses_single_change hg).1 _ 12 4 (.word 2 (by decide)) altered

end EventFrame

end FrameBus
