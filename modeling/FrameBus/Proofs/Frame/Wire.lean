import FrameBus.Frame.Event

/-!
# What is on the wire

The bytes of an event frame and of an envelope in closed form, and how they read back:

    EventFrame.encode  gives  EventFrame.bytes, with room for an envelope     (encode_eq)
    EventFrame.decode  of them gives the header and the payload               (decode_bytes)
    Envelope.wrap      gives  Envelope.sealed of the window                   (wrap_eq)
    Envelope.unwrap    of that gives the addresses and the window             (unwrap_sealed)

An envelope is taken off and put on again without a change of the bytes, so a frame that is sent on
from gateway to gateway stays the same.
-/

namespace FrameBus

/-! ## Fields -/

namespace Frame

theorem pushFront_eq {f : Frame} {bytes : List UInt8} (h : bytes.length ≤ f.headRoom) :
    f.pushFront bytes =
      .ok ⟨f.head.take (f.headRoom - bytes.length), bytes ++ f.window, f.tail⟩ := by
  rw [pushFront, if_neg (by omega)]

theorem pullFront_append {f : Frame} {field rest : List UInt8} {n : Nat} (hn : field.length = n)
    (h : f.window = field ++ rest) :
    ∃ g, f.pullFront n = .ok g ∧ g.window = rest ∧ g.headRoom = f.headRoom + n := by
  subst hn
  rw [pullFront, if_neg (by simp [length, h])]
  exact ⟨_, rfl, by simp [h], by simp [headRoom, h]⟩

theorem slice_append {f : Frame} {before field rest : List UInt8} {i n : Nat}
    (hi : before.length = i) (hn : field.length = n) (h : f.window = before ++ field ++ rest) :
    f.slice i n = .ok field := by
  subst hi hn
  rw [slice, if_pos (by simp [length, h])]
  simp [h]

theorem peekU16_append {f : Frame} {before rest : List UInt8} {n : UInt16} {i : Nat}
    (hi : before.length = i) (h : f.window = before ++ Bytes.big 2 n.toNat ++ rest) :
    f.peekU16 i = .ok n := by
  have hn : UInt16.ofNat (Bytes.ofBig (Bytes.big 2 n.toNat)) = n := by
    rw [Bytes.ofBig_big, Nat.mod_eq_of_lt n.toNat_lt, UInt16.ofNat_toNat]
  rw [peekU16, slice_append hi (Bytes.length_big 2 _) h]
  simp [Except.map, hn]

theorem peekU32_append {f : Frame} {rest : List UInt8} {n : UInt32}
    (h : f.window = Bytes.big 4 n.toNat ++ rest) : f.peekU32 0 = .ok n := by
  have hn : UInt32.ofNat (Bytes.ofBig (Bytes.big 4 n.toNat)) = n := by
    rw [Bytes.ofBig_big, Nat.mod_eq_of_lt n.toNat_lt, UInt32.ofNat_toNat]
  rw [peekU32, slice_append (List.length_nil : [].length = 0) (Bytes.length_big 4 _) h]
  simp [Except.map, hn]

theorem pullU16_append {f : Frame} {rest : List UInt8} {n : UInt16}
    (h : f.window = Bytes.big 2 n.toNat ++ rest) :
    ∃ g, f.pullU16 = .ok (n, g) ∧ g.window = rest ∧ g.headRoom = f.headRoom + 2 := by
  obtain ⟨g, hg, hw, hr⟩ := pullFront_append (Bytes.length_big 2 _) h
  refine ⟨g, ?_, hw, hr⟩
  rw [pullU16, peekU16_append (List.length_nil : [].length = 0) h, hg]
  rfl

theorem pullU32_append {f : Frame} {rest : List UInt8} {n : UInt32}
    (h : f.window = Bytes.big 4 n.toNat ++ rest) :
    ∃ g, f.pullU32 = .ok (n, g) ∧ g.window = rest ∧ g.headRoom = f.headRoom + 4 := by
  obtain ⟨g, hg, hw, hr⟩ := pullFront_append (Bytes.length_big 4 _) h
  refine ⟨g, ?_, hw, hr⟩
  rw [pullU32, peekU32_append h, hg]
  rfl

end Frame

/-! ## Envelopes -/

namespace Envelope

/-- What the hash of an envelope covers. -/
def body (route : Addresses) (window : List UInt8) : List UInt8 :=
  Bytes.big 2 route.source.raw.toNat ++ Bytes.big 2 route.dest.raw.toNat ++ window

/-- A window in an envelope. -/
def sealed (route : Addresses) (window : List UInt8) : List UInt8 :=
  Bytes.big 4 (Hash.gatewayHash (body route window)).toNat ++ body route window

theorem length_sealed (route : Addresses) (window : List UInt8) :
    (sealed route window).length = window.length + size := by
  simp [sealed, body, size]
  omega

theorem wrap_eq {f : Frame} (h : size ≤ f.headRoom) (route : Addresses) :
    wrap f route = .ok ⟨f.head.take (f.headRoom - size), sealed route f.window, f.tail⟩ := by
  simp only [size] at h
  have h₁ : f.pushU16 route.dest.raw = .ok ⟨f.head.take (f.headRoom - 2),
      Bytes.big 2 route.dest.raw.toNat ++ f.window, f.tail⟩ :=
    Frame.pushFront_eq (by simp; omega)
  have h₂ : Frame.pushU16 ⟨f.head.take (f.headRoom - 2),
      Bytes.big 2 route.dest.raw.toNat ++ f.window, f.tail⟩ route.source.raw =
        .ok ⟨f.head.take (f.headRoom - 4), body route f.window, f.tail⟩ := by
    rw [Frame.pushU16, Frame.pushFront_eq (by simp [Frame.headRoom] at h ⊢; omega)]
    simp [Frame.headRoom, List.take_take, body]
    omega
  have h₃ : Frame.pushU32 ⟨f.head.take (f.headRoom - 4), body route f.window, f.tail⟩
      (Hash.gatewayHash (body route f.window)) =
        .ok ⟨f.head.take (f.headRoom - size), sealed route f.window, f.tail⟩ := by
    rw [Frame.pushU32, Frame.pushFront_eq (by simp [Frame.headRoom] at h ⊢; omega)]
    simp [Frame.headRoom, List.take_take, size, sealed]
    omega
  simp only [wrap, h₁, h₂, h₃, orReject, bind, Except.bind]

theorem unwrap_sealed {f : Frame} {route : Addresses} {window : List UInt8}
    (h : f.window = sealed route window) :
    ∃ inner, unwrap f = .ok (route, inner) ∧ inner.window = window ∧ size ≤ inner.headRoom := by
  have long : ¬ f.length < size := by
    rw [Frame.length, h, length_sealed]
    omega
  have hash : f.peekU32 0 = .ok (Hash.gatewayHash (body route window)) := Frame.peekU32_append h
  have covered : f.window.drop 4 = body route window := by simp [h, sealed]
  obtain ⟨f₁, h₁, w₁, r₁⟩ := Frame.pullFront_append (Bytes.length_big 4 _) h
  rw [body, List.append_assoc] at w₁
  obtain ⟨f₂, h₂, w₂, r₂⟩ := Frame.pullU16_append w₁
  obtain ⟨f₃, h₃, w₃, r₃⟩ := Frame.pullU16_append w₂
  refine ⟨f₃, ?_, w₃, ?_⟩
  · simp only [unwrap, if_neg long, hash, covered, h₁, h₂, h₃, bind, Except.bind, ne_eq, not_true,
      if_false]
    rfl
  · simp only [size]
    omega

end Envelope

/-! ## Event frames -/

namespace EventFrame

/-- What the hash of an event frame covers. -/
def body (source dest : PortId) (event : UInt32) (payload : List UInt8) : List UInt8 :=
  Bytes.big 2 source.raw.toNat ++ (Bytes.big 2 dest.raw.toNat ++ (Bytes.big 4 event.toNat ++
    (Bytes.big 4 (UInt32.ofNat payload.length).toNat ++ payload)))

/-- An event on the wire. -/
def bytes (source dest : PortId) (event : UInt32) (payload : List UInt8) : List UInt8 :=
  Bytes.big 4 (Hash.eventHash (body source dest event payload)).toNat ++
    body source dest event payload

variable {source dest : PortId} {event : UInt32} {payload : List UInt8}

theorem encode_eq (h : payload.length < 0x100000000) : encode source dest event payload =
    .ok ⟨List.replicate 16 0, bytes source dest event payload, []⟩ := by
  have small : ¬ 0x100000000 ≤ payload.length := by omega
  have push {n : Nat} {field window : List UInt8} (hn : field.length ≤ n) :
      Frame.pushFront ⟨List.replicate n 0, window, []⟩ field =
        .ok ⟨List.replicate (n - field.length) 0, field ++ window, []⟩ := by
    rw [Frame.pushFront_eq (by simpa [Frame.headRoom] using hn)]
    simp [Frame.headRoom]
  simp only [encode, if_neg small, Frame.withHeadRoom, Frame.defaultHeadRoom, Frame.pushU32,
    Frame.pushU16, bind, Except.bind]
  rw [push (by simp)]
  simp only [Bytes.length_big]
  rw [push (by simp)]
  simp only [Bytes.length_big]
  rw [push (by simp)]
  simp only [Bytes.length_big]
  rw [push (by simp)]
  simp only [Bytes.length_big]
  rw [push (by simp)]
  simp [bytes, body]

theorem length_bytes (source dest : PortId) (event : UInt32) (payload : List UInt8) :
    (bytes source dest event payload).length = payload.length + headerSize := by
  simp [bytes, body, headerSize]
  omega

/-- The addresses of an event frame are found without a look at the rest of it. -/
theorem peek_bytes {f : Frame} (h : f.window = bytes source dest event payload) :
    Envelope.peek f = .ok ⟨source, dest⟩ := by
  have long : ¬ f.length < Envelope.size := by
    simp only [Frame.length, h, length_bytes, Envelope.size, headerSize]
    omega
  have h₁ : f.peekU16 4 = .ok source.raw :=
    Frame.peekU16_append (Bytes.length_big 4 _) (by rw [h, bytes, body, List.append_assoc])
  have h₂ : f.peekU16 6 = .ok dest.raw := by
    have before : (Bytes.big 4 (Hash.eventHash (body source dest event payload)).toNat ++
        Bytes.big 2 source.raw.toNat).length = 6 := by simp
    have split : f.window = (Bytes.big 4 (Hash.eventHash (body source dest event payload)).toNat ++
        Bytes.big 2 source.raw.toNat) ++ Bytes.big 2 dest.raw.toNat ++ (Bytes.big 4 event.toNat ++
          (Bytes.big 4 (UInt32.ofNat payload.length).toNat ++ payload)) := by
      rw [h, bytes, body]
      simp only [List.append_assoc]
    exact Frame.peekU16_append before split
  simp only [Envelope.peek, if_neg long, h₁, h₂, bind, Except.bind]
  rfl

theorem check_bytes {f : Frame} (h : f.window = bytes source dest event payload) :
    check f = .ok () := by
  have long : ¬ f.length < headerSize := by
    rw [Frame.length, h, length_bytes]
    omega
  have hash : f.peekU32 0 = .ok (Hash.eventHash (body source dest event payload)) :=
    Frame.peekU32_append h
  have covered : f.window.drop 4 = body source dest event payload := by simp [h, bytes]
  simp only [check, if_neg long, hash, covered, bind, Except.bind, ne_eq, not_true, if_false]
  rfl

theorem strip_bytes {f : Frame} (h : f.window = bytes source dest event payload) :
    ∃ rest, strip f = .ok (⟨source, dest, event, UInt32.ofNat payload.length⟩, rest) ∧
      rest.window = payload := by
  obtain ⟨f₁, h₁, w₁, -⟩ := Frame.pullFront_append (Bytes.length_big 4 _) h
  obtain ⟨f₂, h₂, w₂, -⟩ := Frame.pullU16_append w₁
  obtain ⟨f₃, h₃, w₃, -⟩ := Frame.pullU16_append w₂
  obtain ⟨f₄, h₄, w₄, -⟩ := Frame.pullU32_append w₃
  obtain ⟨f₅, h₅, w₅, -⟩ := Frame.pullU32_append w₄
  refine ⟨f₅, ?_, w₅⟩
  simp only [strip, h₁, h₂, h₃, h₄, h₅, bind, Except.bind]
  rfl

/-- What a header declares is the payload, the whole of it, and nothing else is left. -/
theorem decode_bytes {f : Frame} (hp : payload.length < 0x100000000)
    (h : f.window = bytes source dest event payload) :
    ∃ header rest, decode f = .ok (header, rest) ∧ header.source = source ∧ header.dest = dest ∧
      header.event = event ∧ header.length.toNat = payload.length ∧ rest.window = payload := by
  obtain ⟨rest, hs, hw⟩ := strip_bytes h
  have declared : (UInt32.ofNat payload.length).toNat = payload.length := by
    rw [UInt32.toNat_ofNat', Nat.mod_eq_of_lt hp]
  refine ⟨⟨source, dest, event, UInt32.ofNat payload.length⟩, rest, ?_, rfl, rfl, rfl, declared, hw⟩
  rw [decode, check_bytes h]
  simp only [hs, Frame.length, hw, declared]
  rw [if_neg (Nat.lt_irrefl _)]

/-- A frame decodes to an event: its header has the addresses and the event, and what the header
declares is the payload. -/
def Carries (source dest : PortId) (event : UInt32) (payload : List UInt8) (f : Frame) : Prop :=
  ∃ header rest, decode f = .ok (header, rest) ∧ header.source = source ∧ header.dest = dest ∧
    header.event = event ∧ EventFrame.payload header rest = payload

/-- Every frame with the bytes of an event carries it. -/
theorem carries_of_bytes {f : Frame} (hp : payload.length < 0x100000000)
    (h : f.window = bytes source dest event payload) : Carries source dest event payload f := by
  obtain ⟨header, rest, hd, hs, ht, he, declared, hw⟩ := decode_bytes hp h
  refine ⟨header, rest, hd, hs, ht, he, ?_⟩
  simp [EventFrame.payload, hw, declared]

end EventFrame

end FrameBus
