import FrameBus.Gateway.Forwarding
import FrameBus.Proofs.Frame.Corruption
import FrameBus.Proofs.Frame.Spans
import FrameBus.Proofs.Session.Handlers

/-!
# Which frames are accepted

The readers of both headers, for frames of any bytes whatever. An envelope is opened if its eight
bytes are there and its hash is that of the bytes behind the hash; an event frame is decoded if its
sixteen bytes are there, its hash is right, and it is as long as it declares (`unwrap_eq`,
`decode_eq`). Nothing else is looked at, so what is accepted is what the writer could have written:

    Envelope.wrap      of what was opened is the frame that was opened     (wrap_past)
    EventFrame.encode  of what was decoded has the bytes of the frame      (encode_past)

A refused frame is as it was, unless it declares too great a length, which is found once its header
is gone. In place, no reader looks at a byte outside of the window (`does_unwrap`, `does_decode`).
-/

namespace FrameBus

/-! ## Stored numbers -/

theorem Bytes.ofBig_lt (bytes : List UInt8) : ofBig bytes < Nat.pow 256 bytes.length := by
  have read := ofBig_big bytes.length (ofBig bytes)
  rw [big_ofBig] at read
  rw [read]
  exact Nat.mod_lt _ (Nat.pow_pos (by decide))

namespace Frame

variable {f : Frame} {i : Nat}

theorem two_span (h : i + 2 ≤ f.length) : f.span.two i = (f.u16 i).toNat := (toNat_u16 h).symm

theorem four_span (h : i + 4 ≤ f.length) : f.span.four i = (f.u32 i).toNat := (toNat_u32 h).symm

theorem big_u16 (h : i + 2 ≤ f.length) :
    Bytes.big 2 (f.u16 i).toNat = (f.window.drop i).take 2 := by
  have width : ((f.window.drop i).take 2).length = 2 := by simp [length] at h ⊢; omega
  have back := Bytes.big_ofBig ((f.window.drop i).take 2)
  have small := Bytes.ofBig_lt ((f.window.drop i).take 2)
  rw [width] at back small
  rwa [u16, UInt16.toNat_ofNat', Nat.mod_eq_of_lt small]

theorem big_u32 (h : i + 4 ≤ f.length) :
    Bytes.big 4 (f.u32 i).toNat = (f.window.drop i).take 4 := by
  have width : ((f.window.drop i).take 4).length = 4 := by simp [length] at h ⊢; omega
  have back := Bytes.big_ofBig ((f.window.drop i).take 4)
  have small := Bytes.ofBig_lt ((f.window.drop i).take 4)
  rw [width] at back small
  rwa [u32, UInt32.toNat_ofNat', Nat.mod_eq_of_lt small]

/-- A field and what is behind it. -/
theorem take_append_behind (f : Frame) (i n : Nat) :
    (f.window.drop i).take n ++ f.window.drop (i + n) = f.window.drop i := by
  rw [← List.drop_drop, List.take_append_drop]

end Frame

/-! ## Envelopes -/

namespace Envelope

/-- The addresses at their place in an envelope. -/
def stored (f : Frame) : Addresses := ⟨⟨f.u16 4⟩, ⟨f.u16 6⟩⟩

variable {f : Frame}

theorem unwrap_eq (f : Frame) : unwrap f =
    if f.length < size then .error (.malformed "frame shorter than envelope")
    else if f.u32 0 ≠ Hash.gatewayHash (f.window.drop 4) then
      .error (.integrity (f.u32 0) (Hash.gatewayHash (f.window.drop 4)))
    else .ok (stored f, f.past size) := by
  by_cases short : f.length < size
  · rw [unwrap_of_short short, if_pos short]
  · have long : 8 ≤ f.length := Nat.le_of_not_lt short
    rw [unwrap, if_neg short, if_neg short, Frame.peekU32_eq (by omega)]
    simp only [bind, Except.bind]
    split
    · rfl
    · rw [Frame.pullFront_eq (by omega)]
      simp only [Frame.pullU16_eq (f := f.past 4) (by simp; omega), Frame.past_past,
        Frame.pullU16_eq (f := f.past 6) (by simp; omega), Frame.u16_past]
      rfl

theorem body_stored (long : size ≤ f.length) :
    body (stored f) (f.window.drop size) = f.window.drop 4 := by
  simp only [size] at long
  rw [body, stored, Frame.big_u16 (by omega), Frame.big_u16 (by omega), List.append_assoc,
    size, f.take_append_behind 6 2, f.take_append_behind 4 2]

theorem sealed_stored (long : size ≤ f.length)
    (agrees : f.u32 0 = Hash.gatewayHash (f.window.drop 4)) :
    sealed (stored f) (f.window.drop size) = f.window := by
  rw [sealed, body_stored long, ← agrees, Frame.big_u32 (by simp only [size] at long; omega)]
  exact f.take_append_behind 0 4

/-- What was opened is put back in the envelope it was in, and where it was. -/
theorem wrap_past (long : size ≤ f.length)
    (agrees : f.u32 0 = Hash.gatewayHash (f.window.drop 4)) :
    wrap (f.past size) (stored f) = .ok f := by
  have room := Frame.headRoom_past long
  have head : (f.past size).head.take f.headRoom = f.head := List.take_left' rfl
  rw [wrap_eq (by omega), Frame.window_past, sealed_stored long agrees, room, Nat.add_sub_cancel,
    head]
  rfl

end Envelope

namespace Gateway

/-- Where a frame goes that was handed back for a reason: on to the next gateway, if it had no
target at all. -/
def onward? {κ : Type} (id : PortId) (r : Registry κ) (dest : PortId) : BusError → Option PortId
  | .unreachable _ => (hop? id dest).filter fun hop => (r.get? hop).isNone
  | _ => none

theorem relay_of_wrap {κ : Type} {id : PortId} {r : Registry κ} {route : Addresses} {why : Rejected}
    {datagram : Frame} (h : Envelope.wrap why.frame route = .ok datagram) :
    relay id r route why =
      (onward? id r route.dest why.error).elim .undeliverable fun hop => .leaves hop datagram := by
  obtain ⟨e, f⟩ := why
  cases e <;> try rfl
  simp only [relay, onward?, h]
  cases (hop? id route.dest).filter fun hop => (r.get? hop).isNone <;> rfl

end Gateway

/-- A frame that is handed back is the one that was sent. -/
theorem Registry.frame_of_returned {κ : Type} {r : Registry κ} {sender : Handle} {dest : PortId}
    {f : Frame} {why : Rejected} (h : r.send sender dest f = .returned why) : why.frame = f := by
  simp only [send, deliver] at h
  split at h
  · split at h <;> cases h
    rfl
  · cases h
    rfl

/-! ## Event frames -/

namespace EventFrame

/-- The header at its place in an event frame. -/
def stored (f : Frame) : EventHeader := ⟨⟨f.u16 4⟩, ⟨f.u16 6⟩, f.u32 8, f.u32 12⟩

variable {f : Frame}

theorem check_eq (f : Frame) : check f =
    if f.length < headerSize then .error (.malformed "frame shorter than event header")
    else if f.u32 0 ≠ Hash.eventHash (f.window.drop 4) then
      .error (.integrity (f.u32 0) (Hash.eventHash (f.window.drop 4)))
    else .ok () := by
  by_cases short : f.length < headerSize
  · rw [check_of_short short, if_pos short]
  · have long : 16 ≤ f.length := Nat.le_of_not_lt short
    rw [check, if_neg short, if_neg short, Frame.peekU32_eq (by omega)]
    rfl

theorem strip_eq (long : headerSize ≤ f.length) : strip f = .ok (stored f, f.past headerSize) := by
  simp only [headerSize] at long
  simp only [strip, bind, Except.bind, Frame.pullFront_eq (f := f) (n := 4) (by omega),
    Frame.pullU16_eq (f := f.past 4) (by simp; omega), Frame.past_past,
    Frame.pullU16_eq (f := f.past 6) (by simp; omega),
    Frame.pullU32_eq (f := f.past 8) (by simp; omega),
    Frame.pullU32_eq (f := f.past 12) (by simp; omega), Frame.u16_past, Frame.u32_past]
  rfl

theorem decode_eq (f : Frame) : decode f =
    if f.length < headerSize then .error ⟨.malformed "frame shorter than event header", f⟩
    else if f.u32 0 ≠ Hash.eventHash (f.window.drop 4) then
      .error ⟨.integrity (f.u32 0) (Hash.eventHash (f.window.drop 4)), f⟩
    else if f.length - headerSize < (f.u32 12).toNat then
      .error ⟨.malformed "event length exceeds frame", f.past headerSize⟩
    else .ok (stored f, f.past headerSize) := by
  rw [decode, check_eq]
  by_cases short : f.length < headerSize
  · rw [if_pos short, if_pos short]
  · rw [if_neg short, if_neg short]
    by_cases agrees : f.u32 0 ≠ Hash.eventHash (f.window.drop 4)
    · rw [if_pos agrees, if_pos agrees]
    · rw [if_neg agrees, if_neg agrees]
      simp only [strip_eq (Nat.le_of_not_lt short), Frame.length_past]
      rfl

theorem body_stored (long : headerSize ≤ f.length)
    (whole : (f.u32 12).toNat = (f.window.drop headerSize).length) :
    body (stored f).source (stored f).dest (stored f).event (f.window.drop headerSize) =
      f.window.drop 4 := by
  have declared : (UInt32.ofNat (f.window.drop headerSize).length).toNat = (f.u32 12).toNat := by
    rw [← whole, UInt32.ofNat_toNat]
  simp only [headerSize] at long
  rw [body, declared, stored, Frame.big_u16 (by omega), Frame.big_u16 (by omega),
    Frame.big_u32 (by omega), Frame.big_u32 (by omega), headerSize, f.take_append_behind 12 4,
    f.take_append_behind 8 4, f.take_append_behind 6 2, f.take_append_behind 4 2]

/-- What was decoded, if it was declared to be all there is, is encoded to the bytes it was in. -/
theorem encode_past (long : headerSize ≤ f.length)
    (agrees : f.u32 0 = Hash.eventHash (f.window.drop 4))
    (whole : (f.u32 12).toNat = f.length - headerSize) :
    encode (stored f).source (stored f).dest (stored f).event
      (payload (stored f) (f.past headerSize)) = .ok ⟨List.replicate 16 0, f.window, []⟩ := by
  have rest : (f.u32 12).toNat = (f.window.drop headerSize).length := by
    rw [whole, List.length_drop, Frame.length]
  have all : payload (stored f) (f.past headerSize) = f.window.drop headerSize :=
    List.take_of_length_le (Nat.le_of_eq rest.symm)
  have small : (f.window.drop headerSize).length < 0x100000000 := rest ▸ (f.u32 12).toNat_lt
  rw [all, encode_eq small, bytes, body_stored long rest, ← agrees,
    Frame.big_u32 (by simp only [headerSize] at long; omega), f.take_append_behind 0 4]
  rfl

/-- The addresses of an event frame are where those of an envelope are. -/
theorem peek_eq (long : headerSize ≤ f.length) :
    Envelope.peek f = .ok ⟨(stored f).source, (stored f).dest⟩ := by
  simp only [headerSize] at long
  rw [Envelope.peek, if_neg (by simp only [Envelope.size]; omega), Frame.peekU16_eq (by omega),
    Frame.peekU16_eq (by omega)]
  rfl

end EventFrame

/-! ## In place -/

namespace Buffer

/-- The bytes of the window behind the first ones. -/
def behind (n : Nat) : Act (List UInt8) :=
  look fun b => b.window?.bind fun window =>
    if n ≤ window.length then some (window.drop n) else none

/-- The first bytes of the window. -/
def first (n : Nat) : Act (List UInt8) :=
  look fun b => b.window?.bind fun window =>
    if n ≤ window.length then some (window.take n) else none

/-- Checks the length of a header, and the hash at its front. -/
def verify (size : Nat) (hash : List UInt8 → UInt32) (short : String) : Act Unit := do
  let length ← look length?
  if length < size then throw (.malformed short)
  else do
    let expected ← peekU32 0
    let covered ← behind 4
    if expected ≠ hash covered then throw (.integrity expected (hash covered)) else return ()

def wrap (route : Addresses) : Act Unit := do
  pushU16 route.dest.raw
  pushU16 route.source.raw
  let window ← look window?
  pushU32 (Hash.gatewayHash window)

def unwrap : Act Addresses := do
  verify Envelope.size Hash.gatewayHash "frame shorter than envelope"
  pullFront 4
  let source ← pullU16
  let dest ← pullU16
  return ⟨⟨source⟩, ⟨dest⟩⟩

def strip : Act EventHeader := do
  pullFront 4
  let source ← pullU16
  let dest ← pullU16
  let event ← pullU32
  let length ← pullU32
  return ⟨⟨source⟩, ⟨dest⟩, event, length⟩

def decode : Act EventHeader := do
  verify EventFrame.headerSize Hash.eventHash "frame shorter than event header"
  let header ← strip
  let length ← look length?
  if length < header.length.toNat then throw (.malformed "event length exceeds frame")
  else return header

/-- The header of an event frame and its payload. -/
def receive : Act (EventHeader × List UInt8) := do
  let header ← decode
  let payload ← first header.length.toNat
  return (header, payload)

section
variable {f : Frame} {n : Nat}

theorem pullFront_buffer (h : n ≤ f.length) :
    pullFront n f.buffer = some (.ok (), (f.past n).buffer) := by
  have did := does_pullFront f n
  rwa [Frame.pullFront_eq h] at did

theorem pullU16_buffer (h : 2 ≤ f.length) :
    pullU16 f.buffer = some (.ok (f.u16 0), (f.past 2).buffer) := by
  have did := does_pullU16 f
  rwa [Frame.pullU16_eq h] at did

theorem pullU32_buffer (h : 4 ≤ f.length) :
    pullU32 f.buffer = some (.ok (f.u32 0), (f.past 4).buffer) := by
  have did := does_pullU32 f
  rwa [Frame.pullU32_eq h] at did

theorem peekU32_buffer (h : 0 + 4 ≤ f.length) :
    peekU32 0 f.buffer = some (.ok (f.u32 0), f.buffer) := by
  have did : Does (peekU32 0) f (f.keeps ((f.peekU32 0).map (·, f))) :=
    does_peekU32 fun _ => by decide
  rwa [Frame.peekU32_eq h] at did

theorem behind_buffer (h : n ≤ f.length) :
    behind n f.buffer = some (.ok (f.window.drop n), f.buffer) := by
  refine look_apply ?_
  rw [f.window?_buffer, Option.bind_some]
  exact if_pos h

theorem first_buffer (h : n ≤ f.length) :
    first n f.buffer = some (.ok (f.window.take n), f.buffer) := by
  refine look_apply ?_
  rw [f.window?_buffer, Option.bind_some]
  exact if_pos h

theorem verify_buffer (f : Frame) {size : Nat} (four : 4 ≤ size)
    (hash : List UInt8 → UInt32) (short : String) :
    verify size hash short f.buffer = some
      (if f.length < size then .error (.malformed short)
        else if f.u32 0 ≠ hash (f.window.drop 4) then
          .error (.integrity (f.u32 0) (hash (f.window.drop 4)))
        else .ok (), f.buffer) := by
  refine (bind_ok (look_apply f.length?_buffer)).trans ?_
  by_cases long : f.length < size
  · rw [if_pos long, if_pos long]
    rfl
  · rw [if_neg long, if_neg long]
    refine (bind_ok (peekU32_buffer (by omega))).trans ?_
    refine (bind_ok (behind_buffer (by omega))).trans ?_
    by_cases disagree : f.u32 0 ≠ hash (f.window.drop 4)
    · rw [if_pos disagree, if_pos disagree]
      rfl
    · rw [if_neg disagree, if_neg disagree]
      rfl

theorem does_unwrap (f : Frame) :
    Does unwrap f (f.keeps (Envelope.unwrap f)) := by
  have verified := verify_buffer f (by decide : 4 ≤ Envelope.size) Hash.gatewayHash
    "frame shorter than envelope"
  rw [Envelope.unwrap_eq]
  by_cases short : f.length < Envelope.size
  · rw [if_pos short] at verified ⊢
    exact bind_error verified
  · rw [if_neg short] at verified ⊢
    by_cases disagree : f.u32 0 ≠ Hash.gatewayHash (f.window.drop 4)
    · rw [if_pos disagree] at verified ⊢
      exact bind_error verified
    · rw [if_neg disagree] at verified ⊢
      have long : 8 ≤ f.length := Nat.le_of_not_lt short
      have source := pullU16_buffer (f := f.past 4) (by simp; omega)
      have dest := pullU16_buffer (f := f.past 6) (by simp; omega)
      rw [Frame.past_past, Frame.u16_past] at source dest
      exact (bind_ok verified).trans ((bind_ok (pullFront_buffer (by omega))).trans
        ((bind_ok source).trans (bind_ok dest)))

/-- A field is written, and the rest goes on from there. -/
theorem does_field {act next : Act Unit} {f : Frame} {r : Except BusError Frame}
    {after : Frame → Except Rejected Frame} (h : Does act f (f.keeps (r.map ((), ·))))
    (then' : ∀ g, Does next g ((after g).map ((), ·))) :
    Does (do act; next) f ((Envelope.orReject f r >>= after).map ((), ·)) := by
  cases r with
  | error e => exact bind_error h
  | ok g =>
    have did := then' g
    show Does (do act; next) f ((after g).map ((), ·))
    cases hr : after g with
    | error why =>
      rw [hr] at did
      exact (bind_ok h).trans did
    | ok k =>
      rw [hr] at did
      exact (bind_ok h).trans did

theorem does_wrap (f : Frame) (route : Addresses) :
    Does (wrap route) f ((Envelope.wrap f route).map ((), ·)) := by
  refine does_field (does_pushFront f _) fun g => does_field (does_pushFront g _) fun k => ?_
  have hashed := does_pushFront k (Bytes.big 4 (Hash.gatewayHash k.window).toNat)
  have looked := look_apply k.window?_buffer
  rw [Frame.pushU32]
  cases hp : k.pushFront (Bytes.big 4 (Hash.gatewayHash k.window).toNat) with
  | error e =>
    rw [hp] at hashed
    exact (bind_ok looked).trans hashed
  | ok l =>
    rw [hp] at hashed
    exact (bind_ok looked).trans hashed

theorem strip_buffer (long : EventFrame.headerSize ≤ f.length) :
    strip f.buffer = some (.ok (EventFrame.stored f), (f.past EventFrame.headerSize).buffer) := by
  simp only [EventFrame.headerSize] at long
  have source := pullU16_buffer (f := f.past 4) (by simp; omega)
  have dest := pullU16_buffer (f := f.past 6) (by simp; omega)
  have event := pullU32_buffer (f := f.past 8) (by simp; omega)
  have length := pullU32_buffer (f := f.past 12) (by simp; omega)
  rw [Frame.past_past, Frame.u16_past] at source dest
  rw [Frame.past_past, Frame.u32_past] at event length
  exact (bind_ok (pullFront_buffer (by omega))).trans ((bind_ok source).trans
    ((bind_ok dest).trans ((bind_ok event).trans (bind_ok length))))

theorem does_decode (f : Frame) : Does decode f (EventFrame.decode f) := by
  have verified := verify_buffer f (by decide : 4 ≤ EventFrame.headerSize) Hash.eventHash
    "frame shorter than event header"
  rw [EventFrame.decode_eq]
  by_cases short : f.length < EventFrame.headerSize
  · rw [if_pos short] at verified ⊢
    exact bind_error verified
  · rw [if_neg short] at verified ⊢
    by_cases disagree : f.u32 0 ≠ Hash.eventHash (f.window.drop 4)
    · rw [if_pos disagree] at verified ⊢
      exact bind_error verified
    · rw [if_neg disagree] at verified ⊢
      have stripped := strip_buffer (Nat.le_of_not_lt short)
      have looked := look_apply (f.past EventFrame.headerSize).length?_buffer
      rw [Frame.length_past] at looked
      by_cases long : f.length - EventFrame.headerSize < (EventFrame.stored f).length.toNat
      · rw [if_pos (show _ < (f.u32 12).toNat from long)]
        refine (bind_ok verified).trans ((bind_ok stripped).trans ((bind_ok looked).trans ?_))
        rw [if_pos long]
        rfl
      · rw [if_neg (show ¬ _ < (f.u32 12).toNat from long)]
        refine (bind_ok verified).trans ((bind_ok stripped).trans ((bind_ok looked).trans ?_))
        rw [if_neg long]
        rfl

theorem does_receive (f : Frame) : Does receive f
    ((EventFrame.decode f).map fun p => ((p.1, EventFrame.payload p.1 p.2), p.2)) := by
  have decoded := does_decode f
  cases hd : EventFrame.decode f with
  | error why =>
    rw [hd] at decoded
    exact bind_error decoded
  | ok p =>
    obtain ⟨header, rest⟩ := p
    obtain ⟨-, inside⟩ := EventFrame.window_of_decode hd
    rw [hd] at decoded
    exact (bind_ok decoded).trans (bind_ok (first_buffer inside))

end

end Buffer

/-! ## What is accepted -/

namespace Envelope

/-- The first four bytes are the hash of the bytes behind them, and the addresses are there. -/
def Sealed (f : Frame) : Prop :=
  size ≤ f.length ∧ f.span.four 0 = (Hash.gatewayHash (f.window.drop 4)).toNat

/-- What opening a frame gives: the addresses that it has, and the frame behind its envelope. -/
structure Opened (f : Frame) (route : Addresses) (inner : Frame) : Prop where
  source : route.source.raw.toNat = f.span.two 4
  dest : route.dest.raw.toNat = f.span.two 6
  window : inner.window = f.window.drop size
  /-- the bytes stay where they are -/
  buffer : inner.buffer = { f.buffer with data := f.buffer.data + size }
  again : wrap inner route = .ok f
  /-- a frame that no port took goes on as it came, or not at all -/
  onward : ∀ {κ : Type} (id : PortId) (r : Registry κ) (port : Handle) (why : Rejected),
    r.send port route.dest inner = .returned why → Gateway.relay id r route why =
      (Gateway.onward? id r route.dest why.error).elim .undeliverable fun hop => .leaves hop f

variable {f : Frame}

theorem sealed_iff (long : size ≤ f.length) :
    Sealed f ↔ f.u32 0 = Hash.gatewayHash (f.window.drop 4) := by
  have four : 0 + 4 ≤ f.length := by simp only [size] at long; omega
  rw [Sealed, Frame.four_span four, UInt32.toNat_inj]
  exact ⟨And.right, fun agrees => ⟨long, agrees⟩⟩

theorem unwrap_of_sealed (h : Sealed f) : unwrap f = .ok (stored f, f.past size) := by
  have agrees := (sealed_iff h.1).1 h
  rw [unwrap_eq, if_neg (Nat.not_lt.2 h.1), if_neg fun ne => ne agrees]

theorem unwrap_of_not_sealed (long : size ≤ f.length) (h : ¬ Sealed f) :
    unwrap f = .error (.integrity (f.u32 0) (Hash.gatewayHash (f.window.drop 4))) := by
  rw [sealed_iff long] at h
  rw [unwrap_eq, if_neg (Nat.not_lt.2 long), if_pos h]

theorem opened_of_sealed (h : Sealed f) : Opened f (stored f) (f.past size) := by
  have eight : 8 ≤ f.length := h.1
  have wrapped := wrap_past h.1 ((sealed_iff h.1).1 h)
  exact {
    source := (Frame.two_span (by omega)).symm
    dest := (Frame.two_span (by omega)).symm
    window := rfl
    buffer := (f.advance_buffer h.1).symm
    again := wrapped
    onward := by
      intro κ id r port why sent
      refine Gateway.relay_of_wrap ?_
      rwa [Registry.frame_of_returned sent] }

theorem unwrap_eq_ok_iff {route : Addresses} {inner : Frame} :
    unwrap f = .ok (route, inner) ↔ Sealed f ∧ route = stored f ∧ inner = f.past size := by
  by_cases short : f.length < size
  · rw [unwrap_of_short short]
    constructor
    · intro h
      cases h
    · rintro ⟨accepted, -⟩
      exact absurd accepted.1 (Nat.not_le.2 short)
  · by_cases h : Sealed f
    · rw [unwrap_of_sealed h]
      simp [h, eq_comm]
    · rw [unwrap_of_not_sealed (Nat.le_of_not_lt short) h]
      simp [h]

theorem unwrap_eq_error_iff {e : BusError} : unwrap f = .error e ↔
    f.length < size ∧ e = .malformed "frame shorter than envelope" ∨
    size ≤ f.length ∧ ¬ Sealed f ∧ ∃ expected, expected.toNat = f.span.four 0 ∧
      e = .integrity expected (Hash.gatewayHash (f.window.drop 4)) := by
  by_cases short : f.length < size
  · rw [unwrap_of_short short]
    simp [short, Nat.not_le.2 short, eq_comm]
  · have long := Nat.le_of_not_lt short
    have stored : (f.u32 0).toNat = f.span.four 0 :=
      (Frame.four_span (by simp only [size] at long; omega)).symm
    by_cases h : Sealed f
    · rw [unwrap_of_sealed h]
      simp [h, short]
    · rw [unwrap_of_not_sealed long h]
      simp only [short, long, h, false_and, false_or, not_false_eq_true, true_and, ← stored,
        UInt32.toNat_inj, exists_eq_left, Except.error.injEq, eq_comm]

/-- A frame is opened if it is sealed, and only then. Put back in the envelope it is the frame that
it was. Otherwise it is refused, too short or with the wrong hash, and stays as it is. All of it is
done in place, and no index is outside of the window. -/
theorem opens_sealed (f : Frame) :
    ((∃ route inner, unwrap f = .ok (route, inner)) ↔ Sealed f) ∧
    (∀ route inner, unwrap f = .ok (route, inner) → Opened f route inner) ∧
    (∀ e, unwrap f = .error e ↔
      f.length < size ∧ e = .malformed "frame shorter than envelope" ∨
      size ≤ f.length ∧ ¬ Sealed f ∧ ∃ expected, expected.toNat = f.span.four 0 ∧
        e = .integrity expected (Hash.gatewayHash (f.window.drop 4))) ∧
    Buffer.Does Buffer.unwrap f (f.keeps (unwrap f)) ∧
    (∀ route inner, unwrap f = .ok (route, inner) →
      Buffer.wrap route inner.buffer = some (.ok (), f.buffer)) := by
  have opened (route : Addresses) (inner : Frame) (h : unwrap f = .ok (route, inner)) :
      Opened f route inner := by
    obtain ⟨accepted, rfl, rfl⟩ := unwrap_eq_ok_iff.1 h
    exact opened_of_sealed accepted
  refine ⟨⟨?_, ?_⟩, opened, fun e => unwrap_eq_error_iff, Buffer.does_unwrap f, ?_⟩
  · rintro ⟨route, inner, h⟩
    exact (unwrap_eq_ok_iff.1 h).1
  · exact fun h => ⟨_, _, unwrap_of_sealed h⟩
  · intro route inner h
    have wrapped := Buffer.does_wrap inner route
    rwa [(opened route inner h).again] at wrapped

end Envelope

namespace EventFrame

/-- The header is there, its hash is that of the bytes behind it, and so are as many bytes as it
declares. -/
structure WellFormed (f : Frame) : Prop where
  long : headerSize ≤ f.length
  agrees : f.span.four 0 = (Hash.eventHash (f.window.drop 4)).toNat
  declared : f.span.four 12 ≤ f.length - headerSize

/-- What decoding a frame gives: the header that it has, which the other readers of the frame find
too, and the frame behind it. -/
structure Decoded (f : Frame) (header : EventHeader) (rest : Frame) : Prop where
  source : header.source.raw.toNat = f.span.two 4
  dest : header.dest.raw.toNat = f.span.two 6
  event : header.event.toNat = f.span.four 8
  length : header.length.toNat = f.span.four 12
  window : rest.window = f.window.drop headerSize
  peeked : Envelope.peek f = .ok ⟨header.source, header.dest⟩
  /-- the payload is as long as declared, so it is all in the window -/
  inside : (payload header rest).length = header.length.toNat ∧
    payload header rest <+: rest.window
  dispatched : ∀ {η : Type} (t : EventTable η), t.dispatch f = (t.handler? header.event).map
    fun k => (k, ⟨header.source, header.event, payload header rest⟩)
  /-- without bytes behind the payload, the bytes are those that the writer writes -/
  canonical : header.length.toNat = f.length - headerSize → ∃ g,
    encode header.source header.dest header.event (payload header rest) = .ok g ∧
      g.window = f.window

variable {f : Frame}

theorem wellFormed_iff (long : headerSize ≤ f.length) : WellFormed f ↔
    f.u32 0 = Hash.eventHash (f.window.drop 4) ∧ (f.u32 12).toNat ≤ f.length - headerSize := by
  have sixteen : 16 ≤ f.length := long
  have first : f.span.four 0 = (f.u32 0).toNat := Frame.four_span (by omega)
  have last : f.span.four 12 = (f.u32 12).toNat := Frame.four_span (by omega)
  constructor
  · rintro ⟨-, agrees, declared⟩
    rw [first, UInt32.toNat_inj] at agrees
    exact ⟨agrees, last ▸ declared⟩
  · rintro ⟨agrees, declared⟩
    exact ⟨long, by rw [first, agrees], last ▸ declared⟩

theorem decode_of_wellFormed (h : WellFormed f) : decode f = .ok (stored f, f.past headerSize) := by
  obtain ⟨agrees, declared⟩ := (wellFormed_iff h.long).1 h
  rw [decode_eq, if_neg (Nat.not_lt.2 h.long), if_neg fun ne => ne agrees,
    if_neg (Nat.not_lt.2 declared)]

theorem decode_eq_ok_iff {header : EventHeader} {rest : Frame} : decode f = .ok (header, rest) ↔
    WellFormed f ∧ header = stored f ∧ rest = f.past headerSize := by
  by_cases h : WellFormed f
  · rw [decode_of_wellFormed h]
    simp [h, eq_comm]
  · suffices refused : ∃ why, decode f = .error why by
      obtain ⟨why, refused⟩ := refused
      rw [refused]
      simp [h]
    rw [decode_eq]
    split
    · exact ⟨_, rfl⟩
    · next short =>
      rw [wellFormed_iff (Nat.le_of_not_lt short)] at h
      split
      · exact ⟨_, rfl⟩
      · next agrees =>
        rw [if_pos (Nat.lt_of_not_le fun declared => h ⟨not_not.1 agrees, declared⟩)]
        exact ⟨_, rfl⟩

theorem decoded_of_wellFormed (h : WellFormed f) : Decoded f (stored f) (f.past headerSize) := by
  have sixteen : 16 ≤ f.length := h.long
  obtain ⟨agrees, declared⟩ := (wellFormed_iff h.long).1 h
  have decoded := decode_of_wellFormed h
  exact {
    source := (Frame.two_span (by omega)).symm
    dest := (Frame.two_span (by omega)).symm
    event := (Frame.four_span (by omega)).symm
    length := (Frame.four_span (by omega)).symm
    window := rfl
    peeked := peek_eq h.long
    inside := by
      refine ⟨List.length_take_of_le ?_, List.take_prefix _ _⟩
      rw [Frame.window_past, List.length_drop]
      exact declared
    dispatched := fun t => by rw [EventTable.dispatch, decoded]
    canonical := fun whole => ⟨_, encode_past h.long agrees whole, rfl⟩ }

/-- Why a frame is refused, and what is left of it. -/
inductive Refused (f : Frame) : Rejected → Prop
  | short : f.length < headerSize → Refused f ⟨.malformed "frame shorter than event header", f⟩
  | disagrees (expected : UInt32) : headerSize ≤ f.length → expected.toNat = f.span.four 0 →
      expected ≠ Hash.eventHash (f.window.drop 4) →
      Refused f ⟨.integrity expected (Hash.eventHash (f.window.drop 4)), f⟩
  | exceeds (rest : Frame) : headerSize ≤ f.length →
      f.span.four 0 = (Hash.eventHash (f.window.drop 4)).toNat →
      f.length - headerSize < f.span.four 12 →
      rest.buffer = { f.buffer with data := f.buffer.data + headerSize } →
      Refused f ⟨.malformed "event length exceeds frame", rest⟩

theorem refused_of_decode {why : Rejected} (h : decode f = .error why) : Refused f why := by
  rw [decode_eq] at h
  by_cases short : f.length < headerSize
  · rw [if_pos short] at h
    cases h
    exact .short short
  · have long : 16 ≤ f.length := Nat.le_of_not_lt short
    have first : f.span.four 0 = (f.u32 0).toNat := Frame.four_span (by omega)
    have last : f.span.four 12 = (f.u32 12).toNat := Frame.four_span (by omega)
    rw [if_neg short] at h
    by_cases disagree : f.u32 0 ≠ Hash.eventHash (f.window.drop 4)
    · rw [if_pos disagree] at h
      cases h
      exact .disagrees _ long first.symm disagree
    · rw [if_neg disagree] at h
      by_cases excess : f.length - headerSize < (f.u32 12).toNat
      · rw [if_pos excess] at h
        cases h
        exact .exceeds _ long (by rw [first, not_not.1 disagree]) (last ▸ excess)
          (f.advance_buffer long).symm
      · rw [if_neg excess] at h
        cases h

/-- A frame is decoded if it is well formed, and only then; the other readers agree with that, and
the writer would have written the same bytes. Otherwise it is refused, for the first reason there
is: too short, the wrong hash, or too great a length, which is found once the header is gone. All
of it is done in place, the payload included, and no index is outside of the window. -/
theorem decodes_well_formed (f : Frame) :
    ((∃ header rest, decode f = .ok (header, rest)) ↔ WellFormed f) ∧
    (∀ header rest, decode f = .ok (header, rest) → Decoded f header rest) ∧
    (∀ why, decode f = .error why → Refused f why) ∧
    Buffer.Does Buffer.receive f ((decode f).map fun p => ((p.1, payload p.1 p.2), p.2)) := by
  refine ⟨⟨?_, ?_⟩, ?_, fun why h => refused_of_decode h, Buffer.does_receive f⟩
  · rintro ⟨header, rest, h⟩
    exact (decode_eq_ok_iff.1 h).1
  · exact fun h => ⟨_, _, decode_of_wellFormed h⟩
  · intro header rest h
    obtain ⟨accepted, rfl, rfl⟩ := decode_eq_ok_iff.1 h
    exact decoded_of_wellFormed accepted

end EventFrame

end FrameBus
