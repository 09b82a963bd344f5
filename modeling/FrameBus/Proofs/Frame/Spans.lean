import FrameBus.Proofs.Frame.Buffer
import FrameBus.Proofs.Frame.Wire
import Mathlib.Data.List.Basic

/-!
# Frames as lists with room at both ends

What a caller can tell of a frame is a list of bytes and how much room there is around it: a
`Span`. Every call takes its bytes from the list or from the room in front. One that needs more than
there is fails, says so, and changes nothing (`perform_of_lt`); any other does to the span what the
list says (`perform_of_le`).

A course is any number of calls on any number of frames: some are made, some are copies of others.
It goes the same way for frames, for spans, and in place in buffers (`refines_lists`). What is
written in front field by field, the last field first, is read again in order (`run_fields`).
-/

namespace FrameBus

/-- A list of bytes with room at both ends. -/
structure Span where
  room : Nat
  window : List UInt8
  back : Nat
deriving DecidableEq, Repr

namespace Span

/-- What can be called on a frame. -/
inductive Call where
  | overwrite (bytes : List UInt8)
  | pushFront (bytes : List UInt8)
  | pushU16 (n : UInt16)
  | pushU32 (n : UInt32)
  | pullFront (n : Nat)
  | pullU16
  | pullU32
  | peekU16 (offset : Nat)
  | peekU32 (offset : Nat)
  /-- one byte of the window is written -/
  | put (i : Nat) (byte : UInt8)
deriving DecidableEq, Repr

inductive Answer where
  | done
  | number (n : Nat)
  /-- there is no such byte, or no such frame -/
  | missing
deriving DecidableEq, Repr

abbrev Reply := Except BusError Answer

namespace Call

/-- How many bytes a call needs. -/
def need : Call → Nat
  | overwrite bytes => bytes.length
  | pushFront bytes => bytes.length
  | pushU16 _ => 2
  | pushU32 _ => 4
  | pullFront n => n
  | pullU16 => 2
  | pullU32 => 4
  | peekU16 offset => offset + 2
  | peekU32 offset => offset + 4
  | put _ _ => 0

/-- The need that a failure names. -/
def named : Call → Nat
  | peekU16 offset => min (offset + 2) Frame.sizeLimit
  | peekU32 offset => min (offset + 4) Frame.sizeLimit
  | c => c.need

end Call

/-! ## Lists -/

/-- The bytes that a call can have. -/
def space (s : Span) : Call → Nat
  | .pushFront _ | .pushU16 _ | .pushU32 _ => s.room
  | _ => s.window.length

/-- A byte of the window as a number. -/
def digit (s : Span) (i : Nat) : Nat := (s.window.getD i 0).toNat

/-- Two bytes, the high one first. -/
def two (s : Span) (i : Nat) : Nat := 256 * s.digit i + s.digit (i + 1)

def four (s : Span) (i : Nat) : Nat :=
  256 * (256 * (256 * s.digit i + s.digit (i + 1)) + s.digit (i + 2)) + s.digit (i + 3)

def answer (s : Span) : Call → Answer
  | .pullU16 => .number (s.two 0)
  | .pullU32 => .number (s.four 0)
  | .peekU16 offset => .number (s.two offset)
  | .peekU32 offset => .number (s.four offset)
  | .put i _ => if i < s.window.length then .done else .missing
  | _ => .done

def prepend (s : Span) (bytes : List UInt8) : Span :=
  { s with room := s.room - bytes.length, window := bytes ++ s.window }

def shed (s : Span) (n : Nat) : Span := { s with room := s.room + n, window := s.window.drop n }

/-- The lowest byte of a number. -/
def low (n : Nat) : UInt8 := UInt8.ofNat (n % 256)

def effect (s : Span) : Call → Span
  | .overwrite bytes => { s with window := bytes ++ s.window.drop bytes.length }
  | .pushFront bytes => s.prepend bytes
  | .pushU16 n => s.prepend [low (n.toNat / 256), low n.toNat]
  | .pushU32 n => s.prepend
      [low (n.toNat / 16777216), low (n.toNat / 65536), low (n.toNat / 256), low n.toNat]
  | .pullFront n => s.shed n
  | .pullU16 => s.shed 2
  | .pullU32 => s.shed 4
  | .peekU16 _ | .peekU32 _ => s
  | .put i byte => { s with window := s.window.set i byte }

def perform (s : Span) (c : Call) : Reply × Span :=
  if s.space c < c.need then (.error (.noSpace c.named (s.space c)), s)
  else (.ok (s.answer c), s.effect c)

def size (s : Span) : Nat := s.room + s.window.length + s.back

theorem low_two (n : Nat) : Bytes.big 2 n = [low (n / 256), low n] := rfl

theorem low_four (n : Nat) :
    Bytes.big 4 n = [low (n / 16777216), low (n / 65536), low (n / 256), low n] := by
  simp [Bytes.big, low, Nat.div_div_eq_div_mul]

/-- No call makes a span longer or shorter, or moves its end. -/
theorem size_effect {s : Span} {c : Call} (h : c.need ≤ s.space c) :
    (s.effect c).size = s.size ∧ (s.effect c).back = s.back := by
  cases c <;> simp [Call.need, space, effect, size, prepend, shed] at h ⊢ <;> omega

end Span

/-! ## Frames -/

namespace Frame

open FrameBus.Span (Call Answer Reply)

def span (f : Frame) : Span := ⟨f.headRoom, f.window, f.tailRoom⟩

/-- A call that answers nothing but that it is done. -/
def done (f : Frame) (r : Except BusError Frame) : Except Rejected (Answer × Frame) :=
  (f.keeps (r.map ((), ·))).map fun p => (.done, p.2)

/-- A call that answers a number. -/
def number {α : Type} (f : Frame) (toNat : α → Nat) (r : Except BusError (α × Frame)) :
    Except Rejected (Answer × Frame) :=
  (f.keeps r).map fun p => (.number (toNat p.1), p.2)

/-- A call with its answer, and the frame that it leaves. -/
def perform (f : Frame) : Call → Except Rejected (Answer × Frame)
  | .overwrite bytes => f.done (f.overwrite bytes)
  | .pushFront bytes => f.done (f.pushFront bytes)
  | .pushU16 n => f.done (f.pushU16 n)
  | .pushU32 n => f.done (f.pushU32 n)
  | .pullFront n => f.done (f.pullFront n)
  | .pullU16 => f.number UInt16.toNat f.pullU16
  | .pullU32 => f.number UInt32.toNat f.pullU32
  | .peekU16 offset => f.number UInt16.toNat ((f.peekU16 offset).map (·, f))
  | .peekU32 offset => f.number UInt32.toNat ((f.peekU32 offset).map (·, f))
  | .put i byte =>
    match f.modify? i fun _ => byte with
    | some g => .ok (.done, g)
    | none => .ok (.missing, f)

section
variable {f : Frame} {bytes : List UInt8} {n : Nat} {c : Call}

theorem overwrite_of_short (h : f.length < bytes.length) :
    f.overwrite bytes = .error (.noSpace bytes.length f.length) := if_pos h

theorem pushFront_of_short (h : f.headRoom < bytes.length) :
    f.pushFront bytes = .error (.noSpace bytes.length f.headRoom) := if_pos h

/-- A call that needs more than there is fails, with the need and the space, and changes nothing. -/
theorem perform_of_lt (h : f.span.space c < c.need) :
    f.perform c = .error ⟨.noSpace c.named (f.span.space c), f⟩ := by
  cases c with
  | overwrite bytes => exact congrArg f.done (overwrite_of_short h)
  | pushFront bytes => exact congrArg f.done (pushFront_of_short h)
  | pushU16 n =>
    have short : f.headRoom < (Bytes.big 2 n.toNat).length := h
    exact congrArg f.done (pushFront_of_short short)
  | pushU32 n =>
    have short : f.headRoom < (Bytes.big 4 n.toNat).length := h
    exact congrArg f.done (pushFront_of_short short)
  | pullFront n => exact congrArg f.done (pullFront_of_short h)
  | pullU16 => exact congrArg (f.number _) (pullU16_of_short h)
  | pullU32 => exact congrArg (f.number _) (pullU32_of_short h)
  | peekU16 offset =>
    rw [perform, peekU16_of_short h]
    rfl
  | peekU32 offset =>
    rw [perform, peekU32_of_short h]
    rfl
  | put i byte => exact absurd h (Nat.not_lt_zero _)

theorem span_pushFront (h : bytes.length ≤ f.headRoom) :
    ∃ g, f.pushFront bytes = .ok g ∧ g.span = f.span.prepend bytes := by
  refine ⟨_, if_neg (Nat.not_lt.2 h), ?_⟩
  simp [span, Span.prepend, headRoom, tailRoom] at h ⊢

theorem span_past (h : n ≤ f.length) : (f.past n).span = f.span.shed n := by
  rw [span, headRoom_past h]
  rfl

theorem perform_of_le (h : c.need ≤ f.span.space c) :
    ∃ g, f.perform c = .ok (f.span.answer c, g) ∧ g.span = f.span.effect c := by
  have done {r : Except BusError Frame} {s : Span} (h : ∃ g, r = .ok g ∧ g.span = s) :
      ∃ g, f.done r = .ok (.done, g) ∧ g.span = s := by
    obtain ⟨g, rfl, same⟩ := h
    exact ⟨g, rfl, same⟩
  cases c with
  | overwrite bytes => exact done ⟨_, if_neg (Nat.not_lt.2 h), rfl⟩
  | pushFront bytes => exact done (span_pushFront h)
  | pushU16 n =>
    rw [Span.effect, ← Span.low_two]
    exact done (span_pushFront h)
  | pushU32 n =>
    rw [Span.effect, ← Span.low_four]
    exact done (span_pushFront h)
  | pullFront n => exact done ⟨_, pullFront_eq h, span_past h⟩
  | pullU16 =>
    have value : (f.u16 0).toNat = f.span.two 0 := toNat_u16 h
    refine ⟨f.past 2, ?_, span_past h⟩
    rw [perform, pullU16_eq h, Span.answer, ← value]
    rfl
  | pullU32 =>
    have value : (f.u32 0).toNat = f.span.four 0 := toNat_u32 h
    refine ⟨f.past 4, ?_, span_past h⟩
    rw [perform, pullU32_eq h, Span.answer, ← value]
    rfl
  | peekU16 offset =>
    have value : (f.u16 offset).toNat = f.span.two offset := toNat_u16 h
    refine ⟨f, ?_, rfl⟩
    rw [perform, peekU16_eq h, Span.answer, ← value]
    rfl
  | peekU32 offset =>
    have value : (f.u32 offset).toNat = f.span.four offset := toNat_u32 h
    refine ⟨f, ?_, rfl⟩
    rw [perform, peekU32_eq h, Span.answer, ← value]
    rfl
  | put i byte =>
    by_cases inside : i < f.length
    · have changed : f.modify? i (fun _ => byte) =
          some { f with window := f.window.set i byte } := by
        rw [modify?, if_pos inside, List.set_eq_modify]
      have answered : f.span.answer (.put i byte) = .done := if_pos inside
      refine ⟨{ f with window := f.window.set i byte }, ?_, rfl⟩
      rw [perform, changed, answered]
    · have unchanged : f.modify? i (fun _ => byte) = none := if_neg inside
      have answered : f.span.answer (.put i byte) = .missing := if_neg inside
      have same : f.span.window.set i byte = f.span.window :=
        List.set_eq_of_length_le (Nat.le_of_not_lt inside)
      refine ⟨f, ?_, ?_⟩
      · rw [perform, unchanged, answered]
      · rw [Span.effect, same]

theorem perform_eq_error_iff (f : Frame) (c : Call) (e : BusError) (g : Frame) :
    f.perform c = .error ⟨e, g⟩ ↔
      f.span.space c < c.need ∧ e = .noSpace c.named (f.span.space c) ∧ g = f := by
  by_cases h : f.span.space c < c.need
  · rw [perform_of_lt h]
    simp [h, eq_comm]
  · obtain ⟨g', performed, -⟩ := perform_of_le (Nat.le_of_not_lt h)
    rw [performed]
    simp [h]

end

end Frame

/-! ## Buffers -/

namespace Buffer

open FrameBus.Span (Call Answer)

def perform : Call → Act Answer
  | .overwrite bytes => do overwrite bytes; return .done
  | .pushFront bytes => do pushFront bytes; return .done
  | .pushU16 n => do pushU16 n; return .done
  | .pushU32 n => do pushU32 n; return .done
  | .pullFront n => do pullFront n; return .done
  | .pullU16 => do let n ← pullU16; return .number n.toNat
  | .pullU32 => do let n ← pullU32; return .number n.toNat
  | .peekU16 offset => do let n ← peekU16 offset; return .number n.toNat
  | .peekU32 offset => do let n ← peekU32 offset; return .number n.toNat
  | .put i byte => do let inside ← put i byte; return if inside then .done else .missing

theorem does_perform {f : Frame} (hf : f.length ≤ Frame.sizeLimit) (c : Call) :
    Does (perform c) f (f.perform c) := by
  cases c with
  | overwrite bytes => exact (does_overwrite f bytes).map _
  | pushFront bytes => exact (does_pushFront f bytes).map _
  | pushU16 n => exact (does_pushFront f _).map _
  | pushU32 n => exact (does_pushFront f _).map _
  | pullFront n => exact (does_pullFront f n).map _
  | pullU16 => exact (does_pullU16 f).map _
  | pullU32 => exact (does_pullU32 f).map _
  | peekU16 offset => exact (does_peekU16 fun inside => Nat.le_trans inside hf).map _
  | peekU32 offset => exact (does_peekU32 fun inside => Nat.le_trans inside hf).map _
  | put i byte =>
    have did := (does_put f i byte).map fun inside => if inside then Answer.done else .missing
    rw [Frame.perform]
    cases h : f.modify? i fun _ => byte with
    | none => rw [h] at did; exact did
    | some g => rw [h] at did; exact did

end Buffer

/-! ## Shelves -/

namespace Shelf

open FrameBus.Span (Call Answer Reply)

/-- How a frame is made. -/
inductive Make where
  | zeroed (headRoom length tailRoom : Nat)
  | withHeadRoom (headRoom : Nat) (bytes : List UInt8)
  | ofBytes (bytes : List UInt8)
deriving DecidableEq, Repr

/-- What happens on a shelf of frames, which have numbers in the order in which they came. -/
inductive Event where
  | make (how : Make)
  | call (i : Nat) (c : Call)
  /-- a copy of a frame, room and all -/
  | clone (i : Nat)
  /-- a copy of a window, with the default room -/
  | duplicate (i : Nat)
deriving DecidableEq, Repr

/-- What stands on a shelf. -/
structure Kind (σ : Type) where
  make : Make → Option σ
  perform : σ → Call → Option (Reply × σ)
  duplicate : σ → Option σ

variable {σ τ : Type}

def Kind.step (K : Kind σ) (shelf : List σ) : Event → Option (Reply × List σ)
  | .make how => (K.make how).map fun s => (.ok .done, shelf ++ [s])
  | .call i c =>
    match shelf[i]? with
    | none => some (.ok .missing, shelf)
    | some s => (K.perform s c).map fun (reply, t) => (reply, shelf.set i t)
  | .clone i =>
    match shelf[i]? with
    | none => some (.ok .missing, shelf)
    | some s => some (.ok .done, shelf ++ [s])
  | .duplicate i =>
    match shelf[i]? with
    | none => some (.ok .missing, shelf)
    | some s => (K.duplicate s).map fun t => (.ok .done, shelf ++ [t])

def Kind.run (K : Kind σ) : List Event → List σ → Option (List Reply × List σ)
  | [], shelf => some ([], shelf)
  | e :: events, shelf => do
    let (reply, shelf) ← K.step shelf e
    let (replies, shelf) ← K.run events shelf
    return (reply :: replies, shelf)

/-- The answer of a call, and the frame that there is then. -/
def settle : Except Rejected (Answer × Frame) → Reply × Frame
  | .ok (answer, f) => (.ok answer, f)
  | .error ⟨e, f⟩ => (.error e, f)

def frames : Kind Frame where
  make
    | .zeroed headRoom length tailRoom => some (.zeroed headRoom length tailRoom)
    | .withHeadRoom headRoom bytes => some (.withHeadRoom headRoom bytes)
    | .ofBytes bytes => some (.ofBytes bytes)
  perform f c := some (settle (f.perform c))
  duplicate f := some f.duplicate

def spans : Kind Span where
  make
    | .zeroed headRoom length tailRoom => some ⟨headRoom, List.replicate length 0, tailRoom⟩
    | .withHeadRoom headRoom bytes => some ⟨headRoom, bytes, 0⟩
    | .ofBytes bytes => some ⟨0, bytes, 0⟩
  perform s c := some (s.perform c)
  duplicate s := some ⟨Frame.defaultHeadRoom, s.window, 0⟩

def buffers : Kind Buffer where
  make
    | .zeroed headRoom length tailRoom => Buffer.zeroed? headRoom length tailRoom
    | .withHeadRoom headRoom bytes => Buffer.withHeadRoom? headRoom bytes
    | .ofBytes bytes => Buffer.withHeadRoom? 0 bytes
  perform b c := Buffer.perform c b
  duplicate := Buffer.duplicate?

/-- One kind goes the way of another, as long as something holds of all that stands on the shelf.
What holds after a call held before it. -/
structure Views (K : Kind σ) (L : Kind τ) (view : σ → τ) (P : σ → Prop) : Prop where
  make : ∀ {how s}, K.make how = some s → P s → L.make how = some (view s)
  perform : ∀ {s c reply t}, K.perform s c = some (reply, t) → P t →
    P s ∧ L.perform (view s) c = some (reply, view t)
  duplicate : ∀ {s t}, K.duplicate s = some t → P t → L.duplicate (view s) = some (view t)

theorem Views.step {K : Kind σ} {L : Kind τ} {view : σ → τ} {P : σ → Prop} (v : Views K L view P)
    {shelf after : List σ} {e : Event} {reply : Reply} (h : K.step shelf e = some (reply, after))
    (hp : ∀ s ∈ after, P s) :
    (∀ s ∈ shelf, P s) ∧ L.step (shelf.map view) e = some (reply, after.map view) := by
  cases e with
  | make how =>
    obtain ⟨s, made, e⟩ := Option.map_eq_some_iff.1 h
    cases e
    have same := v.make made (hp s (by simp))
    exact ⟨fun t ht => hp t (by simp [ht]), by simp [Kind.step, same]⟩
  | call i c =>
    simp only [Kind.step, List.getElem?_map] at h ⊢
    cases hs : shelf[i]? with
    | none =>
      rw [hs] at h
      cases h
      exact ⟨hp, rfl⟩
    | some s =>
      rw [hs] at h
      obtain ⟨⟨reply', t⟩, called, e⟩ := Option.map_eq_some_iff.1 h
      cases e
      obtain ⟨inside, -⟩ := List.getElem?_eq_some_iff.1 hs
      obtain ⟨before, same⟩ := v.perform called (hp t (List.mem_set inside t))
      refine ⟨fun u hu => ?_, by simp [same]⟩
      obtain ⟨j, hj⟩ := List.mem_iff_getElem?.1 hu
      by_cases here : i = j
      · subst here
        cases hs.symm.trans hj
        exact before
      · exact hp u (List.mem_of_getElem? ((List.getElem?_set_ne here).trans hj))
  | clone i =>
    simp only [Kind.step, List.getElem?_map] at h ⊢
    cases hs : shelf[i]? with
    | none =>
      rw [hs] at h
      cases h
      exact ⟨hp, rfl⟩
    | some s =>
      rw [hs] at h
      cases h
      exact ⟨fun u hu => hp u (by simp [hu]), by simp⟩
  | duplicate i =>
    simp only [Kind.step, List.getElem?_map] at h ⊢
    cases hs : shelf[i]? with
    | none =>
      rw [hs] at h
      cases h
      exact ⟨hp, rfl⟩
    | some s =>
      rw [hs] at h
      obtain ⟨t, copied, e⟩ := Option.map_eq_some_iff.1 h
      cases e
      have same := v.duplicate copied (hp t (by simp))
      exact ⟨fun u hu => hp u (by simp [hu]), by simp [same]⟩

theorem Views.run {K : Kind σ} {L : Kind τ} {view : σ → τ} {P : σ → Prop} (v : Views K L view P)
    {events : List Event} {shelf after : List σ} {replies : List Reply}
    (h : K.run events shelf = some (replies, after)) (hp : ∀ s ∈ after, P s) :
    (∀ s ∈ shelf, P s) ∧ L.run events (shelf.map view) = some (replies, after.map view) := by
  induction events generalizing shelf replies with
  | nil =>
    cases h
    exact ⟨hp, rfl⟩
  | cons e events ih =>
    simp only [Kind.run, Option.bind_eq_bind, Option.bind_eq_some_iff] at h
    obtain ⟨⟨reply, middle⟩, first, ⟨replies', after'⟩, rest, e'⟩ := h
    cases e'
    obtain ⟨between, later⟩ := ih rest
    obtain ⟨before, now⟩ := v.step first between
    refine ⟨before, ?_⟩
    rw [Kind.run, now]
    simp [later]

section
variable (f : Frame) (c : Call)

theorem perform_span :
    f.span.perform c = ((settle (f.perform c)).1, (settle (f.perform c)).2.span) := by
  by_cases h : f.span.space c < c.need
  · rw [Frame.perform_of_lt h, Span.perform, if_pos h]
    rfl
  · obtain ⟨g, performed, same⟩ := Frame.perform_of_le (Nat.le_of_not_lt h)
    rw [performed, Span.perform, if_neg h, ← same]
    rfl

/-- Neither the allocation nor the end of the window is another one after a call. -/
theorem capacity_settle : (settle (f.perform c)).2.capacity = f.capacity ∧
    (settle (f.perform c)).2.tailRoom = f.tailRoom := by
  by_cases h : f.span.space c < c.need
  · rw [Frame.perform_of_lt h]
    exact ⟨rfl, rfl⟩
  · obtain ⟨g, performed, same⟩ := Frame.perform_of_le (Nat.le_of_not_lt h)
    obtain ⟨size, back⟩ := Span.size_effect (Nat.le_of_not_lt h)
    rw [← same] at size back
    rw [performed]
    exact ⟨size, back⟩

theorem settle_of_does {act : Buffer.Act Answer} {r : Except Rejected (Answer × Frame)}
    (h : Buffer.Does act f r) :
    act f.buffer = some ((settle r).1, (settle r).2.buffer) := by
  match r with
  | .ok (answer, g) => exact h
  | .error ⟨e, g⟩ => exact h

theorem perform_buffer (small : f.length ≤ Frame.sizeLimit) : Buffer.perform c f.buffer =
    some ((settle (f.perform c)).1, (settle (f.perform c)).2.buffer) :=
  settle_of_does f (Buffer.does_perform small c)

end

theorem views_spans : Views frames spans Frame.span fun _ => True where
  make := by
    intro how f made _
    cases how <;> cases made <;>
      simp [spans, Frame.span, Frame.zeroed, Frame.withHeadRoom, Frame.ofBytes, Frame.headRoom,
        Frame.tailRoom]
  perform := by
    intro f c reply g called _
    have settled : settle (f.perform c) = (reply, g) := Option.some.inj called
    have same := perform_span f c
    rw [settled] at same
    exact ⟨trivial, congrArg some same⟩
  duplicate := by
    intro f g copied _
    cases copied
    simp [spans, Frame.span, Frame.duplicate, Frame.withHeadRoom, Frame.headRoom, Frame.tailRoom]

theorem views_buffers :
    Views frames buffers Frame.buffer fun f => f.capacity ≤ Frame.sizeLimit where
  make := by
    intro how f made small
    cases how with
    | zeroed headRoom length tailRoom =>
      cases made
      exact Buffer.zeroed?_eq (by simpa [Frame.capacity, Frame.zeroed, Frame.headRoom,
        Frame.length, Frame.tailRoom] using small)
    | withHeadRoom headRoom bytes =>
      cases made
      exact Buffer.withHeadRoom?_eq (by simpa [Frame.capacity, Frame.withHeadRoom, Frame.headRoom,
        Frame.length, Frame.tailRoom] using small)
    | ofBytes bytes =>
      cases made
      exact Buffer.withHeadRoom?_eq (by simpa [Frame.capacity, Frame.ofBytes, Frame.withHeadRoom,
        Frame.headRoom, Frame.length, Frame.tailRoom] using small)
  perform := by
    intro f c reply g called small
    have settled : settle (f.perform c) = (reply, g) := Option.some.inj called
    have capacity := (capacity_settle f c).1
    rw [settled] at capacity
    rw [capacity] at small
    have same := perform_buffer f c (Nat.le_trans (by rw [Frame.capacity]; omega) small)
    rw [settled] at same
    exact ⟨small, same⟩
  duplicate := by
    intro f g copied small
    cases copied
    refine Buffer.duplicate?_eq ?_
    simpa [Frame.capacity, Frame.duplicate, Frame.withHeadRoom, Frame.headRoom, Frame.length,
      Frame.tailRoom] using small

/-- No frame leaves the shelf, and each keeps its allocation and its tail-room. -/
def Steady (before after : List Frame) : Prop :=
  ∀ (i : Nat) (f : Frame), before[i]? = some f →
    ∃ g, after[i]? = some g ∧ g.capacity = f.capacity ∧ g.tailRoom = f.tailRoom

theorem Steady.refl (shelf : List Frame) : Steady shelf shelf := fun _ f hf => ⟨f, hf, rfl, rfl⟩

theorem Steady.trans {a b c : List Frame} (h : Steady a b) (k : Steady b c) : Steady a c := by
  intro i f hf
  obtain ⟨g, hg, capacity, tail⟩ := h i f hf
  obtain ⟨g', hg', capacity', tail'⟩ := k i g hg
  exact ⟨g', hg', capacity'.trans capacity, tail'.trans tail⟩

theorem steady_append (shelf more : List Frame) : Steady shelf (shelf ++ more) := by
  intro i f hf
  obtain ⟨inside, -⟩ := List.getElem?_eq_some_iff.1 hf
  exact ⟨f, by rw [List.getElem?_append_left inside, hf], rfl, rfl⟩

theorem steady_set {shelf : List Frame} {i : Nat} {f : Frame} (hf : shelf[i]? = some f)
    (c : Call) : Steady shelf (shelf.set i (settle (f.perform c)).2) := by
  obtain ⟨inside, -⟩ := List.getElem?_eq_some_iff.1 hf
  intro j g hg
  by_cases same : i = j
  · subst same
    cases hf.symm.trans hg
    exact ⟨_, List.getElem?_set_self inside, capacity_settle f c⟩
  · exact ⟨g, by rw [List.getElem?_set_ne same, hg], rfl, rfl⟩

/-- Every event comes to an end. -/
theorem step_frames (shelf : List Frame) (e : Event) :
    ∃ reply after, frames.step shelf e = some (reply, after) ∧ Steady shelf after := by
  cases e with
  | make how => cases how <;> exact ⟨_, _, rfl, steady_append shelf _⟩
  | call i c =>
    rw [Kind.step]
    cases hs : shelf[i]? with
    | none => exact ⟨_, _, rfl, .refl shelf⟩
    | some f => exact ⟨_, _, rfl, steady_set hs c⟩
  | clone i =>
    rw [Kind.step]
    cases hs : shelf[i]? with
    | none => exact ⟨_, _, rfl, .refl shelf⟩
    | some f => exact ⟨_, _, rfl, steady_append shelf _⟩
  | duplicate i =>
    rw [Kind.step]
    cases hs : shelf[i]? with
    | none => exact ⟨_, _, rfl, .refl shelf⟩
    | some f => exact ⟨_, _, rfl, steady_append shelf _⟩

theorem run_frames (events : List Event) (shelf : List Frame) :
    ∃ replies after, frames.run events shelf = some (replies, after) ∧ Steady shelf after := by
  induction events generalizing shelf with
  | nil => exact ⟨_, _, rfl, .refl shelf⟩
  | cons e events ih =>
    obtain ⟨reply, middle, first, now⟩ := step_frames shelf e
    obtain ⟨replies, after, rest, later⟩ := ih middle
    exact ⟨reply :: replies, after, by simp [Kind.run, first, rest], now.trans later⟩

/-! ## Fields -/

/-- A number in a header. -/
inductive Field where
  | u16 (n : UInt16)
  | u32 (n : UInt32)
deriving DecidableEq, Repr

namespace Field

def bytes : Field → List UInt8
  | u16 n => Bytes.big 2 n.toNat
  | u32 n => Bytes.big 4 n.toNat

def push : Field → Call
  | u16 n => .pushU16 n
  | u32 n => .pushU32 n

def pull : Field → Call
  | u16 _ => .pullU16
  | u32 _ => .pullU32

def value : Field → Nat
  | u16 n => n.toNat
  | u32 n => n.toNat

end Field

/-- The frame with bytes written in front of its window. -/
def front (f : Frame) (bytes : List UInt8) : Frame :=
  ⟨f.head.take (f.headRoom - bytes.length), bytes ++ f.window, f.tail⟩

/-- The frame with other bytes next to its window, which is where they end. -/
def scribble (f : Frame) (bytes : List UInt8) : Frame :=
  { f with head := f.head.take (f.headRoom - bytes.length) ++ bytes }

theorem headRoom_front (f : Frame) (bytes : List UInt8) :
    (front f bytes).headRoom = f.headRoom - bytes.length := by
  simp [front, Frame.headRoom]

theorem front_front {f : Frame} {bytes more : List UInt8}
    (h : more.length + bytes.length ≤ f.headRoom) :
    front (front f bytes) more = front f (more ++ bytes) := by
  simp [front, Frame.headRoom, List.take_take] at h ⊢
  omega

theorem perform_push {f : Frame} {field : Field} (h : field.bytes.length ≤ f.headRoom) :
    f.perform field.push = .ok (.done, front f field.bytes) := by
  cases field <;> exact congrArg f.done (Frame.pushFront_eq h)

theorem perform_pull {f : Frame} {field : Field} {rest : List UInt8}
    (h : f.window = field.bytes ++ rest) :
    f.perform field.pull = .ok (.number field.value, f.past field.bytes.length) := by
  cases field with
  | u16 n =>
    have long : 2 ≤ f.length := by simp [Frame.length, h, Field.bytes]
    have read : f.peekU16 0 = .ok n :=
      Frame.peekU16_append (List.length_nil : [].length = 0) h
    rw [Frame.peekU16_eq long] at read
    rw [Field.pull, Frame.perform, Frame.pullU16_eq long, Except.ok.inj read]
    rfl
  | u32 n =>
    have long : 4 ≤ f.length := by simp [Frame.length, h, Field.bytes]
    have read : f.peekU32 0 = .ok n := Frame.peekU32_append h
    rw [Frame.peekU32_eq long] at read
    rw [Field.pull, Frame.perform, Frame.pullU32_eq long, Except.ok.inj read]
    rfl

section
variable {shelf : List Frame} {i : Nat} {f g : Frame}

theorem run_append {σ : Type} (K : Kind σ) {first second : List Event} {shelf middle after : List σ}
    {replies replies' : List Reply} (h : K.run first shelf = some (replies, middle))
    (h' : K.run second middle = some (replies', after)) :
    K.run (first ++ second) shelf = some (replies ++ replies', after) := by
  induction first generalizing shelf replies with
  | nil =>
    cases h
    exact h'
  | cons e first ih =>
    simp only [Kind.run, Option.bind_eq_bind, Option.bind_eq_some_iff] at h
    obtain ⟨⟨reply, next⟩, now, ⟨replies₁, middle₁⟩, rest, e'⟩ := h
    cases e'
    simp [Kind.run, now, ih rest]

theorem run_call {c : Call} {answer : Answer} (hf : shelf[i]? = some f)
    (h : f.perform c = .ok (answer, g)) :
    frames.run [.call i c] shelf = some ([.ok answer], shelf.set i g) := by
  simp [Kind.run, Kind.step, hf, frames, h, settle]

theorem set_here (hf : shelf[i]? = some f) : shelf.set i f = shelf := by
  obtain ⟨inside, rfl⟩ := List.getElem?_eq_some_iff.1 hf
  exact List.set_getElem_self inside

theorem getElem?_set_here (hf : shelf[i]? = some f) : (shelf.set i g)[i]? = some g :=
  List.getElem?_set_self (List.getElem?_eq_some_iff.1 hf).1

/-- The fields are written, the last one first. -/
theorem run_pushes (hf : shelf[i]? = some f) {fields : List Field}
    (h : (fields.flatMap Field.bytes).length ≤ f.headRoom) :
    frames.run (fields.reverse.map fun field => .call i field.push) shelf =
      some (List.replicate fields.length (.ok .done),
        shelf.set i (front f (fields.flatMap Field.bytes))) := by
  induction fields with
  | nil =>
    have same : front f [] = f := by simp [front, Frame.headRoom]
    simp [Kind.run, same, set_here hf]
  | cons field fields ih =>
    rw [List.flatMap_cons, List.length_append] at h
    have behind := ih (by omega)
    have room : field.bytes.length ≤ (front f (fields.flatMap Field.bytes)).headRoom := by
      rw [headRoom_front]
      omega
    have pushed := run_call (getElem?_set_here hf) (perform_push room)
    rw [List.set_set, front_front (by omega)] at pushed
    rw [List.reverse_cons, List.map_append, List.length_cons, List.replicate_succ',
      List.flatMap_cons]
    exact run_append frames behind pushed

/-- The fields are read, the first one first. -/
theorem run_pulls (hf : shelf[i]? = some f) {fields : List Field} {rest : List UInt8}
    (h : f.window = fields.flatMap Field.bytes ++ rest) :
    frames.run (fields.map fun field => .call i field.pull) shelf =
      some (fields.map fun field => .ok (.number field.value),
        shelf.set i (f.past (fields.flatMap Field.bytes).length)) := by
  induction fields generalizing f shelf with
  | nil =>
    have same : f.past 0 = f := by simp [Frame.past]
    simp [Kind.run, same, set_here hf]
  | cons field fields ih =>
    rw [List.flatMap_cons, List.append_assoc] at h
    have pulled := run_call hf (perform_pull h)
    have left : (f.past field.bytes.length).window = fields.flatMap Field.bytes ++ rest := by
      simp [h]
    have others := ih (getElem?_set_here hf) left
    rw [List.set_set, Frame.past_past, ← List.length_append] at others
    rw [List.flatMap_cons]
    exact run_append frames pulled others

/-- Fields that fit in the head-room are written in reverse and read again in order. The window is
the one from before, and where the fields were is room again. -/
theorem run_fields (hf : shelf[i]? = some f) {fields : List Field}
    (h : (fields.flatMap Field.bytes).length ≤ f.headRoom) :
    frames.run ((fields.reverse.map fun field => .call i field.push) ++
        fields.map fun field => .call i field.pull) shelf =
      some (List.replicate fields.length (.ok .done) ++
          fields.map fun field => .ok (.number field.value),
        shelf.set i (scribble f (fields.flatMap Field.bytes))) := by
  have pulls := run_pulls (getElem?_set_here (g := front f (fields.flatMap Field.bytes)) hf) rfl
  have same : (front f (fields.flatMap Field.bytes)).past (fields.flatMap Field.bytes).length =
      scribble f (fields.flatMap Field.bytes) := by
    simp [front, Frame.past, scribble]
  rw [List.set_set, same] at pulls
  exact run_append frames (run_pushes hf h) pulls

end

/-! ## Refinement -/

/-- What holds of a course that began without any frame, with its replies and the frames at its
end. -/
structure Faithful (events : List Event) (replies : List Reply) (shelf : List Frame) : Prop where
  runs : frames.run events [] = some (replies, shelf)
  /-- lists with room at both ends answer the same, and what is seen of the frames is them -/
  lists : spans.run events [] = some (replies, shelf.map Frame.span)
  /-- in place all goes the same way, and no index is outside of an allocation -/
  inPlace : (∀ f ∈ shelf, f.capacity ≤ Frame.sizeLimit) →
    buffers.run events [] = some (replies, shelf.map Frame.buffer)
  /-- the cursors are in order, and the window and the rooms are all of the allocation -/
  cursors : ∀ f ∈ shelf, f.buffer.data ≤ f.buffer.tail ∧ f.buffer.tail ≤ f.capacity ∧
    f.headRoom + f.length + f.tailRoom = f.capacity ∧ f.buffer.bytes.length = f.capacity
  /-- a call fails for want of space alone, says how much, and changes nothing -/
  fails : ∀ f ∈ shelf, ∀ c e g, f.perform c = .error ⟨e, g⟩ ↔
    f.span.space c < c.need ∧ e = .noSpace c.named (f.span.space c) ∧ g = f
  /-- whatever comes then, every frame keeps its allocation and its tail-room -/
  steady : ∀ more, ∃ replies' later, frames.run more shelf = some (replies', later) ∧
    Steady shelf later
  /-- fields that fit in the head-room are written in reverse and read again in order -/
  fields : ∀ (i : Nat) (f : Frame) (fields : List Field), shelf[i]? = some f →
    (fields.flatMap Field.bytes).length ≤ f.headRoom →
    frames.run ((fields.reverse.map fun field => .call i field.push) ++
        fields.map fun field => .call i field.pull) shelf =
      some (List.replicate fields.length (.ok .done) ++
          fields.map fun field => .ok (.number field.value),
        shelf.set i (scribble f (fields.flatMap Field.bytes)))

/-- Frames are lists of bytes with room at both ends, whatever is done to them. -/
theorem refines_lists (events : List Event) :
    ∃ replies shelf, Faithful events replies shelf := by
  obtain ⟨replies, shelf, course, -⟩ := run_frames events []
  exact ⟨replies, shelf, {
    runs := course
    lists := (views_spans.run course fun _ _ => trivial).2
    inPlace := fun small => (views_buffers.run course small).2
    cursors := fun f _ =>
      ⟨Nat.le_add_right _ _, Nat.le_add_right _ _, rfl, f.length_bytes_buffer⟩
    fails := fun f _ c e g => Frame.perform_eq_error_iff f c e g
    steady := fun more => run_frames more shelf
    fields := fun i f fields hf h => run_fields hf h }⟩

/-- A header is written into a copy, and read; an offset that is close to the greatest number is
one too far. -/
example : buffers.run [.make (.ofBytes [1, 2]), .duplicate 0, .call 1 (.pushU32 7),
      .call 1 (.pullFront 7), .call 1 .pullU32, .call 1 (.peekU16 0xFFFFFFFFFFFFFFFF)] [] =
    some ([.ok .done, .ok .done, .ok .done, .error (.noSpace 7 6), .ok (.number 7),
        .error (.noSpace 0xFFFFFFFFFFFFFFFF 2)],
      [⟨[1, 2], 0, 2⟩, ⟨List.replicate 28 0 ++ [0, 0, 0, 7, 1, 2], 32, 34⟩]) := by
  rfl

end Shelf
end FrameBus
