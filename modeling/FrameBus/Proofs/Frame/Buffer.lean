import FrameBus.Proofs.Frame.Fields

/-!
# Frames in place

A frame lies in one allocation, which is never moved or resized, with two cursors on it:

    0           data             tail        size
    +-----------+----------------+-----------+
    | head-room |     window     | tail-room |
    +-----------+----------------+-----------+

An act works on such a buffer step after step, and each step changes what is there. It has no
outcome if a step reads or writes outside of the allocation, moves a cursor in front of it, or needs
a size beyond the greatest one. In the buffer of a frame the acts of this module have one, and it is
that of the frame's operation (`does_overwrite`, `does_pushFront`, ..): the same answer, and the
buffer of the frame that the operation leaves. One that fails leaves the buffer as it was.
-/

namespace FrameBus

structure Buffer where
  bytes : List UInt8
  /-- where the window begins -/
  data : Nat
  /-- where the window ends -/
  tail : Nat
deriving DecidableEq, Repr

namespace Buffer

/-! ## Algorithm -/

/-- Steps in place: an answer or a failure, and the buffer as it is then. -/
abbrev Act (α : Type) := ExceptT BusError (StateT Buffer Option) α

def look {α : Type} (read : Buffer → Option α) : Act α :=
  fun b => (read b).map fun a => (.ok a, b)

def alter (change : Buffer → Option Buffer) : Act Unit :=
  fun b => (change b).map fun c => (.ok (), c)

def length? (b : Buffer) : Option Nat :=
  if b.data ≤ b.tail then some (b.tail - b.data) else none

def window? (b : Buffer) : Option (List UInt8) :=
  if b.data ≤ b.tail ∧ b.tail ≤ b.bytes.length then some ((b.bytes.take b.tail).drop b.data)
  else none

/-- Writes over the bytes from a place on. -/
def write? (b : Buffer) (start : Nat) (new : List UInt8) : Option Buffer :=
  if start + new.length ≤ b.bytes.length then
    some { b with bytes := b.bytes.take start ++ new ++ b.bytes.drop (start + new.length) }
  else none

/-- Moves the start of the window to the front. -/
def extend? (b : Buffer) (n : Nat) : Option Buffer :=
  if n ≤ b.data then some { b with data := b.data - n } else none

def zeroed? (headRoom length tailRoom : Nat) : Option Buffer :=
  let total := headRoom + length + tailRoom
  if total ≤ Frame.sizeLimit then some ⟨List.replicate total 0, headRoom, total - tailRoom⟩
  else none

def withHeadRoom? (headRoom : Nat) (bytes : List UInt8) : Option Buffer := do
  let b ← zeroed? headRoom bytes.length 0
  b.write? headRoom bytes

def duplicate? (b : Buffer) : Option Buffer := do
  let window ← b.window?
  withHeadRoom? Frame.defaultHeadRoom window

/-- Fails if there is less room than bytes. -/
def demand (bytes room : Nat) : Act Unit :=
  if room < bytes then throw (.noSpace bytes room) else return ()

def overwrite (bytes : List UInt8) : Act Unit :=
  if bytes.isEmpty then return ()
  else do
    let length ← look length?
    demand bytes.length length
    alter fun b => b.write? b.data bytes

def pushFront (bytes : List UInt8) : Act Unit :=
  if bytes.isEmpty then return ()
  else do
    let room ← look fun b => some b.data
    demand bytes.length room
    alter fun b => b.extend? bytes.length
    alter fun b => b.write? b.data bytes

def pullFront (n : Nat) : Act Unit := do
  let length ← look length?
  demand n length
  alter fun b => some { b with data := b.data + n }

/-- An end beyond the greatest size is not computed. -/
def slice (offset n : Nat) : Act (List UInt8) := do
  let window ← look window?
  if offset + n ≤ Frame.sizeLimit ∧ offset + n ≤ window.length then
    return (window.drop offset).take n
  else throw (.noSpace (min (offset + n) Frame.sizeLimit) window.length)

def pushU16 (n : UInt16) : Act Unit := pushFront (Bytes.big 2 n.toNat)

def pushU32 (n : UInt32) : Act Unit := pushFront (Bytes.big 4 n.toNat)

def peekU16 (offset : Nat) : Act UInt16 := do
  let bytes ← slice offset 2
  return UInt16.ofNat (Bytes.ofBig bytes)

def peekU32 (offset : Nat) : Act UInt32 := do
  let bytes ← slice offset 4
  return UInt32.ofNat (Bytes.ofBig bytes)

def pullU16 : Act UInt16 := do
  let n ← peekU16 0
  pullFront 2
  return n

def pullU32 : Act UInt32 := do
  let n ← peekU32 0
  pullFront 4
  return n

/-- Writes one byte of the window, if the window reaches that far. -/
def put (i : Nat) (byte : UInt8) : Act Bool := do
  let window ← look window?
  if i < window.length then do
    alter fun b => b.write? (b.data + i) [byte]
    return true
  else return false

/-! ## Acts -/

section
variable {α β : Type} {b c : Buffer} {e : BusError}

theorem look_apply {read : Buffer → Option α} {a : α} (h : read b = some a) :
    look read b = some (.ok a, b) := by
  rw [look, h]
  rfl

theorem alter_apply {change : Buffer → Option Buffer} (h : change b = some c) :
    alter change b = some (.ok (), c) := by
  rw [alter, h]
  rfl

theorem demand_of_le {n room : Nat} (h : n ≤ room) : demand n room b = some (.ok (), b) := by
  rw [demand, if_neg (by omega)]
  rfl

theorem demand_of_lt {n room : Nat} (h : room < n) :
    demand n room b = some (.error (.noSpace n room), b) := by
  rw [demand, if_pos h]
  rfl

theorem bind_ok {act : Act α} {next : α → Act β} {a : α} (h : act b = some (.ok a, c)) :
    (act >>= next) b = next a c := by
  simp only [bind, ExceptT.bind, ExceptT.mk, StateT.bind, h, Option.bind_some, ExceptT.bindCont]

theorem bind_error {act : Act α} {next : α → Act β} (h : act b = some (.error e, c)) :
    (act >>= next) b = some (.error e, c) := by
  simp only [bind, ExceptT.bind, ExceptT.mk, StateT.bind, h, Option.bind_some, ExceptT.bindCont]
  rfl

end

end Buffer

namespace Frame

/-- A frame in its allocation. -/
def buffer (f : Frame) : Buffer :=
  ⟨f.head ++ f.window ++ f.tail, f.headRoom, f.headRoom + f.length⟩

/-- The frame whose window begins `n` bytes further in front, with the bytes that are there. -/
def reaching (f : Frame) (n : Nat) : Frame :=
  ⟨f.head.take (f.headRoom - n), f.head.drop (f.headRoom - n) ++ f.window, f.tail⟩

/-- A failure that leaves the frame as it was. -/
def keeps {α : Type} (f : Frame) (r : Except BusError α) : Except Rejected α :=
  r.mapError fun e => ⟨e, f⟩

/-- What is read of a frame is made into something else. -/
theorem keeps_map {α β : Type} (f : Frame) (r : Except BusError α) (F : α → β) :
    (f.keeps (r.map (·, f))).map (fun p => (F p.1, p.2)) = f.keeps ((r.map F).map (·, f)) := by
  cases r <;> rfl

section
variable (f : Frame) {n : Nat}

@[simp] theorem data_buffer : f.buffer.data = f.headRoom := rfl

theorem length_bytes_buffer : f.buffer.bytes.length = f.capacity := by
  simp [buffer, capacity, headRoom, length, tailRoom, Nat.add_assoc]

theorem length?_buffer : f.buffer.length? = some f.length := by
  simp [Buffer.length?, buffer]

theorem window?_buffer : f.buffer.window? = some f.window := by
  have inside : f.buffer.data ≤ f.buffer.tail ∧ f.buffer.tail ≤ f.buffer.bytes.length := by
    simp [buffer, headRoom, length]
  have upTo : f.buffer.bytes.take f.buffer.tail = f.head ++ f.window :=
    List.take_left' (by simp [buffer, headRoom, length])
  rw [Buffer.window?, if_pos inside, upTo, data_buffer, headRoom, List.drop_left' rfl]

/-- What is written into the window is in the window, and nothing else is changed. -/
theorem write?_buffer {before old new after : List UInt8} (hw : f.window = before ++ old ++ after)
    (hn : new.length = old.length) :
    f.buffer.write? (f.headRoom + before.length) new =
      some { f with window := before ++ new ++ after : Frame }.buffer := by
  have cut : f.buffer.bytes = (f.head ++ before) ++ (old ++ (after ++ f.tail)) := by
    simp [buffer, hw]
  have inside : f.headRoom + before.length + new.length ≤ f.buffer.bytes.length := by
    simp [cut, headRoom, hn]
    omega
  have ahead : f.buffer.bytes.take (f.headRoom + before.length) = f.head ++ before := by
    rw [cut]
    exact List.take_left' (by simp [headRoom])
  have behind : f.buffer.bytes.drop (f.headRoom + before.length + new.length) =
      after ++ f.tail := by
    rw [cut, ← List.append_assoc]
    exact List.drop_left' (by simp [headRoom, hn, Nat.add_assoc])
  rw [Buffer.write?, if_pos inside, ahead, behind]
  simp [buffer, headRoom, length, hw, hn]

theorem extend?_buffer (h : n ≤ f.headRoom) : f.buffer.extend? n = some (f.reaching n).buffer := by
  rw [Buffer.extend?, data_buffer, if_pos h]
  simp [buffer, reaching, ← List.append_assoc, headRoom, length] at h ⊢
  omega

theorem advance_buffer (h : n ≤ f.length) :
    { f.buffer with data := f.buffer.data + n : Buffer } = (f.past n).buffer := by
  simp [buffer, past, headRoom, length] at h ⊢
  omega

end

end Frame

namespace Buffer

/-! ## Operations -/

/-- An act does in the buffer of a frame what an operation does to the frame. -/
def Does {α : Type} (act : Act α) (f : Frame) : Except Rejected (α × Frame) → Prop
  | .ok (a, g) => act f.buffer = some (.ok a, g.buffer)
  | .error ⟨e, g⟩ => act f.buffer = some (.error e, g.buffer)

/-- What an act answers is made into something else. -/
theorem Does.map {α β : Type} {act : Act α} {f : Frame} {r : Except Rejected (α × Frame)}
    (h : Does act f r) (F : α → β) :
    Does (do let a ← act; return F a) f (r.map fun p => (F p.1, p.2)) := by
  match r with
  | .error ⟨e, g⟩ => exact bind_error h
  | .ok (a, g) => exact bind_ok h

variable (f : Frame)

theorem does_overwrite (bytes : List UInt8) :
    Does (overwrite bytes) f (f.keeps ((f.overwrite bytes).map ((), ·))) := by
  by_cases empty : bytes.isEmpty = true
  · obtain rfl := List.isEmpty_iff.1 empty
    rfl
  · have looked := look_apply f.length?_buffer
    rw [overwrite, if_neg empty]
    by_cases h : f.length < bytes.length
    · rw [Frame.overwrite, if_pos h]
      exact (bind_ok looked).trans (bind_error (demand_of_lt h))
    · have fits := Nat.le_of_not_lt h
      have cut : f.window = [] ++ f.window.take bytes.length ++ f.window.drop bytes.length := by
        simp
      have written := f.write?_buffer cut (List.length_take_of_le fits).symm
      rw [Frame.overwrite, if_neg h]
      exact (bind_ok looked).trans ((bind_ok (demand_of_le fits)).trans (alter_apply written))

theorem does_pushFront (bytes : List UInt8) :
    Does (pushFront bytes) f (f.keeps ((f.pushFront bytes).map ((), ·))) := by
  by_cases empty : bytes.isEmpty = true
  · obtain rfl := List.isEmpty_iff.1 empty
    simp [Frame.pushFront, Frame.headRoom, Frame.keeps]
    rfl
  · have looked : look (fun b => some b.data) f.buffer = some (.ok f.headRoom, f.buffer) := rfl
    rw [pushFront, if_neg empty]
    by_cases h : f.headRoom < bytes.length
    · rw [Frame.pushFront, if_pos h]
      exact (bind_ok looked).trans (bind_error (demand_of_lt h))
    · have fits := Nat.le_of_not_lt h
      have extended : alter (fun b => b.extend? bytes.length) f.buffer = _ :=
        alter_apply (f.extend?_buffer fits)
      -- what is written over are the bytes that the window has just been extended by
      have cut : (f.reaching bytes.length).window =
          [] ++ f.head.drop (f.headRoom - bytes.length) ++ f.window := rfl
      have old : bytes.length = (f.head.drop (f.headRoom - bytes.length)).length := by
        simp [Frame.headRoom] at fits ⊢
        omega
      have written := (f.reaching bytes.length).write?_buffer cut old
      rw [Frame.pushFront, if_neg h]
      exact (bind_ok looked).trans ((bind_ok (demand_of_le fits)).trans
        ((bind_ok extended).trans (alter_apply written)))

theorem does_pullFront (n : Nat) :
    Does (pullFront n) f (f.keeps ((f.pullFront n).map ((), ·))) := by
  have looked := look_apply f.length?_buffer
  by_cases h : f.length < n
  · rw [Frame.pullFront, if_pos h]
    exact (bind_ok looked).trans (bind_error (demand_of_lt h))
  · have fits := Nat.le_of_not_lt h
    rw [Frame.pullFront_eq fits]
    exact (bind_ok looked).trans ((bind_ok (demand_of_le fits)).trans
      (alter_apply (congrArg some (f.advance_buffer fits))))

variable {f}

/-- An end that is in the window is computed, if the window is not longer than any size. -/
theorem does_slice {offset n : Nat} (h : offset + n ≤ f.length → offset + n ≤ Frame.sizeLimit) :
    Does (slice offset n) f (f.keeps ((f.slice offset n).map (·, f))) := by
  have looked := look_apply f.window?_buffer
  by_cases inside : offset + n ≤ f.length
  · rw [Frame.slice, if_pos inside]
    refine (bind_ok looked).trans ?_
    rw [if_pos ⟨h inside, inside⟩]
    rfl
  · rw [Frame.slice, if_neg inside]
    refine (bind_ok looked).trans ?_
    rw [if_neg fun both => inside both.2]
    rfl

theorem does_peekU16 {offset : Nat} (h : offset + 2 ≤ f.length → offset + 2 ≤ Frame.sizeLimit) :
    Does (peekU16 offset) f (f.keeps ((f.peekU16 offset).map (·, f))) := by
  rw [Frame.peekU16, ← Frame.keeps_map]
  exact (does_slice h).map _

theorem does_peekU32 {offset : Nat} (h : offset + 4 ≤ f.length → offset + 4 ≤ Frame.sizeLimit) :
    Does (peekU32 offset) f (f.keeps ((f.peekU32 offset).map (·, f))) := by
  rw [Frame.peekU32, ← Frame.keeps_map]
  exact (does_slice h).map _

/-- A number is read and stripped. A frame that is too short for the one is left by the other as it
was. -/
theorem does_pull {α : Type} {act : Act α} {r : Except BusError α}
    (h : Does act f (f.keeps (r.map (·, f)))) (n : Nat) :
    Does (do let a ← act; pullFront n; return a) f
      (f.keeps (r.bind fun a => (f.pullFront n).bind fun g => .ok (a, g))) := by
  cases r with
  | error e => exact bind_error h
  | ok a =>
    have pulled := does_pullFront f n
    cases hp : f.pullFront n with
    | error e =>
      rw [hp] at pulled
      exact (bind_ok h).trans (bind_error pulled)
    | ok g =>
      rw [hp] at pulled
      exact (bind_ok h).trans (bind_ok pulled)

variable (f)

theorem does_pullU16 : Does pullU16 f (f.keeps f.pullU16) :=
  does_pull (does_peekU16 fun _ => by decide) 2

theorem does_pullU32 : Does pullU32 f (f.keeps f.pullU32) :=
  does_pull (does_peekU32 fun _ => by decide) 4

/-- A byte is written if it is in the window. -/
theorem does_put (i : Nat) (byte : UInt8) :
    Does (put i byte) f (.ok (match f.modify? i fun _ => byte with
      | some g => (true, g)
      | none => (false, f))) := by
  have looked := look_apply f.window?_buffer
  by_cases h : i < f.window.length
  · have cut : f.window = f.window.take i ++ [f.window[i]] ++ f.window.drop (i + 1) := by
      simp
    have written := f.write?_buffer cut (rfl : [byte].length = [f.window[i]].length)
    rw [List.length_take_of_le (Nat.le_of_lt h)] at written
    have changed : f.modify? i (fun _ => byte) =
        some { f with window := f.window.take i ++ [byte] ++ f.window.drop (i + 1) } := by
      rw [Frame.modify?, Frame.length, if_pos h, List.modify_eq_take_cons_drop h]
      simp
    rw [changed]
    refine (bind_ok looked).trans ?_
    rw [if_pos h]
    exact bind_ok (alter_apply written)
  · rw [Frame.modify?, Frame.length, if_neg h]
    refine (bind_ok looked).trans ?_
    rw [if_neg h]
    rfl

/-! ## Frames made -/

theorem zeroed?_eq {headRoom length tailRoom : Nat}
    (h : headRoom + length + tailRoom ≤ Frame.sizeLimit) :
    zeroed? headRoom length tailRoom = some (Frame.zeroed headRoom length tailRoom).buffer := by
  simp only [zeroed?, if_pos h]
  simp [Frame.zeroed, Frame.buffer, Frame.headRoom, Frame.length]

theorem withHeadRoom?_eq {headRoom : Nat} {bytes : List UInt8}
    (h : headRoom + bytes.length ≤ Frame.sizeLimit) :
    withHeadRoom? headRoom bytes = some (Frame.withHeadRoom headRoom bytes).buffer := by
  have made : zeroed? headRoom bytes.length 0 = _ := zeroed?_eq h
  have cut : (Frame.zeroed headRoom bytes.length 0).window =
      [] ++ List.replicate bytes.length 0 ++ [] := by simp [Frame.zeroed]
  have written := Frame.write?_buffer _ cut (List.length_replicate (a := (0 : UInt8))).symm
  rw [withHeadRoom?, made]
  simpa [Frame.zeroed, Frame.withHeadRoom, Frame.headRoom] using written

theorem duplicate?_eq {f : Frame} (h : Frame.defaultHeadRoom + f.length ≤ Frame.sizeLimit) :
    f.buffer.duplicate? = some f.duplicate.buffer := by
  rw [duplicate?, f.window?_buffer]
  exact withHeadRoom?_eq h

end Buffer
end FrameBus
