import FrameBus.Session.Table

/-!
# Which handler an event has

What was done to a table, one call after another, decides which handler an event has: the one that
was attached first since the event was last detached (`standing`). The table that the calls lead to
has that handler, and no event twice (`EventTable.Follows`).

A frame is dispatched by its header: the handler is called with the source and the event that the
header has, and with as many bytes behind the header as it declares
(`EventTable.dispatch_eq_some_iff`).
-/

namespace FrameBus

/-- A call that may change a table of handlers. -/
inductive Edit (η : Type) where
  | attach (event : UInt32) (k : η)
  | detach (event : UInt32)
deriving DecidableEq, Repr

variable {η : Type}

namespace Edit

/-- What a call answers, and the table that it leaves. -/
def apply (t : EventTable η) : Edit η → Except BusError Unit × EventTable η
  | .attach event k => (.ok (), t.attach event k)
  | .detach event =>
    match t.detach event with
    | .ok t => (.ok (), t)
    | .error e => (.error e, t)

/-- The handler that a call brings for an event. -/
def brings? (event : UInt32) : Edit η → Option η
  | .attach e k => if e = event then some k else none
  | .detach _ => none

def detaches (event : UInt32) : Edit η → Bool
  | .attach _ _ => false
  | .detach e => e == event

end Edit

/-- The calls since an event was last detached. -/
def sinceDetached (edits : List (Edit η)) (event : UInt32) : List (Edit η) :=
  (edits.reverse.takeWhile fun e => !e.detaches event).reverse

/-- The first handler attached to an event since it was last detached. -/
def standing (edits : List (Edit η)) (event : UInt32) : Option η :=
  (sinceDetached edits event).findSome? (Edit.brings? event)

/-! ## One more call -/

theorem standing_attach (edits : List (Edit η)) (e : UInt32) (k : η) (event : UInt32) :
    standing (edits ++ [.attach e k]) event =
      (standing edits event).or (if e = event then some k else none) := by
  have since : sinceDetached (edits ++ [.attach e k]) event =
      sinceDetached edits event ++ [.attach e k] := by
    simp [sinceDetached, Edit.detaches]
  rw [standing, since, List.findSome?_append, standing]
  simp [Edit.brings?]

theorem standing_detach (edits : List (Edit η)) (e event : UInt32) :
    standing (edits ++ [.detach e]) event = if e = event then none else standing edits event := by
  by_cases h : e = event
  · simp [standing, sinceDetached, Edit.detaches, h]
  · have since : sinceDetached (edits ++ [.detach e]) event =
        sinceDetached edits event ++ [.detach e] := by
      simp [sinceDetached, Edit.detaches, h]
    rw [standing, since, List.findSome?_append, if_neg h, standing]
    simp [Edit.brings?]

/-! ## Frames -/

theorem Except.bind_eq_ok {ε α β : Type} {x : Except ε α} {next : α → Except ε β} {b : β} :
    x.bind next = .ok b ↔ ∃ a, x = .ok a ∧ next a = .ok b := by
  cases x <;> simp [Except.bind]

theorem Frame.window_of_pullFront {f g : Frame} {n : Nat} (h : f.pullFront n = .ok g) :
    g.window = f.window.drop n := by
  unfold pullFront at h
  split at h
  · cases h
  · cases h
    rfl

theorem Frame.window_of_pullU16 {f g : Frame} {n : UInt16} (h : f.pullU16 = .ok (n, g)) :
    g.window = f.window.drop 2 := by
  simp only [pullU16, bind, Except.bind_eq_ok] at h
  obtain ⟨_, _, _, hp, e⟩ := h
  cases e
  exact window_of_pullFront hp

theorem Frame.window_of_pullU32 {f g : Frame} {n : UInt32} (h : f.pullU32 = .ok (n, g)) :
    g.window = f.window.drop 4 := by
  simp only [pullU32, bind, Except.bind_eq_ok] at h
  obtain ⟨_, _, _, hp, e⟩ := h
  cases e
  exact window_of_pullFront hp

namespace EventFrame

theorem window_of_strip {f rest : Frame} {header : EventHeader}
    (h : strip f = .ok (header, rest)) : rest.window = f.window.drop headerSize := by
  simp only [strip, bind, Except.bind_eq_ok] at h
  obtain ⟨_, h₁, ⟨_, _⟩, h₂, ⟨_, _⟩, h₃, ⟨_, _⟩, h₄, ⟨_, _⟩, h₅, e⟩ := h
  cases e
  rw [Frame.window_of_pullU32 h₅, Frame.window_of_pullU32 h₄, Frame.window_of_pullU16 h₃,
    Frame.window_of_pullU16 h₂, Frame.window_of_pullFront h₁]
  simp only [List.drop_drop]
  rfl

/-- A frame is decoded to what is behind its header, which is as long as declared, or longer. -/
theorem window_of_decode {f rest : Frame} {header : EventHeader}
    (h : decode f = .ok (header, rest)) :
    rest.window = f.window.drop headerSize ∧ header.length.toNat ≤ rest.length := by
  unfold decode at h
  split at h
  · cases h
  · split at h
    · cases h
    · next hs =>
      split at h
      · cases h
      · next long =>
        cases h
        exact ⟨window_of_strip hs, Nat.le_of_not_lt long⟩

end EventFrame

namespace EventTable

variable {t : EventTable η} {event : UInt32} {edits : List (Edit η)}

/-! ## Tables -/

theorem handler?_cons (entry : UInt32 × η) (t : EventTable η) (event : UInt32) :
    handler? (entry :: t) event = if entry.1 = event then some entry.2 else t.handler? event := by
  rw [handler?, List.lookup_cons]
  by_cases h : entry.1 = event
  · simp [h]
  · rw [beq_false_of_ne (Ne.symm h), if_neg h]
    rfl

theorem handler?_append (t : EventTable η) (e : UInt32) (k : η) (event : UInt32) :
    handler? (t ++ [(e, k)]) event =
      (t.handler? event).or (if e = event then some k else none) := by
  rw [handler?, List.lookup_append]
  exact congrArg _ (handler?_cons (e, k) [] event)

theorem handler?_filter (t : EventTable η) (e event : UInt32) :
    handler? (t.filter fun entry => entry.1 != e) event =
      if e = event then none else t.handler? event := by
  induction t with
  | nil => simp [handler?]
  | cons entry t ih =>
    by_cases same : entry.1 = e
    · rw [List.filter_cons_of_neg (by simp [same]), ih, handler?_cons, same]
      split <;> rfl
    · rw [List.filter_cons_of_pos (by simp [same]), handler?_cons, handler?_cons, ih]
      by_cases h : e = event
      · rw [if_pos h, if_pos h, if_neg fun other => same (other.trans h.symm)]
      · rw [if_neg h, if_neg h]

theorem handler?_eq_none_iff : t.handler? event = none ↔ event ∉ t.map Prod.fst := by
  induction t with
  | nil => simp [handler?]
  | cons entry t ih =>
    rw [handler?_cons, List.map_cons, List.mem_cons, not_or, ← ih]
    by_cases h : entry.1 = event
    · simp [h]
    · simp [h, Ne.symm h]

theorem handler?_attach (t : EventTable η) (e : UInt32) (k : η) (event : UInt32) :
    (t.attach e k).handler? event =
      (t.handler? event).or (if e = event then some k else none) := by
  unfold attach
  split
  · next h =>
    -- the event has a handler, which is before the new one
    obtain ⟨first, h⟩ := Option.isSome_iff_exists.1 h
    by_cases he : e = event
    · rw [← he, h, Option.some_or]
    · rw [if_neg he, Option.or_none]
  · exact handler?_append t e k event

/-- What a call to detach answers and leaves. -/
theorem apply_detach (t : EventTable η) (event : UInt32) :
    (Edit.detach event).apply t =
      if t.handler? event = none then (.error (.eventNotFound event), t)
      else (.ok (), t.filter fun entry => entry.1 != event) := by
  simp only [Edit.apply, detach]
  cases h : t.handler? event with
  | none => rfl
  | some k => rfl

theorem handler?_detach (t : EventTable η) (e event : UInt32) :
    ((Edit.detach e).apply t).2.handler? event =
      if e = event then none else t.handler? event := by
  rw [apply_detach]
  split
  · next absent =>
    split
    · next he => rw [← he, absent]
    · rfl
  · exact handler?_filter t e event

/-! ## Calls in their order -/

/-- A table after some calls: no event is there twice, and each has the handler that stands. -/
structure Follows (t : EventTable η) (edits : List (Edit η)) : Prop where
  keys : (t.map Prod.fst).Nodup
  handler : ∀ event, t.handler? event = standing edits event

theorem follows_nil : Follows ([] : EventTable η) [] := ⟨List.nodup_nil, fun _ => rfl⟩

theorem keys_attach (h : (t.map Prod.fst).Nodup) (event : UInt32) (k : η) :
    ((t.attach event k).map Prod.fst).Nodup := by
  unfold attach
  split
  · exact h
  · next absent =>
    have new : event ∉ t.map Prod.fst := handler?_eq_none_iff.1 (by simpa using absent)
    rw [List.map_append, List.nodup_append]
    refine ⟨h, by simp, fun e he e' he' same => ?_⟩
    obtain rfl : e' = event := List.mem_singleton.1 he'
    exact new (same ▸ he)

theorem keys_detach (h : (t.map Prod.fst).Nodup) (event : UInt32) :
    ((((Edit.detach event).apply t).2).map Prod.fst).Nodup := by
  rw [apply_detach]
  split
  · exact h
  · exact h.sublist (List.filter_sublist.map Prod.fst)

theorem Follows.apply (h : Follows t edits) (e : Edit η) :
    Follows (e.apply t).2 (edits ++ [e]) := by
  cases e with
  | attach e k =>
    refine ⟨keys_attach h.keys e k, fun event => ?_⟩
    rw [standing_attach, ← h.handler event]
    exact handler?_attach t e k event
  | detach e =>
    refine ⟨keys_detach h.keys e, fun event => ?_⟩
    rw [standing_detach, ← h.handler event]
    exact handler?_detach t e event

/-! ## Dispatch -/

/-- After some calls a frame is for a handler: it decodes, its event has that handler, and the
handler is called with the header's source and event, and with the payload that the header declares,
all of it and nothing behind it. -/
def IsFor (edits : List (Edit η)) (f : Frame) (k : η) (what : Received) : Prop :=
  ∃ header rest, EventFrame.decode f = .ok (header, rest) ∧ standing edits header.event = some k ∧
    what.source = header.source ∧ what.event = header.event ∧
    what.payload = (f.window.drop EventFrame.headerSize).take header.length.toNat ∧
    what.payload.length = header.length.toNat

theorem dispatch_eq_some_iff (h : Follows t edits) {f : Frame} {k : η} {what : Received} :
    t.dispatch f = some (k, what) ↔ IsFor edits f k what := by
  unfold dispatch IsFor
  cases hd : EventFrame.decode f with
  | error e => simp
  | ok decoded =>
    obtain ⟨header, rest⟩ := decoded
    obtain ⟨window, long⟩ := EventFrame.window_of_decode hd
    have payload : EventFrame.payload header rest =
        (f.window.drop EventFrame.headerSize).take header.length.toNat := by
      rw [EventFrame.payload, window]
    have length : (EventFrame.payload header rest).length = header.length.toNat := by
      rw [EventFrame.payload, List.length_take_of_le long]
    simp only [h.handler, Option.map_eq_some_iff, Prod.mk.injEq, Except.ok.injEq]
    constructor
    · rintro ⟨k, hk, rfl, rfl⟩
      exact ⟨header, rest, ⟨rfl, rfl⟩, hk, rfl, rfl, payload, length⟩
    · rintro ⟨_, _, ⟨rfl, rfl⟩, hk, source, event, bytes, -⟩
      refine ⟨k, hk, rfl, ?_⟩
      rw [payload, ← source, ← event, ← bytes]

/-- A frame is for a handler if it decodes and its event has one. -/
theorem exists_isFor_iff {f : Frame} : (∃ k what, IsFor edits f k what) ↔
    ∃ header rest, EventFrame.decode f = .ok (header, rest) ∧
      (standing edits header.event).isSome := by
  constructor
  · rintro ⟨k, what, header, rest, hd, hk, -⟩
    exact ⟨header, rest, hd, by rw [hk]; rfl⟩
  · rintro ⟨header, rest, hd, hk⟩
    obtain ⟨k, hk⟩ := Option.isSome_iff_exists.1 hk
    obtain ⟨window, long⟩ := EventFrame.window_of_decode hd
    refine ⟨k, ⟨header.source, header.event, _⟩, header, rest, hd, hk, rfl, rfl, rfl, ?_⟩
    rw [← window, List.length_take_of_le long]

/-- A frame is for one handler at most, and for one call of it. -/
theorem IsFor.unique {f : Frame} {k k' : η} {what what' : Received} (h : IsFor edits f k what)
    (h' : IsFor edits f k' what') : (k', what') = (k, what) := by
  obtain ⟨header, rest, hd, hk, source, event, payload, -⟩ := h
  obtain ⟨header', rest', hd', hk', source', event', payload', -⟩ := h'
  cases hd.symm.trans hd'
  cases hk.symm.trans hk'
  obtain ⟨_, _, _⟩ := what
  obtain ⟨_, _, _⟩ := what'
  simp_all

end EventTable

end FrameBus
