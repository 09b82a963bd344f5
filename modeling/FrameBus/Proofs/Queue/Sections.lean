import FrameBus.Queue.Threads

/-!
# What one section does

The calls of the threads at a queue, the places where a thread may stand in its call (`Serves`), and
for each design the list of everything that one section can do (`Single.Section`,
`Double.Section`), guards included. What holds along every run is derived from these lists:

    Serves call s → q.advance s = some e → q.Section s e        (section_of_advance)

The second half says how the threads are counted before and after a section, whomever it notifies.
-/

namespace FrameBus.Queue

variable {α : Type}

/-! ## Standing in a call -/

/-- Where a thread may stand that made a call. -/
inductive Serves : Call α → Stand α → Prop
  | ready (call : Call α) : Serves call (.ready call)
  | parked {call : Call α} : call ≠ .close → Serves call (.parked call)
  | woken {call : Call α} : call ≠ .close → Serves call (.woken call)
  | expired : Serves (.pop true) (.expired (.pop true))
  | counting (a : α) : Serves (.push a) .counting
  | accepted (a : α) : Serves (.push a) (.done .accepted)
  /-- the item that comes back is the thread's own -/
  | rejected (a : α) : Serves (.push a) (.done (.rejected a))
  | crossing (timed : Bool) : Serves (.pop timed) (.crossing (.pop timed))
  | taking (timed : Bool) : Serves (.pop timed) .taking
  | uncounting (timed : Bool) (a : α) : Serves (.pop timed) (.uncounting a)
  | popped (timed : Bool) (a : α) : Serves (.pop timed) (.done (.popped a))
  | drained (timed : Bool) : Serves (.pop timed) (.done .drained)
  /-- only a call with a limited time runs out of it -/
  | timedOut : Serves (.pop true) (.done .timedOut)
  | closed : Serves .close (.done .closed)

theorem Serves.wake {call : Call α} {s : Stand α} (h : Serves call s) : Serves call s.wake := by
  cases h with
  | parked hc => exact .woken hc
  | _ => constructor <;> assumption

/-- The thread comes to its push, or comes back to it. -/
inductive Stand.Pushing (a : α) : Stand α → Prop
  | ready : Pushing a (.ready (.push a))
  | woken : Pushing a (.woken (.push a))

/-- The thread comes to its pop, or comes back to it. -/
inductive Stand.Popping (timed : Bool) : Stand α → Prop
  | ready : Popping timed (.ready (.pop timed))
  | woken : Popping timed (.woken (.pop timed))

/-- The thread comes to the back list with an empty front list. -/
inductive Stand.Crossing (timed : Bool) : Stand α → Prop
  | crossing : Crossing timed (.crossing (.pop timed))
  | woken : Crossing timed (.woken (.pop timed))

theorem Serves.eq_of_pushing {call : Call α} {s : Stand α} {a : α} (h : Serves call s)
    (hs : s.Pushing a) : call = .push a := by
  cases hs <;> cases h <;> rfl

theorem Serves.eq_of_popping {call : Call α} {s : Stand α} {timed : Bool} (h : Serves call s)
    (hs : s.Popping timed) : call = .pop timed := by
  cases hs <;> cases h <;> rfl

theorem Serves.eq_of_crossing {call : Call α} {s : Stand α} {timed : Bool} (h : Serves call s)
    (hs : s.Crossing timed) : call = .pop timed := by
  cases hs <;> cases h <;> rfl

/-! ## Sections -/

/-- Everything that a section at a single queue can do. -/
inductive Single.Section (q : Single α) : Stand α → Effect α → Prop
  | reject {s : Stand α} {a : α} : s.Pushing a → q.closed = true →
      Section q s { queue := .single q, stand := .done (.rejected a) }
  | parkPush {s : Stand α} {a : α} : s.Pushing a → q.closed = false → q.full = true →
      Section q s { queue := .single q, stand := .parked (.push a) }
  | append {s : Stand α} {a : α} : s.Pushing a → q.closed = false → q.full = false →
      Section q s
        { queue := .single (q.append a), stand := .done .accepted, signal := .oneConsumer,
          accepted := [a] }
  | take {s : Stand α} {timed : Bool} {a : α} {rest : List α} :
      s.Popping timed ∨ s = .expired (.pop true) → q.items = a :: rest →
      Section q s
        { queue := .single { q with items := rest }, stand := .done (.popped a), handed := [a],
          signal := if q.capacity.isSome then .oneProducer else .nobody }
  | drain {s : Stand α} {timed : Bool} : s.Popping timed → q.items = [] → q.closed = true →
      Section q s { queue := .single q, stand := .done .drained }
  | parkPop {s : Stand α} {timed : Bool} : s.Popping timed → q.items = [] → q.closed = false →
      Section q s { queue := .single q, stand := .parked (.pop timed) }
  | timeOut : q.items = [] →
      Section q (.expired (.pop true)) { queue := .single q, stand := .done .timedOut }
  | close :
      Section q (.ready .close)
        { queue := .single q.close, stand := .done .closed, signal := .everyone }

/-- Everything that a section at a double queue can do. -/
inductive Double.Section (q : Double α) : Stand α → Effect α → Prop
  | reject {s : Stand α} {a : α} : s.Pushing a → q.closed = true →
      Section q s { queue := .double q, stand := .done (.rejected a) }
  | parkPush {s : Stand α} {a : α} : s.Pushing a → q.closed = false → q.full = true →
      Section q s { queue := .double q, stand := .parked (.push a) }
  | stage {s : Stand α} {a : α} : s.Pushing a → q.closed = false → q.full = false →
      Section q s { queue := .double (q.stage a), stand := .counting, accepted := [a] }
  | count :
      Section q .counting
        { queue := .double q.countUp, stand := .done .accepted, signal := .oneConsumer }
  | take {s : Stand α} {timed : Bool} {a : α} {rest : List α} :
      s = .ready (.pop timed) ∨ s = .taking → q.front = a :: rest →
      Section q s
        { queue := .double { q with front := rest }, stand := .uncounting a, handed := [a] }
  | cross {timed : Bool} : q.front = [] →
      Section q (.ready (.pop timed)) { queue := .double q, stand := .crossing (.pop timed) }
  | swap {s : Stand α} {timed : Bool} :
      s.Crossing timed ∨ s = .expired (.pop true) → q.back ≠ [] →
      Section q s
        { queue := .double q.swap, stand := .taking,
          signal := if q.full then .allProducers else .nobody }
  | drain {s : Stand α} {timed : Bool} : s.Crossing timed → q.back = [] → q.closed = true →
      Section q s { queue := .double q, stand := .done .drained }
  | parkPop {s : Stand α} {timed : Bool} : s.Crossing timed → q.back = [] → q.closed = false →
      Section q s { queue := .double q, stand := .parked (.pop timed) }
  | timeOut : q.back = [] →
      Section q (.expired (.pop true)) { queue := .double q, stand := .done .timedOut }
  | miss : q.front = [] → Section q .taking { queue := .double q, stand := .done .timedOut }
  | uncount {a : α} :
      Section q (.uncounting a) { queue := .double q.countDown, stand := .done (.popped a) }
  | close :
      Section q (.ready .close)
        { queue := .double q.close, stand := .done .closed, signal := .everyone }

theorem Single.take?_eq_none {q : Single α} (h : q.take? = none) : q.items = [] := by
  obtain ⟨_ | ⟨a, rest⟩, closed, capacity⟩ := q
  · rfl
  · cases h

theorem Single.take?_eq_some {q r : Single α} {a : α} (h : q.take? = some (a, r)) :
    ∃ rest, q.items = a :: rest ∧ r = { q with items := rest } := by
  obtain ⟨_ | ⟨b, rest⟩, closed, capacity⟩ := q
  · cases h
  · cases h
    exact ⟨rest, rfl, rfl⟩

theorem Double.takeFront?_eq_none {q : Double α} (h : q.takeFront? = none) : q.front = [] := by
  obtain ⟨_ | ⟨a, rest⟩, back, total, closed, capacity⟩ := q
  · rfl
  · cases h

theorem Double.takeFront?_eq_some {q r : Double α} {a : α} (h : q.takeFront? = some (a, r)) :
    ∃ rest, q.front = a :: rest ∧ r = { q with front := rest } := by
  obtain ⟨_ | ⟨b, rest⟩, back, total, closed, capacity⟩ := q
  · cases h
  · cases h
    exact ⟨rest, rfl, rfl⟩

namespace Single

theorem section_of_push {q : Single α} {s : Stand α} {e : Effect α} {a : α} (hs : s.Pushing a)
    (h : q.advance s = some e) : q.Section s e := by
  cases hs <;>
  · simp only [advance] at h
    split at h
    · next hc => cases h; exact .reject (by constructor) hc
    · next hc =>
      have hc' : q.closed = false := by simpa using hc
      split at h
      · next hf => cases h; exact .parkPush (by constructor) hc' hf
      · next hf => cases h; exact .append (by constructor) hc' (by simpa using hf)

theorem section_of_pop {q : Single α} {s : Stand α} {e : Effect α} {timed : Bool}
    (hs : s.Popping timed) (h : q.advance s = some e) : q.Section s e := by
  cases hs <;>
  · simp only [advance] at h
    split at h
    · next ht =>
      obtain ⟨rest, hi, rfl⟩ := take?_eq_some ht
      cases h
      exact .take (.inl (by constructor)) hi
    · next ht =>
      have hi := take?_eq_none ht
      cases h
      cases hc : q.closed with
      | true => exact .drain (by constructor) hi hc
      | false => exact .parkPop (by constructor) hi hc

theorem section_of_advance {q : Single α} {call : Call α} {s : Stand α} {e : Effect α}
    (hs : Serves call s) (h : q.advance s = some e) : q.Section s e := by
  cases hs with
  | ready =>
    cases call with
    | push a => exact section_of_push .ready h
    | pop timed => exact section_of_pop .ready h
    | close => cases h; exact .close
  | woken hc =>
    cases call with
    | push a => exact section_of_push .woken h
    | pop timed => exact section_of_pop .woken h
    | close => exact absurd rfl hc
  | expired =>
    simp only [advance] at h
    split at h
    · next ht =>
      obtain ⟨rest, hi, rfl⟩ := take?_eq_some ht
      cases h
      exact .take (.inr rfl : Stand.Popping true _ ∨ _) hi
    · next ht => cases h; exact .timeOut (take?_eq_none ht)
  | _ => cases h

end Single

namespace Double

theorem section_of_push {q : Double α} {s : Stand α} {e : Effect α} {a : α} (hs : s.Pushing a)
    (h : q.advance s = some e) : q.Section s e := by
  cases hs <;>
  · simp only [advance] at h
    split at h
    · next hc => cases h; exact .reject (by constructor) hc
    · next hc =>
      have hc' : q.closed = false := by simpa using hc
      split at h
      · next hf => cases h; exact .parkPush (by constructor) hc' hf
      · next hf => cases h; exact .stage (by constructor) hc' (by simpa using hf)

theorem section_of_cross {q : Double α} {s : Stand α} {timed : Bool} (hs : s.Crossing timed) :
    q.Section s (q.cross (if q.closed then .done .drained else .parked (.pop timed))) := by
  rw [cross]
  split
  · next hb =>
    have hb' : q.back = [] := List.isEmpty_iff.1 hb
    cases hc : q.closed with
    | true => exact .drain hs hb' hc
    | false => exact .parkPop hs hb' hc
  · next hb => exact .swap (.inl hs) (by simpa using hb)

theorem section_of_advance {q : Double α} {call : Call α} {s : Stand α} {e : Effect α}
    (hs : Serves call s) (h : q.advance s = some e) : q.Section s e := by
  cases hs with
  | ready =>
    cases call with
    | push a => exact section_of_push .ready h
    | pop timed =>
      simp only [advance] at h
      split at h
      · next ht =>
        obtain ⟨rest, hf, rfl⟩ := takeFront?_eq_some ht
        cases h
        exact .take (.inl rfl : _ = Stand.ready (.pop timed) ∨ _) hf
      · next ht => cases h; exact .cross (takeFront?_eq_none ht)
    | close => cases h; exact .close
  | woken hc =>
    cases call with
    | push a => exact section_of_push .woken h
    | pop timed => cases h; exact section_of_cross .woken
    | close => exact absurd rfl hc
  | crossing timed => cases h; exact section_of_cross .crossing
  | expired =>
    cases h
    rw [cross]
    split
    · next hb => exact .timeOut (List.isEmpty_iff.1 hb)
    · next hb => exact .swap (.inr rfl : Stand.Crossing true _ ∨ _) (by simpa using hb)
  | counting => cases h; exact .count
  | taking timed =>
    simp only [advance] at h
    split at h
    · next ht =>
      obtain ⟨rest, hf, rfl⟩ := takeFront?_eq_some ht
      cases h
      exact .take (.inr rfl : _ = Stand.ready (.pop timed) ∨ _) hf
    · next ht => cases h; exact .miss (takeFront?_eq_none ht)
  | uncounting => cases h; exact .uncount
  | _ => cases h

end Double

/-! ## Threads before and after -/

namespace World

theorem run_eq_some {w v : World α} {t pick : Nat} (h : w.run t pick = some v) :
    ∃ s e, w.threads[t]? = some s ∧ w.unlocked s = true ∧ advance w.queue s = some e ∧
      v = ⟨e.queue, notify pick (w.threads.set t e.stand) e.signal, w.accepted ++ e.accepted,
        w.handed ++ e.handed⟩ := by
  simp only [run, Option.bind_eq_bind, Option.bind_eq_some_iff] at h
  obtain ⟨s, hs, h⟩ := h
  split at h
  · next hu =>
    obtain ⟨e, he, h⟩ := Option.bind_eq_some_iff.1 h
    cases h
    exact ⟨s, e, hs, hu, he, rfl⟩
  · cases h

theorem expire_eq_some {w v : World α} {t : Nat} (h : w.expire t = some v) :
    w.threads[t]? = some (.parked (.pop true)) ∧
      v = { w with threads := w.threads.set t (.expired (.pop true)) } := by
  unfold expire at h
  split at h
  · next ht => cases h; exact ⟨ht, rfl⟩
  · cases h

/-- A notification changes nothing that a parked thread and a woken one have in common. -/
theorem map_notify {β : Type} {f : Stand α → β} (hf : ∀ s, f s.wake = f s) (pick : Nat)
    (l : List (Stand α)) (signal : Signal) : (notify pick l signal).map f = l.map f := by
  have one (kind : Stand α → Bool) (n : Nat) : (wakeOne kind n l).map f = l.map f := by
    induction l generalizing n with
    | nil => rfl
    | cons s rest ih =>
      unfold wakeOne
      split
      · split <;> simp [hf, ih]
      · simp [ih]
  cases signal with
  | nobody => rfl
  | oneConsumer => exact one _ _
  | oneProducer => exact one _ _
  | allProducers =>
    simp only [notify, List.map_map]
    apply List.map_congr_left
    intro s _
    simp only [Function.comp]
    split
    · exact hf s
    · rfl
  | everyone =>
    simp only [notify, List.map_map]
    exact List.map_congr_left fun s _ => hf s

theorem countP_notify {p : Stand α → Bool} (hp : ∀ s, p s.wake = p s) (pick : Nat)
    (l : List (Stand α)) (signal : Signal) : (notify pick l signal).countP p = l.countP p := by
  have h := congrArg (List.countP id) (map_notify hp pick l signal)
  simpa [List.countP_map] using h

/-- Counting threads of a kind before and after one of them moves. -/
theorem countP_set {p : Stand α → Bool} {l : List (Stand α)} {t : Nat} {s : Stand α}
    (h : l[t]? = some s) (e : Stand α) :
    (l.set t e).countP p + (p s).toNat = l.countP p + (p e).toNat := by
  induction l generalizing t with
  | nil => simp at h
  | cons a rest ih =>
    cases t with
    | zero =>
      simp only [List.getElem?_cons_zero, Option.some.injEq] at h
      subst h
      simp only [List.set_cons_zero, List.countP_cons]
      cases p a <;> cases p e <;> simp
    | succ t =>
      have := ih (by simpa using h)
      simp only [List.set_cons_succ, List.countP_cons]
      omega

/-- Counting threads of a kind that notifications do not change, before and after a section. -/
theorem countP_section {p : Stand α → Bool} (hp : ∀ s, p s.wake = p s) {l : List (Stand α)}
    {t : Nat} {s : Stand α} (h : l[t]? = some s) (pick : Nat) (e : Stand α) (signal : Signal) :
    (notify pick (l.set t e) signal).countP p + (p s).toNat = l.countP p + (p e).toNat := by
  rw [countP_notify hp, countP_set h]

end World

end FrameBus.Queue
