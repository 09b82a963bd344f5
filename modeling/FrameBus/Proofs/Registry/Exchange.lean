import FrameBus.Proofs.Registry.Changes
import Mathlib.Data.List.Nodup
import Mathlib.Logic.Relation

/-!
# Sends beside each other

Any number of sends on a registry, each of two steps, with receives, changes of state, and ports
that are made and destroyed between them (`Exchange.Step`). A send is resolved to a port first, and
then waits until it can put its frame there:

    calling -> bound h -> put h
                       -> returned, if the port's queue was closed
            -> returned, if there is no port for it

With nobody else between them the two steps are the send of the registry (`send_of_resolved`).

The frames of the sends are told apart by the sends' places in the list of calls, whatever is in
them. What waits at a port and what was taken there are the frames that were put there, each once
and in that order (`Exchange.Conserved`). Every step keeps this (`conserved_of_step`).
-/

namespace FrameBus

namespace Exchange

/-- How far a send has come. -/
inductive Stage where
  | calling
  /-- the port is found; the frame is put there when there is room -/
  | bound (target : Handle)
  | put (target : Handle)
  /-- handed back, after a port was found or before -/
  | returned (target : Option Handle) (why : Rejected)

structure Call where
  sender : Handle
  dest : PortId
  frame : Frame
  stage : Stage := .calling

/-- A frame that was taken from a port. -/
structure Taken where
  port : Handle
  /-- the send that the frame came with -/
  call : Nat
  frame : Frame

end Exchange

/-- A registry with all sends on it. -/
structure Exchange (κ : Type) where
  registry : Registry κ
  calls : List Exchange.Call := []
  /-- the sends whose frames wait at a port, the oldest first -/
  marks : Handle → List Nat := fun _ => []
  /-- in the order in which they were taken -/
  taken : List Exchange.Taken := []

namespace Exchange

variable {κ : Type}

/-! ## Steps -/

/-- What the first part of a send comes to. -/
def Call.resolved (r : Registry κ) (c : Call) : Stage :=
  match r.resolve c.sender c.dest with
  | .ok h => .bound h
  | .error e => .returned none ⟨e, c.frame⟩

def setStage (x : Exchange κ) (i : Nat) (s : Stage) : Exchange κ :=
  { x with calls := x.calls.modify i fun c => { c with stage := s } }

/-- The frame of a call is put at a port. -/
def putAt (x : Exchange κ) (i : Nat) (h : Handle) (r : Registry κ) : Exchange κ :=
  { x.setStage i (.put h) with
    registry := r
    marks := fun k => if h = k then x.marks k ++ [i] else x.marks k }

/-- The oldest frame of a port is taken. -/
def takeFrom (x : Exchange κ) (h : Handle) (f : Frame) (r : Registry κ) : Exchange κ :=
  { x with
    registry := r
    marks := fun k => if h = k then (x.marks k).tail else x.marks k
    taken := x.taken ++ (x.marks h).head?.toList.map fun i => ⟨h, i, f⟩ }

inductive Step : Exchange κ → Exchange κ → Prop
  | change {x : Exchange κ} {r : Registry κ} : x.registry.Change r → Step x { x with registry := r }
  | call (x : Exchange κ) (sender : Handle) (dest : PortId) (frame : Frame) :
      Step x { x with calls := x.calls ++ [{ sender, dest, frame }] }
  | resolve {x : Exchange κ} {i : Nat} {c : Call} : x.calls[i]? = some c → c.stage = .calling →
      Step x (x.setStage i (c.resolved x.registry))
  | put {x : Exchange κ} {i : Nat} {c : Call} {h : Handle} {r : Registry κ} :
      x.calls[i]? = some c → c.stage = .bound h → x.registry.deliver h c.frame = .sent r →
      Step x (x.putAt i h r)
  | refuse {x : Exchange κ} {i : Nat} {c : Call} {h : Handle} {why : Rejected} :
      x.calls[i]? = some c → c.stage = .bound h → x.registry.deliver h c.frame = .returned why →
      Step x (x.setStage i (.returned (some h) why))
  | receive {x : Exchange κ} {h : Handle} {f : Frame} {r : Registry κ} :
      x.registry.receive h = (.item f, r) → Step x (x.takeFrom h f r)

/-- A send whose two parts have nothing between them. -/
theorem send_of_resolved {r : Registry κ} {c : Call} :
    (∀ h, c.resolved r = .bound h → r.send c.sender c.dest c.frame = r.deliver h c.frame) ∧
    (∀ h why, c.resolved r = .returned h why →
      r.send c.sender c.dest c.frame = .returned why) := by
  unfold Registry.send Call.resolved
  cases r.resolve c.sender c.dest with
  | ok h => exact ⟨fun _ e => by cases e; rfl, fun _ _ e => by cases e⟩
  | error e => exact ⟨(fun _ e => by cases e), fun _ _ e => by cases e; rfl⟩

def Reachable (config : QueueConfig) (x : Exchange κ) : Prop :=
  Relation.ReflTransGen Step { registry := .new config } x

/-! ## What is kept -/

/-- The port that the first part of a send came to. -/
def Stage.target? : Stage → Option Handle
  | .calling => none
  | .bound h => some h
  | .put h => some h
  | .returned h _ => h

def frame? (x : Exchange κ) (i : Nat) : Option Frame := (x.calls[i]?).map Call.frame

/-- The sends whose frames came to a port, the oldest first, whether they are still there or not. -/
def through (x : Exchange κ) (h : Handle) : List Nat :=
  (x.taken.filter fun t => t.port == h).map Taken.call ++ x.marks h

structure Conserved (x : Exchange κ) : Prop where
  /-- what waits at a port are the frames of the sends that have marks there -/
  frames : ∀ h, (x.registry.frames h).map some = (x.marks h).map x.frame?
  taken : ∀ t ∈ x.taken, x.frame? t.call = some t.frame
  nodup : ∀ h, (x.through h).Nodup
  put : ∀ h i, i ∈ x.through h ↔ ∃ c, x.calls[i]? = some c ∧ c.stage = .put h
  returned : ∀ (i : Nat) (c : Call) (h : Option Handle) (why : Rejected), x.calls[i]? = some c →
    c.stage = .returned h why → why.frame = c.frame ∧ (h.isSome → why.error = .queueClosed)
  known : ∀ (i : Nat) (c : Call) (h : Handle), x.calls[i]? = some c →
    c.stage.target? = some h → h < x.registry.ports.length

variable {x y : Exchange κ}

theorem getElem?_setStage (x : Exchange κ) (i : Nat) (s : Stage) (j : Nat) :
    (x.setStage i s).calls[j]? =
      if i = j then (x.calls[j]?).map fun c => { c with stage := s } else x.calls[j]? := by
  simp only [setStage, List.getElem?_modify]
  split <;> simp

theorem frame?_setStage (x : Exchange κ) (i : Nat) (s : Stage) (j : Nat) :
    (x.setStage i s).frame? j = x.frame? j := by
  rw [frame?, getElem?_setStage, frame?]
  split
  · cases x.calls[j]? <;> rfl
  · rfl

theorem call_of_setStage {i j : Nat} {c d : Call} {s : Stage} (hc : x.calls[i]? = some c)
    (hd : (x.setStage i s).calls[j]? = some d) :
    (j ≠ i ∧ x.calls[j]? = some d) ∨ (j = i ∧ d = { c with stage := s }) := by
  rw [getElem?_setStage] at hd
  split at hd
  · next same =>
    subst same
    rw [hc] at hd
    exact .inr ⟨rfl, (Option.some.inj hd).symm⟩
  · next other => exact .inl ⟨Ne.symm other, hd⟩

theorem through_putAt (x : Exchange κ) (i : Nat) (h : Handle) (r : Registry κ) (k : Handle) :
    (x.putAt i h r).through k = x.through k ++ if h = k then [i] else [] := by
  simp only [through, putAt, List.append_assoc]
  congr 1
  split
  · rfl
  · exact (List.append_nil _).symm

/-- A frame that is taken stays with those that came to its port. -/
theorem through_takeFrom {h : Handle} {i : Nat} {rest : List Nat} (hm : x.marks h = i :: rest)
    (f : Frame) (r : Registry κ) (k : Handle) : (x.takeFrom h f r).through k = x.through k := by
  simp only [through, takeFrom, hm, List.head?_cons, Option.toList_some, List.map_cons,
    List.map_nil, List.filter_append, List.map_append, List.append_assoc]
  congr 1
  by_cases hk : h = k
  · subst hk
    simp [hm]
  · simp [hk]

theorem conserved_new (config : QueueConfig) :
    Conserved ({ registry := .new config } : Exchange κ) := by
  refine ⟨fun _ => rfl, ?_, fun _ => List.nodup_nil, ?_, ?_, ?_⟩
  · simp
  · simp [through]
  · simp
  · simp

theorem conserved_of_still (h : Conserved x) {r : Registry κ} (still : x.registry.Still r) :
    Conserved { x with registry := r } where
  frames k := by
    rw [still.frames]
    exact h.frames k
  taken := h.taken
  nodup := h.nodup
  put := h.put
  returned := h.returned
  known i c k hc hk := Nat.lt_of_lt_of_le (h.known i c k hc hk) still.ports

theorem conserved_of_call (h : Conserved x) (sender : Handle) (dest : PortId) (frame : Frame) :
    Conserved { x with calls := x.calls ++ [{ sender, dest, frame }] } := by
  let new : Call := { sender, dest, frame }
  -- a call is an old one, or the new one, which has come nowhere
  have calls {i : Nat} {c : Call} (hc : (x.calls ++ [new])[i]? = some c) :
      x.calls[i]? = some c ∨ c.stage = .calling := by
    rw [List.getElem?_append] at hc
    split at hc
    · exact .inl hc
    · have same : c = new := by simpa using List.mem_of_getElem? hc
      exact .inr (by rw [same])
  have old {i : Nat} {c : Call} (hc : x.calls[i]? = some c) : (x.calls ++ [new])[i]? = some c := by
    rw [List.getElem?_append_left (List.getElem?_eq_some_iff.1 hc).1, hc]
  have frame {i : Nat} {f : Frame} (hf : x.frame? i = some f) :
      ((x.calls ++ [new])[i]?).map Call.frame = some f := by
    obtain ⟨c, hc, e⟩ := Option.map_eq_some_iff.1 hf
    rw [old hc, ← e]
    rfl
  refine ⟨fun k => ?_, fun t ht => frame (h.taken t ht), h.nodup, fun k i => ?_, ?_, ?_⟩
  · rw [h.frames]
    refine List.map_congr_left fun i hi => ?_
    obtain ⟨c, hc, -⟩ := (h.put k i).1 (List.mem_append_right _ hi)
    rw [frame? , hc]
    exact (frame (by rw [frame?, hc]; rfl)).symm
  · constructor
    · intro hi
      obtain ⟨c, hc, put⟩ := (h.put k i).1 hi
      exact ⟨c, old hc, put⟩
    · rintro ⟨c, hc, put⟩
      rcases calls hc with hc | calling
      · exact (h.put k i).2 ⟨c, hc, put⟩
      · rw [calling] at put
        cases put
  · intro i c k why hc returned
    rcases calls hc with hc | calling
    · exact h.returned i c k why hc returned
    · rw [calling] at returned
      cases returned
  · intro i c k hc target
    rcases calls hc with hc | calling
    · exact h.known i c k hc target
    · rw [calling] at target
      cases target

/-- A send that neither put its frame at a port nor puts it there now. -/
theorem conserved_setStage (h : Conserved x) {i : Nat} {c : Call} (hc : x.calls[i]? = some c)
    (before : ∀ k, c.stage ≠ .put k) {s : Stage} (after : ∀ k, s ≠ .put k)
    (returned : ∀ k why, s = .returned k why →
      why.frame = c.frame ∧ (k.isSome → why.error = .queueClosed))
    (known : ∀ k, s.target? = some k → k < x.registry.ports.length) :
    Conserved (x.setStage i s) := by
  refine ⟨fun k => ?_, fun t ht => ?_, h.nodup, fun k j => ?_, ?_, ?_⟩
  · rw [show (x.setStage i s).registry.frames k = x.registry.frames k from rfl, h.frames]
    exact List.map_congr_left fun j _ => (frame?_setStage x i s j).symm
  · rw [frame?_setStage]
    exact h.taken t ht
  · refine (h.put k j).trans ⟨?_, ?_⟩
    · rintro ⟨d, hd, put⟩
      refine ⟨d, ?_, put⟩
      rw [getElem?_setStage, if_neg, hd]
      rintro rfl
      cases hc.symm.trans hd
      exact before k put
    · rintro ⟨d, hd, put⟩
      rcases call_of_setStage hc hd with ⟨-, hd⟩ | ⟨-, rfl⟩
      · exact ⟨d, hd, put⟩
      · exact absurd put (after k)
  · intro j d k why hd hr
    rcases call_of_setStage hc hd with ⟨-, hd⟩ | ⟨-, rfl⟩
    · exact h.returned j d k why hd hr
    · exact returned k why hr
  · intro j d k hd target
    rcases call_of_setStage hc hd with ⟨-, hd⟩ | ⟨-, rfl⟩
    · exact h.known j d k hd target
    · exact known k target

theorem conserved_putAt (h : Conserved x) {i : Nat} {c : Call} {k : Handle} {r : Registry κ}
    (hc : x.calls[i]? = some c) (bound : c.stage = .bound k)
    (adds : x.registry.Adds r [(k, c.frame)]) : Conserved (x.putAt i k r) := by
  have frame : x.frame? i = some c.frame := by rw [frame?, hc]; rfl
  have fresh : i ∉ x.through k := by
    intro hi
    obtain ⟨d, hd, put⟩ := (h.put k i).1 hi
    cases hc.symm.trans hd
    rw [bound] at put
    cases put
  refine ⟨fun j => ?_, fun t ht => ?_, fun j => ?_, fun j m => ?_, ?_, ?_⟩
  · have same : (x.putAt i k r).frame? = x.frame? := funext fun m => frame?_setStage x i _ m
    rw [same, show (x.putAt i k r).registry.frames j = r.frames j from rfl, adds.frames,
      List.map_append, h.frames, arrivals_cons]
    show _ = List.map x.frame? (if k = j then x.marks j ++ [i] else x.marks j)
    split <;> simp [frame]
  · exact (frame?_setStage x i _ t.call).trans (h.taken t ht)
  · rw [through_putAt]
    split
    · next same =>
      subst same
      rw [List.nodup_append]
      refine ⟨h.nodup k, by simp, fun a ha b hb same => ?_⟩
      obtain rfl : b = i := List.mem_singleton.1 hb
      exact fresh (same ▸ ha)
    · rw [List.append_nil]
      exact h.nodup j
  · rw [through_putAt, List.mem_append, h.put]
    constructor
    · rintro (⟨d, hd, put⟩ | hm)
      · refine ⟨d, ?_, put⟩
        refine (getElem?_setStage x i _ m).trans ?_
        rw [if_neg, hd]
        rintro rfl
        cases hc.symm.trans hd
        rw [bound] at put
        cases put
      · split at hm
        · next same =>
          obtain rfl : m = i := List.mem_singleton.1 hm
          refine ⟨{ c with stage := .put k }, ?_, by rw [same]⟩
          refine (getElem?_setStage x m _ m).trans ?_
          rw [if_pos rfl, hc]
          rfl
        · cases hm
    · rintro ⟨d, hd, put⟩
      rcases call_of_setStage hc hd with ⟨-, hd⟩ | ⟨rfl, rfl⟩
      · exact .inl ⟨d, hd, put⟩
      · cases put
        simp
  · intro m d j why hd hr
    rcases call_of_setStage hc hd with ⟨-, hd⟩ | ⟨-, rfl⟩
    · exact h.returned m d j why hd hr
    · cases hr
  · intro m d j hd target
    show j < r.ports.length
    rw [Registry.length_ports_of_blank adds.blank]
    rcases call_of_setStage hc hd with ⟨-, hd⟩ | ⟨-, rfl⟩
    · exact h.known m d j hd target
    · exact h.known i c j hc (by rw [bound]; exact target)

/-- The frame that is taken is that of the oldest mark. -/
theorem Conserved.oldest_of_receive (h : Conserved x) {k : Handle} {f : Frame} {r : Registry κ}
    (hr : x.registry.receive k = (.item f, r)) :
    ∃ i rest, x.marks k = i :: rest ∧ x.frame? i = some f ∧
      rest.map x.frame? = (r.frames k).map some := by
  obtain ⟨-, head, -⟩ := Registry.item_of_receive hr
  have marked := h.frames k
  rw [head, List.map_cons] at marked
  exact List.map_eq_cons_iff.1 marked.symm

theorem conserved_takeFrom (h : Conserved x) {k : Handle} {f : Frame} {r : Registry κ}
    (hr : x.registry.receive k = (.item f, r)) : Conserved (x.takeFrom k f r) := by
  obtain ⟨blank, -, others⟩ := Registry.item_of_receive hr
  obtain ⟨i, rest, hm, hi, hrest⟩ := h.oldest_of_receive hr
  have through := through_takeFrom (x := x) hm f r
  refine ⟨fun j => ?_, fun t ht => ?_, fun j => ?_, fun j m => ?_, h.returned,
    fun m c j hc target => ?_⟩
  · show List.map some (r.frames j) =
      List.map x.frame? (if k = j then (x.marks j).tail else x.marks j)
    split
    · next same =>
      subst same
      rw [hm, List.tail_cons, hrest]
    · next other =>
      rw [others j other]
      exact h.frames j
  · have ht : t ∈ x.taken ++ [⟨k, i, f⟩] := by simpa [takeFrom, hm] using ht
    rcases List.mem_append.1 ht with ht | ht
    · exact h.taken t ht
    · rw [List.mem_singleton.1 ht]
      exact hi
  · rw [through]
    exact h.nodup j
  · rw [through]
    exact h.put j m
  · show j < r.ports.length
    rw [Registry.length_ports_of_blank blank]
    exact h.known m c j hc target

theorem conserved_of_step (h : Conserved x) (hs : Step x y) : Conserved y := by
  cases hs with
  | change hr => exact conserved_of_still h (Registry.still_of_change hr)
  | call sender dest frame => exact conserved_of_call h sender dest frame
  | @resolve i c hc calling =>
    have before (k : Handle) : c.stage ≠ .put k := by rw [calling]; rintro ⟨⟩
    cases hr : x.registry.resolve c.sender c.dest with
    | ok k =>
      have e : c.resolved x.registry = .bound k := by rw [Call.resolved, hr]
      rw [e]
      refine conserved_setStage h hc before (by rintro _ ⟨⟩) (by rintro _ _ ⟨⟩) fun j hj => ?_
      cases hj
      exact Registry.lt_of_resolve hr
    | error why =>
      have e : c.resolved x.registry = .returned none ⟨why, c.frame⟩ := by rw [Call.resolved, hr]
      rw [e]
      refine conserved_setStage h hc before (by rintro _ ⟨⟩) ?_ (by rintro _ ⟨⟩)
      rintro _ _ ⟨⟩
      exact ⟨rfl, by rintro ⟨⟩⟩
  | put hc bound sent => exact conserved_putAt h hc bound (Registry.adds_of_deliver sent).1
  | @refuse i c k why hc bound refused =>
    obtain rfl := Registry.returned_of_deliver refused
    refine conserved_setStage h hc (by rw [bound]; rintro _ ⟨⟩) (by rintro _ ⟨⟩) ?_ fun _ hk => ?_
    · rintro _ _ ⟨⟩
      exact ⟨rfl, fun _ => rfl⟩
    · exact h.known i c _ hc (by rw [bound]; exact hk)
  | receive hr => exact conserved_takeFrom h hr

theorem conserved_of_reachable {config : QueueConfig} (h : Reachable config x) : Conserved x := by
  induction h with
  | refl => exact conserved_new config
  | tail _ hs ih => exact conserved_of_step ih hs

end Exchange

end FrameBus
