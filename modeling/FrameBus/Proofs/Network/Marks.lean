import FrameBus.Proofs.Network.Moves
import Mathlib.Logic.Relation

/-!
# The frames of one send

Frames are marked that came of one send (`Marked`): those that the send put anywhere, and those that
a gateway put anywhere when it handled a marked frame. A worker that takes a frame takes its mark
with it. Whatever else happens on the network puts unmarked frames there, and so does a session's
answer, which is a send of its own.

A step either leaves to every gateway's workers the marked frames that they have before them, or is
the handling of one marked frame (`Marked.Passed`).
-/

namespace FrameBus

namespace Network

/-- What others do on a network meanwhile: events of any session, frames from any port, and bytes
that come over a link. -/
inductive Traffic : Network → Network → Prop
  | event {n m : Network} (s : Sender) (dest : PortId) (event : UInt32) (payload : List UInt8)
      (result : Except BusError Unit) :
      n.sendEvent s dest event payload = some (result, m) → Traffic n m
  | broadcastEvent {n m : Network} (s : Sender) (event : UInt32) (payload : List UInt8)
      (result : Except BusError Nat) :
      n.broadcastEvent s event payload = some (result, m) → Traffic n m
  | frame {n : Network} (i : Nat) (sender : Handle) (dest : PortId) (f : Frame)
      (r : Registry Reaction) : (n.node i).send sender dest f = .sent r → Traffic n (n.setNode i r)
  | broadcast {n : Network} (i : Nat) (sender : Handle) (f : Frame)
      (o : Registry.Outcome Reaction) :
      (n.node i).broadcast Reaction.run sender f = some (.ok o) → Traffic n (n.setNode i o.after)
  | bytes {n m : Network} (g : Nat) (bytes : List UInt8) (result : Except BusError Unit) :
      hear (.gateway g) bytes n = some (result, m) → Traffic n m

theorem extends_traffic {n m : Network} (hc : Copies n) (h : Traffic n m) : Extends n m := by
  cases h with
  | event s dest event payload result h => exact extends_sendEvent h
  | broadcastEvent s event payload result h => exact extends_broadcastEvent (hc.copiesAt s.node) h
  | frame i sender dest f r h =>
    obtain ⟨target, ha⟩ := Registry.adds_send h
    exact ⟨_, adds_setNode ha⟩
  | broadcast i sender f o h => exact extends_broadcast (hc.copiesAt i) h
  | bytes g bytes result h => exact extends_hear h

/-- A gateway's worker passes on what it handles; a session's worker answers by sends of its own. -/
def Move.passesOn : Move → Bool
  | .uplink _ | .downlink _ => true
  | .session _ | .socket _ => false

end Network

open Network (Move)

structure Marked where
  net : Network
  /-- which of the frames at a place came of the send -/
  marks : Place → List Bool
  /-- the network before and after the send, and before and after one of its frames was handled -/
  changes : List (Network × Network)

namespace Marked

/-! ## Steps -/

/-- The marks at a place when the new frames there get one mark. -/
def grow (M : Marked) (m : Network) (mark : Bool) (p : Place) : List Bool :=
  M.marks p ++ List.replicate ((m.frames p).length - (M.net.frames p).length) mark

/-- A send of which nothing was there before. -/
def start (n m : Network) : Marked where
  net := m
  marks := grow ⟨n, fun p => List.replicate (n.frames p).length false, []⟩ m true
  changes := [(n, m)]

/-- Something else happens. -/
def other (M : Marked) (m : Network) : Marked := { M with net := m, marks := M.grow m false }

/-- A worker takes a frame. -/
def take (M : Marked) (mv : Move) (m : Network) : Marked where
  net := m
  marks p :=
    if p = .hand mv then (M.marks (M.net.source mv)).take 1
    else if p = M.net.source mv then (M.marks p).drop 1
    else M.marks p
  changes := M.changes

/-- A worker handles the frame in its hand. -/
def handle (M : Marked) (mv : Move) (m : Network) : Marked :=
  let mark := mv.passesOn && (M.marks (.hand mv)).contains true
  { net := m
    marks := fun p => if p = .hand mv then [] else M.grow m mark p
    changes := if mark then M.changes ++ [(M.net, m)] else M.changes }

/-- A worker moves. -/
def move (M : Marked) (mv : Move) (m : Network) : Marked :=
  match M.net.frames (.hand mv), m.frames (.hand mv) with
  | [], [] => M.other m
  | [], _ :: _ => M.take mv m
  | _ :: _, _ => M.handle mv m

inductive Step : Marked → Marked → Prop
  | move {M : Marked} {mv : Move} {m : Network} : M.net.move mv = some m → Step M (M.move mv m)
  | other {M : Marked} {m : Network} : M.net.Traffic m → Step M (M.other m)

/-- What any number of steps, in any order, can come to. -/
abbrev Reaches : Marked → Marked → Prop := Relation.ReflTransGen Step

/-- To make moves until there is none to make is one order of them. -/
theorem reaches_settle (fuel : Nat) (M : Marked) :
    ∃ N, M.Reaches N ∧ N.net = M.net.settle fuel := by
  induction fuel generalizing M with
  | zero => exact ⟨M, .refl, rfl⟩
  | succ fuel ih =>
    cases h : M.net.moves.findSome? M.net.move with
    | none => exact ⟨M, .refl, by rw [Network.settle, h]⟩
    | some m =>
      obtain ⟨mv, _, hmv⟩ := List.exists_of_findSome?_eq_some h
      have net : (M.move mv m).net = m := by
        unfold move
        split <;> rfl
      obtain ⟨N, run, hN⟩ := ih (M.move mv m)
      exact ⟨N, .head (.move hmv) run, by rw [hN, net, Network.settle, h]⟩

/-! ## What came of the send -/

/-- The frames of the send that were put at a place so far. -/
def given (M : Marked) (p : Place) : List Frame :=
  M.changes.flatMap fun c => (c.2.frames p).drop (c.1.frames p).length

/-- What was written down of the frames of the send: the latest first in each part. -/
def happenings (M : Marked) : List Happening :=
  M.changes.flatMap fun c => c.2.log.take (c.2.log.length - c.1.log.length)

/-- Handling the frames of the send, no gateway counts a drop. -/
def Undropped (M : Marked) : Prop := ∀ c ∈ M.changes, c.2.drops = c.1.drops

/-- How many marked frames are at a place. -/
def count (M : Marked) (p : Place) : Nat := (M.marks p).count true

/-- How many marked frames a worker has before it, in its queue and in its hand. -/
def held (M : Marked) (mv : Move) : Nat := M.count (M.net.source mv) + M.count (.hand mv)

/-! ## What a step keeps -/

/-- Every frame has its mark, and the marked ones are what the send and the gateways make of them at
their places. -/
structure Fits (P : Place → Frame → Prop) (M : Marked) : Prop where
  aligned : ∀ p, (M.marks p).length = (M.net.frames p).length
  marked : ∀ p f, (f, true) ∈ (M.net.frames p).zip (M.marks p) → P p f

section

variable {P : Place → Frame → Prop} {M N : Marked} {m : Network}

/-- New frames at a place get the mark that new frames get. -/
theorem zip_grow {p : Place} {new : List Frame} (ha : (M.marks p).length = (M.net.frames p).length)
    (hn : m.frames p = M.net.frames p ++ new) (mark : Bool) :
    M.grow m mark p = M.marks p ++ List.replicate new.length mark ∧
      (m.frames p).zip (M.grow m mark p) =
        (M.net.frames p).zip (M.marks p) ++ new.map fun f => (f, mark) := by
  have e : M.grow m mark p = M.marks p ++ List.replicate new.length mark := by
    rw [grow, hn, List.length_append, Nat.add_sub_cancel_left]
  refine ⟨e, ?_⟩
  rw [e, hn, List.zip_append ha.symm]
  congr 1
  clear e hn
  induction new with
  | nil => rfl
  | cons f new ih => simp [List.replicate_succ, ih]

theorem fits_other (hM : M.Fits P) (h : M.net.Extends m) : (M.other m).Fits P := by
  obtain ⟨out, h⟩ := h
  refine ⟨fun p => ?_, fun p f hf => ?_⟩
  · obtain ⟨e, _⟩ := zip_grow (hM.aligned p) (h.frames p) false
    show (M.grow m false p).length = (m.frames p).length
    rw [e, h.frames]
    simp [hM.aligned p]
  · obtain ⟨_, e⟩ := zip_grow (hM.aligned p) (h.frames p) false
    have hf : (f, true) ∈ (m.frames p).zip (M.grow m false p) := hf
    rw [e] at hf
    rcases List.mem_append.1 hf with hf | hf
    · exact hM.marked p f hf
    · simp at hf

theorem count_other (hM : M.Fits P) (h : M.net.Extends m) (p : Place) :
    (M.other m).count p = M.count p := by
  obtain ⟨out, h⟩ := h
  obtain ⟨e, _⟩ := zip_grow (hM.aligned p) (h.frames p) false
  show (M.grow m false p).count true = _
  rw [e, List.count_append, List.count_replicate]
  simp [count]

/-- The frame that a worker takes, with its mark. -/
theorem fits_take (hM : M.Fits P) {mv : Move} {f : Frame}
    (idle : M.net.frames (.hand mv) = []) (taken : m.frames (.hand mv) = [f])
    (queue : M.net.frames (M.net.source mv) = f :: m.frames (M.net.source mv))
    (others : ∀ p, p ≠ .hand mv → p ≠ M.net.source mv → m.frames p = M.net.frames p)
    (carry : P (M.net.source mv) f → P (.hand mv) f) :
    (M.take mv m).Fits P ∧
      (M.take mv m).count (M.net.source mv) + (M.take mv m).count (.hand mv) =
        M.count (M.net.source mv) + M.count (.hand mv) ∧
      ∀ p, p ≠ .hand mv → p ≠ M.net.source mv → (M.take mv m).count p = M.count p := by
  have hne : M.net.source mv ≠ .hand mv := by
    intro h
    rw [h, idle] at queue
    cases queue
  obtain ⟨b, bs, hb⟩ : ∃ b bs, M.marks (M.net.source mv) = b :: bs := by
    have := hM.aligned (M.net.source mv)
    rw [queue] at this
    exact List.exists_cons_of_length_eq_add_one this
  have hand : (M.take mv m).marks (.hand mv) = [b] := by simp [take, hb]
  have src : (M.take mv m).marks (M.net.source mv) = bs := by simp [take, hne, hb]
  have rest (p : Place) (hp : p ≠ .hand mv) (hs : p ≠ M.net.source mv) :
      (M.take mv m).marks p = M.marks p := by simp [take, hp, hs]
  have before := hM.marked (M.net.source mv)
  rw [queue, hb] at before
  refine ⟨⟨fun p => ?_, fun p g hg => ?_⟩, ?_, fun p hp hs => ?_⟩
  · show _ = (m.frames p).length
    by_cases hp : p = .hand mv
    · rw [hp, hand, taken]
      rfl
    · by_cases hs : p = M.net.source mv
      · have := hM.aligned (M.net.source mv)
        rw [queue, hb] at this
        rw [hs, src]
        simpa using this
      · rw [rest p hp hs, others p hp hs, hM.aligned p]
  · have hg : (g, true) ∈ (m.frames p).zip ((M.take mv m).marks p) := hg
    by_cases hp : p = .hand mv
    · subst hp
      rw [hand, taken] at hg
      obtain ⟨rfl, rfl⟩ : g = f ∧ true = b := by simpa using hg
      exact carry (before g (by simp))
    · by_cases hs : p = M.net.source mv
      · subst hs
        rw [src] at hg
        exact before g (List.mem_cons_of_mem _ hg)
      · rw [rest p hp hs, others p hp hs] at hg
        exact hM.marked p g hg
  · have none : M.marks (.hand mv) = [] := by
      have := hM.aligned (.hand mv)
      rw [idle] at this
      exact List.length_eq_zero_iff.1 this
    simp only [count, hand, src, hb, none, List.count_cons, List.count_nil]
    omega
  · rw [count, rest p hp hs, count]

/-- A worker has handled a frame: what it put anywhere has the frame's mark. -/
theorem fits_handle (hM : M.Fits P) {mv : Move} {f : Frame} {out : List (Place × Frame)}
    (busy : M.net.frames (.hand mv) = [f]) (hand : m.frames (.hand mv) = [])
    (others : ∀ p, p ≠ .hand mv → m.frames p = M.net.frames p ++ arrivals out p)
    (passes : mv.passesOn = true → P (.hand mv) f → ∀ p g, (p, g) ∈ out → P p g) :
    (M.handle mv m).Fits P ∧
      (((M.handle mv m).changes = M.changes ∧
          (∀ p, p ≠ .hand mv → (M.handle mv m).count p = M.count p) ∧
          (mv.passesOn = true → M.count (.hand mv) = 0)) ∨
        mv.passesOn = true ∧ P (.hand mv) f ∧
          (M.handle mv m).changes = M.changes ++ [(M.net, m)] ∧ M.count (.hand mv) = 1 ∧
          ∀ p, p ≠ .hand mv →
            (M.handle mv m).count p = M.count p + (arrivals out p).length) ∧
      (M.handle mv m).count (.hand mv) = 0 := by
  obtain ⟨b, hb⟩ : ∃ b, M.marks (.hand mv) = [b] := by
    have := hM.aligned (.hand mv)
    rw [busy] at this
    exact List.length_eq_one_iff.1 this
  have before := hM.marked (.hand mv)
  rw [busy, hb] at before
  have contains : (M.marks (.hand mv)).contains true = b := by
    rw [hb]
    cases b <;> rfl
  have hand' : (M.handle mv m).marks (.hand mv) = [] := if_pos rfl
  have rest (p : Place) (hp : p ≠ .hand mv) : (M.handle mv m).marks p =
      M.marks p ++ List.replicate (arrivals out p).length (mv.passesOn && b) ∧
        (m.frames p).zip ((M.handle mv m).marks p) = (M.net.frames p).zip (M.marks p) ++
          (arrivals out p).map fun g => (g, mv.passesOn && b) := by
    have e : (M.handle mv m).marks p = M.grow m (mv.passesOn && b) p := by
      rw [← contains]
      exact if_neg hp
    rw [e]
    exact zip_grow (hM.aligned p) (others p hp) _
  have from' (h : (mv.passesOn && b) = true) : mv.passesOn = true ∧ P (.hand mv) f := by
    obtain ⟨hmv, rfl⟩ : mv.passesOn = true ∧ b = true := by simpa using h
    exact ⟨hmv, before f (by simp)⟩
  have fits : (M.handle mv m).Fits P := by
    refine ⟨fun p => ?_, fun p g hg => ?_⟩
    · show _ = (m.frames p).length
      by_cases hp : p = .hand mv
      · rw [hp, hand', hand]
        rfl
      · rw [(rest p hp).1, others p hp]
        simp [hM.aligned p]
    · have hg : (g, true) ∈ (m.frames p).zip ((M.handle mv m).marks p) := hg
      by_cases hp : p = .hand mv
      · rw [hp, hand] at hg
        cases hg
      · rw [(rest p hp).2] at hg
        rcases List.mem_append.1 hg with hg | hg
        · exact hM.marked p g hg
        · obtain ⟨x, hx, e⟩ := List.mem_map.1 hg
          obtain ⟨hmv, hf⟩ := from' (congrArg Prod.snd e)
          have hxg : x = g := congrArg Prod.fst e
          exact passes hmv hf p g (mem_arrivals.1 (hxg ▸ hx))
  refine ⟨fits, ?_, by rw [count, hand']; rfl⟩
  cases hmark : mv.passesOn && b with
  | true =>
    obtain ⟨hmv, hf⟩ := from' hmark
    have hbt : b = true := by simpa [hmv] using hmark
    refine .inr ⟨hmv, hf, ?_, by rw [count, hb, hbt]; rfl, fun p hp => ?_⟩
    · simp only [handle, contains, hmark, if_true]
    · rw [count, (rest p hp).1, List.count_append, hmark, List.count_replicate_self]
      rfl
  | false =>
    refine .inl ⟨?_, fun p hp => ?_, fun hmv => ?_⟩
    · simp only [handle, contains, hmark]
      rfl
    · rw [count, (rest p hp).1, List.count_append, hmark, List.count_replicate]
      simp [count]
    · have hbf : b = false := by simpa [hmv] using hmark
      rw [count, hb, hbf]
      rfl

/-- A gateway's worker handled a marked frame: `out` is what it put anywhere. -/
structure Passed (P : Place → Frame → Prop) (M N : Marked) (mv : Move) (f : Frame) (k : Network)
    (out : List (Place × Frame)) : Prop where
  passesOn : mv.passesOn = true
  fits : P (.hand mv) f
  handled : M.net.handling mv f = some k
  adds : M.net.Adds k out
  changes : N.changes = M.changes ++ [(M.net, N.net)]
  frames : ∀ p, p ≠ .hand mv → N.net.frames p = M.net.frames p ++ arrivals out p
  log : N.net.log = k.log
  drops : N.net.drops = k.drops
  before : M.count (.hand mv) = 1
  after : N.count (.hand mv) = 0
  count : ∀ p, p ≠ .hand mv → N.count p = M.count p + (arrivals out p).length

theorem source_of_blank {n m : Network} (h : m.blank = n.blank) (mv : Move) :
    m.source mv = n.source mv := by
  have key (k : Network) : k.source mv = k.blank.source mv := by
    cases mv with
    | uplink g =>
      simp only [Network.source, Network.blank, List.getElem?_map, Option.map_map]
      rfl
    | downlink g => rfl
    | session s =>
      simp only [Network.source, Network.blank, List.getElem?_map, Option.map_map]
      rfl
    | socket s => rfl
  rw [key, key n, h]

theorem eq_of_source_eq_hand {n : Network} {mv mv' : Move} (h : n.source mv = .hand mv') :
    mv = mv' := by
  cases mv with
  | uplink g =>
    cases hg : n.gateways[g]? with
    | none => simpa [Network.source, hg] using h
    | some gw => simp [Network.source, hg] at h
  | downlink g => cases h
  | session s =>
    cases hs : n.sessions[s]? with
    | none => simpa [Network.source, hs] using h
    | some ss => simp [Network.source, hs] at h
  | socket s => cases h; rfl

/-- A step leaves to every worker of a gateway the marked frames that it has before it, or one of
them handles one. -/
theorem step_spec (hc : M.net.Copies)
    (apart : ∀ mv mv', M.net.source mv = M.net.source mv' → mv = mv') (hM : M.Fits P)
    (carry : ∀ mv f, P (M.net.source mv) f → P (.hand mv) f)
    (passes : ∀ mv f k out, mv.passesOn = true → P (.hand mv) f → M.net.handling mv f = some k →
      M.net.Adds k out → ∀ p g, (p, g) ∈ out → P p g)
    (h : Step M N) :
    N.Fits P ∧ N.net.blank = M.net.blank ∧
      ((N.changes = M.changes ∧ ∀ mv, mv.passesOn = true → N.held mv = M.held mv) ∨
        ∃ mv f k out, Passed P M N mv f k out) := by
  have others {m : Network} (h : M.net.Extends m) :
      (M.other m).Fits P ∧ (M.other m).net.blank = M.net.blank ∧
        (((M.other m).changes = M.changes ∧
            ∀ mv, mv.passesOn = true → (M.other m).held mv = M.held mv) ∨
          ∃ mv f k out, Passed P M (M.other m) mv f k out) := by
    obtain ⟨out, ha⟩ := h
    refine ⟨fits_other hM ⟨out, ha⟩, ha.blank, .inl ⟨rfl, fun mv _ => ?_⟩⟩
    rw [held, held, count_other hM ⟨out, ha⟩, count_other hM ⟨out, ha⟩]
    rw [show (M.other m).net.source mv = M.net.source mv from source_of_blank ha.blank mv]
  cases h with
  | other h => exact others (Network.extends_traffic hc h)
  | @move mv m h =>
    cases Network.moved_of_move hc h with
    | rest idle still grows =>
      have e : M.move mv m = M.other m := by simp only [move, idle, still]
      rw [e]
      exact others grows
    | take f idle taken queue blank rest =>
      have e : M.move mv m = M.take mv m := by simp only [move, idle, taken]
      rw [e]
      obtain ⟨fits, sum, same⟩ := fits_take hM idle taken queue rest (carry mv f)
      refine ⟨fits, blank, .inl ⟨rfl, fun mv' _ => ?_⟩⟩
      have src : (M.take mv m).net.source mv' = M.net.source mv' := source_of_blank blank mv'
      rw [held, held, src]
      by_cases hmv : mv' = mv
      · rw [hmv, sum]
      · rw [same _ (fun h => hmv (eq_of_source_eq_hand h)) fun h => hmv (apart _ _ h),
          same _ (fun h => hmv (by simpa using h))
            fun h => hmv (eq_of_source_eq_hand h.symm).symm]
    | handle f k busy handled grows blank hand rest log drops =>
      have e : M.move mv m = M.handle mv m := by simp only [move, busy]
      rw [e]
      obtain ⟨out, ha⟩ := grows
      have frames : ∀ p, p ≠ .hand mv → m.frames p = M.net.frames p ++ arrivals out p :=
        fun p hp => by rw [rest p hp, ha.frames]
      obtain ⟨fits, cases, after⟩ := fits_handle hM busy hand frames fun hmv hf =>
        passes mv f k out hmv hf handled ha
      have blank : (M.handle mv m).net.blank = M.net.blank := blank.trans ha.blank
      refine ⟨fits, blank, ?_⟩
      rcases cases with ⟨changes, same, none⟩ | ⟨hmv, hf, changes, one, counts⟩
      · refine .inl ⟨changes, fun mv' hmv' => ?_⟩
        rw [held, held, source_of_blank blank]
        by_cases h : mv' = mv
        · subst h
          by_cases hs : M.net.source mv' = .hand mv'
          · rw [hs, after, none hmv']
          · rw [same _ hs, after, none hmv']
        · rw [same _ fun hs => h (eq_of_source_eq_hand hs), same _ fun hs => h (by simpa using hs)]
      · exact .inr ⟨mv, f, k, out, hmv, hf, handled, ha, changes, frames, log, drops, one, after,
          counts⟩

theorem given_of_passed {mv : Move} {f : Frame} {k : Network} {out : List (Place × Frame)}
    (h : Passed P M N mv f k out) {p : Place} (hp : p ≠ .hand mv) :
    N.given p = M.given p ++ arrivals out p := by
  simp [given, h.changes, h.frames p hp]

theorem happenings_of_passed {mv : Move} {f : Frame} {k : Network} {out : List (Place × Frame)}
    (h : Passed P M N mv f k out) {sent : List Happening} (hs : k.log = sent ++ M.net.log) :
    N.happenings = M.happenings ++ sent := by
  simp [happenings, h.changes, h.log, hs]

theorem undropped_of_passed {mv : Move} {f : Frame} {k : Network} {out : List (Place × Frame)}
    (h : Passed P M N mv f k out) (hd : k.drops = M.net.drops) (hM : M.Undropped) :
    N.Undropped := by
  intro c hc
  rw [h.changes] at hc
  rcases List.mem_append.1 hc with hc | hc
  · exact hM c hc
  · obtain rfl := List.mem_singleton.1 hc
    exact h.drops.trans hd

/-! ## Where it starts -/

/-- What a send put anywhere is marked, and nothing else. -/
theorem start_spec {n : Network} {out : List (Place × Frame)} (h : n.Adds m out)
    (hP : ∀ p f, (p, f) ∈ out → P p f) :
    (start n m).Fits P ∧ (∀ p, (start n m).count p = (arrivals out p).length) ∧
      ∀ p, (start n m).given p = arrivals out p := by
  have zip (p : Place) := zip_grow
    (M := ⟨n, fun p => List.replicate (n.frames p).length false, []⟩) (m := m)
    (List.length_replicate : _ = (n.frames p).length) (h.frames p) true
  refine ⟨⟨fun p => ?_, fun p f hf => ?_⟩, fun p => ?_, fun p => ?_⟩
  · show List.length (grow _ m true p) = (m.frames p).length
    rw [(zip p).1, h.frames]
    simp
  · have hf : (f, true) ∈ (m.frames p).zip (grow _ m true p) := hf
    rw [(zip p).2] at hf
    rcases List.mem_append.1 hf with hf | hf
    · have := (List.of_mem_zip hf).2
      simp at this
    · obtain ⟨g, hg, e⟩ := List.mem_map.1 hf
      have hgf : g = f := congrArg Prod.fst e
      exact hP p f (mem_arrivals.1 (hgf ▸ hg))
  · show List.count true (grow _ m true p) = _
    rw [(zip p).1, List.count_append, List.count_replicate, List.count_replicate_self]
    simp
  · simp [given, start, h.frames]

end

end Marked

end FrameBus
