import FrameBus.Proofs.Network.Passage

/-!
# A send on its way through a mesh

What becomes of a send is told by where its frames may be and by what the gateways make of one of
them (`Marked.Ruled`). On a mesh a rule carries every run: each step leaves to the gateways the
frames of the send that they have, or one of their workers passes a frame on by the rule
(`Marked.step_traced`). What both keep holds on the whole run (`Marked.invariant_of_reaches`).
-/

namespace FrameBus

namespace Network

/-- The gateways have nothing to do: their queues are empty, and the hands of their workers. -/
def Drained (n : Network) : Prop :=
  ∀ mv : Move, mv.passesOn = true → n.frames (n.source mv) = [] ∧ n.frames (.hand mv) = []

variable {n m : Network} {out more : List (Place × Frame)}

/-- What was added is known from what is there. -/
theorem Adds.arrivals_eq (h : Adds n m out) (h' : Adds n m more) (p : Place) :
    arrivals out p = arrivals more p :=
  List.append_cancel_left ((h.frames p).symm.trans (h'.frames p))

theorem Adds.mem_of_mem (h : Adds n m out) (h' : Adds n m more) {p : Place} {f : Frame}
    (hf : (p, f) ∈ out) : (p, f) ∈ more :=
  mem_arrivals.1 (h.arrivals_eq h' p ▸ mem_arrivals.2 hf)

/-- A worker that is not there has no frame. -/
theorem frames_hand_of_source {mv : Move} (h : n.source mv = .hand mv) :
    n.frames (.hand mv) = [] := by
  cases mv with
  | uplink g =>
    cases hg : n.gateways[g]? with
    | none => simp [frames, worker?, hg]
    | some gw => simp [source, hg] at h
  | downlink g => cases h
  | session s =>
    cases hs : n.sessions[s]? with
    | none => simp [frames, worker?, hs]
    | some ss => simp [source, hs] at h
  | socket s => rfl

theorem drained_iff : n.Drained ↔ ∀ g < n.gateways.length, ∀ mv ∈ [Move.uplink g, .downlink g],
    n.frames (n.source mv) = [] ∧ n.frames (.hand mv) = [] := by
  constructor
  · intro h g _ mv hmv
    simp only [List.mem_cons, List.not_mem_nil, or_false] at hmv
    rcases hmv with rfl | rfl
    · exact h _ rfl
    · exact h _ rfl
  · intro h mv hmv
    -- a gateway that is not there has no worker, and no queue
    have none {g : Nat} (hg : ¬ g < n.gateways.length) : n.gateways[g]? = none :=
      List.getElem?_eq_none (Nat.le_of_not_lt hg)
    cases mv with
    | uplink g =>
      by_cases hg : g < n.gateways.length
      · exact h g hg _ (by simp)
      · simp [source, frames, worker?, none hg]
    | downlink g =>
      by_cases hg : g < n.gateways.length
      · exact h g hg _ (by simp)
      · simp [source, frames, worker?, none hg]
    | session s => cases hmv
    | socket s => cases hmv

instance : Decidable n.Drained := decidable_of_iff _ drained_iff.symm

end Network

open Network (Move)

namespace Marked

/-- What a gateway's worker makes of a frame of the send in its hand: the frames that it puts
anywhere, and what is written down. -/
abbrev Rule := Move → List (Place × Frame) → List Happening → Prop

/-- The gateways treat the frames of a send by a rule, which keeps them where they may be. -/
structure Ruled (n : Network) (P : Place → Frame → Prop) (R : Rule) : Prop where
  carry : ∀ mv f, P (n.source mv) f → P (.hand mv) f
  handles : ∀ (m : Network) mv f, m.blank = n.blank → mv.passesOn = true → P (.hand mv) f →
    ∃ k out sent, m.handling mv f = some k ∧ m.Sends k out sent ∧ R mv out sent
  lands : ∀ mv out sent, R mv out sent → ∀ p f, (p, f) ∈ out → P p f ∧ ∀ mv', p ≠ .hand mv'

/-- What holds of the frames of a send, wherever they are. -/
structure Traced (n : Network) (P : Place → Frame → Prop) (M : Marked) : Prop where
  blank : M.net.blank = n.blank
  fits : M.Fits P
  given : ∀ i h f, f ∈ M.given (.port i h) → P (.port i h) f
  undropped : M.Undropped

/-- A gateway's worker passes a frame of the send on. -/
structure Passes (n : Network) (M N : Marked) (mv : Move) (out : List (Place × Frame))
    (sent : List Happening) : Prop where
  passesOn : mv.passesOn = true
  held : ∀ mv', mv'.passesOn = true → N.held mv' + (if mv' = mv then 1 else 0) =
    M.held mv' + (arrivals out (n.source mv')).length
  given : ∀ i h, N.given (.port i h) = M.given (.port i h) ++ arrivals out (.port i h)
  happenings : N.happenings = M.happenings ++ sent

variable {hub : Nat} {n : Network} {P : Place → Frame → Prop} {R : Rule} {M N : Marked}

theorem count_eq_zero (hM : M.Fits P) {p : Place} (h : M.net.frames p = []) : M.count p = 0 := by
  have := hM.aligned p
  rw [h] at this
  rw [count, List.length_eq_zero_iff.1 this]
  rfl

/-- With nothing before it a worker has nothing of the send before it. -/
theorem held_eq_zero (hM : M.Fits P) (hd : M.net.Drained) (mv : Move) (hmv : mv.passesOn = true) :
    M.held mv = 0 := by
  obtain ⟨source, hand⟩ := hd mv hmv
  rw [held, count_eq_zero hM source, count_eq_zero hM hand]

theorem held_of_passed {mv : Move} {f : Frame} {k : Network} {out : List (Place × Frame)}
    (hM : M.Fits P) (hN : N.Fits P) (hb : N.net.blank = M.net.blank)
    (h : Passed P M N mv f k out) (hands : ∀ mv', arrivals out (.hand mv') = []) (mv' : Move) :
    N.held mv' + (if mv' = mv then 1 else 0) =
      M.held mv' + (arrivals out (M.net.source mv')).length := by
  rw [held, held, source_of_blank hb]
  by_cases hs : M.net.source mv' = .hand mv'
  · -- the worker is not there, so it is not the one that handled a frame
    have before := count_eq_zero hM (Network.frames_hand_of_source hs)
    have after := count_eq_zero hN
      (Network.frames_hand_of_source ((source_of_blank hb mv').trans hs))
    have hne : mv' ≠ mv := by
      rintro rfl
      rw [h.before] at before
      cases before
    rw [hs, before, after, hands, if_neg hne]
    rfl
  · have elsewhere : M.net.source mv' ≠ .hand mv := by
      intro e
      obtain rfl := eq_of_source_eq_hand e
      exact hs e
    rw [h.count _ elsewhere]
    by_cases hmv : mv' = mv
    · rw [hmv, h.after, h.before, if_pos rfl]
      omega
    · rw [h.count (.hand mv') fun e => hmv (by simpa using e), hands, if_neg hmv]
      simp only [List.length_nil]
      omega

/-- A step leaves to the gateways the frames of the send that they have, or one of these is passed
on. -/
theorem step_traced (hm : n.Mesh hub) (hr : Ruled n P R) (hM : M.Traced n P) (h : Step M N) :
    N.Traced n P ∧
      ((N.changes = M.changes ∧ ∀ mv, mv.passesOn = true → N.held mv = M.held mv) ∨
        ∃ mv out sent, R mv out sent ∧ M.Passes n N mv out sent) := by
  have mesh := Network.mesh_of_blank hM.blank hm
  obtain ⟨fits, blank, cases⟩ := step_spec (P := P) mesh.copies mesh.source_inj hM.fits
    (fun mv f hf => hr.carry mv f (source_of_blank hM.blank mv ▸ hf))
    (fun mv f k out hmv hf hk ha p g hg => by
      obtain ⟨k', out', sent, handled, sends, rule⟩ := hr.handles _ mv f hM.blank hmv hf
      obtain rfl := Option.some.inj (hk.symm.trans handled)
      exact (hr.lands mv out' sent rule p g (ha.mem_of_mem sends.adds hg)).1) h
  rcases cases with ⟨changes, same⟩ | ⟨mv, f, k, out, passed⟩
  · refine ⟨⟨blank.trans hM.blank, fits, ?_, ?_⟩, .inl ⟨changes, same⟩⟩
    · simp only [given, changes]
      exact hM.given
    · rw [Undropped, changes]
      exact hM.undropped
  · obtain ⟨k', out', sent, handled, sends, rule⟩ :=
      hr.handles _ mv f hM.blank passed.passesOn passed.fits
    obtain rfl := Option.some.inj (passed.handled.symm.trans handled)
    have arrive (p : Place) := passed.adds.arrivals_eq sends.adds p
    have given (i : Nat) (h : Handle) :
        N.given (.port i h) = M.given (.port i h) ++ arrivals out' (.port i h) := by
      rw [given_of_passed passed (by simp), arrive]
    have hands (mv' : Move) : arrivals out (.hand mv') = [] := by
      rw [arrive, List.eq_nil_iff_forall_not_mem]
      exact fun g hg => (hr.lands mv out' sent rule _ g (mem_arrivals.1 hg)).2 mv' rfl
    refine ⟨⟨blank.trans hM.blank, fits, fun i h g hg => ?_,
      undropped_of_passed passed sends.drops hM.undropped⟩,
      .inr ⟨mv, out', sent, rule, passed.passesOn, ?_, given, ?_⟩⟩
    · rw [given] at hg
      rcases List.mem_append.1 hg with hg | hg
      · exact hM.given i h g hg
      · exact (hr.lands mv out' sent rule _ g (mem_arrivals.1 hg)).1
    · intro mv' _
      rw [held_of_passed hM.fits fits blank passed hands, arrive, source_of_blank hM.blank]
    · exact happenings_of_passed passed sends.log

/-- What is kept while the gateways have the same frames of the send, and when one of these is
passed on, is kept by every run. -/
theorem invariant_of_reaches (hm : n.Mesh hub) (hr : Ruled n P R) {I : Marked → Prop}
    (quiet : ∀ M N : Marked, N.changes = M.changes →
      (∀ mv, mv.passesOn = true → N.held mv = M.held mv) → I M → I N)
    (passes : ∀ (M N : Marked) mv out sent, R mv out sent → M.Passes n N mv out sent → I M → I N)
    (hM : M.Traced n P) (hI : I M) (run : M.Reaches N) : N.Traced n P ∧ I N := by
  induction run with
  | refl => exact ⟨hM, hI⟩
  | tail _ step ih =>
    obtain ⟨traced, kept⟩ := ih
    obtain ⟨traced', ⟨changes, same⟩ | ⟨mv, out, sent, rule, passed⟩⟩ :=
      step_traced hm hr traced step
    · exact ⟨traced', quiet _ _ changes same kept⟩
    · exact ⟨traced', passes _ _ mv out sent rule passed kept⟩

/-- A send is traced from its start on. -/
theorem traced_start {m : Network} {out : List (Place × Frame)} {sent : List Happening}
    (h : n.Sends m out sent) (hP : ∀ p f, (p, f) ∈ out → P p f) :
    (start n m).Traced n P ∧
      ((∀ mv, arrivals out (.hand mv) = []) →
        ∀ mv, (start n m).held mv = (arrivals out (n.source mv)).length) ∧
      (∀ p, (start n m).given p = arrivals out p) ∧ (start n m).happenings = sent := by
  obtain ⟨fits, counts, given⟩ := start_spec h.adds hP
  refine ⟨⟨h.adds.blank, fits, fun i p f hf => ?_, ?_⟩, fun hands mv => ?_, given, ?_⟩
  · rw [given] at hf
    exact hP _ f (mem_arrivals.1 hf)
  · intro c hc
    obtain rfl := List.mem_singleton.1 hc
    exact h.drops
  · rw [held, counts, counts, hands]
    rw [show (start n m).net.source mv = n.source mv from source_of_blank h.adds.blank mv]
    rfl
  · simp [happenings, start, h.log]

end Marked

end FrameBus
