/-!
# Logs

What a log of events says about the time since: something happened, and nothing that came after it
undid it (`Since`). One more event either is what is asked for, or leaves it standing
(`since_concat`).
-/

namespace FrameBus

variable {ε : Type} {what : ε} {undoes : ε → Prop}

/-- A place in a log with one more event: its end, or a place from before. -/
theorem concat_eq_append_cons_iff {log before after : List ε} {e x : ε} :
    log ++ [e] = before ++ x :: after ↔ before = log ∧ x = e ∧ after = [] ∨
      ∃ rest, after = rest ++ [e] ∧ log = before ++ x :: rest := by
  constructor
  · intro h
    rcases List.eq_nil_or_concat after with rfl | ⟨rest, last, rfl⟩
    · obtain ⟨same, one⟩ := List.append_inj' h rfl
      exact .inl ⟨same.symm, (List.singleton_inj.1 one).symm, rfl⟩
    · have split : log ++ [e] = (before ++ x :: rest) ++ [last] := by simpa using h
      obtain ⟨first, same⟩ := List.append_inj' split rfl
      exact .inr ⟨rest, by rw [List.singleton_inj.1 same, List.concat_eq_append], first⟩
  · rintro (⟨rfl, rfl, rfl⟩ | ⟨rest, rfl, rfl⟩)
    · rfl
    · simp

/-- `what` happened, and nothing after it undid it. -/
def Since (what : ε) (undoes : ε → Prop) (log : List ε) : Prop :=
  ∃ before after, log = before ++ what :: after ∧ ∀ e ∈ after, ¬ undoes e

@[simp] theorem not_since_nil : ¬ Since what undoes [] := by
  rintro ⟨before, after, h, -⟩
  simp at h

theorem since_concat (log : List ε) (e : ε) :
    Since what undoes (log ++ [e]) ↔ e = what ∨ Since what undoes log ∧ ¬ undoes e := by
  constructor
  · rintro ⟨before, after, h, still⟩
    rcases concat_eq_append_cons_iff.1 h with ⟨-, rfl, -⟩ | ⟨rest, rfl, rfl⟩
    · exact .inl rfl
    · exact .inr ⟨⟨before, rest, rfl, fun x hx => still x (by simp [hx])⟩, still e (by simp)⟩
  · rintro (rfl | ⟨⟨before, after, rfl, still⟩, last⟩)
    · exact ⟨log, [], rfl, by simp⟩
    · refine ⟨before, after ++ [e], by simp, fun x hx => ?_⟩
      rcases List.mem_append.1 hx with hx | hx
      · exact still x hx
      · rwa [List.mem_singleton.1 hx]

theorem mem_of_since {log : List ε} (h : Since what undoes log) : what ∈ log := by
  obtain ⟨before, after, rfl, -⟩ := h
  simp

end FrameBus
