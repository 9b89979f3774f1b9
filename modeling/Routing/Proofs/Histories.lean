/-
  Routing/Proofs/Histories.lean
  =============================
  **What holds since an event.**  What a history of events leaves behind is often decided by
  one event in it: the last one that gives a value, with no event behind it that gives another
  or takes the value away. Whether there is such an event is found out event by event, from the
  last one backwards.
-/
import Mathlib.Data.List.Basic

namespace Routing

variable {α : Type} {starts : List α → α → Prop} {keeps : α → Prop}

/-- An event of the history starts something, with the events before it in view, and all later
    events keep it. -/
def Since (starts : List α → α → Prop) (keeps : α → Prop) (history : List α) : Prop :=
  ∃ before event after, history = before ++ event :: after ∧ starts before event ∧
    ∀ later ∈ after, keeps later

theorem not_since_nil : ¬ Since starts keeps [] := by
  rintro ⟨before, event, after, h, -⟩
  simp at h

/-- **The last event starts it, or keeps what holds since an earlier one.** -/
theorem since_concat_iff {history : List α} {event : α} :
    Since starts keeps (history ++ [event]) ↔
      starts history event ∨ keeps event ∧ Since starts keeps history := by
  constructor
  · rintro ⟨before, first, after, heq, hfirst, hafter⟩
    rcases after.eq_nil_or_concat' with rfl | ⟨front, last, rfl⟩
    · obtain ⟨rfl, hlast⟩ := List.append_inj' heq rfl
      cases hlast
      exact .inl hfirst
    · rw [← List.cons_append, ← List.append_assoc] at heq
      obtain ⟨hhistory, hlast⟩ := List.append_inj' heq rfl
      cases hlast
      refine .inr ⟨hafter event (by simp), before, first, front, hhistory, hfirst, ?_⟩
      exact fun later hlater => hafter later (List.mem_append_left _ hlater)
  · rintro (hevent | ⟨hevent, before, first, after, rfl, hfirst, hafter⟩)
    · exact ⟨history, event, [], rfl, hevent, by simp⟩
    · refine ⟨before, first, after ++ [event], by simp, hfirst, fun later hlater => ?_⟩
      rcases List.mem_append.mp hlater with hlater | hlater
      · exact hafter later hlater
      · cases List.mem_singleton.mp hlater
        exact hevent

end Routing
