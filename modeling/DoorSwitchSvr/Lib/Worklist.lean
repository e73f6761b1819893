import Mathlib.Data.List.Basic

/-!
# Worklists

A list `ks` is worked through from its head, and `rest` is what is left of it.
`Done P ks rest` says that whatever comes before `rest` has the property `P`.
-/

universe u

namespace Worklist

variable {κ : Type u} {P Q : κ → Prop} {ks rest : List κ} {k : κ}

/-- The elements of `ks` before `rest` have the property `P`. -/
def Done (P : κ → Prop) (ks rest : List κ) : Prop :=
  ∃ done, ks = done ++ rest ∧ ∀ k ∈ done, P k

theorem Done.start (P : κ → Prop) (ks : List κ) :
  Done P ks ks
  := by
  use [], rfl
  intro k hk
  cases hk

/-- The next element may be dropped once it has the property. -/
theorem Done.advance (h : Done P ks (k :: rest)) (hk : P k) :
  Done P ks rest
  := by
  obtain ⟨done, rfl, hdone⟩ := h
  use done ++ [k]
  constructor
  · rw [List.append_assoc, List.singleton_append]
  · intro k' hk'
    rcases List.mem_append.mp hk' with hk' | hk'
    · apply hdone k' hk'
    · obtain rfl := List.mem_singleton.mp hk'
      apply hk

theorem Done.mono (h : Done P ks rest) (hPQ : ∀ k, P k → Q k) :
  Done Q ks rest
  := by
  obtain ⟨done, hks, hdone⟩ := h
  use done, hks
  intro k hk
  apply hPQ k (hdone k hk)

/-- When nothing is left, all elements have the property. -/
theorem Done.finished (h : Done P ks []) :
  ∀ k ∈ ks, P k
  := by
  obtain ⟨done, rfl, hdone⟩ := h
  rw [List.append_nil]
  apply hdone

/-- The element at the head of the rest does not come again. -/
theorem Done.not_mem (h : Done P ks (k :: rest)) (hks : ks.Nodup) :
  k ∉ rest
  := by
  obtain ⟨done, rfl, -⟩ := h
  apply (List.nodup_cons.mp (List.nodup_append.mp hks).2.1).1

end Worklist
