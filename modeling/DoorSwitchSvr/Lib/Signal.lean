import Mathlib.Data.List.Induction
import Mathlib.Order.Lattice

/-!
# Signals

A signal that changes its value at certain times of a linear order, given by the list of its
changes, each one with the value from then on.

* `valueAt changes t` is the value at the time `t`, which is that of the last change up to
  then, or `none` before the first one.
* `pulses on off ps` switches to `on` at the beginning of each interval of `ps`, and to
  `off` at its end.

When the intervals come one after another, the signal is `on` exactly within them
(`valueAt_pulses`).
-/

universe u v

namespace Signal

variable {τ : Type u} {α : Type v} [LinearOrder τ]

/-- The value of the last change that is not after `t`. -/
def valueAt (changes : List (τ × α)) (t : τ) : Option α :=
  (changes.reverse.find? (fun change => change.1 ≤ t)).map Prod.snd

/-- The changes to `on` and to `off` at the two ends of each interval. -/
def pulses (on off : α) (ps : List (τ × τ)) : List (τ × α) :=
  ps.flatMap (fun p => [(p.1, on), (p.2, off)])

/-- The intervals are not empty, and each of them ends before the next one begins. -/
structure Sequential (ps : List (τ × τ)) : Prop where
  lt : ∀ p ∈ ps, p.1 < p.2
  le : ps.Pairwise (fun p q => p.2 ≤ q.1)

@[simp]
theorem valueAt_nil (t : τ) :
  valueAt ([] : List (τ × α)) t = none
  := rfl

theorem valueAt_concat (changes : List (τ × α)) (s t : τ) (a : α) :
  valueAt (changes ++ [(s, a)]) t = if s ≤ t then some a else valueAt changes t
  := by
  rw [valueAt, List.reverse_append, List.reverse_singleton, List.singleton_append,
    List.find?_cons]
  by_cases hle : s ≤ t
  · simp only [hle, decide_true, if_true, Option.map_some]
  · simp only [hle, decide_false, if_false, valueAt]

omit [LinearOrder τ] in
theorem pulses_concat (on off : α) (ps : List (τ × τ)) (p : τ × τ) :
  pulses on off (ps ++ [p]) = pulses on off ps ++ [(p.1, on), (p.2, off)]
  := by
  simp [pulses]

omit [LinearOrder τ] in
/-- The values alternate, and the last one is `off`. -/
theorem map_snd_pulses (on off : α) (ps : List (τ × τ)) :
  (pulses on off ps).map Prod.snd = (List.replicate ps.length [on, off]).flatten
  := by
  induction ps with
  | nil => rfl
  | cons p ps ih =>
      rw [pulses] at ih ⊢
      simp only [List.flatMap_cons, List.map_append, ih, List.length_cons, List.replicate_succ,
        List.flatten_cons]
      rfl

theorem sequential_concat {ps : List (τ × τ)} {p : τ × τ} :
  Sequential (ps ++ [p]) ↔ Sequential ps ∧ p.1 < p.2 ∧ ∀ q ∈ ps, q.2 ≤ p.1
  := by
  constructor
  · rintro ⟨hlt, hle⟩
    rw [List.pairwise_append] at hle
    refine ⟨⟨fun q hq => hlt q (List.mem_append_left _ hq), hle.1⟩, ?_, ?_⟩
    · apply hlt
      apply List.mem_append_right _ (List.mem_singleton_self p)
    · intro q hq
      apply hle.2.2 q hq p (List.mem_singleton_self p)
  · rintro ⟨⟨hlt, hle⟩, hp, hbefore⟩
    constructor
    · intro q hq
      rcases List.mem_append.mp hq with hq | hq
      · apply hlt q hq
      · rw [List.mem_singleton.mp hq]
        apply hp
    · rw [List.pairwise_append]
      use hle, List.pairwise_singleton _ p
      intro q hq q' hq'
      rw [List.mem_singleton.mp hq']
      apply hbefore q hq

/-- A signal made of pulses one after another is `on` exactly within its intervals. -/
theorem valueAt_pulses {on off : α} (hne : on ≠ off) {ps : List (τ × τ)} (h : Sequential ps)
    (t : τ) :
  valueAt (pulses on off ps) t = some on ↔ ∃ p ∈ ps, p.1 ≤ t ∧ t < p.2
  := by
  induction ps using List.reverseRecOn with
  | nil => simp [pulses]
  | append_singleton ps p ih =>
      obtain ⟨hps, hlt, hle⟩ := sequential_concat.mp h
      rw [pulses_concat, List.append_cons, valueAt_concat, valueAt_concat]
      by_cases hend : p.2 ≤ t
      · -- all the intervals are over
        rw [if_pos hend]
        constructor
        · intro heq
          apply absurd (Option.some.inj heq).symm hne
        · rintro ⟨q, hq, -, hqt⟩
          rcases List.mem_append.mp hq with hq | hq
          · apply absurd ((hle q hq).trans (hlt.le.trans hend)) (not_le_of_gt hqt)
          · rw [List.mem_singleton.mp hq] at hqt
            apply absurd hend (not_le_of_gt hqt)
      · rw [if_neg hend]
        by_cases hbegin : p.1 ≤ t
        · rw [if_pos hbegin]
          apply iff_of_true rfl
          use p, List.mem_append_right _ (List.mem_singleton_self p), hbegin
          apply lt_of_not_ge hend
        · -- the last interval has not begun
          rw [if_neg hbegin, ih hps]
          constructor
          · rintro ⟨q, hq, hqt⟩
            use q, List.mem_append_left _ hq
          · rintro ⟨q, hq, hqt⟩
            rcases List.mem_append.mp hq with hq | hq
            · use q, hq
            · rw [List.mem_singleton.mp hq] at hqt
              apply absurd hqt.1 hbegin

end Signal
