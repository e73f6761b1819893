import Mathlib.Data.List.Basic

/-!
# Waits on a timer

Any number of asynchronous waits on one timer, whose expiry is of a type `ε`.

* A wait is started on the expiry that the timer has (`asyncWait`).
* It ends when that expiry has passed (`expire`), or when the timer is given another expiry,
  which cancels all its waits (`cancel`).  Its handler is then queued.
* Queued handlers are run in any order, each once (`deliver`).

An expiry is watched when there is a live wait on it, or the handler of a wait on it that
has expired is queued.  It stays watched until such a handler is run, or the waits are
cancelled (`Watched.expire`, `Watched.deliver`), and so once it has passed there is always a
handler to come (`Watched.exists_deliver`, `Watched.of_settled`).
-/

universe u

/-- The waits on a timer.

* `live`: the waits that have not ended, each as the expiry it was started on.
* `queued`: the handlers that are to be run, each with the expiry of its wait, and whether
  the wait has expired; otherwise it was cancelled. -/
structure Waits (ε : Type u) where
  live : List ε
  queued : List (ε × Bool)
  deriving DecidableEq

namespace Waits

variable {ε : Type u}

/-- No waits. -/
def empty : Waits ε := ⟨[], []⟩

/-- All live waits are cancelled. -/
def cancel (w : Waits ε) : Waits ε :=
  ⟨[], w.queued ++ w.live.map (fun e => (e, false))⟩

/-- A wait is started on the expiry `e`. -/
def asyncWait (w : Waits ε) (e : ε) : Waits ε := { w with live := w.live ++ [e] }

/-- The `i`-th live wait ends, if its expiry has passed. -/
def expire (passed : ε → Bool) (w : Waits ε) (i : ℕ) : Option (Waits ε) :=
  match w.live[i]? with
  | some e =>
      if passed e then some ⟨w.live.eraseIdx i, w.queued ++ [(e, true)]⟩ else none
  | none => none

/-- The `i`-th queued handler is taken to be run. -/
def deliver (w : Waits ε) (i : ℕ) : Option (Waits ε) :=
  if i < w.queued.length then some { w with queued := w.queued.eraseIdx i } else none

/-- There is a live wait on the expiry, or the handler of a wait on it that has expired is
queued. -/
def Watched (e : ε) (w : Waits ε) : Prop := e ∈ w.live ∨ (e, true) ∈ w.queued

/-- The expiries of the waits that have expired have passed. -/
def Expired (passed : ε → Bool) (w : Waits ε) : Prop :=
  ∀ e, (e, true) ∈ w.queued → passed e = true

/-! ### Changing the expiry -/

/-- After a change of the expiry and the start of a wait there is a wait on the new one. -/
theorem watched_rearm (w : Waits ε) (e : ε) :
  Watched e (w.cancel.asyncWait e)
  := by
  left
  exact List.mem_singleton_self e

theorem Expired.rearm {passed : ε → Bool} {w : Waits ε} (h : Expired passed w) (e : ε) :
  Expired passed (w.cancel.asyncWait e)
  := by
  intro e' he'
  rcases List.mem_append.mp he' with he' | he'
  · apply h e' he'
  · obtain ⟨_, -, heq⟩ := List.mem_map.mp he'
    cases heq

/-! ### Waits that expire -/

theorem exists_of_expire {passed : ε → Bool} {w w' : Waits ε} {i : ℕ}
    (h : w.expire passed i = some w') :
  ∃ e, w.live[i]? = some e ∧ passed e = true
    ∧ w' = ⟨w.live.eraseIdx i, w.queued ++ [(e, true)]⟩
  := by
  rw [expire] at h
  split at h
  next e hlive =>
    split_ifs at h with hpassed
    exact ⟨e, hlive, hpassed, (Option.some.inj h).symm⟩
  next => cases h

/-- An element is at the index that is erased, or stays. -/
theorem mem_eraseIdx_or {α : Type u} {l : List α} {x : α} (h : x ∈ l) (i : ℕ) :
  l[i]? = some x ∨ x ∈ l.eraseIdx i
  := by
  obtain ⟨j, hj⟩ := List.mem_iff_getElem?.mp h
  rcases eq_or_ne j i with rfl | hne
  · left
    apply hj
  · right
    apply List.mem_eraseIdx_iff_getElem?.mpr
    use j, hne

/-- An expiry stays watched when waits expire. -/
theorem Watched.expire {passed : ε → Bool} {w w' : Waits ε} {i : ℕ} {e : ε} (h : Watched e w)
    (hexpire : w.expire passed i = some w') :
  Watched e w'
  := by
  obtain ⟨e', hlive, -, rfl⟩ := exists_of_expire hexpire
  rcases h with h | h
  · rcases mem_eraseIdx_or h i with hi | hmem
    · right
      obtain rfl := Option.some.inj (hlive.symm.trans hi)
      simp
    · left
      apply hmem
  · right
    apply List.mem_append_left _ h

theorem Expired.expire {passed : ε → Bool} {w w' : Waits ε} {i : ℕ} (h : Expired passed w)
    (hexpire : w.expire passed i = some w') :
  Expired passed w'
  := by
  obtain ⟨e, -, hpassed, rfl⟩ := exists_of_expire hexpire
  intro e' he'
  rcases List.mem_append.mp he' with he' | he'
  · apply h e' he'
  · obtain ⟨rfl, -⟩ := Prod.mk.inj (List.mem_singleton.mp he')
    apply hpassed

/-! ### Handlers that are run -/

theorem exists_of_deliver {w w' : Waits ε} {i : ℕ} (h : w.deliver i = some w') :
  i < w.queued.length ∧ w' = { w with queued := w.queued.eraseIdx i }
  := by
  rw [deliver] at h
  split_ifs at h with hi
  exact ⟨hi, (Option.some.inj h).symm⟩

/-- When a handler is run an expiry stays watched, or it has passed. -/
theorem Watched.deliver {passed : ε → Bool} {w w' : Waits ε} {i : ℕ} {e : ε} (h : Watched e w)
    (hexpired : Expired passed w) (hdeliver : w.deliver i = some w') :
  Watched e w' ∨ passed e = true
  := by
  obtain ⟨-, rfl⟩ := exists_of_deliver hdeliver
  rcases h with h | h
  · left
    left
    apply h
  · right
    apply hexpired e h

/-- An expiry that is watched and has passed has a handler to be run, at once or after one of
the waits has expired. -/
theorem Watched.exists_deliver {passed : ε → Bool} {w : Waits ε} {e : ε} (h : Watched e w)
    (hpassed : passed e = true) :
  (∃ i w', w.deliver i = some w')
    ∨ ∃ j w₁, w.expire passed j = some w₁ ∧ ∃ i w', w₁.deliver i = some w'
  := by
  rcases h with h | h
  · right
    obtain ⟨j, hj⟩ := List.mem_iff_getElem?.mp h
    refine ⟨j, ⟨w.live.eraseIdx j, w.queued ++ [(e, true)]⟩, ?_, 0, _, if_pos ?_⟩
    · rw [Waits.expire, hj]
      apply if_pos hpassed
    · simp
  · left
    exact ⟨0, _, if_pos (List.length_pos_of_mem h)⟩

/-- When no wait is to expire and no handler is to be run, what is watched has not passed. -/
theorem Watched.of_settled {passed : ε → Bool} {w : Waits ε} {e : ε} (h : Watched e w)
    (hlive : ∀ e ∈ w.live, ¬ passed e) (hqueued : w.queued = []) :
  ¬ passed e
  := by
  rcases h with h | h
  · apply hlive e h
  · rw [hqueued] at h
    cases h

theorem Expired.deliver {passed : ε → Bool} {w w' : Waits ε} {i : ℕ} (h : Expired passed w)
    (hdeliver : w.deliver i = some w') :
  Expired passed w'
  := by
  obtain ⟨-, rfl⟩ := exists_of_deliver hdeliver
  intro e he
  apply h e (List.mem_of_mem_eraseIdx he)

end Waits
