import DoorSwitchSvr.Connection
import Mathlib.Data.Fintype.Card

/-!
# The threads of the timers

The reconnect timers of all handlers take their threads from one pool of `capacity` threads,
and `start` throws when the pool has none left.

`startReconnectTimer` sets `m_isTimerOn` before it calls `start`.  When `start` throws, the
flag stays set although the timer does not run (`half_armed`).  Such a handler has nobody to
start its timer: every report of an error finds the flag set (`halfArmed_of_run`).

In every run the flag of each handler is only set while its timer runs, exactly if the timer
of a handler is only started while fewer than `capacity` timers of other handlers run
(`timersRun_iff`).
-/

namespace DoorSwitchSvr

open Transition

namespace Connection

/-- The timer runs. -/
def Running (c : Connection) : Prop := c.m_reconnTimer.state = .armed

instance (c : Connection) : Decidable c.Running :=
  inferInstanceAs (Decidable (_ = _))

/-- The timer runs if `m_isTimerOn` is set. -/
def TimerRuns (c : Connection) : Prop := c.m_isTimerOn = true → c.Running

instance (c : Connection) : Decidable c.TimerRuns :=
  inferInstanceAs (Decidable (_ → _))

/-- `startReconnectTimer` sets the flag, and starts the timer if there is a free thread. -/
theorem startReconnectTimer_spec (free : Bool) (c : Connection) :
  (c.startReconnectTimer free).1.m_isTimerOn = true
    ∧ ((c.startReconnectTimer free).1.Running ↔ free = true)
  := by
  rw [startReconnectTimer_eq]
  cases free <;> simp [Running]

end Connection

/-- The connections of the handlers. -/
structure TimerPool (ι : Type) where
  conn : ι → Connection

namespace TimerPool

variable {ι : Type} [Fintype ι] [DecidableEq ι]

/-- The next call on the handler `i`; `error` says whether an attempt to connect fails. -/
inductive Action (ι : Type) where
  | connect (i : ι) (error : Bool)
  | handleRWError (i : ι)
  | tick (i : ι) (error : Bool)
  deriving DecidableEq

/-- The handlers other than `i` whose timers run, each in a thread of the pool. -/
def othersRunning (s : TimerPool ι) (i : ι) : Finset ι :=
  Finset.univ.filter (fun j => j ≠ i ∧ (s.conn j).Running)

/-- When the timer of `i` is stopped, the pool has a free thread. -/
def hasFree (capacity : ℕ) (s : TimerPool ι) (i : ι) : Bool :=
  (s.othersRunning i).card < capacity

/-- The handlers with the connection of `i` replaced. -/
def setConn (s : TimerPool ι) (i : ι) (c : Connection) : TimerPool ι :=
  ⟨Function.update s.conn i c⟩

/-- The state after a call, or after the exception that leaves it. -/
def next (capacity : ℕ) (s : TimerPool ι) : Action ι → Option (TimerPool ι)
  | .connect i error => some (s.setConn i ((s.conn i).connect error (s.hasFree capacity i)).1)
  | .handleRWError i => some (s.setConn i ((s.conn i).handleRWError (s.hasFree capacity i)).1)
  | .tick i error =>
      if (s.conn i).Running then some (s.setConn i ((s.conn i).onReconnTimer error)) else none

/-- Handlers that have not been connected. -/
def initial (ι : Type) : TimerPool ι := ⟨fun _ => {}⟩

/-- The timers of all handlers with `m_isTimerOn` set run. -/
def TimersRun (s : TimerPool ι) : Prop := ∀ i, (s.conn i).TimerRuns

instance (s : TimerPool ι) : Decidable s.TimersRun :=
  inferInstanceAs (Decidable (∀ _, _))

/-- The call does not start a timer when the timers of other handlers take all threads. -/
def StartsWithThread (capacity : ℕ) (s : TimerPool ι) : Action ι → Prop
  | .connect i error => ((s.conn i).reconnect error).2 = false → s.hasFree capacity i
  | .handleRWError i => (s.conn i).m_isTimerOn = false → s.hasFree capacity i
  | .tick _ _ => True

instance (capacity : ℕ) (s : TimerPool ι) :
    (a : Action ι) → Decidable (StartsWithThread capacity s a)
  | .connect _ _ => inferInstanceAs (Decidable (_ → _))
  | .handleRWError _ => inferInstanceAs (Decidable (_ → _))
  | .tick _ _ => isTrue trivial

/-! ### One call -/

omit [Fintype ι] in
theorem conn_setConn (s : TimerPool ι) (i : ι) (c : Connection) (j : ι) :
  (s.setConn i c).conn j = if j = i then c else s.conn j
  := by
  simp only [setConn, Function.update_apply]

omit [Fintype ι] in
/-- A call on one handler only matters for that handler. -/
theorem TimersRun.setConn_iff {s : TimerPool ι} (h : s.TimersRun) (i : ι) (c : Connection) :
  (s.setConn i c).TimersRun ↔ c.TimerRuns
  := by
  constructor
  · intro hset
    have hi := hset i
    rw [conn_setConn, if_pos rfl] at hi
    apply hi
  · intro hc j
    rw [conn_setConn]
    split_ifs
    · apply hc
    · apply h j

theorem timerRuns_connect_iff {c : Connection} (h : c.TimerRuns) (error free : Bool) :
  (c.connect error free).1.TimerRuns ↔ ((c.reconnect error).2 = false → free = true)
  := by
  rw [Connection.connect]
  cases hok : (c.reconnect error).2 with
  | true =>
      obtain ⟨-, -, hreconnect⟩ := Connection.reconnect_succeeds hok
      rw [hreconnect]
      apply iff_of_true h
      apply Bool.noConfusion
  | false =>
      rw [Connection.reconnect_failed hok]
      obtain ⟨hon, hrunning⟩ := Connection.startReconnectTimer_spec free
        { c with m_socket := .closed, m_isConnected := false }
      constructor
      · intro hruns _
        apply hrunning.mp (hruns hon)
      · intro hfree _
        apply hrunning.mpr (hfree rfl)

theorem timerRuns_handleRWError_iff {c : Connection} (h : c.TimerRuns) (free : Bool) :
  (c.handleRWError free).1.TimerRuns ↔ (c.m_isTimerOn = false → free = true)
  := by
  cases hon : c.m_isTimerOn with
  | true =>
      rw [Connection.handleRWError, if_neg (by simp [hon])]
      apply iff_of_true h
      intro hoff
      cases hoff
  | false =>
      rw [Connection.handleRWError, if_pos (by simp [hon])]
      obtain ⟨hon', hrunning⟩ := Connection.startReconnectTimer_spec free
        { c with m_isConnected := false, m_socket := .closed }
      constructor
      · intro hruns _
        apply hrunning.mp (hruns hon')
      · intro hfree _
        apply hrunning.mpr (hfree rfl)

/-- A tick clears the flag, or keeps the timer running. -/
theorem timerRuns_onReconnTimer {c : Connection} (h : c.Running) (error : Bool) :
  (c.onReconnTimer error).TimerRuns
  := by
  rw [Connection.onReconnTimer]
  cases hok : (c.reconnect error).2 with
  | true =>
      obtain ⟨-, -, hreconnect⟩ := Connection.reconnect_succeeds hok
      rw [hreconnect]
      intro hon
      cases hon
  | false =>
      rw [Connection.reconnect_failed hok]
      intro _
      simp only [Connection.growInterval, Bool.false_eq_true, if_false]
      split_ifs <;> exact h

/-- After a call the timers of all handlers with the flag set run, exactly if it has not
started a timer without a free thread. -/
theorem timersRun_step_iff {capacity : ℕ} {s : TimerPool ι} (h : s.TimersRun) :
    ∀ {a : Action ι} {t : TimerPool ι}, next capacity s a = some t →
      (t.TimersRun ↔ StartsWithThread capacity s a)
  | .connect i error, t, hnext => by
      obtain rfl := Option.some.inj hnext
      rw [h.setConn_iff]
      apply timerRuns_connect_iff (h i)
  | .handleRWError i, t, hnext => by
      obtain rfl := Option.some.inj hnext
      rw [h.setConn_iff]
      apply timerRuns_handleRWError_iff (h i)
  | .tick i error, t, hnext => by
      rw [next] at hnext
      split_ifs at hnext with hrunning
      obtain rfl := Option.some.inj hnext
      rw [h.setConn_iff]
      exact iff_of_true (timerRuns_onReconnTimer hrunning error) trivial

/-! ### Runs -/

omit [Fintype ι] [DecidableEq ι] in
theorem TimersRun.initial :
  (initial ι).TimersRun
  := by
  intro i hon
  cases hon

/-- In every run the timer of each handler with `m_isTimerOn` set runs after each call, if
and only if no timer is started while the timers of other handlers take all threads. -/
theorem timersRun_iff (capacity : ℕ) (as : List (Action ι)) :
  Along (next capacity) (fun _ _ t => t.TimersRun) (initial ι) as
    ↔ Meets (next capacity) (StartsWithThread capacity) (initial ι) as
  := by
  apply along_iff_meets _ _ TimersRun.initial
  · intro s a t h hnext
    apply timersRun_step_iff h hnext
  · intro s a t h hok hnext
    apply (timersRun_step_iff h hnext).mpr hok

/-- 17 switches that cannot be reached, and a pool of 16 threads. -/
def seventeenSwitches : List (Action (Fin 17)) :=
  (List.finRange 17).map (fun i => .connect i true)

/-- After `seventeenSwitches` the last handler has its flag set, and its timer does not
run. -/
theorem half_armed :
  ∃ t, run (next 16) (initial (Fin 17)) seventeenSwitches = some t ∧ ¬ t.TimersRun
    ∧ ¬ Along (next 16) (fun _ _ t => t.TimersRun) (initial (Fin 17)) seventeenSwitches
  := ⟨_, rfl, by decide, by decide⟩

/-- A pool with a thread for each handler has always a free one. -/
theorem hasFree_of_card_le {capacity : ℕ} (h : Fintype.card ι ≤ capacity) (s : TimerPool ι)
    (i : ι) :
  s.hasFree capacity i = true
  := by
  have hsub : s.othersRunning i ⊆ Finset.univ.erase i := by
    intro j hj
    rw [othersRunning, Finset.mem_filter] at hj
    apply Finset.mem_erase.mpr ⟨hj.2.1, hj.1⟩
  have hcard := Finset.card_lt_card (Finset.ssubset_of_subset_of_ssubset hsub
    (Finset.erase_ssubset (Finset.mem_univ i)))
  rw [hasFree, decide_eq_true_eq]
  apply Nat.lt_of_lt_of_le hcard h

/-- With a thread for each handler every run keeps the timers running. -/
theorem timersRun_of_card_le {capacity : ℕ} (h : Fintype.card ι ≤ capacity)
    (as : List (Action ι)) :
  Along (next capacity) (fun _ _ t => t.TimersRun) (initial ι) as
  := by
  rw [timersRun_iff]
  apply Meets.of_forall
  intro s a
  cases a with
  | connect i _ => exact fun _ => hasFree_of_card_le h s i
  | handleRWError i => exact fun _ => hasFree_of_card_le h s i
  | tick _ _ => trivial

/-! ### The threads in use -/

/-- The handlers whose timers run. -/
def running (s : TimerPool ι) : Finset ι := Finset.univ.filter (fun j => (s.conn j).Running)

/-- A call on a handler that only starts its timer with a free thread does not take more
threads than the pool has. -/
theorem card_running_setConn_le {capacity : ℕ} {s : TimerPool ι} {i : ι} {c : Connection}
    (h : s.running.card ≤ capacity)
    (hc : c.Running → (s.conn i).Running ∨ s.hasFree capacity i = true) :
  (s.setConn i c).running.card ≤ capacity
  := by
  by_cases hfree : s.hasFree capacity i = true
  · -- at most the timer of `i` runs besides those of the others
    have hsub : (s.setConn i c).running ⊆ insert i (s.othersRunning i) := by
      intro j hj
      rw [running, Finset.mem_filter, conn_setConn] at hj
      rw [Finset.mem_insert, othersRunning, Finset.mem_filter]
      rcases eq_or_ne j i with hji | hji
      · left
        apply hji
      · right
        rw [if_neg hji] at hj
        exact ⟨hj.1, hji, hj.2⟩
    have hcard := (Finset.card_le_card hsub).trans (Finset.card_insert_le i _)
    rw [hasFree, decide_eq_true_eq] at hfree
    omega
  · -- the timer of `i` runs only if it did
    have hsub : (s.setConn i c).running ⊆ s.running := by
      intro j hj
      rw [running, Finset.mem_filter, conn_setConn] at hj
      rw [running, Finset.mem_filter]
      use hj.1
      split_ifs at hj with hji
      · rw [hji]
        apply (hc hj.2).resolve_right hfree
      · apply hj.2
    apply (Finset.card_le_card hsub).trans h

theorem running_connect {c : Connection} {error free : Bool}
    (h : (c.connect error free).1.Running) :
  c.Running ∨ free = true
  := by
  rw [Connection.connect] at h
  cases hok : (c.reconnect error).2 with
  | true =>
      obtain ⟨-, -, hreconnect⟩ := Connection.reconnect_succeeds hok
      rw [hreconnect] at h
      left
      apply h
  | false =>
      rw [Connection.reconnect_failed hok] at h
      right
      apply (Connection.startReconnectTimer_spec free _).2.mp h

theorem running_handleRWError {c : Connection} {free : Bool}
    (h : (c.handleRWError free).1.Running) :
  c.Running ∨ free = true
  := by
  rw [Connection.handleRWError] at h
  split_ifs at h
  · right
    apply (Connection.startReconnectTimer_spec free _).2.mp h
  · left
    apply h

/-- At most as many timers run as the pool has threads. -/
theorem card_running_le (capacity : ℕ) (as : List (Action ι)) {t : TimerPool ι}
    (hrun : run (next capacity) (initial ι) as = some t) :
  t.running.card ≤ capacity
  := by
  have hinitial : (initial ι).running.card ≤ capacity := by
    have hempty : (initial ι).running = ∅ :=
      Finset.filter_eq_empty_iff.mpr (fun _ _ => TimerState.noConfusion)
    rw [hempty]
    apply Nat.zero_le
  have hstep : ∀ (s : TimerPool ι) (a : Action ι) (t : TimerPool ι),
      s.running.card ≤ capacity → next capacity s a = some t → t.running.card ≤ capacity := by
    intro s a t h hnext
    cases a with
    | connect i error =>
        obtain rfl := Option.some.inj hnext
        apply card_running_setConn_le h running_connect
    | handleRWError i =>
        obtain rfl := Option.some.inj hnext
        apply card_running_setConn_le h running_handleRWError
    | tick i error =>
        rw [next] at hnext
        split_ifs at hnext with hrunning
        obtain rfl := Option.some.inj hnext
        apply card_running_setConn_le h (fun _ => Or.inl hrunning)
  exact run_invariant_of_step hstep hinitial hrun

/-! ### Half-armed handlers -/

/-- The flag of the handler is set, and its timer does not run. -/
def HalfArmed (i : ι) (s : TimerPool ι) : Prop :=
  (s.conn i).m_isTimerOn = true ∧ ¬ (s.conn i).Running

theorem HalfArmed.step {capacity : ℕ} {s t : TimerPool ι} {i : ι} (h : HalfArmed i s) :
    ∀ {a : Action ι}, (∀ error, a ≠ .connect i error) → next capacity s a = some t →
      HalfArmed i t
  | .connect j error, hne, hnext => by
      obtain rfl := Option.some.inj hnext
      have hij : i ≠ j := by
        rintro rfl
        apply hne error rfl
      rw [HalfArmed, conn_setConn, if_neg hij]
      apply h
  | .handleRWError j, _, hnext => by
      obtain rfl := Option.some.inj hnext
      rw [HalfArmed, conn_setConn]
      split_ifs with hij
      · obtain rfl := hij
        rw [Connection.handleRWError, if_neg (by simp [h.1])]
        apply h
      · apply h
  | .tick j error, _, hnext => by
      rw [next] at hnext
      split_ifs at hnext with hrunning
      obtain rfl := Option.some.inj hnext
      have hij : i ≠ j := by
        rintro rfl
        apply h.2 hrunning
      rw [HalfArmed, conn_setConn, if_neg hij]
      apply h

/-- A half-armed handler stays so, whatever errors are reported, unless `connect` is called
on it again. -/
theorem halfArmed_of_run {capacity : ℕ} {s t : TimerPool ι} {i : ι} {as : List (Action ι)}
    (h : HalfArmed i s) (has : ∀ a ∈ as, ∀ error, a ≠ .connect i error)
    (hrun : run (next capacity) s as = some t) :
  HalfArmed i t
  := by
  induction as generalizing s with
  | nil =>
      obtain rfl := Option.some.inj hrun
      apply h
  | cons a as ih =>
      obtain ⟨u, hu, hrun⟩ := run_cons_eq_some.mp hrun
      apply ih (h.step (has a List.mem_cons_self) hu) _ hrun
      intro a' ha'
      apply has a' (List.mem_cons_of_mem a ha')

end TimerPool

end DoorSwitchSvr
