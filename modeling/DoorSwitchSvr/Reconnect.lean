import DoorSwitchSvr.Connection
import Mathlib.Data.Fintype.Basic

/-!
# Recovering a lost connection

Any number of threads report errors through `handleRWError` while the timer thread tries
to connect again, after the first `connect`.  When nobody is inside these functions and the
handler is not connected, the timer should be armed (`Recovering`).

This fails when an error is reported between a successful attempt of the timer thread and
its last step: the report finds `m_isTimerOn` still set, leaves the reconnection to a timer
that has been ended already, and the handler stays disconnected (`stuck_disconnected`).

The defect shows in one step.  When the timer thread clears `m_isTimerOn` with
`m_isConnected` unset and no thread on its way to stop and start the timer, nobody will
start it.  In every run without such a step the handler recovers (`recovering_of_run`).
-/

namespace DoorSwitchSvr

open Transition

namespace ReconnectSystem

variable {ι : Type}

/-- The handler after its first `connect`, with the threads outside `handleRWError`. -/
def initial (ι : Type) (error : Bool) : ReconnectSystem ι :=
  ⟨(({} : Connection).connect error true).1, fun _ => .outside, .idle⟩

/-- No thread is inside `handleRWError`, `onReconnTimer`, or what they call. -/
def Quiescent (s : ReconnectSystem ι) : Prop :=
  s.timer = .idle ∧ ∀ i, s.thread i = .outside ∨ s.thread i = .thrown

/-- A handler at rest that is not connected has its timer armed. -/
def Recovering (s : ReconnectSystem ι) : Prop :=
  s.Quiescent → s.conn.m_isConnected = false → s.conn.m_reconnTimer.state = .armed

/-! ### Who will restart the timer -/

/-- In `handleRWError`, with the call of `stop` still to come. -/
def beforeStop : RWErrorPc → Bool
  | .testTimerOn | .closeSocket | .setTimerOn | .setInterval | .stopTimer => true
  | _ => false

/-- In `startReconnectTimer`, with `m_isTimerOn` set and the call of `stop` still to come. -/
def onBeforeStop : RWErrorPc → Bool
  | .setInterval | .stopTimer => true
  | _ => false

theorem beforeStop_of_on {pc : RWErrorPc} (h : onBeforeStop pc) :
  beforeStop pc
  := by
  cases pc <;> first | rfl | cases h

/-- In `startReconnectTimer`, between the calls of `stop` and `start`. -/
def beforeStart : RWErrorPc → Bool
  | .setPeriod | .startTimer => true
  | _ => false

/-- In `onReconnTimer`, after it has ended the timer. -/
def finishing : TimerPc → Bool
  | .resetInterval | .clearTimerOn => true
  | _ => false

/-- The callback is entered when the timer ticks. -/
theorem armed_of_timerStep {error : Bool} {c : Connection} {x : Connection × TimerPc}
    (hstep : c.timerStep error .idle = some x) :
  c.m_reconnTimer.state = .armed
  := by
  rw [Connection.timerStep] at hstep
  split_ifs at hstep with harmed
  apply harmed

/-- Until it clears `m_isTimerOn` the callback leaves it as it is, and the timer is armed
until the callback ends it. -/
theorem timerStep_kept {error : Bool} {c c' : Connection} {pc pc' : TimerPc}
    (hstep : c.timerStep error pc = some (c', pc')) (hne : pc ≠ .clearTimerOn)
    (hcallback : pc ≠ .idle →
      c.m_reconnTimer.state = if finishing pc then .ended else .armed) :
  c'.m_isTimerOn = c.m_isTimerOn
    ∧ c'.m_reconnTimer.state = if finishing pc' then .ended else .armed
  := by
  cases pc with
  | idle =>
      have harmed := armed_of_timerStep hstep
      rw [Connection.timerStep, if_pos harmed] at hstep
      obtain ⟨rfl, rfl⟩ := Prod.mk.inj (Option.some.inj hstep)
      exact ⟨rfl, harmed⟩
  | clearTimerOn => apply absurd rfl hne
  | restart =>
      obtain ⟨rfl, rfl⟩ := Prod.mk.inj (Option.some.inj hstep)
      have harmed : c.m_reconnTimer.state = .armed := hcallback TimerPc.noConfusion
      simp [Timer.restart, harmed, finishing]
  | connect =>
      rw [Connection.timerStep_connect] at hstep
      obtain ⟨rfl, rfl⟩ := Prod.mk.inj (Option.some.inj hstep)
      cases (c.m_socket.connect error).2 <;> exact ⟨rfl, hcallback TimerPc.noConfusion⟩
  | returnConnected =>
      obtain ⟨rfl, rfl⟩ := Prod.mk.inj (Option.some.inj hstep)
      cases c.m_isConnected <;> exact ⟨rfl, hcallback TimerPc.noConfusion⟩
  | growInterval =>
      obtain ⟨rfl, rfl⟩ := Prod.mk.inj (Option.some.inj hstep)
      have hkept : c.growInterval.m_isTimerOn = c.m_isTimerOn
          ∧ c.growInterval.m_reconnTimer = c.m_reconnTimer := by
        rw [Connection.growInterval]
        split_ifs <;> exact ⟨rfl, rfl⟩
      use hkept.1
      rw [hkept.2]
      apply hcallback TimerPc.noConfusion
  | closeSocket | setDisconnected | setConnected | resetInterval | setPeriod =>
      obtain ⟨rfl, rfl⟩ := Prod.mk.inj (Option.some.inj hstep)
      exact ⟨rfl, hcallback TimerPc.noConfusion⟩

/-- The timer ticks, or is about to clear `m_isTimerOn`, or is stopped by a thread that is
about to start it. -/
def Covered (s : ReconnectSystem ι) : Prop :=
  s.conn.m_reconnTimer.state = .armed ∨ finishing s.timer
    ∨ s.conn.m_reconnTimer.state = .stopped ∧ ∃ i, beforeStart (s.thread i)

/-- When `m_isTimerOn` is set the timer is covered, or a thread that has set it is about to
stop and start it.  When `m_isConnected` is unset the timer is covered, or a thread is on
its way to do so.  In the callback the timer is armed until the callback ends it. -/
structure Inv (s : ReconnectSystem ι) : Prop where
  callback : s.timer ≠ .idle →
    s.conn.m_reconnTimer.state = if finishing s.timer then .ended else .armed
  on : s.conn.m_isTimerOn = true → s.Covered ∨ ∃ i, onBeforeStop (s.thread i)
  lost : s.conn.m_isConnected = false → s.Covered ∨ ∃ i, beforeStop (s.thread i)

/-- The action does not clear `m_isTimerOn` after a successful attempt while the handler is
disconnected again and no thread in `handleRWError` has yet to stop the timer. -/
def ClearsCovered (s : ReconnectSystem ι) : Action ι → Prop
  | .thread _ => True
  | .timer _ =>
      s.timer = .clearTimerOn → s.conn.m_isConnected = false →
        ∃ i, beforeStop (s.thread i)

instance [Fintype ι] (s : ReconnectSystem ι) :
    (a : Action ι) → Decidable (ClearsCovered s a)
  | .thread _ => isTrue trivial
  | .timer _ => inferInstanceAs (Decidable (_ → _))

theorem Inv.recovering {s : ReconnectSystem ι} (h : Inv s) :
  s.Recovering
  := by
  rintro ⟨htimer, hthread⟩ hconn
  rcases h.lost hconn with (harmed | hfin | ⟨-, i, hi⟩) | ⟨i, hi⟩
  · apply harmed
  · rw [htimer] at hfin
    cases hfin
  · rcases hthread i with hpc | hpc <;> rw [hpc] at hi <;> cases hi
  · rcases hthread i with hpc | hpc <;> rw [hpc] at hi <;> cases hi

/-- While the timer is armed and the callback has not ended it, nothing is lost. -/
theorem Inv.of_armed {c : Connection} {thread : ι → RWErrorPc} {pc : TimerPc}
    (harmed : c.m_reconnTimer.state = .armed) (hfin : finishing pc = false) :
  Inv ⟨c, thread, pc⟩
  := by
  constructor
  · intro _
    rw [harmed, hfin]
    rfl
  · intro _
    left
    left
    apply harmed
  · intro _
    left
    left
    apply harmed

/-- While the callback is about to clear `m_isTimerOn`, nothing is lost yet. -/
theorem Inv.of_finishing {c : Connection} {thread : ι → RWErrorPc} {pc : TimerPc}
    (hended : c.m_reconnTimer.state = .ended) (hfin : finishing pc) :
  Inv ⟨c, thread, pc⟩
  := by
  constructor
  · intro _
    rw [hended, if_pos hfin]
  · intro _
    left
    right
    left
    apply hfin
  · intro _
    left
    right
    left
    apply hfin

theorem Inv.initial (error : Bool) :
  Inv (initial ι error)
  := by
  cases error with
  | true => apply Inv.of_armed rfl rfl
  | false =>
      constructor
      · intro h
        apply absurd rfl h
      · intro h
        cases h
      · intro h
        cases h

/-! ### Steps -/

variable [DecidableEq ι]

/-- Some thread is still at a point where `P` holds after a step that keeps its own thread
at such a point. -/
theorem exists_update {P : RWErrorPc → Bool} {thread : ι → RWErrorPc} {i : ι}
    {pc : RWErrorPc} (h : ∃ j, P (thread j)) (hi : P (thread i) → P pc) :
  ∃ j, P (Function.update thread i pc j)
  := by
  obtain ⟨j, hj⟩ := h
  use j
  rcases eq_or_ne j i with rfl | hne
  · rw [Function.update_self]
    apply hi hj
  · rw [Function.update_of_ne hne]
    apply hj

/-- After its step a thread is where the step took it. -/
theorem exists_update_self {P : RWErrorPc → Bool} (thread : ι → RWErrorPc) (i : ι)
    {pc : RWErrorPc} (h : P pc) :
  ∃ j, P (Function.update thread i pc j)
  := by
  use i
  rw [Function.update_self]
  apply h

/-- A thread's step that leaves the state of the timer alone, and does not leave the calls
of `stop` and `start` between them while the timer is stopped, keeps what is covered or on the
way to be. -/
theorem covered_or_update {P : RWErrorPc → Bool} {s : ReconnectSystem ι}
    (h : s.Covered ∨ ∃ j, P (s.thread j)) {c : Connection}
    (hstate : c.m_reconnTimer.state = s.conn.m_reconnTimer.state) {i : ι} {pc : RWErrorPc}
    (hstart : s.conn.m_reconnTimer.state = .stopped → beforeStart (s.thread i) → beforeStart pc)
    (hP : P (s.thread i) → P pc) :
  Covered ⟨c, Function.update s.thread i pc, s.timer⟩
    ∨ ∃ j, P (Function.update s.thread i pc j)
  := by
  rcases h with (harmed | hfin | ⟨hstop, hex⟩) | hex
  · left
    left
    apply hstate.trans harmed
  · left
    right
    left
    apply hfin
  · left
    right
    right
    exact ⟨hstate.trans hstop, exists_update hex (hstart hstop)⟩
  · right
    apply exists_update hex hP

/-- A thread that leaves the state of the timer alone and gets to a point before its call of
`stop` is on its way to restart the timer. -/
theorem Inv.toBeforeStop {s : ReconnectSystem ι} (h : Inv s) {c : Connection}
    (hstate : c.m_reconnTimer.state = s.conn.m_reconnTimer.state) {i : ι} {pc : RWErrorPc}
    (hpc : beforeStop pc)
    (hon : c.m_isTimerOn = true → onBeforeStop pc ∨ s.conn.m_isTimerOn = true
      ∧ ¬ beforeStart (s.thread i) ∧ ¬ onBeforeStop (s.thread i)) :
  Inv ⟨c, Function.update s.thread i pc, s.timer⟩
  := by
  constructor
  · intro hne
    apply hstate.trans (h.callback hne)
  · intro hset
    rcases hon hset with hon | ⟨hon, hstart, hstop⟩
    · right
      apply exists_update_self _ _ hon
    · apply covered_or_update (h.on hon) hstate
      · intro _ hbefore
        apply absurd hbefore hstart
      · intro hbefore
        apply absurd hbefore hstop
  · intro _
    right
    apply exists_update_self _ _ hpc

theorem Inv.thread {s t : ReconnectSystem ι} (h : Inv s) {i : ι}
    (hnext : next s (.thread i) = some t) :
  Inv t
  := by
  obtain ⟨c, pc, hstep, rfl⟩ := next_thread hnext
  cases hi : s.thread i with
  | outside | closeSocket =>
      rw [hi] at hstep
      obtain ⟨rfl, rfl⟩ := Prod.mk.inj (Option.some.inj hstep)
      apply h.toBeforeStop
      · rfl
      · rfl
      · intro hon
        right
        rw [hi]
        exact ⟨hon, Bool.false_ne_true, Bool.false_ne_true⟩
  | testTimerOn =>
      rw [hi] at hstep
      obtain ⟨rfl, rfl⟩ := Prod.mk.inj (Option.some.inj hstep)
      split_ifs with htimer
      · apply h.toBeforeStop rfl rfl
        intro hon
        apply absurd (htimer.symm.trans hon) Bool.false_ne_true
      · -- the thread leaves the reconnection to the timer that is on
        have hkept : Covered ⟨s.conn, Function.update s.thread i .outside, s.timer⟩
            ∨ ∃ j, onBeforeStop (Function.update s.thread i .outside j) := by
          apply covered_or_update (h.on (by simpa using htimer)) rfl <;>
            simp [hi, beforeStart, onBeforeStop]
        constructor
        · apply h.callback
        · intro _
          apply hkept
        · intro _
          apply hkept.imp_right
          rintro ⟨j, hj⟩
          use j
          apply beforeStop_of_on hj
  | setTimerOn | setInterval =>
      rw [hi] at hstep
      obtain ⟨rfl, rfl⟩ := Prod.mk.inj (Option.some.inj hstep)
      apply h.toBeforeStop
      · rfl
      · rfl
      · intro _
        left
        rfl
  | stopTimer =>
      rw [hi, Connection.rwErrorStep] at hstep
      split_ifs at hstep with hidle
      obtain ⟨rfl, rfl⟩ := Prod.mk.inj (Option.some.inj hstep)
      have hcovered : Covered ⟨{ s.conn with m_reconnTimer := s.conn.m_reconnTimer.stop },
          Function.update s.thread i .setPeriod, s.timer⟩ := by
        right
        right
        exact ⟨rfl, exists_update_self _ _ rfl⟩
      constructor
      · intro hne
        apply absurd hidle hne
      · intro _
        left
        apply hcovered
      · intro _
        left
        apply hcovered
  | setPeriod =>
      rw [hi] at hstep
      obtain ⟨rfl, rfl⟩ := Prod.mk.inj (Option.some.inj hstep)
      constructor
      · apply h.callback
      · intro hon
        apply covered_or_update (h.on hon) rfl <;> simp [hi, beforeStart, onBeforeStop]
      · intro hlost
        apply covered_or_update (h.lost hlost) rfl <;> simp [hi, beforeStart, beforeStop]
  | thrown =>
      rw [hi] at hstep
      cases hstep
  | startTimer =>
      rw [hi, Connection.rwErrorStep_startTimer] at hstep
      split_ifs at hstep with hstart <;> obtain ⟨rfl, rfl⟩ := Prod.mk.inj (Option.some.inj hstep)
      · have hidle : s.timer = .idle := by
          -- the callback runs only while the timer is armed or ended
          by_contra hne
          have hcall := h.callback hne
          rw [hstart.1] at hcall
          split_ifs at hcall
        rw [hidle]
        apply Inv.of_armed rfl rfl
      · -- `start` throws, and the timer is as it was
        have hstop : ¬ s.conn.m_reconnTimer.state = .stopped := fun hstop => hstart ⟨hstop, rfl⟩
        constructor
        · apply h.callback
        · intro hon
          apply covered_or_update (h.on hon) rfl <;> simp [hi, hstop, onBeforeStop]
        · intro hlost
          apply covered_or_update (h.lost hlost) rfl <;> simp [hi, hstop, beforeStop]

theorem Inv.timer {s t : ReconnectSystem ι} (h : Inv s) {error : Bool}
    (hok : ClearsCovered s (.timer error)) (hnext : next s (.timer error) = some t) :
  Inv t
  := by
  obtain ⟨c, pc, hstep, rfl⟩ := next_timer hnext
  rcases eq_or_ne s.timer .clearTimerOn with hpc | hne
  · rw [hpc] at hstep
    obtain ⟨rfl, rfl⟩ := Prod.mk.inj (Option.some.inj hstep)
    constructor
    · intro hne
      apply absurd rfl hne
    · intro hon
      cases hon
    · intro hconn
      -- here the condition on the run provides the thread that restarts the timer
      right
      apply hok hpc hconn
  · obtain ⟨-, hstate⟩ := timerStep_kept hstep hne h.callback
    cases hfin : finishing pc with
    | true =>
        rw [hfin] at hstate
        apply Inv.of_finishing hstate hfin
    | false =>
        rw [hfin] at hstate
        apply Inv.of_armed hstate hfin

theorem Inv.step (s : ReconnectSystem ι) :
    ∀ (a : Action ι) (t : ReconnectSystem ι), Inv s → ClearsCovered s a →
      next s a = some t → Inv t
  | .thread _, _, h, _, hnext => h.thread hnext
  | .timer _, _, h, hok, hnext => h.timer hok hnext

/-- In every run in which the timer thread never clears `m_isTimerOn` with the handler
disconnected and nobody about to restart the timer, a disconnected handler at rest has its
timer armed. -/
theorem recovering_of_run (error : Bool) (as : List (Action ι)) {t : ReconnectSystem ι}
    (hok : Meets next ClearsCovered (initial ι error) as)
    (hrun : run next (initial ι error) as = some t) :
  t.Recovering
  := by
  have h : Inv t := run_invariant Inv.step (Inv.initial error) hok hrun
  apply h.recovering

/-- The first attempt and the timer's first one fail, and its next one succeeds; an error is
reported when the timer thread has returned. -/
theorem recovering_of_run_one :
  ∃ t, run next (initial Unit true)
      (List.replicate 7 (.timer true) ++ List.replicate 7 (.timer false)
        ++ List.replicate 8 (.thread ())) = some t ∧ t.Recovering
  := by
  refine ⟨_, rfl, ?_⟩
  exact recovering_of_run true
    (List.replicate 7 (.timer true) ++ List.replicate 7 (.timer false)
      ++ List.replicate 8 (.thread ())) (by decide) rfl

/-- The timer connects again, and an error is reported before it clears `m_isTimerOn`. -/
def errorBeforeClear : List (Action Unit) :=
  List.replicate 4 (.timer false) ++ List.replicate 2 (.thread ())
    ++ List.replicate 3 (.timer false)

/-- After `errorBeforeClear` the handler is at rest and disconnected, and its timer will
not tick again. -/
theorem stuck_disconnected :
  ∃ t, run next (initial Unit true) errorBeforeClear = some t ∧ ¬ t.Recovering
  := by
  refine ⟨_, rfl, ?_⟩
  intro h
  have hrest := h ⟨rfl, fun _ => Or.inl rfl⟩ rfl
  cases hrest

/-- The condition is needed: when the timer thread clears `m_isTimerOn` of a disconnected
handler that no other thread is working on, the handler stays disconnected. -/
theorem stuck_of_clear {s : ReconnectSystem ι} (hpc : s.timer = .clearTimerOn)
    (hended : s.conn.m_reconnTimer.state = .ended) (hconn : s.conn.m_isConnected = false)
    (hthread : ∀ i, s.thread i = .outside ∨ s.thread i = .thrown) (error : Bool) :
  ∃ t, next s (.timer error) = some t ∧ ¬ t.Recovering
  := by
  use ⟨{ s.conn with m_isTimerOn := false }, s.thread, .idle⟩
  constructor
  · rw [next, hpc]
    rfl
  · intro h
    have harmed := h ⟨rfl, hthread⟩ hconn
    rw [hended] at harmed
    cases harmed

end ReconnectSystem

end DoorSwitchSvr
