import DoorSwitchSvr.ChannelController
import DoorSwitchSvr.Lib.Transition

/-!
# Stopping a controller

`DoorSwitchChannelController::close` interleaved with the worker it stops.  It sets
`m_stop`, clears the queue, releases the consumers that wait on it, and waits for the worker
to return.

The worker tests `m_stop` and registers as a waiting consumer in two steps.  When the
consumers are released between the two, nobody is there to be released, and then the worker
waits for a task that will not come (`lost_wake_up`).  In every run in which they are not,
`close` and the worker never wait for each other (`not_deadlocked_of_run`).
-/

namespace DoorSwitchSvr

open Transition DoorSwitchChannelController

/-- Where `close` is. -/
inductive StopPc where
  | setStop
  | clear
  | wakeUpAll
  | join
  | returned
  deriving DecidableEq, Repr

/-- A controller that is being closed. -/
structure Stopping where
  ctl : DoorSwitchChannelController
  closer : StopPc
  deriving DecidableEq

namespace Stopping

/-- What happens next: a task is added, or a step of `close` or of the worker. -/
inductive Action where
  | addTask (task : DoorSwitchOpenNotification)
  | close
  | work (elapsed : Int64)
  deriving DecidableEq

/-- A step of `close`. -/
def closeStep (s : Stopping) : Option Stopping :=
  match s.closer with
  | .setStop => some { s with ctl.m_stop := true, closer := .clear }
  | .clear => some { s with ctl.m_taskNotiQue := [], closer := .wakeUpAll }
  | .wakeUpAll => some { s with ctl := s.ctl.wakeUpAll, closer := .join }
  | .join => if s.ctl.isRunning then none else some { s with closer := .returned }
  | .returned => none

/-- The state after an action.  No task is added once `close` has begun. -/
def next (type : SWITCH_TYPE) (s : Stopping) : Action → Option Stopping
  | .addTask task =>
      if s.closer = .setStop then some { s with ctl := s.ctl.addTask task } else none
  | .close => s.closeStep
  | .work elapsed => (runStep type elapsed s.ctl).map (fun x => { s with ctl := x.1 })

/-- `close` waits for the worker to return, and the worker for a task. -/
def Deadlocked (s : Stopping) : Prop :=
  s.closer = .join ∧ s.ctl.pc = .parked ∧ s.ctl.m_taskNotiQue = []

instance (s : Stopping) : Decidable s.Deadlocked :=
  inferInstanceAs (Decidable (_ ∧ _))

/-- In a deadlock nothing can happen any more. -/
theorem Deadlocked.next_eq_none {s : Stopping} (h : s.Deadlocked) (type : SWITCH_TYPE) :
    ∀ a : Action, next type s a = none
  | .addTask task => by
      rw [next, if_neg]
      rw [h.1]
      apply StopPc.noConfusion
  | .close => by
      have hrunning : s.ctl.isRunning = true := by
        rw [isRunning, h.2.1]
        rfl
      simp only [next, closeStep, h.1, if_pos hrunning]
  | .work elapsed => by
      rw [next, runStep, h.2.1]
      rfl

/-! ### The invariant -/

/-- The consumers are not released while the worker, having found `m_stop` unset, has yet to
register as one. -/
def WakesRegistered (s : Stopping) : Action → Prop
  | .close => s.closer = .wakeUpAll → s.ctl.pc ≠ .waitDequeue
  | _ => True

instance (s : Stopping) : (a : Action) → Decidable (WakesRegistered s a)
  | .close => inferInstanceAs (Decidable (_ → _))
  | .addTask _ | .work _ => isTrue trivial

/-- What is known of the controller at each point of `close`: `m_stop` is set, the queue is
empty, and the worker does not go to wait any more. -/
def Inv (s : Stopping) : Prop :=
  match s.closer with
  | .setStop => True
  | .clear => s.ctl.m_stop = true
  | .wakeUpAll => s.ctl.m_stop = true ∧ s.ctl.m_taskNotiQue = []
  | .join | .returned =>
      s.ctl.m_stop = true ∧ s.ctl.m_taskNotiQue = []
        ∧ s.ctl.pc ≠ .waitDequeue ∧ s.ctl.pc ≠ .parked

theorem Inv.not_deadlocked {s : Stopping} (h : Inv s) :
  ¬ s.Deadlocked
  := by
  rintro ⟨hcloser, hpc, -⟩
  rw [Inv, hcloser] at h
  apply h.2.2.2 hpc

/-- A worker takes tasks out of its queue only. -/
theorem queue_eq_nil_of_runStep {type : SWITCH_TYPE} {elapsed : Int64}
    {c c' : DoorSwitchChannelController} {cmd : Option DoorCommand}
    (h : RunStep type elapsed c c' cmd) (hq : c.m_taskNotiQue = []) :
  c'.m_taskNotiQue = []
  := by
  cases h with
  | dequeue task tasks _ hq' => cases hq.symm.trans hq'
  | _ => apply hq

/-- A worker that has been told to stop, and is not about to wait, will not wait. -/
theorem not_waiting_of_runStep {type : SWITCH_TYPE} {elapsed : Int64}
    {c c' : DoorSwitchChannelController} {cmd : Option DoorCommand}
    (h : RunStep type elapsed c c' cmd) (hstop : c.m_stop = true) (hpc : c.pc ≠ .waitDequeue) :
  c'.pc ≠ .waitDequeue ∧ c'.pc ≠ .parked
  := by
  cases h with
  | go _ hstop' => cases hstop.symm.trans hstop'
  | park hpc' => apply absurd hpc' hpc
  | _ => exact ⟨Pc.noConfusion, Pc.noConfusion⟩

theorem Inv.close {s t : Stopping} (h : Inv s) (hok : WakesRegistered s .close)
    (hstep : s.closeStep = some t) :
  Inv t
  := by
  rw [closeStep] at hstep
  rw [Inv] at h
  split at hstep
  next =>
    obtain rfl := Option.some.inj hstep
    rfl
  next hcloser =>
    obtain rfl := Option.some.inj hstep
    rw [hcloser] at h
    exact ⟨h, rfl⟩
  next hcloser =>
    obtain rfl := Option.some.inj hstep
    rw [hcloser] at h
    have hpc := hok hcloser
    rw [Inv, wakeUpAll]
    split_ifs with hparked
    · exact ⟨h.1, h.2, Pc.noConfusion, Pc.noConfusion⟩
    · exact ⟨h.1, h.2, hpc, hparked⟩
  next hcloser =>
    split_ifs at hstep
    obtain rfl := Option.some.inj hstep
    rw [hcloser] at h
    apply h
  next => cases hstep

theorem Inv.work {type : SWITCH_TYPE} {s t : Stopping} (h : Inv s) {elapsed : Int64}
    (hnext : next type s (.work elapsed) = some t) :
  Inv t
  := by
  obtain ⟨⟨ctl, cmd⟩, hstep, rfl⟩ := Option.map_eq_some_iff.mp hnext
  have hrun := runStep_eq_some hstep
  have hstop := hrun.kept.2.2.1
  obtain ⟨c, closer⟩ := s
  cases closer with
  | setStop => trivial
  | clear => apply hstop.trans h
  | wakeUpAll => exact ⟨hstop.trans h.1, queue_eq_nil_of_runStep hrun h.2⟩
  | join | returned =>
      exact ⟨hstop.trans h.1, queue_eq_nil_of_runStep hrun h.2.1,
        not_waiting_of_runStep hrun h.1 h.2.2.1⟩

theorem Inv.step {type : SWITCH_TYPE} (s : Stopping) :
    ∀ (a : Action) (t : Stopping), Inv s → WakesRegistered s a → next type s a = some t → Inv t
  | .addTask task, t, _, _, hnext => by
      rw [next] at hnext
      split_ifs at hnext with hcloser
      obtain rfl := Option.some.inj hnext
      rw [Inv, hcloser]
      trivial
  | .close, _, h, hok, hnext => h.close hok hnext
  | .work _, _, h, _, hnext => h.work hnext

/-- For every state of the worker and its queue when `close` is called: in every run in which
the consumers are not released between the worker's test of `m_stop` and its call of
`waitDequeueNotification`, `close` never waits for a worker that waits for a task. -/
theorem not_deadlocked_of_run (type : SWITCH_TYPE) (s : Stopping) (as : List Action)
    {t : Stopping} (hpc : s.closer = .setStop)
    (hok : Meets (next type) WakesRegistered s as) (hrun : run (next type) s as = some t) :
  ¬ t.Deadlocked
  := by
  have hs : Inv s := by
    rw [Inv, hpc]
    trivial
  have ht : Inv t := run_invariant Inv.step hs hok hrun
  apply ht.not_deadlocked

/-- A controller whose worker has just been started. -/
def started : Stopping where
  ctl := ({} : DoorSwitchChannelController).Start
  closer := .setStop

/-- The worker is parked when it is closed. -/
theorem not_deadlocked_of_run_parked :
  ∃ t, run (next .DIRECT_CONTROL_SWITCH) started
      [.work 0, .work 0, .close, .close, .close, .work 0, .close] = some t ∧ ¬ t.Deadlocked
  := by
  refine ⟨_, rfl, ?_⟩
  exact not_deadlocked_of_run .DIRECT_CONTROL_SWITCH started
    [.work 0, .work 0, .close, .close, .close, .work 0, .close] rfl (by decide) rfl

/-- The worker tests `m_stop`, and comes to wait when `close` has released the consumers. -/
theorem lost_wake_up :
  ∃ t, run (next .DIRECT_CONTROL_SWITCH) started
      [.work 0, .close, .close, .close, .work 0] = some t ∧ t.Deadlocked
  := ⟨_, rfl, by decide⟩

/-- The condition is needed: when the consumers are released while the worker has yet to
register as one, the next step of the worker is into a deadlock. -/
theorem deadlocked_of_wakeUpAll {type : SWITCH_TYPE} {s : Stopping}
    (hcloser : s.closer = .wakeUpAll) (hq : s.ctl.m_taskNotiQue = [])
    (hpc : s.ctl.pc = .waitDequeue) (elapsed : Int64) :
  ∃ t, run (next type) s [.close, .work elapsed] = some t ∧ t.Deadlocked
  := by
  obtain ⟨ctl, closer⟩ := s
  simp only at hcloser hq hpc
  use ⟨{ ctl with pc := .parked }, .join⟩
  constructor
  · simp [run_cons, next, closeStep, wakeUpAll, runStep, hcloser, hq, hpc]
  · exact ⟨rfl, rfl, hq⟩

end Stopping

end DoorSwitchSvr
