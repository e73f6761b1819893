import DoorSwitchSvr.DoorState
import DoorSwitchSvr.Stopping
import DoorSwitchSvr.Lib.Projection

/-!
# The life of a worker

A run of one worker with all that can end it.  Beside what happens in a `ChannelRun`, two
things can.

* The callback that `sendData` reports a failed write to throws, and nothing catches the
  exception in `run`, so that it ends the thread of the worker.
* `close` is called on the controller, as in `Stopping`.  It clears the queue, and the tasks
  that it clears are kept as a history.

A worker of which neither happens takes the steps of a `ChannelRun`.
-/

namespace DoorSwitchSvr

open Transition DoorSwitchChannelController

/-- A worker with its commands, where `close` on its controller is, and the tasks that `close`
has cleared from the queue. -/
structure WorkerRun where
  chan : ChannelRun
  closer : StopPc := .setStop
  dropped : List DoorSwitchOpenNotification := []
  deriving DecidableEq

namespace WorkerRun

/-- What happens next: a task is added or the worker takes a step in `run`; the callback that
its `sendData` has called throws; or a step of `close`. -/
inductive Action where
  | run (a : ChannelRun.Action)
  | throws
  | close
  deriving DecidableEq

/-- The worker may be in `sendData`, which it calls in the step before. -/
def inSendData : Pc → Bool
  | .sleeping _ | .testStop => true
  | _ => false

/-- No task is added once `close` has begun, which the destructor of the engine calls when the
proxy has gone. -/
def Takes (s : WorkerRun) : ChannelRun.Action → Prop
  | .addTask _ => s.closer = .setStop
  | .work _ => True

instance (s : WorkerRun) : (a : ChannelRun.Action) → Decidable (s.Takes a)
  | .addTask _ => inferInstanceAs (Decidable (_ = _))
  | .work _ => isTrue trivial

/-- The controller, for the steps of `close`. -/
def stopping (s : WorkerRun) : Stopping := ⟨s.chan.ctl, s.closer⟩

/-- The state after an action. -/
def next (type : SWITCH_TYPE) (s : WorkerRun) : Action → Option WorkerRun
  | .run a =>
      if s.Takes a then (ChannelRun.next type s.chan a).map (fun chan => { s with chan := chan })
      else none
  | .throws =>
      if inSendData s.chan.ctl.pc then some { s with chan.ctl := s.chan.ctl.endThread } else none
  | .close =>
      s.stopping.closeStep.map (fun x =>
        { chan := { s.chan with ctl := x.ctl }
          closer := x.closer
          dropped := s.dropped ++ if s.closer = .clear then s.chan.ctl.m_taskNotiQue else [] })

/-- A controller for `channel` that has been initialised and started. -/
def initial (channel : UInt16) : WorkerRun := { chan := ChannelRun.initial channel }

/-! ### Steps -/

theorem next_run {type : SWITCH_TYPE} {s t : WorkerRun} {a : ChannelRun.Action}
    (h : next type s (.run a) = some t) :
  s.Takes a ∧ ChannelRun.next type s.chan a = some t.chan ∧ t = { s with chan := t.chan }
  := by
  rw [next] at h
  split_ifs at h with htakes
  obtain ⟨chan, hchan, rfl⟩ := Option.map_eq_some_iff.mp h
  exact ⟨htakes, hchan, rfl⟩

theorem next_of_addTask (type : SWITCH_TYPE) {s : WorkerRun} (hcloser : s.closer = .setStop)
    (task : DoorSwitchOpenNotification) :
  next type s (.run (.addTask task)) = some { s with chan.ctl := s.chan.ctl.addTask task }
  := by
  have htakes : s.Takes (.addTask task) := hcloser
  rw [next, if_pos htakes]
  rfl

theorem next_of_work {type : SWITCH_TYPE} {s : WorkerRun} {elapsed : Int64} {chan : ChannelRun}
    (hchan : ChannelRun.next type s.chan (.work elapsed) = some chan) :
  next type s (.run (.work elapsed)) = some { s with chan := chan }
  := by
  have htakes : s.Takes (.work elapsed) := trivial
  rw [next, if_pos htakes, hchan]
  rfl

theorem next_throws {type : SWITCH_TYPE} {s t : WorkerRun} (h : next type s .throws = some t) :
  inSendData s.chan.ctl.pc = true ∧ t = { s with chan.ctl := s.chan.ctl.endThread }
  := by
  rw [next] at h
  split_ifs at h with hpc
  use hpc, (Option.some.inj h).symm

/-- A step of `close` tells the worker to stop, clears its queue, releases it, or finds that it
does not run any more. -/
theorem next_close {type : SWITCH_TYPE} {s t : WorkerRun} (h : next type s .close = some t) :
  t.closer ≠ .setStop
    ∧ (t.chan = { s.chan with ctl.m_stop := true } ∧ t.dropped = s.dropped
      ∨ t.chan = { s.chan with ctl.m_taskNotiQue := [] } ∧ s.closer ≠ .setStop
        ∧ t.dropped = s.dropped ++ s.chan.ctl.m_taskNotiQue
      ∨ t.chan = { s.chan with ctl := s.chan.ctl.wakeUpAll } ∧ t.dropped = s.dropped
      ∨ t.chan = s.chan ∧ t.dropped = s.dropped)
  := by
  obtain ⟨chan, closer, dropped⟩ := s
  obtain ⟨x, hx, rfl⟩ := Option.map_eq_some_iff.mp h
  rw [stopping, Stopping.closeStep] at hx
  cases closer with
  | setStop =>
      obtain rfl := Option.some.inj hx
      exact ⟨StopPc.noConfusion, Or.inl ⟨rfl, List.append_nil _⟩⟩
  | clear =>
      obtain rfl := Option.some.inj hx
      exact ⟨StopPc.noConfusion, Or.inr (Or.inl ⟨rfl, StopPc.noConfusion, rfl⟩)⟩
  | wakeUpAll =>
      obtain rfl := Option.some.inj hx
      exact ⟨StopPc.noConfusion, Or.inr (Or.inr (Or.inl ⟨rfl, List.append_nil _⟩))⟩
  | join =>
      simp only at hx
      split_ifs at hx
      obtain rfl := Option.some.inj hx
      exact ⟨StopPc.noConfusion, Or.inr (Or.inr (Or.inr ⟨rfl, List.append_nil _⟩))⟩
  | returned => cases hx

/-! ### The invariant -/

/-- What is known of a worker.

* A parked worker has found its queue empty, and a task that is added then is handed to it.
* It is only told to stop, or released without a task, by `close`.
* When `close` has cleared tasks, none come any more. -/
structure Inv (s : WorkerRun) : Prop where
  started : s.chan.ctl.pc ≠ .notStarted
  parkedEmpty : s.chan.ctl.pc = .parked → s.chan.ctl.m_taskNotiQue = []
  told : s.chan.ctl.m_stop = true ∨ s.chan.ctl.pc = .gotNull → s.closer ≠ .setStop
  cleared : s.dropped ≠ [] → s.chan.ctl.m_taskNotiQue = [] ∧ s.closer ≠ .setStop

theorem Inv.initial (channel : UInt16) :
  Inv (initial channel)
  := by
  constructor
  · apply Pc.noConfusion
  · intro hpc
    cases hpc
  · rintro (hstop | hpc)
    · cases hstop
    · cases hpc
  · intro hdropped
    apply absurd rfl hdropped

theorem Inv.addTask {s : WorkerRun} (h : Inv s) (hcloser : s.closer = .setStop)
    (task : DoorSwitchOpenNotification) :
  Inv { s with chan.ctl := s.chan.ctl.addTask task }
  := by
  have htold : ¬ (s.chan.ctl.m_stop = true ∨ s.chan.ctl.pc = .gotNull) :=
    fun ht => h.told ht hcloser
  have hdropped : s.dropped = [] := by
    by_contra hne
    apply (h.cleared hne).2 hcloser
  by_cases hpc : s.chan.ctl.pc = .parked
  · constructor <;> simp_all [DoorSwitchChannelController.addTask]
  · have hstarted := h.started
    constructor <;> simp_all [DoorSwitchChannelController.addTask]

theorem Inv.work {type : SWITCH_TYPE} {s : WorkerRun} (h : Inv s) {elapsed : Int64}
    {ctl : DoorSwitchChannelController} {cmd : Option DoorCommand} (issued : List DoorCommand)
    (hstep : RunStep type elapsed s.chan.ctl ctl cmd) :
  Inv { s with chan := ⟨ctl, issued⟩ }
  := by
  obtain ⟨-, -, hstop, -, hstarted⟩ := hstep.kept
  constructor
  · apply hstarted
  · intro hparked
    cases hstep with
    | park _ hq => apply hq
    | _ => cases hparked
  · rintro (hstop' | hnull)
    · apply h.told
      left
      rw [← hstop, hstop']
    · cases hstep <;> cases hnull
  · intro hdropped
    obtain ⟨hq, hcloser⟩ := h.cleared hdropped
    exact ⟨Stopping.queue_eq_nil_of_runStep hstep hq, hcloser⟩

theorem Inv.close {type : SWITCH_TYPE} {s t : WorkerRun} (h : Inv s)
    (hnext : next type s .close = some t) :
  Inv t
  := by
  obtain ⟨chan, closer, dropped⟩ := t
  obtain ⟨hcloser, ⟨rfl, rfl⟩ | ⟨rfl, -, rfl⟩ | ⟨rfl, rfl⟩ | ⟨rfl, rfl⟩⟩ := next_close hnext
  · exact ⟨h.started, h.parkedEmpty, fun _ => hcloser, fun hne => ⟨(h.cleared hne).1, hcloser⟩⟩
  · exact ⟨h.started, fun _ => rfl, fun _ => hcloser, fun _ => ⟨rfl, hcloser⟩⟩
  · simp only [wakeUpAll]
    split_ifs with hpc
    · exact ⟨Pc.noConfusion, Pc.noConfusion, fun _ => hcloser,
        fun hne => ⟨(h.cleared hne).1, hcloser⟩⟩
    · exact ⟨h.started, h.parkedEmpty, fun _ => hcloser, fun hne => ⟨(h.cleared hne).1, hcloser⟩⟩
  · exact ⟨h.started, h.parkedEmpty, fun _ => hcloser, fun hne => ⟨(h.cleared hne).1, hcloser⟩⟩

theorem Inv.step {type : SWITCH_TYPE} {s t : WorkerRun} (h : Inv s) :
    ∀ {a : Action}, next type s a = some t → Inv t
  | .run (.addTask task), hnext => by
      obtain ⟨hcloser, hchan, ht⟩ := next_run hnext
      rw [ht, ← Option.some.inj hchan]
      apply h.addTask hcloser
  | .run (.work elapsed), hnext => by
      obtain ⟨-, hchan, ht⟩ := next_run hnext
      obtain ⟨cmd, hstep, -⟩ := ChannelRun.next_work hchan
      rw [ht]
      apply h.work _ hstep
  | .throws, hnext => by
      obtain ⟨hpc, rfl⟩ := next_throws hnext
      refine ⟨Pc.noConfusion, Pc.noConfusion, ?_, h.cleared⟩
      rintro (hstop | hnull)
      · apply h.told (Or.inl hstop)
      · cases hnull
  | .close, hnext => h.close hnext

theorem inv_of_run {type : SWITCH_TYPE} {channel : UInt16} {as : List Action} {t : WorkerRun}
    (hrun : run (next type) (initial channel) as = some t) :
  Inv t
  := run_invariant_of_step (fun _ _ _ hs hnext => hs.step hnext) (Inv.initial channel) hrun

/-- While `close` has not been called, a worker only returns when an exception ends it. -/
theorem not_returned_of_run {type : SWITCH_TYPE} {channel : UInt16} {as : List Action}
    {t : WorkerRun} (hrun : run (next type) (initial channel) as = some t)
    (hthrows : .throws ∉ as) (hcloser : t.closer = .setStop) :
  t.chan.ctl.pc ≠ .returned
  := by
  have hstep : ∀ (s : WorkerRun) a t,
      (Inv s ∧ (s.chan.ctl.pc = .returned → s.closer ≠ .setStop)) → a ≠ .throws →
      next type s a = some t → Inv t ∧ (t.chan.ctl.pc = .returned → t.closer ≠ .setStop) := by
    rintro s a t ⟨hs, hret⟩ ha hnext
    use hs.step hnext
    intro hpc
    match a with
    | .run (.addTask task) =>
        obtain ⟨-, hchan, ht⟩ := next_run hnext
        rw [ht]
        obtain ⟨-, -, ⟨-, hpc', -⟩ | ⟨-, hpc', -⟩⟩ := ChannelRun.next_addTask hchan
        · cases hpc'.symm.trans hpc
        · apply hret (hpc'.symm.trans hpc)
    | .run (.work elapsed) =>
        obtain ⟨-, hchan, ht⟩ := next_run hnext
        obtain ⟨cmd, hwork, -⟩ := ChannelRun.next_work hchan
        rw [ht]
        apply hs.told
        generalize t.chan.ctl = ctl at hwork hpc
        cases hwork with
        | stop _ hstop => exact Or.inl hstop
        | null hnull => exact Or.inr hnull
        | _ => cases hpc
    | .throws => apply absurd rfl ha
    | .close => apply (next_close hnext).1
  have hok : Meets (next type) (fun _ a => a ≠ Action.throws) (initial channel) as := by
    apply meets_of_forall_mem
    intro a ha heq
    apply hthrows
    rw [← heq]
    apply ha
  intro hpc
  have ht := run_invariant hstep ⟨Inv.initial channel, fun hret => Pc.noConfusion hret⟩ hok hrun
  apply ht.2 hpc hcloser

end WorkerRun

end DoorSwitchSvr
