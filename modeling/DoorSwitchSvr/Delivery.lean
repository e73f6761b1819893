import DoorSwitchSvr.Connection
import DoorSwitchSvr.DoorState

/-!
# Commands over a connection that is lost and found

A run of one worker whose writes may fail.  A write that fails is reported to
`handleRWError`, other threads report errors of their own, and the timer tries to connect
again.  The worker is told nothing: it goes on as if the command had been delivered, and no
command is sent again.

The commands that the worker issues are therefore those of a run in which all are delivered
(`run_toChannelRun`).  When no task expires in the queue, a parked worker has issued a close
command last; but when the write of that command has failed, the last frame written to the
switch may be an open one, and a new connection does not change that
(`idle_with_lost_close`).  It is the only way: when the last frame written for a parked
worker is an open one, the close command after it has been lost (`lastOpen_lost_close`).
-/

namespace DoorSwitchSvr

open Transition DoorSwitchChannelController

/-- A controller whose worker runs, the connection it writes to, and the commands it has
written with the success of each write, the last one first. -/
structure Delivery where
  ctl : DoorSwitchChannelController
  conn : Connection
  sent : List (DoorCommand × Bool)
  deriving DecidableEq

namespace Delivery

/-- What happens next.

* `addTask`: another thread adds a task.
* `work`: the worker takes a step; if it writes in it, `written` is the success of the
  write.
* `error`: another thread reports an error.
* `tick`: the timer ticks, and `error` is the outcome of its connection attempt. -/
inductive Action where
  | addTask (task : DoorSwitchOpenNotification)
  | work (elapsed : Int64) (written : Bool)
  | error
  | tick (error : Bool)
  deriving DecidableEq

/-- `sendData`: only an open connection is written to, and a failure is reported. -/
def sendData (s : Delivery) (cmd : DoorCommand) (written : Bool) : Option Delivery :=
  if written then
    if s.conn.m_socket = .connected then some { s with sent := (cmd, true) :: s.sent } else none
  else some { s with conn := (s.conn.handleRWError true).1, sent := (cmd, false) :: s.sent }

/-- The state after an action. -/
def next (type : SWITCH_TYPE) (s : Delivery) : Action → Option Delivery
  | .addTask task => some { s with ctl := s.ctl.addTask task }
  | .work elapsed written =>
      match s.ctl.runStep type elapsed with
      | none => none
      | some (ctl, none) => some { s with ctl := ctl }
      | some (ctl, some cmd) => sendData { s with ctl := ctl } cmd written
  | .error => some { s with conn := (s.conn.handleRWError true).1 }
  | .tick error =>
      if s.conn.m_reconnTimer.state = .armed then
        some { s with conn := s.conn.onReconnTimer error }
      else none

/-- A started controller of a connected handler. -/
def initial (channel : UInt16) : Delivery :=
  ⟨(ChannelRun.initial channel).ctl, (({} : Connection).connect false true).1, []⟩

/-- The last command that has been written successfully. -/
def lastWritten (s : Delivery) : Option DoorCommand :=
  (s.sent.find? (fun x => x.2)).map Prod.fst

/-- A worker parked on an empty queue of a connected handler has not left its door open. -/
def IdleDelivered (s : Delivery) : Prop :=
  s.ctl.pc = .parked → s.ctl.m_taskNotiQue = [] → s.conn.m_isConnected = true →
    s.lastWritten ≠ some .openCommand

instance (s : Delivery) : Decidable s.IdleDelivered :=
  inferInstanceAs (Decidable (_ → _))

/-- A task that the worker has taken from the queue has not expired. -/
def TaskAlive (elapsed : Int64) : Pc → Prop
  | .gotTask task => 0 < task.realWait elapsed
  | _ => True

instance (elapsed : Int64) : (pc : Pc) → Decidable (TaskAlive elapsed pc)
  | .gotTask _ => inferInstanceAs (Decidable (_ < _))
  | .notStarted | .testStop | .waitDequeue | .parked | .gotNull | .discard | .sendOpen _
  | .sleeping _ | .testEmpty | .sendClose | .returned => isTrue trivial

/-- No task expires in this action. -/
def NoExpiry (s : Delivery) : Action → Prop
  | .work elapsed _ => TaskAlive elapsed s.ctl.pc
  | _ => True

instance (s : Delivery) : (a : Action) → Decidable (NoExpiry s a)
  | .work _ _ => inferInstanceAs (Decidable (TaskAlive _ _))
  | .addTask _ | .error | .tick _ => isTrue trivial

/-! ### The run without failures -/

/-- The commands issued, delivered or not. -/
def toChannelRun (s : Delivery) : ChannelRun := ⟨s.ctl, s.sent.map Prod.fst⟩

/-- What an action is for the worker. -/
def Action.toChannelRun : Action → List ChannelRun.Action
  | .addTask task => [.addTask task]
  | .work elapsed _ => [.work elapsed]
  | .error | .tick _ => []

theorem sendData_toChannelRun {s t : Delivery} {cmd : DoorCommand} {written : Bool}
    (h : s.sendData cmd written = some t) :
  t.toChannelRun = ⟨s.ctl, cmd :: s.sent.map Prod.fst⟩
  := by
  rw [sendData] at h
  split_ifs at h <;> obtain rfl := Option.some.inj h <;> rfl

/-- A step with failures is a step, or none, of the run without. -/
theorem next_toChannelRun {type : SWITCH_TYPE} {s t : Delivery} :
    ∀ {a : Action}, next type s a = some t →
      run (ChannelRun.next type) s.toChannelRun a.toChannelRun = some t.toChannelRun
  | .addTask task, h => by
      obtain rfl := Option.some.inj h
      rfl
  | .work elapsed written, h => by
      rw [Action.toChannelRun, run_cons, ChannelRun.next, toChannelRun]
      rw [next] at h
      split at h
      next => cases h
      next ctl hstep =>
        obtain rfl := Option.some.inj h
        simp only [hstep]
        rfl
      next ctl cmd hstep =>
        rw [sendData_toChannelRun h]
        simp only [hstep]
        rfl
  | .error, h => by
      obtain rfl := Option.some.inj h
      rfl
  | .tick error, h => by
      rw [next] at h
      split_ifs at h
      obtain rfl := Option.some.inj h
      rfl

/-- The worker of a run with failures issues the commands of a run without. -/
theorem run_toChannelRun {type : SWITCH_TYPE} {as : List Action} {s t : Delivery}
    (h : run (next type) s as = some t) :
  run (ChannelRun.next type) s.toChannelRun (as.flatMap Action.toChannelRun)
    = some t.toChannelRun
  := run_flatMap (fun _ _ _ => next_toChannelRun) h

/-! ### A parked worker -/

/-- The door is as `IdleInv` says if all commands are delivered, and the worker does not
discard a task. -/
def Inv (type : SWITCH_TYPE) (s : Delivery) : Prop :=
  ChannelRun.IdleInv type s.toChannelRun ∧ s.ctl.pc ≠ .discard

theorem Inv.addTask {type : SWITCH_TYPE} {s t : Delivery} (h : Inv type s)
    {task : DoorSwitchOpenNotification} (hnext : next type s (.addTask task) = some t) :
  Inv type t
  := by
  have hrun := next_toChannelRun hnext
  rw [Action.toChannelRun, run_singleton] at hrun
  constructor
  · apply h.1.addTask hrun
  · obtain ⟨-, -, ⟨-, hpc, -⟩ | ⟨-, hpc, -⟩⟩ := ChannelRun.next_addTask hrun
    · rw [toChannelRun] at hpc
      rw [hpc]
      apply Pc.noConfusion
    · rw [toChannelRun] at hpc
      rw [hpc]
      apply h.2

theorem Inv.work {type : SWITCH_TYPE} {s t : Delivery} (h : Inv type s) {elapsed : Int64}
    {written : Bool} (hok : NoExpiry s (.work elapsed written))
    (hnext : next type s (.work elapsed written) = some t) :
  Inv type t
  := by
  have hrun := next_toChannelRun hnext
  rw [Action.toChannelRun, run_singleton] at hrun
  constructor
  · apply h.1.work _ hrun
    intro _ hpc
    apply absurd hpc h.2
  · obtain ⟨cmd, hstep, -⟩ := ChannelRun.next_work hrun
    intro hpc
    obtain ⟨task, hgot, hwait⟩ := hstep.expired hpc
    rw [toChannelRun] at hgot
    rw [NoExpiry, hgot] at hok
    apply hwait hok

theorem Inv.step {type : SWITCH_TYPE} (s : Delivery) :
    ∀ (a : Action) (t : Delivery), Inv type s → NoExpiry s a → next type s a = some t →
      Inv type t
  | .addTask _, _, h, _, hnext => h.addTask hnext
  | .work _ _, _, h, hok, hnext => h.work hok hnext
  | .error, _, h, _, hnext => by
      obtain rfl := Option.some.inj hnext
      apply h
  | .tick error, _, h, _, hnext => by
      rw [next] at hnext
      split_ifs at hnext
      obtain rfl := Option.some.inj hnext
      apply h

theorem Inv.initial (type : SWITCH_TYPE) (channel : UInt16) :
  Inv type (initial channel)
  := by
  constructor
  · exact ChannelRun.IdleInv.initial type channel
  · apply Pc.noConfusion

/-- When the last command issued is not an open one, but the last one written is, then the
last command issued is a close one that has been lost. -/
theorem lost_close_of_lastWritten {s : Delivery} (hshut : ¬ s.toChannelRun.DoorOpen)
    (hopen : s.lastWritten = some .openCommand) :
  s.sent.head? = some (.closeCommand, false)
  := by
  obtain ⟨ctl, conn, sent⟩ := s
  cases sent with
  | nil => cases hopen
  | cons x sent =>
      obtain ⟨cmd, written⟩ := x
      cases cmd with
      | openCommand => apply absurd rfl hshut
      | closeCommand =>
          cases written with
          | false => rfl
          | true => cases hopen

/-- In every run in which no task expires, when the last frame written for a worker parked
on an empty queue is an open one, then the last command issued is a close one, and its write
has failed. -/
theorem lastOpen_lost_close (type : SWITCH_TYPE) (channel : UInt16) (as : List Action)
    {t : Delivery} (hok : Meets (next type) NoExpiry (initial channel) as)
    (hrun : run (next type) (initial channel) as = some t)
    (hpc : t.ctl.pc = .parked) (hq : t.ctl.m_taskNotiQue = [])
    (hopen : t.lastWritten = some .openCommand) :
  t.sent.head? = some (.closeCommand, false)
  := by
  have h : Inv type t := run_invariant Inv.step (Inv.initial type channel) hok hrun
  apply lost_close_of_lastWritten _ hopen
  apply h.1.idleShut hpc hq

/-- A task is served, the write of its close command fails, and the timer connects again. -/
def lostClose : List Action :=
  [.addTask ⟨1000⟩] ++ List.replicate 6 (.work 0 true)
    ++ [.work 0 false, .work 0 true, .work 0 true, .tick false]

theorem lastOpen_lost_close_one :
  ∃ t, run (next .DIRECT_CONTROL_SWITCH) (initial 1) lostClose = some t
    ∧ t.sent.head? = some (.closeCommand, false)
  := by
  refine ⟨_, rfl, ?_⟩
  exact lastOpen_lost_close .DIRECT_CONTROL_SWITCH 1 lostClose (by decide) rfl rfl rfl rfl

/-- After `lostClose`, in which no task expires, the worker is parked and the handler
connected, and the last frame written is an open one. -/
theorem idle_with_lost_close :
  Meets (next .DIRECT_CONTROL_SWITCH) NoExpiry (initial 1) lostClose
    ∧ ∃ t, run (next .DIRECT_CONTROL_SWITCH) (initial 1) lostClose = some t
      ∧ ¬ t.IdleDelivered
  := by
  constructor
  · decide
  · exact ⟨_, rfl, by decide⟩

end Delivery

end DoorSwitchSvr
