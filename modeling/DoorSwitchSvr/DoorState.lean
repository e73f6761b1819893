import DoorSwitchSvr.ChannelController
import DoorSwitchSvr.Lib.Transition

/-!
# The door of a channel

A run of one worker from its start, with the tasks that other threads add at any moment,
and the commands the worker has issued for its door.  Every command is taken to be
delivered, so the last one issued says whether the door is open.

What is wanted of the door:

* `IdleShut`: when the worker is parked on an empty queue, the door is not open.
* `ServedOpen`: when the worker sleeps for a task, the door is open.

Neither holds of every run of a direct switch.  A task that has expired in the queue is
discarded by a branch that sends no command and reassigns `bNotiInQ`, whatever the state
of the door.  Discarding the last task of the queue leaves an open door open
(`idle_left_open`), and discarding a task before others lets the next one find `bNotiInQ`
set and the door shut (`served_shut`).

Outside these cases the two properties hold: `IdleShut` in every run in which no discard
leaves an open door behind (`idleShut_of_run`), and `ServedOpen` in every run in which no
discard sets `bNotiInQ` while the door is shut (`servedOpen_of_run`).
-/

namespace DoorSwitchSvr

open Transition DoorSwitchChannelController

/-- A controller whose worker runs, and the commands the worker has issued, the last one
first. -/
structure ChannelRun where
  ctl : DoorSwitchChannelController
  issued : List DoorCommand
  deriving DecidableEq

namespace ChannelRun

/-- What happens next: another thread adds a task, or the worker takes a step in which the
stopwatch of its task reads `elapsed` microseconds. -/
inductive Action where
  | addTask (task : DoorSwitchOpenNotification)
  | work (elapsed : Int64)
  deriving DecidableEq

/-- The state after an action. -/
def next (type : SWITCH_TYPE) (s : ChannelRun) : Action → Option ChannelRun
  | .addTask task => some { s with ctl := s.ctl.addTask task }
  | .work elapsed =>
      (s.ctl.runStep type elapsed).map (fun x => ⟨x.1, x.2.toList ++ s.issued⟩)

/-- A controller for `channel` that has been initialised and started. -/
def initial (channel : UInt16) : ChannelRun :=
  ⟨(Init {} channel .handleRWError).1.Start, []⟩

/-- The door is open: the last command issued is an open command. -/
def DoorOpen (s : ChannelRun) : Prop := s.issued.head? = some .openCommand

instance (s : ChannelRun) : Decidable s.DoorOpen :=
  inferInstanceAs (Decidable (_ = _))

/-- A worker parked on an empty queue has not left its door open. -/
def IdleShut (s : ChannelRun) : Prop :=
  s.ctl.pc = .parked → s.ctl.m_taskNotiQue = [] → ¬ s.DoorOpen

instance (s : ChannelRun) : Decidable s.IdleShut :=
  inferInstanceAs (Decidable (_ → _))

/-- A worker that sleeps for a task has its door open. -/
def ServedOpen (s : ChannelRun) : Prop :=
  ∀ realWait, s.ctl.pc = .sleeping realWait → s.DoorOpen

/-! ### Steps -/

/-- A step of the worker is a step of `run`, and its command is then the last one. -/
theorem next_work {type : SWITCH_TYPE} {s t : ChannelRun} {elapsed : Int64}
    (h : next type s (.work elapsed) = some t) :
  ∃ cmd, RunStep type elapsed s.ctl t.ctl cmd ∧ t.issued = cmd.toList ++ s.issued
  := by
  obtain ⟨⟨c, cmd⟩, hc, rfl⟩ := Option.map_eq_some_iff.mp h
  use cmd
  constructor
  · apply runStep_eq_some hc
  · rfl

theorem next_of_step {type : SWITCH_TYPE} {s : ChannelRun} {elapsed : Int64}
    {c : DoorSwitchChannelController} {cmd : Option DoorCommand}
    (h : RunStep type elapsed s.ctl c cmd) :
  next type s (.work elapsed) = some ⟨c, cmd.toList ++ s.issued⟩
  := by
  rw [next, h.runStep_eq]
  rfl

/-- Adding a task hands it to a parked worker, and otherwise puts it in the queue. -/
theorem next_addTask {type : SWITCH_TYPE} {s t : ChannelRun}
    {task : DoorSwitchOpenNotification} (h : next type s (.addTask task) = some t) :
  t.issued = s.issued ∧ t.ctl.bNotiInQ = s.ctl.bNotiInQ
    ∧ (s.ctl.pc = .parked ∧ t.ctl.pc = .gotTask task
        ∧ t.ctl.m_taskNotiQue = s.ctl.m_taskNotiQue
      ∨ s.ctl.pc ≠ .parked ∧ t.ctl.pc = s.ctl.pc
        ∧ t.ctl.m_taskNotiQue = s.ctl.m_taskNotiQue ++ [task])
  := by
  obtain rfl := Option.some.inj h
  rw [addTask]
  split_ifs with hpc
  · exact ⟨rfl, rfl, Or.inl ⟨hpc, rfl, rfl⟩⟩
  · exact ⟨rfl, rfl, Or.inr ⟨hpc, rfl, rfl⟩⟩

/-- The door is as it was while no command is issued. -/
theorem doorOpen_of_issued_eq {s t : ChannelRun} (h : t.issued = s.issued) :
  t.DoorOpen ↔ s.DoorOpen
  := by
  rw [DoorOpen, DoorOpen, h]

theorem not_doorOpen_close (ctl : DoorSwitchChannelController) (issued : List DoorCommand) :
  ¬ DoorOpen ⟨ctl, (some DoorCommand.closeCommand).toList ++ issued⟩
  := by
  simp [DoorOpen]

/-! ### An idle worker -/

/-- What is known of the door at each point of `run`.  While a worker goes for its next
task with the door open, that task is in the queue; so a parked worker has its door shut.
An indirect switch has its door shut wherever it is not serving a task. -/
def IdleInv (type : SWITCH_TYPE) (s : ChannelRun) : Prop :=
  match s.ctl.pc with
  | .testStop | .waitDequeue =>
      s.DoorOpen → type ≠ .INDIRECT_CONTROL_SWITCH ∧ s.ctl.m_taskNotiQue ≠ []
  | .parked => ¬ s.DoorOpen
  | .gotTask _ | .discard => s.DoorOpen → type ≠ .INDIRECT_CONTROL_SWITCH
  | .testEmpty => type ≠ .INDIRECT_CONTROL_SWITCH
  | _ => True

/-- The action does not make a direct switch discard the last task of its queue while the
door is open. -/
def DiscardsLastShut (type : SWITCH_TYPE) (s : ChannelRun) : Action → Prop
  | .addTask _ => True
  | .work _ =>
      type ≠ .INDIRECT_CONTROL_SWITCH → s.ctl.pc = .discard → s.ctl.m_taskNotiQue = [] →
        ¬ s.DoorOpen

instance (type : SWITCH_TYPE) (s : ChannelRun) :
    (a : Action) → Decidable (DiscardsLastShut type s a)
  | .addTask _ => isTrue trivial
  | .work _ => inferInstanceAs (Decidable (_ → _))

theorem IdleInv.addTask {type : SWITCH_TYPE} {s t : ChannelRun} (h : IdleInv type s)
    {task : DoorSwitchOpenNotification} (hnext : next type s (.addTask task) = some t) :
  IdleInv type t
  := by
  obtain ⟨hissued, -, ⟨hpc, hpc', hq⟩ | ⟨hpc, hpc', hq⟩⟩ := next_addTask hnext
  · rw [IdleInv, hpc] at h
    rw [IdleInv, hpc', doorOpen_of_issued_eq hissued]
    intro hopen
    apply absurd hopen h
  · rw [IdleInv] at h ⊢
    rw [hpc', hq, doorOpen_of_issued_eq hissued]
    have hne : s.ctl.m_taskNotiQue ++ [task] ≠ [] := by simp
    split at h <;> simp_all

theorem IdleInv.work {type : SWITCH_TYPE} {s t : ChannelRun} (h : IdleInv type s)
    {elapsed : Int64} (hok : DiscardsLastShut type s (.work elapsed))
    (hnext : next type s (.work elapsed) = some t) :
  IdleInv type t
  := by
  obtain ⟨ctl, issued⟩ := t
  obtain ⟨cmd, hstep, rfl⟩ := next_work hnext
  rw [IdleInv] at h
  cases hstep with
  | stop => trivial
  | go hpc _ =>
      rw [hpc] at h
      apply h
  | park hpc hq =>
      rw [hpc] at h
      intro hopen
      apply (h hopen).2 hq
  | dequeue task tasks hpc _ =>
      rw [hpc] at h
      intro hopen
      apply (h hopen).1
  | null => trivial
  | serve => trivial
  | follow => trivial
  | expire task hpc _ =>
      rw [hpc] at h
      apply h
  | discard hpc =>
      rw [hpc] at h
      intro hopen
      have htype := h hopen
      use htype
      -- here the condition on the run excludes an empty queue
      intro hq
      apply hok htype hpc hq hopen
  | sendOpen => trivial
  | wakeIndirect => trivial
  | wakeDirect _ _ htype => apply htype
  | last => trivial
  | notLast hpc hq =>
      rw [hpc] at h
      intro _
      exact ⟨h, hq⟩
  | closeIndirect =>
      intro hopen
      apply absurd hopen (not_doorOpen_close _ _)
  | closeDirect =>
      intro hopen
      apply absurd hopen (not_doorOpen_close _ _)

theorem IdleInv.step {type : SWITCH_TYPE} (s : ChannelRun) :
    ∀ (a : Action) (t : ChannelRun), IdleInv type s → DiscardsLastShut type s a →
      next type s a = some t → IdleInv type t
  | .addTask _, _, h, _, hnext => h.addTask hnext
  | .work _, _, h, hok, hnext => h.work hok hnext

theorem IdleInv.initial (type : SWITCH_TYPE) (channel : UInt16) :
  IdleInv type (initial channel)
  := by
  intro hopen
  cases hopen

theorem IdleInv.idleShut {type : SWITCH_TYPE} {s : ChannelRun} (h : IdleInv type s) :
  s.IdleShut
  := by
  intro hpc _
  rw [IdleInv, hpc] at h
  apply h

/-- In every run in which no direct switch discards the last task of its queue while its
door is open, a worker parked on an empty queue has its door shut. -/
theorem idleShut_of_run (type : SWITCH_TYPE) (channel : UInt16) (as : List Action)
    {t : ChannelRun}
    (hok : Meets (next type) (DiscardsLastShut type) (initial channel) as)
    (hrun : run (next type) (initial channel) as = some t) :
  t.IdleShut
  := by
  have h : IdleInv type t :=
    run_invariant IdleInv.step (IdleInv.initial type channel) hok hrun
  apply h.idleShut

/-- One task, served. -/
theorem idleShut_of_run_one :
  ∃ t, run (next .DIRECT_CONTROL_SWITCH) (initial 1)
      ([.addTask ⟨1000⟩] ++ List.replicate 9 (.work 0)) = some t ∧ t.IdleShut
  := by
  refine ⟨_, rfl, ?_⟩
  exact idleShut_of_run .DIRECT_CONTROL_SWITCH 1
    ([.addTask ⟨1000⟩] ++ List.replicate 9 (.work 0)) (by decide) rfl

/-- A task for a second, and half a second's task added while the door is open for it.
When the worker comes to the second task its time is over. -/
def lateFollower : List Action :=
  [.addTask ⟨1000⟩, .work 0, .work 0, .work 0, .work 0, .addTask ⟨500⟩, .work 0, .work 0,
    .work 0, .work 0, .work 900000, .work 0, .work 0, .work 0]

/-- After `lateFollower` the worker of a direct switch is parked with its door open. -/
theorem idle_left_open :
  ∃ t, run (next .DIRECT_CONTROL_SWITCH) (initial 1) lateFollower = some t ∧ ¬ t.IdleShut
  := ⟨_, rfl, by decide⟩

/-- The condition is needed: from a state in which the last task of the queue is to be
discarded with the door open, the next three steps of the worker park it. -/
theorem idle_left_open_of_discard {type : SWITCH_TYPE} {s : ChannelRun}
    (hpc : s.ctl.pc = .discard) (hq : s.ctl.m_taskNotiQue = []) (hstop : s.ctl.m_stop = false)
    (hopen : s.DoorOpen) (elapsed : Int64) :
  ∃ t, run (next type) s (List.replicate 3 (.work elapsed)) = some t ∧ ¬ t.IdleShut
  := by
  obtain ⟨ctl, issued⟩ := s
  simp only at hpc hq hstop
  use ⟨{ ctl with pc := .parked, bNotiInQ := false }, issued⟩
  constructor
  · simp [List.replicate, run_cons, next, runStep, hpc, hq, hstop]
  · intro h
    apply h rfl hq hopen

/-! ### A served task -/

/-- What is known of the door and of `bNotiInQ` at each point of `run`.  While a worker of
a direct switch goes for its next task, `bNotiInQ` is set only if the door is open. -/
def ServedInv (type : SWITCH_TYPE) (s : ChannelRun) : Prop :=
  match s.ctl.pc with
  | .testStop | .waitDequeue | .parked | .gotTask _ =>
      type ≠ .INDIRECT_CONTROL_SWITCH → s.ctl.bNotiInQ = true → s.DoorOpen
  | .sleeping _ | .testEmpty => s.DoorOpen
  | .sendClose => type ≠ .INDIRECT_CONTROL_SWITCH → s.ctl.bNotiInQ = false
  | _ => True

/-- The action does not make a direct switch discard a task with others behind it while
the door is shut. -/
def DiscardsQueuedOpen (type : SWITCH_TYPE) (s : ChannelRun) : Action → Prop
  | .addTask _ => True
  | .work _ =>
      type ≠ .INDIRECT_CONTROL_SWITCH → s.ctl.pc = .discard → s.ctl.m_taskNotiQue ≠ [] →
        s.DoorOpen

instance (type : SWITCH_TYPE) (s : ChannelRun) :
    (a : Action) → Decidable (DiscardsQueuedOpen type s a)
  | .addTask _ => isTrue trivial
  | .work _ => inferInstanceAs (Decidable (_ → _))

theorem ServedInv.addTask {type : SWITCH_TYPE} {s t : ChannelRun} (h : ServedInv type s)
    {task : DoorSwitchOpenNotification} (hnext : next type s (.addTask task) = some t) :
  ServedInv type t
  := by
  obtain ⟨hissued, hb, ⟨hpc, hpc', -⟩ | ⟨-, hpc', -⟩⟩ := next_addTask hnext
  · rw [ServedInv, hpc] at h
    rw [ServedInv, hpc', hb, doorOpen_of_issued_eq hissued]
    apply h
  · rw [ServedInv] at h ⊢
    rw [hpc', hb, doorOpen_of_issued_eq hissued]
    apply h

theorem ServedInv.work {type : SWITCH_TYPE} {s t : ChannelRun} (h : ServedInv type s)
    {elapsed : Int64} (hok : DiscardsQueuedOpen type s (.work elapsed))
    (hnext : next type s (.work elapsed) = some t) :
  ServedInv type t
  := by
  obtain ⟨ctl, issued⟩ := t
  obtain ⟨cmd, hstep, rfl⟩ := next_work hnext
  rw [ServedInv] at h
  cases hstep with
  | stop => trivial
  | go hpc _ =>
      rw [hpc] at h
      apply h
  | park hpc _ =>
      rw [hpc] at h
      apply h
  | dequeue task tasks hpc _ =>
      rw [hpc] at h
      apply h
  | null => trivial
  | serve => trivial
  | follow task hpc _ htype hb =>
      rw [hpc] at h
      apply h htype hb
  | expire => trivial
  | discard hpc =>
      intro htype hb
      -- here the condition on the run excludes a shut door
      apply hok htype hpc
      rintro hq
      simp [hq] at hb
  | sendOpen => rfl
  | wakeIndirect _ _ htype =>
      intro htype'
      apply absurd htype htype'
  | wakeDirect realWait hpc _ =>
      rw [hpc] at h
      apply h
  | last =>
      intro _
      rfl
  | notLast hpc _ =>
      rw [hpc] at h
      intro _ _
      apply h
  | closeIndirect _ htype =>
      intro htype'
      apply absurd htype htype'
  | closeDirect hpc htype =>
      rw [hpc] at h
      intro _ hb
      simp [h htype] at hb

theorem ServedInv.step {type : SWITCH_TYPE} (s : ChannelRun) :
    ∀ (a : Action) (t : ChannelRun), ServedInv type s → DiscardsQueuedOpen type s a →
      next type s a = some t → ServedInv type t
  | .addTask _, _, h, _, hnext => h.addTask hnext
  | .work _, _, h, hok, hnext => h.work hok hnext

theorem ServedInv.initial (type : SWITCH_TYPE) (channel : UInt16) :
  ServedInv type (initial channel)
  := by
  intro _ hb
  cases hb

theorem ServedInv.servedOpen {type : SWITCH_TYPE} {s : ChannelRun} (h : ServedInv type s) :
  s.ServedOpen
  := by
  intro realWait hpc
  rw [ServedInv, hpc] at h
  apply h

/-- In every run in which no direct switch discards a task with others behind it while its
door is shut, the door is open whenever the worker sleeps for a task. -/
theorem servedOpen_of_run (type : SWITCH_TYPE) (channel : UInt16) (as : List Action)
    {t : ChannelRun}
    (hok : Meets (next type) (DiscardsQueuedOpen type) (initial channel) as)
    (hrun : run (next type) (initial channel) as = some t) :
  t.ServedOpen
  := by
  have h : ServedInv type t :=
    run_invariant ServedInv.step (ServedInv.initial type channel) hok hrun
  apply h.servedOpen

/-- A task that has expired, discarded from the end of the queue, and one that is served. -/
theorem servedOpen_of_run_two :
  ∃ t, run (next .DIRECT_CONTROL_SWITCH) (initial 1)
      ([.addTask ⟨0⟩] ++ List.replicate 4 (.work 0) ++ [.addTask ⟨1000⟩]
        ++ List.replicate 4 (.work 0)) = some t ∧ t.ServedOpen
  := by
  refine ⟨_, rfl, ?_⟩
  exact servedOpen_of_run .DIRECT_CONTROL_SWITCH 1
    ([.addTask ⟨0⟩] ++ List.replicate 4 (.work 0) ++ [.addTask ⟨1000⟩]
      ++ List.replicate 4 (.work 0)) (by decide) rfl

/-- A task without time, and one for a second added before the first is taken. -/
def expiredLeader : List Action :=
  [.addTask ⟨0⟩, .addTask ⟨1000⟩] ++ List.replicate 7 (.work 0)

/-- After `expiredLeader` the worker of a direct switch sleeps a second for its task with
the door shut. -/
theorem served_shut :
  ∃ t, run (next .DIRECT_CONTROL_SWITCH) (initial 1) expiredLeader = some t
    ∧ ¬ t.ServedOpen
  := by
  refine ⟨_, rfl, ?_⟩
  intro h
  have hopen := h ⟨1000, by decide⟩ (by decide)
  revert hopen
  decide

/-- The condition is needed: from a state in which a task is to be discarded with the door
shut and another one behind it that has time left, the next four steps of the worker put
it to sleep. -/
theorem served_shut_of_discard {type : SWITCH_TYPE} {s : ChannelRun}
    {task : DoorSwitchOpenNotification} {tasks : List DoorSwitchOpenNotification}
    (htype : type ≠ .INDIRECT_CONTROL_SWITCH)
    (hpc : s.ctl.pc = .discard) (hq : s.ctl.m_taskNotiQue = task :: tasks)
    (hstop : s.ctl.m_stop = false) (hshut : ¬ s.DoorOpen)
    {elapsed : Int64} (hwait : 0 < task.realWait elapsed) :
  ∃ t, run (next type) s (List.replicate 4 (.work elapsed)) = some t ∧ ¬ t.ServedOpen
  := by
  obtain ⟨ctl, issued⟩ := s
  simp only at hpc hq hstop
  use ⟨{ ctl with
      pc := .sleeping ⟨task.realWait elapsed, hwait⟩
      bNotiInQ := true
      m_taskNotiQue := tasks }, issued⟩
  constructor
  · simp [List.replicate, run_cons, next, runStep, hpc, hq, hstop, hwait, htype]
  · intro h
    apply hshut (h _ rfl)

end ChannelRun

end DoorSwitchSvr
