import DoorSwitchSvr.Command

/-!
# The channel controller

`DoorSwitchChannelController` controls one door.  Its worker thread executes `run`: it
takes tasks from the queue one after another, and opens and closes the door for each.

The worker is modelled one step at a time.  `Pc` says where it is in `run`, and
`runStep type elapsed` is its next step, with the command it sends in that step if it sends
one; `elapsed` is what the stopwatch of the task reads when the step looks at it.  The
tests of `m_stop`, of the task's remaining time and of the queue, the two calls of
`sendData`, and the sleep are each a step of their own, so that other threads can act
between any two of them.

`RunStep` is the same step as a relation, with a constructor for each branch of the source
(`runStep_eq_some`, `RunStep.runStep_eq`).
-/

namespace DoorSwitchSvr

/-- The task given to a worker: the door is to be closed `m_closeAfterMs` milliseconds
after the task was created. -/
structure DoorSwitchOpenNotification where
  m_closeAfterMs : Int32
  deriving DecidableEq, Repr

namespace DoorSwitchOpenNotification

def getCloseAfterMs (task : DoorSwitchOpenNotification) : Int32 := task.m_closeAfterMs

/-- The milliseconds since the creation of the task, where `elapsed` is the reading of its
stopwatch `m_sw` in microseconds. -/
def getElapsed (_task : DoorSwitchOpenNotification) (elapsed : Int64) : Int32 :=
  (elapsed / MICRO2MS.toInt64).toInt32

/-- The milliseconds left until the door is to be closed. -/
def realWait (task : DoorSwitchOpenNotification) (elapsed : Int64) : Int32 :=
  task.getCloseAfterMs - task.getElapsed elapsed

end DoorSwitchOpenNotification

/-- The callback a controller reports its failures to: `handleRWError` of its handler. -/
inductive HandleRWErrorCbFunc where
  | handleRWError
  deriving DecidableEq, Repr

/-- The expiry of a deadline timer: not set, infinite, or a moment in milliseconds. -/
inductive Expiry where
  | not_a_date_time
  | pos_infin
  | moment (t : Int)
  deriving DecidableEq, Repr

/-- A wait that the worker has found to be positive. -/
abbrev PositiveWait : Type := { realWait : Int32 // 0 < realWait }

/-- Where a worker is in `run`.

* `notStarted`, `returned`: the thread does not run, or not any more.
* `testStop`: at the head of the loop, about to test `m_stop`.
* `waitDequeue`: about to call `waitDequeueNotification`.
* `parked`: in `waitDequeueNotification`, registered as a waiting consumer.
* `gotNull`: woken without a task.
* `gotTask`: holding a task, about to compute its `realWait`.
* `discard`: its task has no time left; about to reassign `bNotiInQ`.
* `sendOpen`, `sleeping`: about to open the door, and sleeping, for `realWait`.
* `testEmpty`: after the sleep for a direct switch, about to test the queue.
* `sendClose`: about to close the door. -/
inductive Pc where
  | notStarted
  | testStop
  | waitDequeue
  | parked
  | gotNull
  | gotTask (pWorkNf : DoorSwitchOpenNotification)
  | discard
  | sendOpen (realWait : PositiveWait)
  | sleeping (realWait : PositiveWait)
  | testEmpty
  | sendClose
  | returned
  deriving DecidableEq

/-- The worker is about to open the door. -/
def Pc.isSendOpen : Pc → Bool
  | .sendOpen _ => true
  | _ => false

/-- The controller of one channel.  `pc` and `bNotiInQ` belong to its worker thread;
`added` is a history, the tasks that `addTask` has been called with. -/
structure DoorSwitchChannelController where
  m_channel : UInt16 := 1
  m_write_ret_deadline_timer : Expiry := .not_a_date_time
  m_handleRWErrorCbFunc : Option HandleRWErrorCbFunc := none
  m_taskNotiQue : List DoorSwitchOpenNotification := []
  m_stop : Bool := false
  pc : Pc := .notStarted
  bNotiInQ : Bool := false
  added : List DoorSwitchOpenNotification := []
  deriving DecidableEq

namespace DoorSwitchChannelController

/-! ### The calls of the handler -/

def Init (c : DoorSwitchChannelController) (channel : UInt16) (func : HandleRWErrorCbFunc) :
    DoorSwitchChannelController × ERR_CODE :=
  ({ c with
      m_channel := channel
      m_handleRWErrorCbFunc := some func
      m_write_ret_deadline_timer := .pos_infin }, .ERR_OK)

/-- `enqueueNotification`: a waiting consumer is handed the task, otherwise it joins the
queue. -/
def addTask (c : DoorSwitchChannelController) (task : DoorSwitchOpenNotification) :
    DoorSwitchChannelController :=
  if c.pc = .parked then
    { c with pc := .gotTask task, added := c.added ++ [task] }
  else
    { c with m_taskNotiQue := c.m_taskNotiQue ++ [task], added := c.added ++ [task] }

/-- `m_thread.isRunning()`. -/
def isRunning (c : DoorSwitchChannelController) : Bool :=
  c.pc ≠ .notStarted ∧ c.pc ≠ .returned

def Start (c : DoorSwitchChannelController) : DoorSwitchChannelController :=
  if c.isRunning then c
  else { c with pc := .testStop, bNotiInQ := false }

@[simp]
theorem m_channel_addTask (c : DoorSwitchChannelController) (task : DoorSwitchOpenNotification) :
  (c.addTask task).m_channel = c.m_channel
  := by
  rw [addTask]
  split_ifs <;> rfl

@[simp]
theorem m_handleRWErrorCbFunc_addTask (c : DoorSwitchChannelController)
    (task : DoorSwitchOpenNotification) :
  (c.addTask task).m_handleRWErrorCbFunc = c.m_handleRWErrorCbFunc
  := by
  rw [addTask]
  split_ifs <;> rfl

@[simp]
theorem added_addTask (c : DoorSwitchChannelController) (task : DoorSwitchOpenNotification) :
  (c.addTask task).added = c.added ++ [task]
  := by
  rw [addTask]
  split_ifs <;> rfl

@[simp]
theorem isRunning_addTask (c : DoorSwitchChannelController) (task : DoorSwitchOpenNotification) :
  (c.addTask task).isRunning = c.isRunning
  := by
  rw [addTask]
  split_ifs with hpc
  · rw [isRunning, isRunning, hpc]
    rfl
  · rfl

/-- A worker that has been started stays so when a task is added. -/
theorem addTask_started {c : DoorSwitchChannelController} (h : c.pc ≠ .notStarted)
    (task : DoorSwitchOpenNotification) :
  (c.addTask task).pc ≠ .notStarted
  := by
  rw [addTask]
  split_ifs
  · intro hpc
    cases hpc
  · apply h

theorem Start_started (c : DoorSwitchChannelController) :
  c.Start.pc ≠ .notStarted
  := by
  rw [Start]
  split_ifs with h
  · rw [isRunning, decide_eq_true_eq] at h
    apply h.1
  · intro hpc
    cases hpc

/-- An exception that leaves `run` ends the thread of the worker. -/
def endThread (c : DoorSwitchChannelController) : DoorSwitchChannelController :=
  { c with pc := .returned }

/-- `wakeUpAll`: a waiting consumer is released without a task. -/
def wakeUpAll (c : DoorSwitchChannelController) : DoorSwitchChannelController :=
  if c.pc = .parked then { c with pc := .gotNull } else c

/-! ### The worker -/

/-- The next step of the worker in `run`, and the command it sends in it, if any; `none`
when the worker waits for a task or does not run. -/
def runStep (type : SWITCH_TYPE) (elapsed : Int64) (c : DoorSwitchChannelController) :
    Option (DoorSwitchChannelController × Option DoorCommand) :=
  match c.pc with
  | .notStarted => none
  | .testStop =>
      if c.m_stop then some ({ c with pc := .returned }, none)
      else some ({ c with pc := .waitDequeue }, none)
  | .waitDequeue =>
      match c.m_taskNotiQue with
      | [] => some ({ c with pc := .parked }, none)
      | task :: tasks => some ({ c with pc := .gotTask task, m_taskNotiQue := tasks }, none)
  | .parked => none
  | .gotNull => some ({ c with pc := .returned }, none)
  | .gotTask pWorkNf =>
      if h : 0 < pWorkNf.realWait elapsed then
        if type = .INDIRECT_CONTROL_SWITCH ∨ c.bNotiInQ = false then
          some ({ c with pc := .sendOpen ⟨pWorkNf.realWait elapsed, h⟩ }, none)
        else
          -- the door is taken to be open for the task before this one
          some ({ c with pc := .sleeping ⟨pWorkNf.realWait elapsed, h⟩ }, none)
      else some ({ c with pc := .discard }, none)
  | .discard =>
      some ({ c with pc := .testStop, bNotiInQ := !c.m_taskNotiQue.isEmpty }, none)
  | .sendOpen realWait => some ({ c with pc := .sleeping realWait }, some .openCommand)
  | .sleeping _ =>
      if type = .INDIRECT_CONTROL_SWITCH then some ({ c with pc := .sendClose }, none)
      else some ({ c with pc := .testEmpty }, none)
  | .testEmpty =>
      if c.m_taskNotiQue.isEmpty then
        some ({ c with pc := .sendClose, bNotiInQ := false }, none)
      else some ({ c with pc := .testStop, bNotiInQ := true }, none)
  | .sendClose =>
      if type = .INDIRECT_CONTROL_SWITCH then
        some ({ c with pc := .testStop, bNotiInQ := false }, some .closeCommand)
      else some ({ c with pc := .testStop }, some .closeCommand)
  | .returned => none

/-- A step of the worker in `run`, one constructor for each branch. -/
inductive RunStep (type : SWITCH_TYPE) (elapsed : Int64) (c : DoorSwitchChannelController) :
    DoorSwitchChannelController → Option DoorCommand → Prop where
  | stop (hpc : c.pc = .testStop) (hstop : c.m_stop = true) :
      RunStep type elapsed c { c with pc := .returned } none
  | go (hpc : c.pc = .testStop) (hstop : c.m_stop = false) :
      RunStep type elapsed c { c with pc := .waitDequeue } none
  | park (hpc : c.pc = .waitDequeue) (hq : c.m_taskNotiQue = []) :
      RunStep type elapsed c { c with pc := .parked } none
  | dequeue (task : DoorSwitchOpenNotification) (tasks : List DoorSwitchOpenNotification)
      (hpc : c.pc = .waitDequeue) (hq : c.m_taskNotiQue = task :: tasks) :
      RunStep type elapsed c { c with pc := .gotTask task, m_taskNotiQue := tasks } none
  | null (hpc : c.pc = .gotNull) :
      RunStep type elapsed c { c with pc := .returned } none
  | serve (task : DoorSwitchOpenNotification) (hpc : c.pc = .gotTask task)
      (hwait : 0 < task.realWait elapsed)
      (hopen : type = .INDIRECT_CONTROL_SWITCH ∨ c.bNotiInQ = false) :
      RunStep type elapsed c { c with pc := .sendOpen ⟨task.realWait elapsed, hwait⟩ } none
  | follow (task : DoorSwitchOpenNotification) (hpc : c.pc = .gotTask task)
      (hwait : 0 < task.realWait elapsed)
      (htype : type ≠ .INDIRECT_CONTROL_SWITCH) (hopen : c.bNotiInQ = true) :
      RunStep type elapsed c { c with pc := .sleeping ⟨task.realWait elapsed, hwait⟩ } none
  | expire (task : DoorSwitchOpenNotification) (hpc : c.pc = .gotTask task)
      (hwait : ¬ 0 < task.realWait elapsed) :
      RunStep type elapsed c { c with pc := .discard } none
  | discard (hpc : c.pc = .discard) :
      RunStep type elapsed c
        { c with pc := .testStop, bNotiInQ := !c.m_taskNotiQue.isEmpty } none
  | sendOpen (realWait : PositiveWait) (hpc : c.pc = .sendOpen realWait) :
      RunStep type elapsed c { c with pc := .sleeping realWait } (some .openCommand)
  | wakeIndirect (realWait : PositiveWait) (hpc : c.pc = .sleeping realWait)
      (htype : type = .INDIRECT_CONTROL_SWITCH) :
      RunStep type elapsed c { c with pc := .sendClose } none
  | wakeDirect (realWait : PositiveWait) (hpc : c.pc = .sleeping realWait)
      (htype : type ≠ .INDIRECT_CONTROL_SWITCH) :
      RunStep type elapsed c { c with pc := .testEmpty } none
  | last (hpc : c.pc = .testEmpty) (hq : c.m_taskNotiQue = []) :
      RunStep type elapsed c { c with pc := .sendClose, bNotiInQ := false } none
  | notLast (hpc : c.pc = .testEmpty) (hq : c.m_taskNotiQue ≠ []) :
      RunStep type elapsed c { c with pc := .testStop, bNotiInQ := true } none
  | closeIndirect (hpc : c.pc = .sendClose) (htype : type = .INDIRECT_CONTROL_SWITCH) :
      RunStep type elapsed c { c with pc := .testStop, bNotiInQ := false }
        (some .closeCommand)
  | closeDirect (hpc : c.pc = .sendClose) (htype : type ≠ .INDIRECT_CONTROL_SWITCH) :
      RunStep type elapsed c { c with pc := .testStop } (some .closeCommand)

/-- `RunStep` is the graph of `runStep`. -/
theorem runStep_eq_some {type : SWITCH_TYPE} {elapsed : Int64}
    {c c' : DoorSwitchChannelController} {cmd : Option DoorCommand}
    (h : runStep type elapsed c = some (c', cmd)) :
  RunStep type elapsed c c' cmd
  := by
  rw [runStep] at h
  split at h
  next => cases h
  next hpc =>
    split_ifs at h with hstop <;> obtain ⟨rfl, rfl⟩ := Prod.mk.inj (Option.some.inj h)
    · apply RunStep.stop hpc hstop
    · apply RunStep.go hpc (by simpa using hstop)
  next hpc =>
    split at h
    next hq =>
      obtain ⟨rfl, rfl⟩ := Prod.mk.inj (Option.some.inj h)
      apply RunStep.park hpc hq
    next task tasks hq =>
      obtain ⟨rfl, rfl⟩ := Prod.mk.inj (Option.some.inj h)
      apply RunStep.dequeue task tasks hpc hq
  next => cases h
  next hpc =>
    obtain ⟨rfl, rfl⟩ := Prod.mk.inj (Option.some.inj h)
    apply RunStep.null hpc
  next task hpc =>
    split_ifs at h with hwait hopen <;> obtain ⟨rfl, rfl⟩ := Prod.mk.inj (Option.some.inj h)
    · apply RunStep.serve task hpc hwait hopen
    · rw [not_or] at hopen
      apply RunStep.follow task hpc hwait hopen.1 (by simpa using hopen.2)
    · apply RunStep.expire task hpc hwait
  next hpc =>
    obtain ⟨rfl, rfl⟩ := Prod.mk.inj (Option.some.inj h)
    apply RunStep.discard hpc
  next realWait hpc =>
    obtain ⟨rfl, rfl⟩ := Prod.mk.inj (Option.some.inj h)
    apply RunStep.sendOpen realWait hpc
  next realWait hpc =>
    split_ifs at h with htype <;> obtain ⟨rfl, rfl⟩ := Prod.mk.inj (Option.some.inj h)
    · apply RunStep.wakeIndirect realWait hpc htype
    · apply RunStep.wakeDirect realWait hpc htype
  next hpc =>
    split_ifs at h with hq <;> obtain ⟨rfl, rfl⟩ := Prod.mk.inj (Option.some.inj h)
    · apply RunStep.last hpc (by simpa using hq)
    · apply RunStep.notLast hpc (by simpa using hq)
  next hpc =>
    split_ifs at h with htype <;> obtain ⟨rfl, rfl⟩ := Prod.mk.inj (Option.some.inj h)
    · apply RunStep.closeIndirect hpc htype
    · apply RunStep.closeDirect hpc htype
  next => cases h

theorem RunStep.runStep_eq {type : SWITCH_TYPE} {elapsed : Int64}
    {c c' : DoorSwitchChannelController} {cmd : Option DoorCommand}
    (h : RunStep type elapsed c c' cmd) :
  runStep type elapsed c = some (c', cmd)
  := by
  cases h with
  | null hpc | discard hpc | sendOpen _ hpc => simp only [runStep, hpc]
  | stop hpc hstop | go hpc hstop => simp [runStep, hpc, hstop]
  | park hpc hq | dequeue _ _ hpc hq | last hpc hq | notLast hpc hq => simp [runStep, hpc, hq]
  | serve _ hpc hwait hopen => simp only [runStep, hpc, dif_pos hwait, if_pos hopen]
  | follow _ hpc hwait htype hopen => simp [runStep, hpc, hwait, htype, hopen]
  | expire _ hpc hwait => simp only [runStep, hpc, dif_neg hwait]
  | wakeIndirect _ hpc htype | wakeDirect _ hpc htype | closeIndirect hpc htype
  | closeDirect hpc htype => simp [runStep, hpc, htype]

/-- The worker does not touch what belongs to the other threads. -/
theorem RunStep.kept {type : SWITCH_TYPE} {elapsed : Int64}
    {c c' : DoorSwitchChannelController} {cmd : Option DoorCommand}
    (h : RunStep type elapsed c c' cmd) :
  c'.m_channel = c.m_channel ∧ c'.m_handleRWErrorCbFunc = c.m_handleRWErrorCbFunc
    ∧ c'.m_stop = c.m_stop ∧ c'.added = c.added ∧ c'.pc ≠ .notStarted
  := by
  cases h <;> exact ⟨rfl, rfl, rfl, rfl, Pc.noConfusion⟩

/-- The worker only discards a task that has no time left. -/
theorem RunStep.expired {type : SWITCH_TYPE} {elapsed : Int64}
    {c c' : DoorSwitchChannelController} {cmd : Option DoorCommand}
    (h : RunStep type elapsed c c' cmd) (hpc : c'.pc = .discard) :
  ∃ task, c.pc = .gotTask task ∧ ¬ 0 < task.realWait elapsed
  := by
  cases h with
  | expire task hgot hwait => use task, hgot, hwait
  | _ => cases hpc

/-- The worker only sends an open command where `sendOpen` says so. -/
theorem RunStep.opens {type : SWITCH_TYPE} {elapsed : Int64}
    {c c' : DoorSwitchChannelController} (h : RunStep type elapsed c c' (some .openCommand)) :
  c.pc.isSendOpen
  := by
  cases h with
  | sendOpen realWait hpc =>
      rw [hpc]
      rfl

end DoorSwitchChannelController

end DoorSwitchSvr
