import DoorSwitchSvr.DoorState
import DoorSwitchSvr.RealWait
import Mathlib.Data.List.Forall2

/-!
# The worker on a clock

One worker on a clock of integer milliseconds, with the times of its requests and of its
commands.

`TimedRun` follows `run` as `DoorSwitchChannelController.runStep` does, except that the
milliseconds are unbounded integers and that a sleep has a moment at which it is over: a
worker that sleeps for `realWait` goes on when the clock has come to the end of the sleep, or
later.  The clock may advance between any two steps of the worker, however long they take.

As long as nothing overflows, every run is one of the worker with its machine integers
(`exists_channelRun`).
-/

namespace DoorSwitchSvr

open Transition

/-- A request for the door, made at `time`: the door is to be closed `closeAfterMs`
milliseconds later. -/
structure Request where
  time : Int
  closeAfterMs : Int
  deriving DecidableEq, Repr

namespace Request

/-- The moment at which the door is to be closed. -/
def deadline (r : Request) : Int := r.time + r.closeAfterMs

/-- The milliseconds left until the door is to be closed. -/
def realWait (r : Request) (now : Int) : Int := r.closeAfterMs - (now - r.time)

theorem add_realWait (r : Request) (now : Int) :
  now + r.realWait now = r.deadline
  := by
  rw [realWait, deadline]
  omega

theorem realWait_pos_iff (r : Request) (now : Int) :
  0 < r.realWait now ↔ now < r.deadline
  := by
  rw [realWait, deadline]
  omega

end Request

/-- Where a worker is in `run`, as in `Pc`.

* `sendOpen`: about to open the door and then to sleep for `realWait`.
* `sleeping`: asleep until `wake` or later. -/
inductive TimedPc where
  | testStop
  | waitDequeue
  | parked
  | gotTask (r : Request)
  | discard
  | sendOpen (realWait : { realWait : Int // 0 < realWait })
  | sleeping (wake : Int)
  | testEmpty
  | sendClose
  deriving DecidableEq

/-- A worker at the time `now`, with three histories.

* `requested`: the requests made.
* `dequeued`: the requests the worker has taken, each with the time at which it has.
* `issued`: the commands it has sent, each with its time. -/
structure TimedRun where
  now : Int
  m_taskNotiQue : List Request
  pc : TimedPc
  bNotiInQ : Bool
  requested : List Request
  dequeued : List (Request × Int)
  issued : List (Int × DoorCommand)
  deriving DecidableEq

namespace TimedRun

/-- What happens next: a request is made, the worker takes a step, or a millisecond goes
by. -/
inductive Action where
  | request (closeAfterMs : Int)
  | work
  | tick
  deriving DecidableEq, Repr

/-- A worker that has been started at the time `start`. -/
def initial (start : Int) : TimedRun where
  now := start
  m_taskNotiQue := []
  pc := .testStop
  bNotiInQ := false
  requested := []
  dequeued := []
  issued := []

/-- A task is added: a waiting worker is handed it, otherwise it joins the queue. -/
def addTask (s : TimedRun) (r : Request) : TimedRun :=
  if s.pc = .parked then
    { s with
      pc := .gotTask r
      requested := s.requested ++ [r]
      dequeued := s.dequeued ++ [(r, s.now)] }
  else
    { s with m_taskNotiQue := s.m_taskNotiQue ++ [r], requested := s.requested ++ [r] }

@[simp]
theorem now_addTask (s : TimedRun) (r : Request) :
  (s.addTask r).now = s.now
  := by
  rw [addTask]
  split_ifs <;> rfl

@[simp]
theorem requested_addTask (s : TimedRun) (r : Request) :
  (s.addTask r).requested = s.requested ++ [r]
  := by
  rw [addTask]
  split_ifs <;> rfl

/-- The next step of the worker in `run`, if it can take one. -/
def runStep (type : SWITCH_TYPE) (s : TimedRun) : Option TimedRun :=
  match s.pc with
  | .testStop => some { s with pc := .waitDequeue }
  | .waitDequeue =>
      match s.m_taskNotiQue with
      | [] => some { s with pc := .parked }
      | r :: rs =>
          some { s with
            pc := .gotTask r
            m_taskNotiQue := rs
            dequeued := s.dequeued ++ [(r, s.now)] }
  | .parked => none
  | .gotTask r =>
      if h : 0 < r.realWait s.now then
        if type = .INDIRECT_CONTROL_SWITCH ∨ s.bNotiInQ = false then
          some { s with pc := .sendOpen ⟨r.realWait s.now, h⟩ }
        else some { s with pc := .sleeping (s.now + r.realWait s.now) }
      else some { s with pc := .discard }
  | .discard => some { s with pc := .testStop, bNotiInQ := !s.m_taskNotiQue.isEmpty }
  | .sendOpen realWait =>
      some { s with
        pc := .sleeping (s.now + realWait)
        issued := s.issued ++ [(s.now, .openCommand)] }
  | .sleeping wake =>
      if wake ≤ s.now then
        if type = .INDIRECT_CONTROL_SWITCH then some { s with pc := .sendClose }
        else some { s with pc := .testEmpty }
      else none
  | .testEmpty =>
      if s.m_taskNotiQue.isEmpty then some { s with pc := .sendClose, bNotiInQ := false }
      else some { s with pc := .testStop, bNotiInQ := true }
  | .sendClose =>
      if type = .INDIRECT_CONTROL_SWITCH then
        some { s with
          pc := .testStop
          bNotiInQ := false
          issued := s.issued ++ [(s.now, .closeCommand)] }
      else
        some { s with pc := .testStop, issued := s.issued ++ [(s.now, .closeCommand)] }

/-- The state after an action. -/
def next (type : SWITCH_TYPE) (s : TimedRun) : Action → Option TimedRun
  | .request closeAfterMs => some (s.addTask ⟨s.now, closeAfterMs⟩)
  | .work => s.runStep type
  | .tick => some { s with now := s.now + 1 }

/-! ### Steps -/

/-- A step of the worker in `run`, one constructor for each branch. -/
inductive WorkStep (type : SWITCH_TYPE) (s : TimedRun) : TimedRun → Prop where
  | go (hpc : s.pc = .testStop) : WorkStep type s { s with pc := .waitDequeue }
  | park (hpc : s.pc = .waitDequeue) (hq : s.m_taskNotiQue = []) :
      WorkStep type s { s with pc := .parked }
  | dequeue (r : Request) (rs : List Request) (hpc : s.pc = .waitDequeue)
      (hq : s.m_taskNotiQue = r :: rs) :
      WorkStep type s { s with
        pc := .gotTask r, m_taskNotiQue := rs, dequeued := s.dequeued ++ [(r, s.now)] }
  | serve (r : Request) (hpc : s.pc = .gotTask r) (hwait : 0 < r.realWait s.now)
      (hopen : type = .INDIRECT_CONTROL_SWITCH ∨ s.bNotiInQ = false) :
      WorkStep type s { s with pc := .sendOpen ⟨r.realWait s.now, hwait⟩ }
  | follow (r : Request) (hpc : s.pc = .gotTask r) (hwait : 0 < r.realWait s.now)
      (htype : type ≠ .INDIRECT_CONTROL_SWITCH) (hopen : s.bNotiInQ = true) :
      WorkStep type s { s with pc := .sleeping (s.now + r.realWait s.now) }
  | expire (r : Request) (hpc : s.pc = .gotTask r) (hwait : ¬ 0 < r.realWait s.now) :
      WorkStep type s { s with pc := .discard }
  | discard (hpc : s.pc = .discard) :
      WorkStep type s { s with pc := .testStop, bNotiInQ := !s.m_taskNotiQue.isEmpty }
  | sendOpen (realWait : { realWait : Int // 0 < realWait }) (hpc : s.pc = .sendOpen realWait) :
      WorkStep type s { s with
        pc := .sleeping (s.now + realWait), issued := s.issued ++ [(s.now, .openCommand)] }
  | wakeIndirect (wake : Int) (hpc : s.pc = .sleeping wake) (hwake : wake ≤ s.now)
      (htype : type = .INDIRECT_CONTROL_SWITCH) : WorkStep type s { s with pc := .sendClose }
  | wakeDirect (wake : Int) (hpc : s.pc = .sleeping wake) (hwake : wake ≤ s.now)
      (htype : type ≠ .INDIRECT_CONTROL_SWITCH) : WorkStep type s { s with pc := .testEmpty }
  | last (hpc : s.pc = .testEmpty) (hq : s.m_taskNotiQue = []) :
      WorkStep type s { s with pc := .sendClose, bNotiInQ := false }
  | notLast (hpc : s.pc = .testEmpty) (hq : s.m_taskNotiQue ≠ []) :
      WorkStep type s { s with pc := .testStop, bNotiInQ := true }
  | closeIndirect (hpc : s.pc = .sendClose) (htype : type = .INDIRECT_CONTROL_SWITCH) :
      WorkStep type s { s with
        pc := .testStop, bNotiInQ := false, issued := s.issued ++ [(s.now, .closeCommand)] }
  | closeDirect (hpc : s.pc = .sendClose) (htype : type ≠ .INDIRECT_CONTROL_SWITCH) :
      WorkStep type s { s with
        pc := .testStop, issued := s.issued ++ [(s.now, .closeCommand)] }

/-- `WorkStep` is the graph of `runStep`. -/
theorem runStep_eq_some {type : SWITCH_TYPE} {s t : TimedRun} (h : s.runStep type = some t) :
  WorkStep type s t
  := by
  rw [runStep] at h
  split at h
  next hpc =>
    obtain rfl := Option.some.inj h
    apply WorkStep.go hpc
  next hpc =>
    split at h <;> obtain rfl := Option.some.inj h
    next hq => apply WorkStep.park hpc hq
    next r rs hq => apply WorkStep.dequeue r rs hpc hq
  next => cases h
  next r hpc =>
    split_ifs at h with hwait hopen <;> obtain rfl := Option.some.inj h
    · apply WorkStep.serve r hpc hwait hopen
    · rw [not_or] at hopen
      apply WorkStep.follow r hpc hwait hopen.1 (by simpa using hopen.2)
    · apply WorkStep.expire r hpc hwait
  next hpc =>
    obtain rfl := Option.some.inj h
    apply WorkStep.discard hpc
  next realWait hpc =>
    obtain rfl := Option.some.inj h
    apply WorkStep.sendOpen realWait hpc
  next wake hpc =>
    split_ifs at h with hwake htype <;> obtain rfl := Option.some.inj h
    · apply WorkStep.wakeIndirect wake hpc hwake htype
    · apply WorkStep.wakeDirect wake hpc hwake htype
  next hpc =>
    split_ifs at h with hq <;> obtain rfl := Option.some.inj h
    · apply WorkStep.last hpc (by simpa using hq)
    · apply WorkStep.notLast hpc (by simpa using hq)
  next hpc =>
    split_ifs at h with htype <;> obtain rfl := Option.some.inj h
    · apply WorkStep.closeIndirect hpc htype
    · apply WorkStep.closeDirect hpc htype

/-- The worker can take no step: it waits for a task, or it is to sleep on. -/
def Blocked (s : TimedRun) : Prop :=
  s.pc = .parked ∨ ∃ wake, s.pc = .sleeping wake ∧ s.now < wake

theorem runStep_eq_none {type : SWITCH_TYPE} {s : TimedRun} :
  s.runStep type = none ↔ s.Blocked
  := by
  constructor
  · intro h
    cases hpc : s.pc with
    | parked =>
        left
        apply hpc
    | sleeping wake =>
        right
        use wake, hpc
        simp only [runStep, hpc] at h
        split_ifs at h with hwake
        apply Int.not_le.mp hwake
    | waitDequeue =>
        cases hq : s.m_taskNotiQue <;> simp only [runStep, hpc, hq, reduceCtorEq] at h
    | gotTask _ | testEmpty | sendClose =>
        simp only [runStep, hpc] at h
        split_ifs at h
    | testStop | discard | sendOpen _ => simp only [runStep, hpc, reduceCtorEq] at h
  · rintro (hpc | ⟨wake, hpc, hwake⟩)
    · simp only [runStep, hpc]
    · simp only [runStep, hpc, if_neg (Int.not_le.mpr hwake)]

end TimedRun

/-! ### Machine integers -/

/-- The task that a request is at the time `now` or later. -/
structure Request.IsTask (now : Int) (r : Request) (task : DoorSwitchOpenNotification) : Prop where
  closeAfterMs : task.m_closeAfterMs.toInt = r.closeAfterMs
  time : r.time ≤ now

/-- The reading of the stopwatch of a request. -/
def Request.stopwatch (r : Request) (now : Int) : Int64 := Int64.ofInt ((now - r.time) * 1000)

namespace TimedRun

/-- The worker with machine integers is at the same point of `run`. -/
def SamePc (now : Int) : TimedPc → Pc → Prop
  | .testStop, pc => pc = .testStop
  | .waitDequeue, pc => pc = .waitDequeue
  | .parked, pc => pc = .parked
  | .gotTask r, pc => ∃ task, r.IsTask now task ∧ pc = .gotTask task
  | .discard, pc => pc = .discard
  | .sendOpen realWait, pc =>
      ∃ wait : PositiveWait, wait.val.toInt = realWait ∧ pc = .sendOpen wait
  | .sleeping _, pc => ∃ wait, pc = .sleeping wait
  | .testEmpty, pc => pc = .testEmpty
  | .sendClose, pc => pc = .sendClose

/-- The worker with machine integers has the same queue, is at the same point of `run`, and
has issued the same commands. -/
structure Simulates (s : TimedRun) (c : ChannelRun) : Prop where
  queue : List.Forall₂ (Request.IsTask s.now) s.m_taskNotiQue c.ctl.m_taskNotiQue
  pc : SamePc s.now s.pc c.ctl.pc
  bNotiInQ : c.ctl.bNotiInQ = s.bNotiInQ
  m_stop : c.ctl.m_stop = false
  issued : c.issued = (s.issued.map Prod.snd).reverse

/-- Nothing overflows: `m_closeAfterMs`, the stopwatch and `realWait` fit into their types. -/
def InRange (s : TimedRun) : Action → Prop
  | .request closeAfterMs => - 2 ^ 31 ≤ closeAfterMs ∧ closeAfterMs < 2 ^ 31
  | .work =>
      ∀ r, s.pc = .gotTask r →
        (s.now - r.time) * 1000 < 2 ^ 63 ∧ - 2 ^ 31 ≤ r.realWait s.now
  | .tick => True

/-- The queues are empty at the same time. -/
theorem isEmpty_eq_of_forall₂ {now : Int} {rs : List Request}
    {tasks : List DoorSwitchOpenNotification} (h : List.Forall₂ (Request.IsTask now) rs tasks) :
  tasks.isEmpty = rs.isEmpty
  := by
  cases h <;> rfl

theorem Simulates.initial (channel : UInt16) (start : Int) :
  Simulates (initial start) (ChannelRun.initial channel)
  := ⟨List.Forall₂.nil, rfl, rfl, rfl, rfl⟩

/-- Within range, `realWait` is computed exactly. -/
theorem toInt_realWait {r : Request} {now : Int} {task : DoorSwitchOpenNotification}
    (h : r.IsTask now task) (hstopwatch : (now - r.time) * 1000 < 2 ^ 63)
    (hwait : - 2 ^ 31 ≤ r.realWait now) :
  (task.realWait (r.stopwatch now)).toInt = r.realWait now
  := by
  have htime := h.time
  have hreading : (r.stopwatch now).toInt = (now - r.time) * 1000 := by
    rw [Request.stopwatch]
    apply Int64.toInt_ofInt_of_le <;> omega
  have hleft : task.timeLeft (r.stopwatch now) = r.realWait now := by
    rw [DoorSwitchOpenNotification.timeLeft, hreading, h.closeAfterMs, Request.realWait]
    have hunit : MICRO2MS.toInt = 1000 := rfl
    rw [hunit]
    omega
  rw [← hleft]
  apply DoorSwitchOpenNotification.toInt_realWait_of_le
  · rw [Int64.le_iff_toInt_le, hreading]
    have hzero : (0 : Int64).toInt = 0 := rfl
    omega
  · rw [hleft]
    apply hwait

/-- Within range, the worker with machine integers holds the task of the same request, and
computes the same wait for it. -/
theorem exists_task {s : TimedRun} (hrange : InRange s .work) {r : Request}
    (hpc : s.pc = .gotTask r) {pc : Pc} (hpc' : SamePc s.now s.pc pc) :
  ∃ task, pc = .gotTask task
    ∧ (task.realWait (r.stopwatch s.now)).toInt = r.realWait s.now
    ∧ (0 < task.realWait (r.stopwatch s.now) ↔ 0 < r.realWait s.now)
  := by
  rw [hpc] at hpc'
  obtain ⟨task, htask, rfl⟩ := hpc'
  obtain ⟨hstopwatch, hmin⟩ := hrange r hpc
  have hexact := toInt_realWait htask hstopwatch hmin
  use task, rfl, hexact
  rw [DoorSwitchOpenNotification.realWait_pos_iff, hexact]

/-- Within range, a step of the worker is a step of the worker with machine integers. -/
theorem Simulates.work {type : SWITCH_TYPE} {s t : TimedRun} {c : ChannelRun}
    (h : Simulates s c) (hrange : InRange s .work) (hstep : WorkStep type s t) :
  ∃ elapsed c', ChannelRun.next type c (.work elapsed) = some c' ∧ Simulates t c'
  := by
  obtain ⟨⟨m_channel, timer, func, que, stop, pc, b, added⟩, issued⟩ := c
  obtain ⟨hqueue, hpc', rfl, rfl, hissued⟩ := h
  simp only at hqueue hpc' hissued
  have hempty := isEmpty_eq_of_forall₂ hqueue
  cases hstep with
  | go hpc =>
      rw [hpc] at hpc'
      obtain rfl : pc = .testStop := hpc'
      exact ⟨0, _, ChannelRun.next_of_step (.go rfl rfl),
        hqueue, rfl, rfl, rfl, hissued⟩
  | park hpc hq =>
      rw [hpc] at hpc'
      obtain rfl : pc = .waitDequeue := hpc'
      rw [hq] at hqueue
      obtain rfl := List.forall₂_nil_left_iff.mp hqueue
      exact ⟨0, _, ChannelRun.next_of_step (.park rfl rfl),
        hq ▸ hqueue, rfl, rfl, rfl, hissued⟩
  | dequeue r rs hpc hq =>
      rw [hpc] at hpc'
      obtain rfl : pc = .waitDequeue := hpc'
      rw [hq] at hqueue
      obtain ⟨task, tasks, htask, htasks, rfl⟩ := List.forall₂_cons_left_iff.mp hqueue
      exact ⟨0, _, ChannelRun.next_of_step (.dequeue task tasks rfl rfl),
        htasks, ⟨task, htask, rfl⟩, rfl, rfl, hissued⟩
  | serve r hpc hwait hopen =>
      obtain ⟨task, rfl, hexact, hiff⟩ := exists_task hrange hpc hpc'
      have hpos := hiff.mpr hwait
      exact ⟨r.stopwatch s.now, _, ChannelRun.next_of_step (.serve task rfl hpos hopen),
        hqueue, ⟨_, hexact, rfl⟩, rfl, rfl, hissued⟩
  | follow r hpc hwait htype hopen =>
      obtain ⟨task, rfl, hexact, hiff⟩ := exists_task hrange hpc hpc'
      have hpos := hiff.mpr hwait
      exact ⟨r.stopwatch s.now, _, ChannelRun.next_of_step (.follow task rfl hpos htype hopen),
        hqueue, ⟨_, rfl⟩, rfl, rfl, hissued⟩
  | expire r hpc hwait =>
      obtain ⟨task, rfl, -, hiff⟩ := exists_task hrange hpc hpc'
      exact ⟨r.stopwatch s.now, _, ChannelRun.next_of_step (.expire task rfl (mt hiff.mp hwait)),
        hqueue, rfl, rfl, rfl, hissued⟩
  | discard hpc =>
      rw [hpc] at hpc'
      obtain rfl : pc = .discard := hpc'
      exact ⟨0, _, ChannelRun.next_of_step (.discard rfl),
        hqueue, rfl, congrArg not hempty, rfl, hissued⟩
  | sendOpen realWait hpc =>
      rw [hpc] at hpc'
      obtain ⟨wait, hwait, rfl⟩ := hpc'
      refine ⟨0, _, ChannelRun.next_of_step (.sendOpen wait rfl),
        hqueue, ⟨wait, rfl⟩, rfl, rfl, ?_⟩
      simp [hissued]
  | wakeIndirect wake hpc hwake htype =>
      rw [hpc] at hpc'
      obtain ⟨wait, rfl⟩ := hpc'
      exact ⟨0, _, ChannelRun.next_of_step (.wakeIndirect wait rfl htype),
        hqueue, rfl, rfl, rfl, hissued⟩
  | wakeDirect wake hpc hwake htype =>
      rw [hpc] at hpc'
      obtain ⟨wait, rfl⟩ := hpc'
      exact ⟨0, _, ChannelRun.next_of_step (.wakeDirect wait rfl htype),
        hqueue, rfl, rfl, rfl, hissued⟩
  | last hpc hq =>
      rw [hpc] at hpc'
      obtain rfl : pc = .testEmpty := hpc'
      rw [hq] at hempty
      exact ⟨0, _, ChannelRun.next_of_step (.last rfl (List.isEmpty_iff.mp hempty)),
        hqueue, rfl, rfl, rfl, hissued⟩
  | notLast hpc hq =>
      rw [hpc] at hpc'
      obtain rfl : pc = .testEmpty := hpc'
      have hne : que ≠ [] := by
        rw [← List.isEmpty_eq_false_iff, hempty, List.isEmpty_eq_false_iff]
        apply hq
      exact ⟨0, _, ChannelRun.next_of_step (.notLast rfl hne),
        hqueue, rfl, rfl, rfl, hissued⟩
  | closeIndirect hpc htype =>
      rw [hpc] at hpc'
      obtain rfl : pc = .sendClose := hpc'
      refine ⟨0, _, ChannelRun.next_of_step (.closeIndirect rfl htype),
        hqueue, rfl, rfl, rfl, ?_⟩
      simp [hissued]
  | closeDirect hpc htype =>
      rw [hpc] at hpc'
      obtain rfl : pc = .sendClose := hpc'
      refine ⟨0, _, ChannelRun.next_of_step (.closeDirect rfl htype),
        hqueue, rfl, rfl, rfl, ?_⟩
      simp [hissued]

/-- Within range, a request is a task that is added. -/
theorem Simulates.request {type : SWITCH_TYPE} {s : TimedRun} {c : ChannelRun}
    (h : Simulates s c) {closeAfterMs : Int} (hrange : InRange s (.request closeAfterMs)) :
  ∃ task c', ChannelRun.next type c (.addTask task) = some c'
    ∧ Simulates (s.addTask ⟨s.now, closeAfterMs⟩) c'
  := by
  obtain ⟨ctl, issued⟩ := c
  obtain ⟨hqueue, hpc', hb, hstop, hissued⟩ := h
  have htask : Request.IsTask s.now ⟨s.now, closeAfterMs⟩ ⟨Int32.ofInt closeAfterMs⟩ := by
    constructor
    · apply Int32.toInt_ofInt_of_le hrange.1 hrange.2
    · apply le_rfl
  use ⟨Int32.ofInt closeAfterMs⟩, ⟨ctl.addTask ⟨Int32.ofInt closeAfterMs⟩, issued⟩, rfl
  have hparked : s.pc = .parked ↔ ctl.pc = .parked := by
    simp only at hpc'
    cases hpc : s.pc <;> rw [hpc] at hpc'
    case gotTask | sendOpen | sleeping =>
      obtain ⟨_, hpc'⟩ := hpc'
      simp [hpc']
    all_goals
      simp only [SamePc] at hpc'
      simp [hpc']
  by_cases hpc : s.pc = .parked
  · rw [addTask, if_pos hpc, DoorSwitchChannelController.addTask, if_pos (hparked.mp hpc)]
    exact ⟨hqueue, ⟨_, htask, rfl⟩, hb, hstop, hissued⟩
  · rw [addTask, if_neg hpc, DoorSwitchChannelController.addTask,
      if_neg (fun hparked' => hpc (hparked.mpr hparked'))]
    refine ⟨?_, hpc', hb, hstop, hissued⟩
    apply List.rel_append hqueue (List.Forall₂.cons htask List.Forall₂.nil)

/-- The worker with machine integers has no part in the clock. -/
theorem Simulates.tick {s : TimedRun} {c : ChannelRun} (h : Simulates s c) :
  Simulates { s with now := s.now + 1 } c
  := by
  obtain ⟨hqueue, hpc', hb, hstop, hissued⟩ := h
  have hlater : ∀ r task, Request.IsTask s.now r task → r.IsTask (s.now + 1) task := by
    intro r task htask
    have htime := htask.time
    constructor
    · apply htask.closeAfterMs
    · omega
  refine ⟨hqueue.imp hlater, ?_, hb, hstop, hissued⟩
  cases hpc : s.pc with
  | gotTask r =>
      rw [hpc] at hpc'
      obtain ⟨task, htask, heq⟩ := hpc'
      use task, hlater r task htask
  | _ =>
      rw [hpc] at hpc'
      apply hpc'

/-- Every run in which nothing overflows is one of the worker with machine integers, which
issues the same commands. -/
theorem exists_channelRun {type : SWITCH_TYPE} (channel : UInt16) {start : Int}
    {as : List Action} {t : TimedRun} (hrange : Meets (next type) InRange (initial start) as)
    (hrun : run (next type) (initial start) as = some t) :
  ∃ bs c, run (ChannelRun.next type) (ChannelRun.initial channel) bs = some c ∧ Simulates t c
  := by
  apply exists_run_of_simulation _ (Simulates.initial channel start) hrange hrun
  intro s a t c h hok hnext
  cases a with
  | request closeAfterMs =>
      obtain rfl := Option.some.inj hnext
      obtain ⟨task, c', hc', h'⟩ := h.request hok
      use [.addTask task], c'
      rw [run_singleton]
      exact ⟨hc', h'⟩
  | work =>
      obtain ⟨elapsed, c', hc', h'⟩ := h.work hok (runStep_eq_some hnext)
      use [.work elapsed], c'
      rw [run_singleton]
      exact ⟨hc', h'⟩
  | tick =>
      obtain rfl := Option.some.inj hnext
      use [], c, rfl
      apply h.tick

end TimedRun

end DoorSwitchSvr
