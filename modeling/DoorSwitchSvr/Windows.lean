import DoorSwitchSvr.DoorState
import DoorSwitchSvr.RealWait

/-!
# Windows of a direct switch

Each request asks for the door to be open from its time to its deadline.  The worker of a
direct switch shuts the door after a sleep when it finds the queue empty, without a look at
the deadline of any other request.

`StopwatchRun` is the worker with its machine integers on a clock of integer microseconds.
The stopwatch of a task reads the time since its creation, of which `getElapsed` drops the
part of a millisecond; a sleep is over at a moment, and the worker goes on then or later.
The clock may advance between any two steps of the worker, however long they take.

It shuts the door inside nobody's window (`closesOutside_of_run`), however late it takes a
request and however long it oversleeps: the queue is served in order, every request that has
been taken has been slept for until its deadline or has been found to be past it, and so a
request whose deadline is still to come is the current one or in the queue.  That the
milliseconds since the creation are rounded down makes a sleep longer, and never ends it
before the deadline (`deadline_le_wake`).
-/

namespace DoorSwitchSvr

open Transition DoorSwitchChannelController

/-! ### Requests on a clock of microseconds -/

/-- A request for the door: its task, and the microsecond at which the task was created. -/
structure TimedTask where
  time : Int
  task : DoorSwitchOpenNotification
  deriving DecidableEq

namespace TimedTask

/-- The moment at which the door is to be closed. -/
def deadline (r : TimedTask) : Int := r.time + MICRO2MS.toInt * r.task.m_closeAfterMs.toInt

/-- What the stopwatch of the task reads. -/
def stopwatch (r : TimedTask) (now : Int) : Int64 := Int64.ofInt (now - r.time)

/-- Nothing overflows when the worker computes the wait for the task. -/
def InRange (r : TimedTask) (now : Int) : Prop :=
  now - r.time < 2 ^ 63
    ∧ - 2 ^ 31 ≤ r.task.m_closeAfterMs.toInt - (now - r.time) / MICRO2MS.toInt

instance (r : TimedTask) (now : Int) : Decidable (r.InRange now) :=
  inferInstanceAs (Decidable (_ ∧ _))

/-- Within range, `realWait` is what is left in whole milliseconds, rounded up. -/
theorem toInt_realWait {r : TimedTask} {now : Int} (hcreated : r.time ≤ now)
    (hrange : r.InRange now) :
  (r.task.realWait (r.stopwatch now)).toInt
    = r.task.m_closeAfterMs.toInt - (now - r.time) / MICRO2MS.toInt
  := by
  have hreading : (r.stopwatch now).toInt = now - r.time := by
    have hlt := hrange.1
    rw [stopwatch]
    apply Int64.toInt_ofInt_of_le <;> omega
  have hleft : r.task.timeLeft (r.stopwatch now)
      = r.task.m_closeAfterMs.toInt - (now - r.time) / MICRO2MS.toInt := by
    rw [DoorSwitchOpenNotification.timeLeft, hreading]
  rw [← hleft]
  apply DoorSwitchOpenNotification.toInt_realWait_of_le
  · rw [Int64.le_iff_toInt_le, hreading]
    have hzero : (0 : Int64).toInt = 0 := rfl
    omega
  · rw [hleft]
    apply hrange.2

/-- A sleep for `realWait` is not over before the deadline. -/
theorem deadline_le_wake {r : TimedTask} {now : Int} (hcreated : r.time ≤ now)
    (hrange : r.InRange now) :
  r.deadline ≤ now + MICRO2MS.toInt * (r.task.realWait (r.stopwatch now)).toInt
  := by
  have hunit : MICRO2MS.toInt = 1000 := rfl
  rw [toInt_realWait hcreated hrange, deadline, hunit]
  omega

/-- A task is discarded only when its deadline has passed. -/
theorem deadline_le_of_expired {r : TimedTask} {now : Int} (hcreated : r.time ≤ now)
    (hrange : r.InRange now) (hwait : ¬ 0 < r.task.realWait (r.stopwatch now)) :
  r.deadline ≤ now
  := by
  have hunit : MICRO2MS.toInt = 1000 := rfl
  have hwake := deadline_le_wake hcreated hrange
  rw [DoorSwitchOpenNotification.realWait_pos_iff] at hwait
  rw [hunit] at hwake
  omega

end TimedTask

/-! ### The worker on a clock of microseconds -/

/-- A worker at the time `now`.

* `queued`: the requests of the tasks in the queue, and `current` that of the task that the
  worker holds.
* `wake`: the end of the sleep that has begun last.
* `requested`, `issued`: histories, the requests made and the commands sent with their
  times. -/
structure StopwatchRun where
  now : Int
  ctl : DoorSwitchChannelController
  queued : List TimedTask
  current : Option TimedTask
  wake : Int
  requested : List TimedTask
  issued : List (Int × DoorCommand)
  deriving DecidableEq

namespace StopwatchRun

/-- What happens next: a request is made, the worker takes a step in `run`, or microseconds go
by. -/
inductive Action where
  | request (closeAfterMs : Int32)
  | work
  | pass (us : Nat)
  deriving DecidableEq

/-- A worker that has been initialised for `channel` and started at the time `start`. -/
def initial (channel : UInt16) (start : Int) : StopwatchRun where
  now := start
  ctl := (ChannelRun.initial channel).ctl
  queued := []
  current := none
  wake := start
  requested := []
  issued := []

/-- A task is added: a waiting worker is handed it, otherwise it joins the queue. -/
def addTask (s : StopwatchRun) (r : TimedTask) : StopwatchRun :=
  { s with
    ctl := s.ctl.addTask r.task
    queued := if s.ctl.pc = .parked then s.queued else s.queued ++ [r]
    current := if s.ctl.pc = .parked then some r else s.current
    requested := s.requested ++ [r] }

/-- The reading of the stopwatch of the task that the worker holds. -/
def elapsed (s : StopwatchRun) : Int64 := s.current.elim 0 (fun r => r.stopwatch s.now)

/-- The end of a sleep that a step of the worker begins. -/
def wakeAfter (s : StopwatchRun) : Pc → Int
  | .sleeping realWait => s.now + MICRO2MS.toInt * realWait.val.toInt
  | _ => s.wake

/-- A step of the worker to `ctl`, in which it sends `cmd`. -/
def afterWork (s : StopwatchRun) (ctl : DoorSwitchChannelController) (cmd : Option DoorCommand) :
    StopwatchRun :=
  { s with
    ctl := ctl
    queued := if s.ctl.pc = .waitDequeue then s.queued.tail else s.queued
    current := if s.ctl.pc = .waitDequeue then s.queued.head? else none
    wake := s.wakeAfter ctl.pc
    issued := s.issued ++ (cmd.map (Prod.mk s.now)).toList }

/-- The sleep of the worker is not over. -/
def Asleep (s : StopwatchRun) : Prop := (∃ realWait, s.ctl.pc = .sleeping realWait) ∧ s.now < s.wake

instance (s : StopwatchRun) : Decidable s.Asleep :=
  haveI : Decidable (∃ realWait, s.ctl.pc = .sleeping realWait) :=
    match s.ctl.pc with
    | .sleeping realWait => isTrue ⟨realWait, rfl⟩
    | .notStarted | .testStop | .waitDequeue | .parked | .gotNull | .gotTask _ | .discard
    | .sendOpen _ | .testEmpty | .sendClose | .returned =>
        isFalse (fun ⟨_, hpc⟩ => Pc.noConfusion hpc)
  inferInstanceAs (Decidable (_ ∧ _))

/-- The state after an action. -/
def next (type : SWITCH_TYPE) (s : StopwatchRun) : Action → Option StopwatchRun
  | .request closeAfterMs => some (s.addTask ⟨s.now, ⟨closeAfterMs⟩⟩)
  | .work =>
      if s.Asleep then none
      else (s.ctl.runStep type s.elapsed).map (fun x => s.afterWork x.1 x.2)
  | .pass us => some { s with now := s.now + us }

/-- A step of the worker is one in `run`. -/
theorem next_work {type : SWITCH_TYPE} {s t : StopwatchRun} (h : next type s .work = some t) :
  ¬ s.Asleep ∧ ∃ ctl cmd, RunStep type s.elapsed s.ctl ctl cmd ∧ t = s.afterWork ctl cmd
  := by
  rw [next, Option.ite_none_left_eq_some, Option.map_eq_some_iff] at h
  obtain ⟨hawake, ⟨ctl, cmd⟩, hstep, rfl⟩ := h
  exact ⟨hawake, ctl, cmd, runStep_eq_some hstep, rfl⟩

/-! ### What the requirements are -/

/-- The clock does not advance between the test that finds the queue empty and the close
command that is sent on its result. -/
def ClosesAtOnce (s : StopwatchRun) : Action → Prop
  | .pass _ => s.ctl.pc ≠ .sendClose
  | .request _ | .work => True

/-- Nothing overflows when the worker computes the wait for the task that it holds. -/
def InRange (s : StopwatchRun) : Action → Prop
  | .work => ∀ r ∈ s.current, r.InRange s.now
  | .request _ | .pass _ => True

instance (s : StopwatchRun) : (a : Action) → Decidable (ClosesAtOnce s a ∧ InRange s a)
  | .pass _ => inferInstanceAs (Decidable (_ ≠ _ ∧ True))
  | .work => inferInstanceAs (Decidable (True ∧ ∀ r ∈ s.current, r.InRange s.now))
  | .request _ => isTrue ⟨trivial, trivial⟩

/-- A close command is not issued inside the window of a request that has been made. -/
def ClosesOutside (s : StopwatchRun) (_ : Action) (t : StopwatchRun) : Prop :=
  t.issued = s.issued ++ [(s.now, .closeCommand)] →
    ∀ r ∈ s.requested, ¬ (r.time < s.now ∧ s.now < r.deadline)

/-! ### The requests of the tasks -/

/-- The requests in the queue and in the worker's hands are those of its tasks, and have been
made. -/
structure Tracks (s : StopwatchRun) : Prop where
  queue : s.ctl.m_taskNotiQue = s.queued.map TimedTask.task
  held : ∀ task, s.ctl.pc = .gotTask task → ∃ r, s.current = some r ∧ r.task = task
  holds : ∀ r, s.current = some r → s.ctl.pc = .gotTask r.task
  queued_le : ∀ r ∈ s.queued, r.time ≤ s.now
  current_le : ∀ r, s.current = some r → r.time ≤ s.now

theorem Tracks.addTask {s : StopwatchRun} (h : Tracks s) (closeAfterMs : Int32) :
  Tracks (s.addTask ⟨s.now, ⟨closeAfterMs⟩⟩)
  := by
  obtain ⟨hqueue, hheld, hholds, hqueued, hcurrent⟩ := h
  by_cases hpc : s.ctl.pc = .parked
  · have hempty : s.ctl.addTask ⟨closeAfterMs⟩ = { s.ctl with
        pc := .gotTask ⟨closeAfterMs⟩, added := s.ctl.added ++ [⟨closeAfterMs⟩] } := by
      rw [DoorSwitchChannelController.addTask, if_pos hpc]
    constructor <;> simp only [StopwatchRun.addTask, hempty, if_pos hpc]
    · apply hqueue
    · intro task hgot
      obtain rfl := Pc.gotTask.inj hgot
      exact ⟨_, rfl, rfl⟩
    · intro r hr
      obtain rfl := Option.some.inj hr
      rfl
    · apply hqueued
    · intro r hr
      obtain rfl := Option.some.inj hr
      apply le_rfl
  · have hjoins : s.ctl.addTask ⟨closeAfterMs⟩ = { s.ctl with
        m_taskNotiQue := s.ctl.m_taskNotiQue ++ [⟨closeAfterMs⟩]
        added := s.ctl.added ++ [⟨closeAfterMs⟩] } := by
      rw [DoorSwitchChannelController.addTask, if_neg hpc]
    constructor <;> simp only [StopwatchRun.addTask, hjoins, if_neg hpc]
    · rw [hqueue, List.map_append, List.map_singleton]
    · apply hheld
    · apply hholds
    · intro r hr
      rcases List.mem_append.mp hr with hr | hr
      · apply hqueued r hr
      · rw [List.mem_singleton.mp hr]
    · apply hcurrent

theorem Tracks.pass {s : StopwatchRun} (h : Tracks s) (us : Nat) :
  Tracks { s with now := s.now + us }
  := by
  obtain ⟨hqueue, hheld, hholds, hqueued, hcurrent⟩ := h
  refine ⟨hqueue, hheld, hholds, ?_, ?_⟩
  · intro r hr
    have hle := hqueued r hr
    simp only
    omega
  · intro r hr
    have hle := hcurrent r hr
    simp only
    omega

/-- A step in which the worker neither waits for a task nor comes to hold one. -/
theorem Tracks.of_not_waiting {s : StopwatchRun} (h : Tracks s) {ctl : DoorSwitchChannelController}
    (cmd : Option DoorCommand) (hpc : s.ctl.pc ≠ .waitDequeue)
    (hqueue : ctl.m_taskNotiQue = s.ctl.m_taskNotiQue) (hgot : ∀ task, ctl.pc ≠ .gotTask task) :
  Tracks (s.afterWork ctl cmd)
  := by
  constructor <;> simp only [afterWork, if_neg hpc]
  · rw [hqueue, h.queue]
  · intro task hgot'
    apply absurd hgot' (hgot task)
  · intro r hr
    cases hr
  · apply h.queued_le
  · intro r hr
    cases hr

theorem Tracks.work {type : SWITCH_TYPE} {s : StopwatchRun} (h : Tracks s)
    {ctl : DoorSwitchChannelController} {cmd : Option DoorCommand}
    (hstep : RunStep type s.elapsed s.ctl ctl cmd) :
  Tracks (s.afterWork ctl cmd)
  := by
  have hqueue := h.queue
  cases hstep with
  | park hpc hq =>
      rw [hq] at hqueue
      have hempty := List.map_eq_nil_iff.mp hqueue.symm
      constructor <;> simp only [afterWork, if_pos hpc, hempty, List.tail_nil, List.head?_nil]
      · apply hq
      · exact fun _ => Pc.noConfusion
      · exact fun _ hr => Option.noConfusion rfl (heq_of_eq hr)
      · exact fun _ hr => absurd hr List.not_mem_nil
      · exact fun _ hr => Option.noConfusion rfl (heq_of_eq hr)
  | dequeue task tasks hpc hq =>
      rw [hq] at hqueue
      obtain ⟨r, rs, hqueued, rfl, rfl⟩ := List.map_eq_cons_iff.mp hqueue.symm
      have hqueued_le := h.queued_le
      rw [hqueued] at hqueued_le
      constructor <;> simp only [afterWork, if_pos hpc, hqueued, List.tail_cons, List.head?_cons]
      · intro task hgot
        obtain rfl := Pc.gotTask.inj hgot
        exact ⟨r, rfl, rfl⟩
      · intro r' hr'
        rw [Option.some.inj hr']
      · exact fun r' hr' => hqueued_le r' (List.mem_cons_of_mem r hr')
      · intro r' hr'
        obtain rfl := Option.some.inj hr'
        apply hqueued_le r List.mem_cons_self
  | stop hpc | go hpc | null hpc | serve _ hpc | follow _ hpc | expire _ hpc | discard hpc
  | sendOpen _ hpc | wakeIndirect _ hpc | wakeDirect _ hpc | last hpc | notLast hpc
  | closeIndirect hpc | closeDirect hpc =>
      refine h.of_not_waiting _ ?_ rfl (fun _ => Pc.noConfusion)
      rw [hpc]
      apply Pc.noConfusion

/-! ### Where the requests are -/

/-- The time up to which the worker is on its current request. -/
def horizon (s : StopwatchRun) : Int :=
  match s.ctl.pc with
  | .sendOpen realWait => s.now + MICRO2MS.toInt * realWait.val.toInt
  | .sleeping _ => max s.now s.wake
  | _ => s.now

/-- A request whose deadline is beyond the horizon is in the queue or in the worker's
hands. -/
def Accounted (s : StopwatchRun) : Prop :=
  ∀ r ∈ s.requested, r ∈ s.queued ∨ s.current = some r ∨ r.deadline ≤ s.horizon

/-- What is in the queue when the worker is about to close the door has been put there at
this very instant. -/
def QueueFresh (s : StopwatchRun) : Prop :=
  s.ctl.pc = .sendClose → ∀ r ∈ s.queued, r.time = s.now

theorem now_le_horizon (s : StopwatchRun) :
  s.now ≤ s.horizon
  := by
  rw [horizon]
  split
  next realWait _ =>
    have hpos := Int32.lt_iff_toInt_lt.mp realWait.property
    have hzero : (0 : Int32).toInt = 0 := rfl
    have hunit : MICRO2MS.toInt = 1000 := rfl
    rw [hunit]
    omega
  next => apply le_max_left
  next => apply le_rfl

theorem Accounted.addTask {s : StopwatchRun} (h : Accounted s) (htracks : Tracks s)
    (r : TimedTask) :
  Accounted (s.addTask r)
  := by
  have hle : s.horizon ≤ (s.addTask r).horizon := by
    by_cases hpc : s.ctl.pc = .parked
    · have hnow : s.horizon = s.now := by rw [horizon, hpc]
      rw [hnow]
      apply now_le_horizon (s.addTask r)
    · rw [horizon, horizon, StopwatchRun.addTask, DoorSwitchChannelController.addTask, if_neg hpc]
  intro r' hr'
  rcases List.mem_append.mp hr' with hr' | hr'
  · rcases h r' hr' with hq | hcurrent | hdeadline
    · left
      simp only [StopwatchRun.addTask]
      split_ifs
      · apply hq
      · apply List.mem_append_left _ hq
    · right; left
      have hpc : ¬ s.ctl.pc = .parked := by
        rw [htracks.holds r' hcurrent]
        apply Pc.noConfusion
      simp only [StopwatchRun.addTask, if_neg hpc]
      apply hcurrent
    · right; right
      apply hdeadline.trans hle
  · rw [List.mem_singleton.mp hr']
    simp only [StopwatchRun.addTask]
    split_ifs
    · right; left
      rfl
    · left
      apply List.mem_append_right _ List.mem_cons_self

theorem Accounted.pass {s : StopwatchRun} (h : Accounted s) (us : Nat) :
  Accounted { s with now := s.now + us }
  := by
  intro r hr
  rcases h r hr with hq | hcurrent | hle
  · left
    apply hq
  · right; left
    apply hcurrent
  · right; right
    rw [horizon] at hle ⊢
    cases hpc : s.ctl.pc <;> simp only [hpc] at hle ⊢ <;> omega

/-- What is to be shown of a step of the worker in which it takes no request: it is on the
request that it held up to its deadline, and its horizon does not get nearer. -/
theorem Accounted.of_horizon_le {s : StopwatchRun} (h : Accounted s)
    {ctl : DoorSwitchChannelController} {cmd : Option DoorCommand} (hpc : s.ctl.pc ≠ .waitDequeue)
    (hcurrent : ∀ r, s.current = some r → r.deadline ≤ (s.afterWork ctl cmd).horizon)
    (hle : s.horizon ≤ (s.afterWork ctl cmd).horizon) :
  Accounted (s.afterWork ctl cmd)
  := by
  intro r hr
  rcases h r hr with hq | hcurrent' | hle'
  · left
    simp only [afterWork, if_neg hpc]
    apply hq
  · right; right
    apply hcurrent r hcurrent'
  · right; right
    apply hle'.trans hle

/-- A step of the worker does not bring nearer a horizon that is the present. -/
theorem horizon_le {s : StopwatchRun} (hle : s.horizon ≤ s.now) (ctl : DoorSwitchChannelController)
    (cmd : Option DoorCommand) :
  s.horizon ≤ (s.afterWork ctl cmd).horizon
  := hle.trans (now_le_horizon (s.afterWork ctl cmd))

/-- The task that the worker holds is that of its current request, and the stopwatch that it
reads is that of this task. -/
theorem Tracks.exists_current {s : StopwatchRun} (h : Tracks s)
    {task : DoorSwitchOpenNotification} (hpc : s.ctl.pc = .gotTask task) :
  ∃ r, s.current = some r ∧ r.task = task ∧ s.elapsed = r.stopwatch s.now ∧ r.time ≤ s.now
  := by
  obtain ⟨r, hcurrent, htask⟩ := h.held task hpc
  refine ⟨r, hcurrent, htask, ?_, h.current_le r hcurrent⟩
  rw [elapsed, hcurrent, Option.elim_some]

/-- What is to be shown of a step in which the worker looks at the task that it holds. -/
theorem Accounted.of_gotTask {s : StopwatchRun} (h : Accounted s) (htracks : Tracks s)
    {task : DoorSwitchOpenNotification} (hpc : s.ctl.pc = .gotTask task)
    {ctl : DoorSwitchChannelController} {cmd : Option DoorCommand}
    (hdeadline : ∀ r, s.current = some r → r.task = task → s.elapsed = r.stopwatch s.now →
      r.time ≤ s.now → r.deadline ≤ (s.afterWork ctl cmd).horizon) :
  Accounted (s.afterWork ctl cmd)
  := by
  obtain ⟨r, hcurrent, htask, helapsed, hcreated⟩ := htracks.exists_current hpc
  apply h.of_horizon_le
  · rw [hpc]
    apply Pc.noConfusion
  · intro r' hr'
    obtain rfl := Option.some.inj (hcurrent.symm.trans hr')
    apply hdeadline r hcurrent htask helapsed hcreated
  · apply horizon_le
    rw [horizon, hpc]

/-- The worker takes the first request of the queue, or finds that there is none. -/
theorem Accounted.waitDequeue {s : StopwatchRun} (h : Accounted s) (htracks : Tracks s)
    {ctl : DoorSwitchChannelController} {cmd : Option DoorCommand}
    (hpc : s.ctl.pc = .waitDequeue) :
  Accounted (s.afterWork ctl cmd)
  := by
  intro r hr
  rcases h r hr with hmem | hcurrent | hle
  · simp only [afterWork, if_pos hpc]
    cases hqueued : s.queued with
    | nil =>
        rw [hqueued] at hmem
        cases hmem
    | cons r' rs =>
        rw [hqueued] at hmem
        rcases List.mem_cons.mp hmem with rfl | hmem
        · right; left
          rfl
        · left
          apply hmem
  · cases hpc.symm.trans (htracks.holds r hcurrent)
  · right; right
    rw [horizon, hpc] at hle
    apply hle.trans (now_le_horizon (s.afterWork ctl cmd))

theorem Accounted.work {type : SWITCH_TYPE} {s : StopwatchRun} (h : Accounted s)
    (htracks : Tracks s) (hrange : InRange s .work) (hawake : ¬ s.Asleep)
    {ctl : DoorSwitchChannelController} {cmd : Option DoorCommand}
    (hstep : RunStep type s.elapsed s.ctl ctl cmd) :
  Accounted (s.afterWork ctl cmd)
  := by
  have hnone : (∀ task, s.ctl.pc ≠ .gotTask task) →
      ∀ r, s.current = some r → r.deadline ≤ (s.afterWork ctl cmd).horizon :=
    fun hgot r hr => absurd (htracks.holds r hr) (hgot r.task)
  cases hstep with
  | park hpc | dequeue _ _ hpc => apply h.waitDequeue htracks hpc
  | serve task hpc hwait hopen =>
      apply h.of_gotTask htracks hpc
      rintro r hcurrent rfl helapsed hcreated
      simp only [horizon, afterWork, helapsed]
      apply TimedTask.deadline_le_wake hcreated (hrange r hcurrent)
  | follow task hpc hwait htype hopen =>
      apply h.of_gotTask htracks hpc
      rintro r hcurrent rfl helapsed hcreated
      simp only [horizon, afterWork, wakeAfter, helapsed]
      apply (TimedTask.deadline_le_wake hcreated (hrange r hcurrent)).trans (le_max_right _ _)
  | expire task hpc hwait =>
      apply h.of_gotTask htracks hpc
      rintro r hcurrent rfl helapsed hcreated
      rw [helapsed] at hwait
      apply TimedTask.deadline_le_of_expired hcreated (hrange r hcurrent) hwait
  | sendOpen realWait hpc =>
      refine h.of_horizon_le (by rw [hpc]; exact Pc.noConfusion)
        (hnone (by rw [hpc]; exact fun _ => Pc.noConfusion)) ?_
      rw [horizon, hpc]
      apply le_max_right
  | wakeIndirect realWait hpc | wakeDirect realWait hpc =>
      have hwake : s.wake ≤ s.now := by
        apply Int.not_lt.mp
        exact fun hlt => hawake ⟨⟨realWait, hpc⟩, hlt⟩
      refine h.of_horizon_le (by rw [hpc]; exact Pc.noConfusion)
        (hnone (by rw [hpc]; exact fun _ => Pc.noConfusion)) (horizon_le ?_ _ _)
      rw [horizon, hpc]
      apply max_le le_rfl hwake
  | stop hpc | go hpc | null hpc | discard hpc | last hpc | notLast hpc | closeIndirect hpc
  | closeDirect hpc =>
      refine h.of_horizon_le (by rw [hpc]; exact Pc.noConfusion)
        (hnone (by rw [hpc]; exact fun _ => Pc.noConfusion)) (horizon_le ?_ _ _)
      rw [horizon, hpc]

/-! ### Runs -/

/-- The worker of a direct switch comes to close the door when it has found the queue
empty. -/
theorem QueueFresh.work {type : SWITCH_TYPE} (htype : type ≠ .INDIRECT_CONTROL_SWITCH)
    {s : StopwatchRun} (htracks : Tracks s) {ctl : DoorSwitchChannelController}
    {cmd : Option DoorCommand} (hstep : RunStep type s.elapsed s.ctl ctl cmd) :
  QueueFresh (s.afterWork ctl cmd)
  := by
  intro hpc' r hr
  cases hstep with
  | last hpc hq =>
      have hqueue := htracks.queue
      rw [hq] at hqueue
      simp only [afterWork, hpc, reduceCtorEq, if_false, List.map_eq_nil_iff.mp hqueue.symm] at hr
      cases hr
  | wakeIndirect realWait hpc hindirect => apply absurd hindirect htype
  | _ =>
      simp only [afterWork] at hpc'
      cases hpc'

theorem QueueFresh.addTask {s : StopwatchRun} (h : QueueFresh s) (closeAfterMs : Int32) :
  QueueFresh (s.addTask ⟨s.now, ⟨closeAfterMs⟩⟩)
  := by
  intro hpc' r hr
  simp only [StopwatchRun.addTask, DoorSwitchChannelController.addTask] at hpc' hr ⊢
  by_cases hpc : s.ctl.pc = .parked
  · -- it is handed the request, and does not come to close the door
    rw [if_pos hpc] at hpc'
    cases hpc'
  · rw [if_neg hpc] at hpc' hr
    rcases List.mem_append.mp hr with hr | hr
    · apply h hpc' r hr
    · rw [List.mem_singleton.mp hr]

/-- A close command is only issued where `sendClose` says so. -/
theorem closes {type : SWITCH_TYPE} {s : StopwatchRun} {ctl : DoorSwitchChannelController}
    {cmd : Option DoorCommand} (hstep : RunStep type s.elapsed s.ctl ctl cmd)
    (hissued : (s.afterWork ctl cmd).issued = s.issued ++ [(s.now, .closeCommand)]) :
  s.ctl.pc = .sendClose
  := by
  cases hstep with
  | closeIndirect hpc | closeDirect hpc => apply hpc
  | _ => simp [afterWork] at hissued

/-- At the moment of a close command the deadline of every request has passed, or the request
has been made at this very instant. -/
theorem Accounted.closesOutside {s : StopwatchRun} (h : Accounted s) (htracks : Tracks s)
    (hfresh : QueueFresh s) (hpc : s.ctl.pc = .sendClose) :
  ∀ r ∈ s.requested, ¬ (r.time < s.now ∧ s.now < r.deadline)
  := by
  intro r hr hwindow
  rcases h r hr with hq | hcurrent | hle
  · have htime := hfresh hpc r hq
    omega
  · cases hpc.symm.trans (htracks.holds r hcurrent)
  · simp only [horizon, hpc] at hle
    omega

/-- The invariant of the worker. -/
structure WindowInv (s : StopwatchRun) : Prop where
  tracks : Tracks s
  accounted : Accounted s
  fresh : QueueFresh s

theorem WindowInv.initial (channel : UInt16) (start : Int) :
  WindowInv (initial channel start)
  := by
  have htesting : (StopwatchRun.initial channel start).ctl.pc = .testStop := rfl
  constructor
  · constructor
    · rfl
    · intro task hpc
      cases htesting.symm.trans hpc
    · intro r hr
      cases hr
    · intro r hr
      cases hr
    · intro r hr
      cases hr
  · intro r hr
    cases hr
  · intro hpc
    cases htesting.symm.trans hpc

theorem WindowInv.step {s t : StopwatchRun} (h : WindowInv s) :
    ∀ {a : Action}, ClosesAtOnce s a ∧ InRange s a →
      next .DIRECT_CONTROL_SWITCH s a = some t → WindowInv t
  | .request closeAfterMs, _, hnext => by
      obtain rfl := Option.some.inj hnext
      exact ⟨h.tracks.addTask closeAfterMs, h.accounted.addTask h.tracks _,
        h.fresh.addTask closeAfterMs⟩
  | .work, hok, hnext => by
      obtain ⟨hawake, ctl, cmd, hstep, rfl⟩ := next_work hnext
      exact ⟨h.tracks.work hstep, h.accounted.work h.tracks hok.2 hawake hstep,
        QueueFresh.work (by decide) h.tracks hstep⟩
  | .pass us, hok, hnext => by
      obtain rfl := Option.some.inj hnext
      exact ⟨h.tracks.pass us, h.accounted.pass us, fun hpc => absurd hpc hok.1⟩

/-- In every run of a direct switch in which nothing overflows, and the test that finds the
queue empty and the close command sent on its result are one instant, no close command is
issued inside the window of a request that has been made. -/
theorem closesOutside_of_run (channel : UInt16) (start : Int) (as : List Action)
    (hok : Meets (next .DIRECT_CONTROL_SWITCH) (fun s a => ClosesAtOnce s a ∧ InRange s a)
      (initial channel start) as) :
  Along (next .DIRECT_CONTROL_SWITCH) ClosesOutside (initial channel start) as
  := by
  apply along_of_meets _ _ (WindowInv.initial channel start) hok
  · intro s a t h _ hnext hissued
    cases a with
    | request closeAfterMs =>
        obtain rfl := Option.some.inj hnext
        simp [addTask] at hissued
    | work =>
        obtain ⟨-, ctl, cmd, hstep, rfl⟩ := next_work hnext
        apply h.accounted.closesOutside h.tracks h.fresh (closes hstep hissued)
    | pass us =>
        obtain rfl := Option.some.inj hnext
        simp at hissued
  · intro s a t h hok hnext
    apply h.step hok hnext

/-- Two requests, of which the second one expires in the queue, and a third one after them,
which the worker takes in the middle of a millisecond. -/
theorem closesOutside_of_run_three :
  Along (next .DIRECT_CONTROL_SWITCH) ClosesOutside (initial 1 0)
    ([.request 3, .request 1, .work, .work, .work, .work, .pass 3250] ++ List.replicate 6 .work
      ++ [.request 2, .pass 500] ++ List.replicate 4 .work ++ [.pass 2000]
      ++ List.replicate 3 .work)
  := closesOutside_of_run 1 0 _ (by decide)

end StopwatchRun

end DoorSwitchSvr
