import DoorSwitchSvr.WorkerRun
import DoorSwitchSvr.Lib.Projection

/-!
# The accounts of a worker

What becomes of the tasks that are added for a channel, and what commands they lead to, in
every run of its worker, also one that `close` stops or that an exception ends.

* Every task is accounted for (`added_eq`): the tasks added are, in the order in which they
  have been added, those that the worker has judged, the one it holds, those that `close` has
  cleared, and those in the queue.  None is judged twice, and none overtakes another.
* The worker of an indirect switch sends one open and one close command for each task that it
  has judged to have time left, and no others (`issued_eq_of_indirect`).
* The worker of any switch sends no more open commands than it has judged tasks to have time
  left (`countOpen_le`).
-/

namespace DoorSwitchSvr

open Transition DoorSwitchChannelController

namespace ChannelRun

/-! ### Tasks -/

/-- The task that a worker holds. -/
def inHand : Pc → List DoorSwitchOpenNotification
  | .gotTask task => [task]
  | _ => []

/-- The tasks that a worker has yet to judge. -/
def outstanding (s : ChannelRun) : List DoorSwitchOpenNotification :=
  inHand s.ctl.pc ++ s.ctl.m_taskNotiQue

/-- The task that is added in a step. -/
def arrivals : Action → List DoorSwitchOpenNotification
  | .addTask task => [task]
  | .work _ => []

/-- The task that the worker judges in a step, and whether it has time left. -/
def judged (s : ChannelRun) : Action → List (DoorSwitchOpenNotification × Bool)
  | .addTask _ => []
  | .work elapsed =>
      (inHand s.ctl.pc).map (fun task => (task, decide (0 < task.realWait elapsed)))

/-- A step takes the tasks that the worker judges from the front of the outstanding ones, and
puts those that are added behind them. -/
theorem outstanding_append {type : SWITCH_TYPE} {s t : ChannelRun}
    (h : s.ctl.pc = .parked → s.ctl.m_taskNotiQue = []) :
    ∀ {a : Action}, next type s a = some t →
      outstanding s ++ arrivals a = (judged s a).map Prod.fst ++ outstanding t
  | .addTask task, hnext => by
      obtain ⟨-, -, ⟨hpc, hpc', hq⟩ | ⟨-, hpc', hq⟩⟩ := next_addTask hnext
      · simp [outstanding, arrivals, judged, inHand, hpc, hpc', hq, h hpc]
      · simp [outstanding, arrivals, judged, hpc', hq]
  | .work elapsed, hnext => by
      obtain ⟨cmd, hstep, -⟩ := next_work hnext
      rw [outstanding, outstanding]
      generalize t.ctl = c at hstep ⊢
      cases hstep with
      | dequeue task tasks hpc hq => simp [arrivals, judged, inHand, hpc, hq]
      | stop hpc | go hpc | park hpc | null hpc | serve _ hpc | follow _ hpc | expire _ hpc
      | discard hpc | sendOpen _ hpc | wakeIndirect _ hpc | wakeDirect _ hpc | last hpc
      | notLast hpc | closeIndirect hpc | closeDirect hpc =>
          simp [arrivals, judged, inHand, hpc]

theorem added_next {type : SWITCH_TYPE} {s t : ChannelRun} :
    ∀ {a : Action}, next type s a = some t → t.ctl.added = s.ctl.added ++ arrivals a
  | .addTask task, hnext => by
      obtain rfl := Option.some.inj hnext
      apply added_addTask
  | .work elapsed, hnext => by
      obtain ⟨cmd, hstep, -⟩ := next_work hnext
      rw [hstep.kept.2.2.2.1, arrivals, List.append_nil]

/-! ### Commands -/

/-- The commands that a task is worth to an indirect switch. -/
def commandsFor (x : DoorSwitchOpenNotification × Bool) : List DoorCommand :=
  if x.2 then [.openCommand, .closeCommand] else []

/-- The commands that the worker of an indirect switch has yet to send for the task that it
is serving. -/
def owed : Pc → List DoorCommand
  | .sendOpen _ => [.openCommand, .closeCommand]
  | .sleeping _ | .sendClose => [.closeCommand]
  | .notStarted | .testStop | .waitDequeue | .parked | .gotNull | .gotTask _ | .discard
  | .testEmpty | .returned => []

/-- The worker of an indirect switch does not come to test its queue. -/
def NotTesting (s : ChannelRun) : Prop := s.ctl.pc ≠ .testEmpty

theorem NotTesting.step {s t : ChannelRun} (h : NotTesting s) :
    ∀ {a : Action}, next .INDIRECT_CONTROL_SWITCH s a = some t → NotTesting t
  | .addTask task, hnext => by
      obtain ⟨-, -, ⟨-, hpc, -⟩ | ⟨-, hpc, -⟩⟩ := next_addTask hnext
      · rw [NotTesting, hpc]
        apply Pc.noConfusion
      · rw [NotTesting, hpc]
        apply h
  | .work elapsed, hnext => by
      obtain ⟨cmd, hstep, -⟩ := next_work hnext
      rw [NotTesting]
      generalize t.ctl = c at hstep ⊢
      cases hstep with
      | wakeDirect _ _ htype => apply absurd rfl htype
      | _ => apply Pc.noConfusion

/-- The commands sent and owed grow by those that the task judged in the step is worth. -/
theorem issued_append_owed {s t : ChannelRun} (h : NotTesting s) :
    ∀ {a : Action}, next .INDIRECT_CONTROL_SWITCH s a = some t →
      t.issued.reverse ++ owed t.ctl.pc
        = s.issued.reverse ++ owed s.ctl.pc ++ (judged s a).flatMap commandsFor
  | .addTask task, hnext => by
      obtain ⟨hissued, -, ⟨hpc, hpc', -⟩ | ⟨-, hpc', -⟩⟩ := next_addTask hnext
      · simp [hissued, hpc, hpc', owed, judged]
      · simp [hissued, hpc', judged]
  | .work elapsed, hnext => by
      obtain ⟨cmd, hstep, hissued⟩ := next_work hnext
      rw [hissued]
      generalize t.ctl = c at hstep ⊢
      cases hstep with
      | serve task hpc hwait => simp [owed, judged, inHand, commandsFor, hpc, hwait]
      | follow _ _ _ htype => apply absurd rfl htype
      | expire task hpc hwait => simp [owed, judged, inHand, commandsFor, hpc, hwait]
      | wakeDirect _ _ htype => apply absurd rfl htype
      | last hpc => apply absurd hpc h
      | notLast hpc => apply absurd hpc h
      | closeDirect _ htype => apply absurd rfl htype
      | stop hpc | go hpc | park hpc | dequeue _ _ hpc | null hpc | discard hpc
      | sendOpen _ hpc | wakeIndirect _ hpc | closeIndirect hpc =>
          simp [owed, judged, inHand, hpc]

/-- The tasks judged to have time left. -/
def inTime (x : DoorSwitchOpenNotification × Bool) : List DoorSwitchOpenNotification :=
  if x.2 then [x.1] else []

/-- The open commands that have been sent, and the one about to be sent. -/
def countOpen (s : ChannelRun) : ℕ :=
  s.issued.count .openCommand + if s.ctl.pc.isSendOpen then 1 else 0

theorem countOpen_next {type : SWITCH_TYPE} {s t : ChannelRun} :
    ∀ {a : Action}, next type s a = some t →
      countOpen t ≤ countOpen s + ((judged s a).flatMap inTime).length
  | .addTask task, hnext => by
      obtain ⟨hissued, -, ⟨-, hpc, -⟩ | ⟨-, hpc, -⟩⟩ := next_addTask hnext
      · rw [countOpen, countOpen, hissued, hpc]
        simp only [Pc.isSendOpen, Bool.false_eq_true, if_false]
        omega
      · simp [countOpen, hissued, hpc]
  | .work elapsed, hnext => by
      obtain ⟨cmd, hstep, hissued⟩ := next_work hnext
      rw [countOpen, countOpen, hissued]
      generalize t.ctl = c at hstep ⊢
      cases hstep with
      | serve task hpc hwait =>
          simp [judged, inHand, inTime, hpc, hwait, Pc.isSendOpen]
      | sendOpen realWait hpc => simp [judged, inHand, hpc, Pc.isSendOpen]
      | stop | go | park | dequeue | null | follow | expire | discard | wakeIndirect | wakeDirect
      | last | notLast | closeIndirect | closeDirect =>
          simp [Pc.isSendOpen, Nat.add_assoc]

theorem flatMap_inTime (xs : List (DoorSwitchOpenNotification × Bool)) :
  xs.flatMap inTime = (xs.filter Prod.snd).map Prod.fst
  := by
  induction xs with
  | nil => rfl
  | cons x xs ih =>
      rw [List.flatMap_cons, ih, inTime, List.filter_cons]
      split_ifs <;> rfl

end ChannelRun

namespace WorkerRun

open ChannelRun (inHand outstanding owed commandsFor inTime countOpen)

/-! ### Runs -/

/-- The task that is added in a step. -/
def arrivals : Action → List DoorSwitchOpenNotification
  | .run a => ChannelRun.arrivals a
  | .throws | .close => []

/-- The task that the worker judges in a step, and whether it has time left. -/
def judged (s : WorkerRun) : Action → List (DoorSwitchOpenNotification × Bool)
  | .run a => ChannelRun.judged s.chan a
  | .throws | .close => []

theorem added_next {type : SWITCH_TYPE} {s t : WorkerRun} :
    ∀ {a : Action}, next type s a = some t → t.chan.ctl.added = s.chan.ctl.added ++ arrivals a
  | .run a, hnext => ChannelRun.added_next (next_run hnext).2.1
  | .throws, hnext => by
      obtain ⟨-, rfl⟩ := next_throws hnext
      rw [arrivals, List.append_nil]
      rfl
  | .close, hnext => by
      rw [arrivals, List.append_nil]
      obtain ⟨-, ⟨hchan, -⟩ | ⟨hchan, -⟩ | ⟨hchan, -⟩ | ⟨hchan, -⟩⟩ := next_close hnext
      · rw [hchan]
      · rw [hchan]
      · rw [hchan, wakeUpAll]
        split_ifs <;> rfl
      · rw [hchan]

/-- The tasks added in a run. -/
theorem added_of_run {type : SWITCH_TYPE} {channel : UInt16} {as : List Action} {t : WorkerRun}
    (hrun : run (next type) (initial channel) as = some t) :
  t.chan.ctl.added = as.flatMap arrivals
  := by
  have hadded : ∀ (s : WorkerRun) a t, True → next type s a = some t →
      t.chan.ctl.added = s.chan.ctl.added ++ arrivals a :=
    fun _ _ _ _ hnext => added_next hnext
  rw [← trace_of_run arrivals hrun]
  apply history_eq_append hadded (fun _ _ _ _ _ => trivial) trivial hrun

/-- The task that a worker holds, the tasks that `close` has cleared from its queue, and those
in the queue. -/
def kept (s : WorkerRun) : List DoorSwitchOpenNotification :=
  inHand s.chan.ctl.pc ++ s.dropped ++ s.chan.ctl.m_taskNotiQue

/-- While `close` has not cleared any tasks, they are the outstanding ones. -/
theorem kept_of_nil {s : WorkerRun} (h : s.dropped = []) :
  s.kept = outstanding s.chan
  := by
  rw [kept, h, List.append_nil]
  rfl

/-- A step takes the tasks that the worker judges from the front of those that are kept, and
puts the tasks that are added behind them. -/
theorem kept_append {type : SWITCH_TYPE} {s t : WorkerRun} (h : Inv s) :
    ∀ {a : Action}, next type s a = some t →
      s.kept ++ arrivals a = (judged s a).map Prod.fst ++ t.kept
  | .run a, hnext => by
      obtain ⟨htakes, hchan, ht⟩ := next_run hnext
      have hdropped' : t.dropped = s.dropped := by rw [ht]
      have houtstanding := ChannelRun.outstanding_append h.parkedEmpty hchan
      by_cases hdropped : s.dropped = []
      · rw [kept_of_nil hdropped, kept_of_nil (hdropped'.trans hdropped)]
        apply houtstanding
      · -- the queue is empty and stays so, and no task comes
        obtain ⟨hq, hcloser⟩ := h.cleared hdropped
        cases a with
        | addTask task => apply absurd htakes hcloser
        | work elapsed =>
            obtain ⟨cmd, hstep, -⟩ := ChannelRun.next_work hchan
            have hq' := Stopping.queue_eq_nil_of_runStep hstep hq
            simp only [outstanding, ChannelRun.arrivals, hq, hq', List.append_nil] at houtstanding
            simp only [kept, arrivals, judged, ChannelRun.arrivals, hq, hq', hdropped',
              List.append_nil, ← List.append_assoc, ← houtstanding]
  | .throws, hnext => by
      obtain ⟨hpc, rfl⟩ := next_throws hnext
      have hinHand : inHand s.chan.ctl.pc = [] := by
        cases hp : s.chan.ctl.pc with
        | gotTask task =>
            rw [hp] at hpc
            cases hpc
        | _ => rfl
      rw [arrivals, judged, List.append_nil, kept, hinHand]
      rfl
  | .close, hnext => by
      rw [arrivals, judged, List.append_nil, kept, kept]
      obtain ⟨-, ⟨hchan, hdropped⟩ | ⟨hchan, -, hdropped⟩ | ⟨hchan, hdropped⟩
          | ⟨hchan, hdropped⟩⟩ := next_close hnext
      · rw [hchan, hdropped]
        rfl
      · rw [hchan, hdropped]
        simp
      · rw [hchan, hdropped, wakeUpAll]
        split_ifs with hpc
        · rw [hpc]
          rfl
        · rfl
      · rw [hchan, hdropped]
        rfl

/-- In every run, the tasks added are, in the order in which they have been added, those that
the worker has judged, the one it holds, those that `close` has cleared, and those in the
queue. -/
theorem added_eq (type : SWITCH_TYPE) (channel : UInt16) {as : List Action} {t : WorkerRun}
    (hrun : run (next type) (initial channel) as = some t) :
  t.chan.ctl.added = (trace (next type) judged (initial channel) as).map Prod.fst ++ t.kept
  := by
  have hstep : ∀ (s : WorkerRun) a t, Inv s → next type s a = some t → Inv t :=
    fun _ _ _ hs hnext => hs.step hnext
  have hkept : ∀ (s : WorkerRun) a t, Inv s → next type s a = some t →
      s.kept ++ arrivals a = (judged s a).flatMap (fun x => [x.1]) ++ t.kept := by
    intro s a t hs hnext
    rw [← List.map_eq_flatMap, kept_append hs hnext]
  calc t.chan.ctl.added
      = trace (next type) (fun _ => arrivals) (initial channel) as := by
        rw [added_of_run hrun, trace_of_run arrivals hrun]
    _ = trace (next type) (fun s a => (judged s a).flatMap (fun x => [x.1])) (initial channel) as
          ++ t.kept :=
        append_trace hkept hstep (Inv.initial channel) hrun
    _ = _ := by
        rw [← flatMap_trace, ← List.map_eq_flatMap]

/-- A worker that has returned judges no task and sends no command any more. -/
theorem returned_of_run {type : SWITCH_TYPE} {as : List Action} {s t : WorkerRun}
    (hpc : s.chan.ctl.pc = .returned) (hrun : run (next type) s as = some t) :
  t.chan.issued = s.chan.issued ∧ trace (next type) judged s as = []
  := by
  induction as generalizing s with
  | nil =>
      obtain rfl := Option.some.inj hrun
      exact ⟨rfl, rfl⟩
  | cons a as ih =>
      obtain ⟨u, hu, hrun⟩ := run_cons_eq_some.mp hrun
      have hkept : u.chan.ctl.pc = .returned ∧ u.chan.issued = s.chan.issued ∧ judged s a = [] := by
        match a with
        | .run (.addTask task) =>
            obtain ⟨-, hchan, -⟩ := next_run hu
            obtain ⟨hissued, -, ⟨hpc', -⟩ | ⟨-, hpc', -⟩⟩ := ChannelRun.next_addTask hchan
            · cases hpc.symm.trans hpc'
            · exact ⟨hpc'.trans hpc, hissued, rfl⟩
        | .run (.work elapsed) =>
            obtain ⟨cmd, hstep, -⟩ := ChannelRun.next_work (next_run hu).2.1
            have hnone : runStep type elapsed s.chan.ctl = none := by rw [runStep, hpc]
            cases hnone.symm.trans hstep.runStep_eq
        | .throws =>
            have hsend := (next_throws hu).1
            rw [hpc] at hsend
            cases hsend
        | .close =>
            obtain ⟨-, ⟨hchan, -⟩ | ⟨hchan, -⟩ | ⟨hchan, -⟩ | ⟨hchan, -⟩⟩ := next_close hu
            · rw [hchan]
              exact ⟨hpc, rfl, rfl⟩
            · rw [hchan]
              exact ⟨hpc, rfl, rfl⟩
            · have hnot : s.chan.ctl.pc ≠ .parked := by
                rw [hpc]
                apply Pc.noConfusion
              rw [hchan, wakeUpAll, if_neg hnot]
              exact ⟨hpc, rfl, rfl⟩
            · rw [hchan]
              exact ⟨hpc, rfl, rfl⟩
      obtain ⟨hissued, htrace⟩ := ih hkept.1 hrun
      rw [trace_cons as hu, hkept.2.2, htrace, hissued, hkept.2.1]
      exact ⟨rfl, rfl⟩

/-- While no exception ends the worker, the commands sent and owed grow by those that the task
judged in the step is worth. -/
theorem issued_append_owed {s t : WorkerRun} (h : ChannelRun.NotTesting s.chan) :
    ∀ {a : Action}, a ≠ .throws → next .INDIRECT_CONTROL_SWITCH s a = some t →
      ChannelRun.NotTesting t.chan
        ∧ t.chan.issued.reverse ++ owed t.chan.ctl.pc
          = s.chan.issued.reverse ++ owed s.chan.ctl.pc ++ (judged s a).flatMap commandsFor
  | .run a, _, hnext => by
      obtain ⟨-, hchan, -⟩ := next_run hnext
      exact ⟨h.step hchan, ChannelRun.issued_append_owed h hchan⟩
  | .throws, hne, _ => absurd rfl hne
  | .close, _, hnext => by
      rw [judged, List.flatMap_nil, List.append_nil]
      obtain ⟨-, ⟨hchan, -⟩ | ⟨hchan, -⟩ | ⟨hchan, -⟩ | ⟨hchan, -⟩⟩ := next_close hnext
      · rw [hchan]
        exact ⟨h, rfl⟩
      · rw [hchan]
        exact ⟨h, rfl⟩
      · rw [hchan, wakeUpAll]
        split_ifs with hpc
        · rw [hpc]
          exact ⟨Pc.noConfusion, rfl⟩
        · exact ⟨h, rfl⟩
      · rw [hchan]
        exact ⟨h, rfl⟩

/-- In every run of an indirect switch, the commands sent, with those owed for the task being
served, are one open and one close command for each task judged to have time left, unless an
exception has kept the worker from sending the last of them. -/
theorem issued_eq_of_indirect {as : List Action} {s t : WorkerRun}
    (hs : ChannelRun.NotTesting s.chan)
    (hrun : run (next .INDIRECT_CONTROL_SWITCH) s as = some t) :
  ∃ unsent, t.chan.issued.reverse ++ unsent
      = s.chan.issued.reverse ++ owed s.chan.ctl.pc
        ++ (trace (next .INDIRECT_CONTROL_SWITCH) judged s as).flatMap commandsFor
    ∧ (.throws ∉ as → unsent = owed t.chan.ctl.pc)
  := by
  induction as generalizing s with
  | nil =>
      obtain rfl := Option.some.inj hrun
      use owed s.chan.ctl.pc
      simp [trace]
  | cons a as ih =>
      obtain ⟨u, hu, hrun⟩ := run_cons_eq_some.mp hrun
      rw [trace_cons as hu]
      by_cases ha : a = .throws
      · subst ha
        obtain ⟨-, rfl⟩ := next_throws hu
        obtain ⟨hissued, htrace⟩ := returned_of_run rfl hrun
        use owed s.chan.ctl.pc
        rw [hissued, htrace]
        simp [judged]
      · obtain ⟨hu', hcommands⟩ := issued_append_owed hs ha hu
        obtain ⟨unsent, heq, hunsent⟩ := ih hu' hrun
        use unsent
        constructor
        · rw [heq, hcommands, List.flatMap_append, List.append_assoc, List.append_assoc]
        · intro hthrows
          apply hunsent (fun hmem => hthrows (List.mem_cons_of_mem a hmem))

theorem countOpen_next {type : SWITCH_TYPE} {s t : WorkerRun} :
    ∀ {a : Action}, next type s a = some t →
      countOpen t.chan ≤ countOpen s.chan + ((judged s a).flatMap inTime).length
  | .run a, hnext => ChannelRun.countOpen_next (next_run hnext).2.1
  | .throws, hnext => by
      obtain ⟨-, rfl⟩ := next_throws hnext
      simp only [countOpen, endThread, Pc.isSendOpen, Bool.false_eq_true, if_false]
      omega
  | .close, hnext => by
      obtain ⟨-, ⟨hchan, -⟩ | ⟨hchan, -⟩ | ⟨hchan, -⟩ | ⟨hchan, -⟩⟩ := next_close hnext
      · rw [hchan]
        apply Nat.le_add_right
      · rw [hchan]
        apply Nat.le_add_right
      · rw [hchan, wakeUpAll]
        split_ifs
        · simp only [countOpen, Pc.isSendOpen, Bool.false_eq_true, if_false]
          omega
        · apply Nat.le_add_right
      · rw [hchan]
        apply Nat.le_add_right

/-- In every run of any switch, no more open commands are sent than tasks have been judged to
have time left. -/
theorem countOpen_le (type : SWITCH_TYPE) (channel : UInt16) {as : List Action} {t : WorkerRun}
    (hrun : run (next type) (initial channel) as = some t) :
  t.chan.issued.count .openCommand
    ≤ ((trace (next type) judged (initial channel) as).filter Prod.snd).length
  := by
  have hstep : ∀ (s : WorkerRun) a t, next type s a = some t →
      countOpen t.chan ≤ countOpen s.chan + ((judged s a).flatMap inTime).length :=
    fun _ _ _ hnext => countOpen_next hnext
  have hle := le_length_trace hstep hrun
  rw [← flatMap_trace, ChannelRun.flatMap_inTime, List.length_map] at hle
  have hinit : countOpen (initial channel).chan = 0 := rfl
  rw [countOpen] at hle
  omega

/-- No more open commands are sent than tasks are added. -/
theorem countOpen_le_added (type : SWITCH_TYPE) (channel : UInt16) {as : List Action}
    {t : WorkerRun} (hrun : run (next type) (initial channel) as = some t) :
  t.chan.issued.count .openCommand ≤ t.chan.ctl.added.length
  := by
  have hadded := congrArg List.length (added_eq type channel hrun)
  have hjudged := List.length_filter_le Prod.snd
    (trace (next type) judged (initial channel) as)
  have hle := countOpen_le type channel hrun
  simp only [List.length_append, List.length_map] at hadded
  omega

/-- In every run of a worker, each task that is added is judged once, in the order of being
added, unless it is still in hand or in the queue, or `close` has cleared it; the commands sent
by the worker of an indirect switch are an open and a close command for each task judged to
have time left, up to those that it still owes, or that an exception has kept it from sending;
and the worker of any switch sends no more open commands than there are such tasks. -/
theorem tasks_accounted (type : SWITCH_TYPE) (channel : UInt16) (as : List Action)
    {t : WorkerRun} (hrun : run (next type) (initial channel) as = some t) :
  let verdicts := trace (next type) judged (initial channel) as
  t.chan.ctl.added
      = verdicts.map Prod.fst ++ (inHand t.chan.ctl.pc ++ t.dropped ++ t.chan.ctl.m_taskNotiQue)
    ∧ (type = .INDIRECT_CONTROL_SWITCH →
        t.chan.issued.reverse <+: verdicts.flatMap commandsFor
          ∧ (.throws ∉ as →
            t.chan.issued.reverse ++ owed t.chan.ctl.pc = verdicts.flatMap commandsFor))
    ∧ t.chan.issued.count .openCommand ≤ (verdicts.filter Prod.snd).length
  := by
  refine ⟨added_eq type channel hrun, ?_, countOpen_le type channel hrun⟩
  rintro rfl
  have hinit : ChannelRun.NotTesting (initial channel).chan := Pc.noConfusion
  obtain ⟨unsent, heq, hunsent⟩ := issued_eq_of_indirect hinit hrun
  constructor
  · use unsent, heq
  · intro hthrows
    rw [← hunsent hthrows]
    apply heq

/-- A task in time, one that is too late, and one that `close` clears from the queue. -/
def threeTasks : List Action :=
  [.run (.addTask ⟨1000⟩), .run (.addTask ⟨500⟩), .run (.addTask ⟨800⟩)]
    ++ List.replicate 8 (.run (.work 0)) ++ [.run (.work 900000), .close, .close]

theorem tasks_accounted_three :
  ∃ t, run (next .INDIRECT_CONTROL_SWITCH) (initial 1) threeTasks = some t
    ∧ trace (next .INDIRECT_CONTROL_SWITCH) judged (initial 1) threeTasks
      = [(⟨1000⟩, true), (⟨500⟩, false)]
    ∧ t.chan.ctl.added = [⟨1000⟩, ⟨500⟩] ++ (inHand t.chan.ctl.pc ++ t.dropped
      ++ t.chan.ctl.m_taskNotiQue)
    ∧ t.chan.issued.reverse ++ owed t.chan.ctl.pc = [.openCommand, .closeCommand]
    ∧ t.chan.issued.count .openCommand ≤ 1
  := by
  refine ⟨_, rfl, rfl, ?_⟩
  have h := tasks_accounted .INDIRECT_CONTROL_SWITCH 1 threeTasks rfl
  exact ⟨h.1, (h.2.1 rfl).2 (by decide), h.2.2⟩

end WorkerRun

end DoorSwitchSvr
