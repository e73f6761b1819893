import DoorSwitchSvr.Destructor
import DoorSwitchSvr.Draining
import DoorSwitchSvr.Origin
import DoorSwitchSvr.Reconnect

/-!
# When close returns

`DoorSwitchHandler::close` waits for a callback of the timer, for the io thread, and for the
worker of each controller.  All of these come to an end on their own, with two exceptions.

* A worker may wait for a task when `close` waits for it (`LostWakeUp`).
* The io thread, for which `close` waits, may be about to start the timer after a worker has
  started it (`StartsTwice`).  The exception of `start` then ends the process.

So from every state of `close` in which the io thread is not about to do so it can still
return, unless a wake-up has been lost on the controller at which it is (`exists_returned`),
and then it never does.

The same holds of the whole server once it has been told to terminate
(`destroyed_iff`).
-/

namespace DoorSwitchSvr

open Transition DoorSwitchChannelController
open ReconnectSystem (beforeStart)

/-- The controller at which `close` is. -/
def ClosePc.current : ClosePc → Option UInt16
  | .clear c _ | .wakeUpAll c _ | .join c _ => some c
  | .closeSocket | .stopIo | .stopTimer | .joinIo | .controllers _ | .returned => none

/-- The queue of the controller at which `close` is has been cleared. -/
def ClosePc.clears : ClosePc → Bool
  | .wakeUpAll _ _ | .join _ _ => true
  | .closeSocket | .stopIo | .stopTimer | .joinIo | .controllers _ | .clear _ _
  | .returned => false

namespace Closing

/-- The controller at which `close` is has been told to stop, and has no tasks any more once
its queue has been cleared. -/
def Told (s : Closing) : Prop :=
  ∀ c ctl, s.closer.current = some c → s.handler.m_mapControllers.find c = some ctl →
    ctl.m_stop = true ∧ (s.closer.clears = true → ctl.m_taskNotiQue = [])

/-- `close` waits for a worker that waits for a task, or is about to. -/
def LostWakeUp (s : Closing) : Prop :=
  ∃ c rest ctl, s.closer = .join c rest ∧ s.handler.m_mapControllers.find c = some ctl
    ∧ (ctl.pc = .waitDequeue ∨ ctl.pc = .parked)

/-- The io thread, for which `close` waits, is about to start the timer, which has been started
since it stopped it. -/
def StartsTwice (s : Closing) : Prop :=
  s.closer = .joinIo ∧ beforeStart (s.thread none)
    ∧ s.handler.conn.m_reconnTimer.state ≠ .stopped

instance (s : Closing) : Decidable s.StartsTwice :=
  inferInstanceAs (Decidable (_ ∧ _ ∧ _))

/-! ### Workers in handleRWError -/

/-- A worker in `handleRWError` has been called from its `sendData`, and has not been ended
there. -/
structure Reporting (s : Closing) : Prop where
  sending : ∀ c, s.thread (some c) ≠ .outside →
    ∃ ctl, s.handler.m_mapControllers.find c = some ctl ∧ WorkerRun.inSendData ctl.pc = true
  not_thrown : ∀ c, s.thread (some c) ≠ .thrown

theorem Reporting.close {s t : Closing} (h : s.Reporting) (hstep : CloseStep s t) :
  t.Reporting
  := by
  have hthread := hstep.thread
  constructor
  · intro c hne
    rw [hthread] at hne
    obtain ⟨ctl, hfind, hpc⟩ := h.sending c hne
    rcases hstep.controllers with hmap | ⟨c', f, hmap, hf⟩
    · rw [hmap]
      exact ⟨ctl, hfind, hpc⟩
    · rw [hmap, OrdMap.find_modify]
      split_ifs with hc
      · subst hc
        rw [hfind]
        use f ctl, rfl
        rw [(hf ctl).2.2]
        · apply hpc
        · intro hparked
          rw [hparked] at hpc
          cases hpc
      · exact ⟨ctl, hfind, hpc⟩
  · rw [hthread]
    apply h.not_thrown

theorem Reporting.work {s t : Closing} (h : s.Reporting) {c : UInt16} {elapsed : Int64}
    (hstep : s.workStep c elapsed = some t) :
  t.Reporting
  := by
  obtain ⟨ctl, ctl', cmd, hfind, hrun, -, -, hmap, -, houtside, hthread⟩ :=
    SwitchRun.workStep_eq_some hstep
  have hself : t.handler.m_mapControllers.find c = some ctl' := by
    rw [hmap, OrdMap.find_modify_self, hfind]
    rfl
  rcases hthread with hthread | ⟨hcmd, hthread⟩
  · constructor
    · intro c' hne
      rw [hthread] at hne
      have hc : c' ≠ c := by
        rintro rfl
        apply hne houtside
      rw [hmap, OrdMap.find_modify_of_ne _ _ hc]
      apply h.sending c' hne
    · rw [hthread]
      apply h.not_thrown
  · constructor
    · intro c' hne
      rcases eq_or_ne c' c with rfl | hc
      · exact ⟨ctl', hself, SwitchRun.inSendData_of_runStep hrun hcmd⟩
      · rw [hthread, Function.update_of_ne (fun heq => hc (Option.some.inj heq))] at hne
        rw [hmap, OrdMap.find_modify_of_ne _ _ hc]
        apply h.sending c' hne
    · intro c'
      rw [hthread]
      rcases eq_or_ne c' c with rfl | hc
      · rw [Function.update_self]
        apply RWErrorPc.noConfusion
      · rw [Function.update_of_ne (fun heq => hc (Option.some.inj heq))]
        apply h.not_thrown

theorem Reporting.thread {s t : Closing} (h : s.Reporting) {i : Option UInt16} {free : Bool}
    (hnext : next s (.thread i free) = some t) :
  t.Reporting
  := by
  obtain ⟨hreport, ⟨conn, pc, -, hthrown, rfl⟩ | ⟨c, rfl, -, rfl⟩⟩ := next_thread hnext
  · constructor
    · intro c hne
      apply h.sending c
      by_cases hi : some c = i
      · obtain rfl := hi
        apply hreport.2
      · simp only [Function.update_of_ne hi] at hne
        apply hne
    · intro c
      by_cases hi : some c = i
      · obtain rfl := hi
        simp only [Function.update_self]
        intro hpc
        cases hthrown hpc
      · simp only [Function.update_of_ne hi]
        apply h.not_thrown
  · constructor
    · intro c' hne
      rcases eq_or_ne c' c with rfl | hc
      · simp only [endWorker, Function.update_self] at hne
        apply absurd rfl hne
      · have hi : some c' ≠ some c := fun heq => hc (Option.some.inj heq)
        simp only [endWorker, Function.update_of_ne hi] at hne
        simp only [endWorker, modify, OrdMap.find_modify_of_ne _ _ hc]
        apply h.sending c' hne
    · intro c'
      by_cases hi : some c' = some c
      · simp only [endWorker, hi, Function.update_self]
        apply RWErrorPc.noConfusion
      · simp only [endWorker, Function.update_of_ne hi]
        apply h.not_thrown

theorem Reporting.next {s t : Closing} (h : s.Reporting) :
    ∀ {a : Action}, Closing.next s a = some t → t.Reporting
  | .close, hnext => h.close (closeStep_eq_some (next_close hnext))
  | .work _ _, hnext => h.work (next_work hnext)
  | .thread _ _, hnext => h.thread hnext
  | .timer _, hnext => by
      obtain ⟨conn, pc, -, rfl⟩ := next_timer hnext
      exact ⟨h.sending, h.not_thrown⟩

/-- A worker that waits for a task, or is about to, is not in `handleRWError`. -/
theorem Reporting.outside {s : Closing} (h : s.Reporting) {c : UInt16}
    {ctl : DoorSwitchChannelController} (hfind : s.handler.m_mapControllers.find c = some ctl)
    (hpc : ctl.pc = .waitDequeue ∨ ctl.pc = .parked) :
  s.thread (some c) = .outside
  := by
  by_contra hne
  obtain ⟨ctl', hfind', hsend⟩ := h.sending c hne
  obtain rfl := Option.some.inj (hfind.symm.trans hfind')
  rcases hpc with hpc | hpc <;> rw [hpc] at hsend <;> cases hsend

/-! ### Steps of close -/

theorem Told.of_current {s : Closing} (h : s.closer.current = none) :
  s.Told
  := by
  intro c ctl hcurrent
  cases h.symm.trans hcurrent

/-- A step of a worker leaves the controller that it is not of alone, and keeps the controller
that it is of stopped. -/
theorem find_workStep {s t : Closing} {c : UInt16} {elapsed : Int64}
    (h : s.workStep c elapsed = some t) {c' : UInt16} {ctl' : DoorSwitchChannelController}
    (hfind : t.handler.m_mapControllers.find c' = some ctl') :
  s.handler.m_mapControllers.find c' = some ctl'
    ∨ c' = c ∧ ∃ ctl cmd, s.handler.m_mapControllers.find c = some ctl
      ∧ RunStep s.handler.m_switchInfo.type elapsed ctl ctl' cmd
  := by
  obtain ⟨ctl, ctl₁, cmd, hctl, hrun, -, -, hmap, -⟩ := SwitchRun.workStep_eq_some h
  rw [hmap, OrdMap.find_modify] at hfind
  split_ifs at hfind with heq
  · right
    rw [hctl] at hfind
    obtain rfl := Option.some.inj hfind
    use heq, ctl, cmd
  · exact Or.inl hfind

theorem Told.close {s t : Closing} (h : s.Told) (hnext : s.closeStep = some t) :
  t.Told
  := by
  rw [closeStep] at hnext
  split at hnext
  next =>
    obtain rfl := Option.some.inj hnext
    apply Told.of_current rfl
  next =>
    obtain rfl := Option.some.inj hnext
    apply Told.of_current rfl
  next =>
    split_ifs at hnext
    obtain rfl := Option.some.inj hnext
    apply Told.of_current rfl
  next =>
    split_ifs at hnext
    obtain rfl := Option.some.inj hnext
    apply Told.of_current rfl
  next =>
    obtain rfl := Option.some.inj hnext
    apply Told.of_current rfl
  next c rest _ =>
    obtain rfl := Option.some.inj hnext
    intro c' ctl hcurrent hfind
    obtain rfl := Option.some.inj hcurrent
    obtain ⟨ctl₀, -, rfl⟩ := Option.map_eq_some_iff.mp
      ((OrdMap.find_modify_self _ c _).symm.trans hfind)
    exact ⟨rfl, Bool.noConfusion⟩
  next c rest hcloser =>
    obtain rfl := Option.some.inj hnext
    intro c' ctl hcurrent hfind
    obtain rfl := Option.some.inj hcurrent
    obtain ⟨ctl₀, hctl₀, rfl⟩ := Option.map_eq_some_iff.mp
      ((OrdMap.find_modify_self _ c _).symm.trans hfind)
    exact ⟨(h c ctl₀ (by rw [hcloser]; rfl) hctl₀).1, fun _ => rfl⟩
  next c rest hcloser =>
    obtain rfl := Option.some.inj hnext
    intro c' ctl hcurrent hfind
    obtain rfl := Option.some.inj hcurrent
    obtain ⟨ctl₀, hctl₀, rfl⟩ := Option.map_eq_some_iff.mp
      ((OrdMap.find_modify_self _ c _).symm.trans hfind)
    obtain ⟨hstop, hclear⟩ := h c ctl₀ (by rw [hcloser]; rfl) hctl₀
    rw [hcloser] at hclear
    rw [wakeUpAll]
    split_ifs
    · exact ⟨hstop, fun _ => hclear rfl⟩
    · exact ⟨hstop, fun _ => hclear rfl⟩
  next =>
    split_ifs at hnext
    obtain rfl := Option.some.inj hnext
    apply Told.of_current rfl
  next => cases hnext

theorem Told.next {s t : Closing} (h : s.Told) :
    ∀ {a : Action}, Closing.next s a = some t → t.Told
  | .close, hnext => h.close (next_close hnext)
  | .work c elapsed, hnext => by
      have hwork := next_work hnext
      obtain ⟨-, hcloser, -⟩ := workStep_thread hwork
      intro c' ctl hcurrent hfind
      rw [hcloser] at hcurrent ⊢
      rcases find_workStep hwork hfind with hfind' | ⟨rfl, ctl₀, cmd, hfind', hrun⟩
      · apply h c' ctl hcurrent hfind'
      · obtain ⟨hstop, hclear⟩ := h c' ctl₀ hcurrent hfind'
        rw [hrun.kept.2.2.1]
        exact ⟨hstop, fun hclears => Stopping.queue_eq_nil_of_runStep hrun (hclear hclears)⟩
  | .thread _ _, hnext => by
      obtain ⟨-, ⟨conn, pc, -, -, rfl⟩ | ⟨c, -, -, rfl⟩⟩ := next_thread hnext
      · apply h
      · -- the worker that has ended has the same queue and the same `m_stop`
        intro c' ctl hcurrent hfind
        simp only [endWorker, modify, OrdMap.find_modify] at hfind
        split_ifs at hfind with hc
        · obtain ⟨ctl₀, hctl₀, rfl⟩ := Option.map_eq_some_iff.mp hfind
          rw [← hc] at hctl₀
          apply h c' ctl₀ hcurrent hctl₀
        · apply h c' ctl hcurrent hfind
  | .timer _, hnext => by
      obtain ⟨conn, pc, -, rfl⟩ := next_timer hnext
      apply h

/-- A lost wake-up stays lost. -/
theorem LostWakeUp.next {s t : Closing} (h : s.LostWakeUp) (htold : s.Told)
    (hreporting : s.Reporting) :
    ∀ {a : Action}, Closing.next s a = some t → t.LostWakeUp
  | .close, hnext => by
      obtain ⟨c, rest, ctl, hcloser, hfind, hpc⟩ := h
      have hnot : ¬ s.Joinable c := by
        rintro ⟨-, hctl⟩
        rw [hfind, Option.all_some, decide_eq_true_eq, isRunning] at hctl
        apply hctl
        rcases hpc with hpc | hpc <;> rw [hpc] <;> rfl
      have hnone := next_close hnext
      rw [closeStep, hcloser] at hnone
      simp only [if_neg hnot] at hnone
      cases hnone
  | .work c' elapsed, hnext => by
      obtain ⟨c, rest, ctl, hcloser, hfind, hpc⟩ := h
      obtain ⟨-, hcloser', -⟩ := workStep_thread (next_work hnext)
      obtain ⟨ctl₀, ctl', cmd, hfind₀, hrun, -, -, hmap, -⟩ :=
        SwitchRun.workStep_eq_some (next_work hnext)
      have hqueue := (htold c ctl (by rw [hcloser]; rfl) hfind).2 (by rw [hcloser]; rfl)
      rcases eq_or_ne c c' with rfl | hne
      · obtain rfl := Option.some.inj (hfind.symm.trans hfind₀)
        use c, rest, ctl', hcloser'.trans hcloser
        constructor
        · rw [hmap, OrdMap.find_modify_self, hfind]
          rfl
        · right
          rcases hpc with hpc | hpc
          · cases hrun with
            | park => rfl
            | dequeue _ _ _ hq => cases hqueue.symm.trans hq
            | stop hpc' | go hpc' | null hpc' | serve _ hpc' | follow _ hpc' | expire _ hpc'
            | discard hpc' | sendOpen _ hpc' | wakeIndirect _ hpc' | wakeDirect _ hpc'
            | last hpc' | notLast hpc' | closeIndirect hpc' | closeDirect hpc' =>
                cases hpc.symm.trans hpc'
          · have hnone : runStep s.handler.m_switchInfo.type elapsed ctl = none := by
              rw [runStep, hpc]
            cases hnone.symm.trans hrun.runStep_eq
      · use c, rest, ctl, hcloser'.trans hcloser
        rw [hmap, OrdMap.find_modify_of_ne _ _ hne]
        exact ⟨hfind, hpc⟩
  | .thread _ _, hnext => by
      obtain ⟨hreport, ⟨conn, pc, -, -, rfl⟩ | ⟨c', rfl, -, rfl⟩⟩ := next_thread hnext
      · apply h
      · obtain ⟨c, rest, ctl, hcloser, hfind, hpc⟩ := h
        have hne : c ≠ c' := by
          rintro rfl
          apply hreport.2 (hreporting.outside hfind hpc)
        use c, rest, ctl, hcloser
        simp only [endWorker, modify, OrdMap.find_modify_of_ne _ _ hne]
        exact ⟨hfind, hpc⟩
  | .timer _, hnext => by
      obtain ⟨conn, pc, -, rfl⟩ := next_timer hnext
      apply h

/-! ### Ranks -/

/-- The steps of `close` that are left, where `n` is the number of controllers. -/
def closerRank (n : ℕ) : ClosePc → ℕ
  | .closeSocket => 4 * n + 5
  | .stopIo => 4 * n + 4
  | .stopTimer => 4 * n + 3
  | .joinIo => 4 * n + 2
  | .controllers rest => 4 * rest.length + 1
  | .clear _ rest => 4 * rest.length + 4
  | .wakeUpAll _ rest => 4 * rest.length + 3
  | .join _ rest => 4 * rest.length + 2
  | .returned => 0

/-- A bound on the steps that a thread takes until it is outside `handleRWError`. -/
def threadRank : RWErrorPc → ℕ
  | .outside | .thrown => 0
  | .testTimerOn => 7
  | .closeSocket => 6
  | .setTimerOn => 5
  | .setInterval => 4
  | .stopTimer => 3
  | .setPeriod => 2
  | .startTimer => 1

theorem threadRank_le (pc : RWErrorPc) :
  threadRank pc ≤ 7
  := by
  cases pc <;> simp [threadRank]

/-- A bound on the steps that the timer thread takes until its callback is over. -/
def timerRank : TimerPc → ℕ
  | .idle => 0
  | .connect => 7
  | .closeSocket => 6
  | .setDisconnected | .setConnected => 5
  | .returnConnected => 4
  | .restart => 3
  | .resetInterval | .growInterval => 2
  | .clearTimerOn | .setPeriod => 1

/-- The steps that the worker under a key may still take in `run`. -/
def workRank (s : Closing) (c : UInt16) : ℕ :=
  (s.handler.m_mapControllers.find c).elim 0 ChannelRun.stepsLeft

/-- A bound on the steps of the timer thread, and of the thread for which `close` waits.  A
command that is not written takes its worker through `handleRWError`. -/
def waitRank (s : Closing) : ℕ :=
  timerRank s.timer + threadRank (s.thread s.closer.current)
    + 8 * s.closer.current.elim 0 s.workRank

/-- What is left to be done until `close` returns. -/
def rank (s : Closing) : ℕ × ℕ :=
  (closerRank s.handler.m_mapControllers.keys.length s.closer, s.waitRank)

/-- The order of the ranks. -/
def RankLt : ℕ × ℕ → ℕ × ℕ → Prop := Prod.Lex (· < ·) (· < ·)

theorem wellFounded_rankLt :
  WellFounded RankLt
  := (Prod.lex Nat.lt_wfRel Nat.lt_wfRel).wf

theorem rankLt_of_waitRank_lt {s t : Closing} {a : Action} (hnext : next s a = some t)
    (hcloser : t.closer = s.closer) (hlt : t.waitRank < s.waitRank) :
  RankLt t.rank s.rank
  := by
  rw [rank, rank, hcloser, keys_next hnext]
  apply Prod.Lex.right _ hlt

/-- A step of `close` leaves fewer of them. -/
theorem rankLt_of_close {s t : Closing} (hnext : s.closeStep = some t) :
  RankLt t.rank s.rank
  := by
  have hkeys : t.handler.m_mapControllers.keys = s.handler.m_mapControllers.keys := by
    rcases (closeStep_eq_some hnext).controllers with hmap | ⟨c, f, hmap, -⟩
    · rw [hmap]
    · rw [hmap, OrdMap.keys_modify]
  rw [rank, rank, hkeys]
  apply Prod.Lex.left
  rw [closeStep] at hnext
  cases hcloser : s.closer with
  | closeSocket | stopIo | clear c rest | wakeUpAll c rest =>
      rw [hcloser] at hnext
      obtain rfl := Option.some.inj hnext
      simp [closerRank]
  | stopTimer | joinIo | join c rest =>
      rw [hcloser] at hnext
      simp only at hnext
      split_ifs at hnext
      obtain rfl := Option.some.inj hnext
      simp [closerRank]
  | controllers rest =>
      rw [hcloser] at hnext
      cases rest with
      | nil =>
          obtain rfl := Option.some.inj hnext
          simp [closerRank]
      | cons c rest =>
          obtain rfl := Option.some.inj hnext
          simp only [closerRank, List.length_cons]
          omega
  | returned =>
      rw [hcloser] at hnext
      cases hnext

/-! ### The steps that lead to the return -/

theorem timerRank_lt {error : Bool} {conn : Connection} {pc : TimerPc}
    {x : Connection × TimerPc} (hidle : pc ≠ .idle) (h : conn.timerStep error pc = some x) :
  timerRank x.2 < timerRank pc
  := by
  cases pc with
  | idle => apply absurd rfl hidle
  | connect | returnConnected =>
      obtain rfl := Option.some.inj h
      simp only
      split_ifs <;> simp [timerRank]
  | closeSocket | setDisconnected | setConnected | restart | resetInterval | clearTimerOn
  | growInterval | setPeriod =>
      obtain rfl := Option.some.inj h
      simp [timerRank]

theorem threadRank_lt {free : Bool} {timer : TimerPc} {conn : Connection} {pc : RWErrorPc}
    {x : Connection × RWErrorPc} (houtside : pc ≠ .outside)
    (h : conn.rwErrorStep free timer pc = some x) :
  threadRank x.2 < threadRank pc
  := by
  cases pc with
  | outside => apply absurd rfl houtside
  | testTimerOn =>
      obtain rfl := Option.some.inj h
      simp only
      split_ifs <;> simp [threadRank]
  | stopTimer =>
      simp only [Connection.rwErrorStep] at h
      split_ifs at h
      obtain rfl := Option.some.inj h
      simp [threadRank]
  | startTimer =>
      rw [Connection.rwErrorStep_startTimer] at h
      split_ifs at h <;> obtain rfl := Option.some.inj h <;> simp [threadRank]
  | closeSocket | setTimerOn | setInterval | setPeriod =>
      obtain rfl := Option.some.inj h
      simp [threadRank]
  | thrown => cases h

/-- A step of a thread in `handleRWError` brings it nearer to its end, and leaves the other
threads where they are. -/
theorem threadRank_next {s t : Closing} {i : Option UInt16} {free : Bool}
    (hthread : s.thread i ≠ .outside) (hnext : next s (.thread i free) = some t) :
  threadRank (t.thread i) < threadRank (s.thread i) ∧ (∀ j, j ≠ i → t.thread j = s.thread j)
    ∧ t.timer = s.timer ∧ t.closer = s.closer ∧ ∀ c, t.workRank c ≤ s.workRank c
  := by
  obtain ⟨-, ⟨conn, pc, hstep, -, rfl⟩ | ⟨c, rfl, ⟨hstart, -⟩, rfl⟩⟩ := next_thread hnext
  · refine ⟨?_, fun j hj => Function.update_of_ne hj _ _, rfl, rfl, fun _ => le_rfl⟩
    simp only [Function.update_self]
    apply threadRank_lt hthread hstep
  · refine ⟨?_, fun j hj => Function.update_of_ne hj _ _, rfl, rfl, ?_⟩
    · simp only [endWorker, Function.update_self]
      rw [hstart]
      simp [threadRank]
    · intro c'
      simp only [workRank, endWorker, modify, OrdMap.find_modify]
      split_ifs with hc
      · subst hc
        cases s.handler.m_mapControllers.find c' with
        | none => rfl
        | some ctl => apply ChannelRun.stepsLeft_endThread
      · rfl

/-- A callback of the timer goes on. -/
theorem exists_next_timer {s : Closing} (haborted : ¬ s.Aborted) (hidle : s.timer ≠ .idle) :
  ∃ t, next s (.timer false) = some t
  := by
  have hstep : ∃ x, s.handler.conn.timerStep false s.timer = some x := by
    cases htimer : s.timer with
    | idle => apply absurd htimer hidle
    | connect | closeSocket | setDisconnected | setConnected | returnConnected | restart
    | resetInterval | clearTimerOn | growInterval | setPeriod => exact ⟨_, rfl⟩
  obtain ⟨x, hx⟩ := hstep
  rw [next, if_neg haborted, step, hx]
  exact ⟨_, rfl⟩

/-- A thread in `handleRWError` goes on when the timer thread is not in its callback. -/
theorem exists_next_thread {s : Closing} {i : Option UInt16} (haborted : ¬ s.Aborted)
    (hthread : s.thread i ≠ .outside) (hthrown : s.thread i ≠ .thrown)
    (hreport : s.CanReport i) (hidle : s.timer = .idle) :
  ∃ t, next s (.thread i true) = some t
  := by
  have hstep : ∃ x, s.handler.conn.rwErrorStep true s.timer (s.thread i) = some x := by
    rw [hidle]
    cases hpc : s.thread i with
    | outside => apply absurd hpc hthread
    | thrown => apply absurd hpc hthrown
    | startTimer =>
        rw [Connection.rwErrorStep_startTimer]
        split_ifs <;> exact ⟨_, rfl⟩
    | testTimerOn | closeSocket | setTimerOn | setInterval | stopTimer | setPeriod =>
        exact ⟨_, rfl⟩
  obtain ⟨x, hx⟩ := hstep
  rw [next, if_neg haborted, step, if_pos hreport, threadStep, hx]
  exact ⟨_, rfl⟩

theorem Reporting.canReport {s : Closing} (h : s.Reporting) {i : Option UInt16}
    (hthread : s.thread i ≠ .outside) :
  s.CanReport i
  := by
  cases i with
  | none => exact fun houtside => absurd houtside hthread
  | some c =>
      obtain ⟨ctl, hfind, -⟩ := h.sending c hthread
      use (OrdMap.mem_keys _ _).mpr (Option.isSome_iff_exists.mpr ⟨ctl, hfind⟩)

/-- A worker that has been started goes on unless it is parked or has returned. -/
theorem exists_workStep {s : Closing} {c : UInt16} (elapsed : Int64)
    (hthread : s.thread (some c) = .outside) {ctl : DoorSwitchChannelController}
    (hfind : s.handler.m_mapControllers.find c = some ctl) (hstarted : ctl.pc ≠ .notStarted)
    (hparked : ctl.pc ≠ .parked) (hreturned : ctl.pc ≠ .returned) :
  ∃ t, s.workStep c elapsed = some t
  := by
  have hsome := ChannelRun.isSome_runStep s.handler.m_switchInfo.type elapsed hstarted hparked
    hreturned
  obtain ⟨⟨ctl', cmd⟩, hrun⟩ := Option.isSome_iff_exists.mp hsome
  have hwork : s.handler.work c elapsed
      = some ({ s.handler with
          m_mapControllers := s.handler.m_mapControllers.modify c (fun _ => ctl') },
        cmd.map (Prod.mk ctl.m_channel)) := by
    rw [DoorSwitchHandler.work, hfind, Option.bind_some, hrun]
    rfl
  rw [workStep, if_pos hthread, hwork]
  cases cmd with
  | none => exact ⟨_, rfl⟩
  | some cmd =>
      simp only [Option.map_some]
      split_ifs <;> exact ⟨_, rfl⟩

/-! ### What keeps close from returning -/

/-- Nothing keeps `close` from returning. -/
structure Unblocked (s : Closing) : Prop where
  not_aborted : ¬ s.Aborted
  not_lost : ¬ s.LostWakeUp
  not_twice : ¬ s.StartsTwice

theorem not_lostWakeUp_of_ne {s : Closing} (h : ∀ c rest, s.closer ≠ .join c rest) :
  ¬ s.LostWakeUp
  := by
  rintro ⟨c, rest, ctl, hcloser, -⟩
  apply h c rest hcloser

/-- The io thread keeps `close` from returning only when `close` waits for it. -/
theorem Unblocked.of_current {s : Closing} {c : UInt16} (hcurrent : s.closer.current = some c)
    (haborted : ¬ s.Aborted) (hlost : ¬ s.LostWakeUp) :
  s.Unblocked
  := by
  use haborted, hlost
  rintro ⟨hcloser, -⟩
  rw [hcloser] at hcurrent
  cases hcurrent

/-- `close` has stopped the timer when it comes to wait for the io thread. -/
theorem stopped_of_joinIo {s t : Closing} (hnext : s.closeStep = some t)
    (hcloser : t.closer = .joinIo) :
  t.handler.conn.m_reconnTimer.state = .stopped
  := by
  rw [closeStep] at hnext
  split at hnext
  case h_3 =>
    split_ifs at hnext
    obtain rfl := Option.some.inj hnext
    rfl
  case h_4 | h_9 =>
    split_ifs at hnext
    obtain rfl := Option.some.inj hnext
    cases hcloser
  case h_10 => cases hnext
  all_goals
    obtain rfl := Option.some.inj hnext
    cases hcloser

theorem Unblocked.of_close {s t : Closing} (h : s.Unblocked) (hnext : s.closeStep = some t)
    (hlost : ¬ t.LostWakeUp) :
  t.Unblocked
  := by
  refine ⟨?_, hlost, ?_⟩
  · rw [Aborted, (closeStep_eq_some hnext).thread]
    apply h.not_aborted
  · rintro ⟨hcloser, -, hstopped⟩
    apply hstopped (stopped_of_joinIo hnext hcloser)

/-- A callback of the timer leaves a stopped timer stopped. -/
theorem stopped_of_timerStep {error : Bool} {conn : Connection} {pc : TimerPc}
    {x : Connection × TimerPc} (h : conn.timerStep error pc = some x)
    (hstopped : conn.m_reconnTimer.state = .stopped) :
  x.1.m_reconnTimer.state = .stopped
  := by
  cases pc with
  | idle =>
      rw [Connection.timerStep, hstopped] at h
      cases h
  | restart =>
      obtain rfl := Option.some.inj h
      rw [Timer.restart, if_pos hstopped]
      apply hstopped
  | growInterval =>
      obtain rfl := Option.some.inj h
      simp only [Connection.growInterval]
      split_ifs <;> exact hstopped
  | connect | closeSocket | setDisconnected | setConnected | returnConnected | resetInterval
  | clearTimerOn | setPeriod =>
      obtain rfl := Option.some.inj h
      apply hstopped

theorem Unblocked.of_timer {s t : Closing} (h : s.Unblocked) {error : Bool}
    (hnext : next s (.timer error) = some t) :
  t.Unblocked
  := by
  obtain ⟨conn, pc, hstep, rfl⟩ := next_timer hnext
  use h.not_aborted, h.not_lost
  rintro ⟨hcloser, hpc, hnot⟩
  apply h.not_twice ⟨hcloser, hpc, _⟩
  intro hstopped
  apply hnot (stopped_of_timerStep hstep hstopped)

/-- A thread whose timer is stopped between its calls of `stop` and `start` starts it. -/
theorem rwErrorStep_of_stopped {timer : TimerPc} {conn : Connection} {pc : RWErrorPc}
    {x : Connection × RWErrorPc}
    (hstopped : beforeStart pc → conn.m_reconnTimer.state = .stopped)
    (h : conn.rwErrorStep true timer pc = some x) :
  x.2 ≠ .thrown ∧ (beforeStart x.2 → x.1.m_reconnTimer.state = .stopped)
  := by
  cases pc with
  | testTimerOn =>
      obtain rfl := Option.some.inj h
      simp only
      split_ifs <;> exact ⟨RWErrorPc.noConfusion, Bool.noConfusion⟩
  | stopTimer =>
      rw [Connection.rwErrorStep] at h
      split_ifs at h
      obtain rfl := Option.some.inj h
      exact ⟨RWErrorPc.noConfusion, fun _ => rfl⟩
  | setPeriod =>
      obtain rfl := Option.some.inj h
      exact ⟨RWErrorPc.noConfusion, fun _ => hstopped rfl⟩
  | startTimer =>
      rw [Connection.rwErrorStep_startTimer, if_pos ⟨hstopped rfl, rfl⟩] at h
      obtain rfl := Option.some.inj h
      exact ⟨RWErrorPc.noConfusion, Bool.noConfusion⟩
  | outside | closeSocket | setTimerOn | setInterval =>
      obtain rfl := Option.some.inj h
      exact ⟨RWErrorPc.noConfusion, Bool.noConfusion⟩
  | thrown => cases h

/-- The io thread starts a timer that it has stopped, if nothing has started it since. -/
theorem Unblocked.of_io {s t : Closing} (h : s.Unblocked) (hcloser : s.closer = .joinIo)
    (hnext : next s (.thread none true) = some t) :
  t.Unblocked
  := by
  obtain ⟨-, ⟨conn, pc, hstep, -, rfl⟩ | ⟨c, hc, -⟩⟩ := next_thread hnext
  · have hstopped : beforeStart (s.thread none) →
        s.handler.conn.m_reconnTimer.state = .stopped := by
      intro hpc
      by_contra hnot
      apply h.not_twice ⟨hcloser, hpc, hnot⟩
    obtain ⟨hthrown, hstopped'⟩ := rwErrorStep_of_stopped hstopped hstep
    refine ⟨?_, ?_, ?_⟩
    · simp only [Aborted, Function.update_self]
      apply hthrown
    · apply not_lostWakeUp_of_ne
      intro c rest hjoin
      cases hcloser.symm.trans hjoin
    · rintro ⟨-, hpc, hnot⟩
      simp only [Function.update_self] at hpc
      apply hnot (hstopped' hpc)
  · cases hc

/-- A worker that comes out of `handleRWError` loses no wake-up. -/
theorem LostWakeUp.of_thread {s t : Closing} {i : Option UInt16} {free : Bool}
    (hnext : Closing.next s (.thread i free) = some t) (h : t.LostWakeUp) :
  s.LostWakeUp
  := by
  obtain ⟨-, ⟨conn, pc, -, -, rfl⟩ | ⟨c', rfl, -, rfl⟩⟩ := next_thread hnext
  · apply h
  · obtain ⟨c, rest, ctl, hcloser, hfind, hpc⟩ := h
    simp only [endWorker, modify, OrdMap.find_modify] at hfind
    split_ifs at hfind
    · obtain ⟨ctl₀, -, rfl⟩ := Option.map_eq_some_iff.mp hfind
      rcases hpc with hpc | hpc <;> cases hpc
    · exact ⟨c, rest, ctl, hcloser, hfind, hpc⟩

theorem Unblocked.of_thread {s t : Closing} (h : s.Unblocked) {c : UInt16} {free : Bool}
    (hcurrent : s.closer.current = some c)
    (hnext : next s (.thread (some c) free) = some t) (hthread : s.thread (some c) ≠ .outside) :
  t.Unblocked
  := by
  obtain ⟨-, hothers, -, hcloser, -⟩ := threadRank_next hthread hnext
  apply Unblocked.of_current (hcloser ▸ hcurrent)
  · rw [Aborted, hothers none (Option.some_ne_none c).symm]
    apply h.not_aborted
  · exact fun hlost => h.not_lost (hlost.of_thread hnext)

theorem Unblocked.of_work {s t : Closing} (h : s.Unblocked) {c : UInt16} {elapsed : Int64}
    (hcurrent : s.closer.current = some c) (hstep : s.workStep c elapsed = some t)
    (hlost : ¬ t.LostWakeUp) :
  t.Unblocked
  := by
  obtain ⟨-, hcloser, -, -, hothers, -⟩ := workStep_thread hstep
  apply Unblocked.of_current (hcloser ▸ hcurrent) _ hlost
  rw [Aborted, hothers none (Option.some_ne_none c).symm]
  apply h.not_aborted

/-! ### The steps that lead to the return -/

/-- A step that brings `close` nearer to its return, and leaves nothing to keep it from it. -/
def Advances (s : Closing) : Prop :=
  ∃ a t, next s a = some t ∧ t.Unblocked ∧ RankLt t.rank s.rank

theorem Advances.of_close {s t : Closing} (h : s.Unblocked) (hnext : s.closeStep = some t)
    (hlost : ¬ t.LostWakeUp) :
  s.Advances
  := ⟨.close, t, next_eq_some.mpr ⟨h.not_aborted, hnext⟩, h.of_close hnext hlost,
    rankLt_of_close hnext⟩

/-- A step of `close` that does not go to wait for a worker. -/
theorem Advances.of_closeStep {s : Closing} (h : s.Unblocked)
    (hclose : ∃ t, s.closeStep = some t ∧ ∀ c rest, t.closer ≠ .join c rest) :
  s.Advances
  := by
  obtain ⟨t, hnext, hne⟩ := hclose
  apply Advances.of_close h hnext (not_lostWakeUp_of_ne hne)

theorem Advances.of_timer {s : Closing} (h : s.Unblocked) (hidle : s.timer ≠ .idle) :
  s.Advances
  := by
  obtain ⟨t, hnext⟩ := exists_next_timer h.not_aborted hidle
  use .timer false, t, hnext, h.of_timer hnext
  obtain ⟨conn, pc, hstep, rfl⟩ := next_timer hnext
  apply rankLt_of_waitRank_lt hnext rfl
  exact Nat.add_lt_add_right (Nat.add_lt_add_right (timerRank_lt hidle hstep) _) _

/-- The thread for which `close` waits goes on in `handleRWError`, once a callback of the timer
is over. -/
theorem Advances.of_thread {s : Closing} (h : s.Unblocked) (hreporting : s.Reporting)
    {i : Option UInt16} (hcurrent : s.closer.current = i) (hthread : s.thread i ≠ .outside)
    (hunblocked : ∀ t, next s (.thread i true) = some t → t.Unblocked) :
  s.Advances
  := by
  by_cases hidle : s.timer = .idle
  · have hthrown : s.thread i ≠ .thrown := by
      cases i with
      | none => apply h.not_aborted
      | some c => apply hreporting.not_thrown
    obtain ⟨t, hnext⟩ := exists_next_thread h.not_aborted hthread hthrown
      (hreporting.canReport hthread) hidle
    use .thread i true, t, hnext, hunblocked t hnext
    obtain ⟨hlt, -, htimer, hcloser, hwork⟩ := threadRank_next hthread hnext
    apply rankLt_of_waitRank_lt hnext hcloser
    have hle : i.elim 0 t.workRank ≤ i.elim 0 s.workRank := by
      cases i with
      | none => rfl
      | some c => apply hwork
    rw [waitRank, waitRank, htimer, hcloser, hcurrent]
    omega
  · apply Advances.of_timer h hidle

/-- The worker for which `close` waits comes out of `handleRWError`. -/
theorem Advances.of_report {s : Closing} (h : s.Unblocked) (hreporting : s.Reporting)
    {c : UInt16} (hcurrent : s.closer.current = some c) (hthread : s.thread (some c) ≠ .outside) :
  s.Advances
  := by
  apply Advances.of_thread h hreporting hcurrent hthread
  intro t hnext
  apply h.of_thread hcurrent hnext hthread

/-- The worker for which `close` waits goes on unless it is parked. -/
theorem exists_work {s : Closing} {c : UInt16} (hcurrent : s.closer.current = some c)
    (hthread : s.thread (some c) = .outside) {ctl : DoorSwitchChannelController}
    (hfind : s.handler.m_mapControllers.find c = some ctl) (hrunning : ctl.isRunning = true)
    (hparked : ctl.pc ≠ .parked) :
  ∃ t ctl' cmd, s.workStep c 0 = some t ∧ t.closer = s.closer
    ∧ RunStep s.handler.m_switchInfo.type 0 ctl ctl' cmd
    ∧ t.handler.m_mapControllers.find c = some ctl' ∧ t.waitRank < s.waitRank
  := by
  rw [isRunning, decide_eq_true_eq] at hrunning
  obtain ⟨t, ht⟩ := exists_workStep 0 hthread hfind hrunning.1 hparked hrunning.2
  obtain ⟨-, hcloser, -, htimer, -⟩ := workStep_thread ht
  obtain ⟨ctl₀, ctl', cmd, hfind₀, hrun, -, -, hmap, -⟩ := SwitchRun.workStep_eq_some ht
  obtain rfl := Option.some.inj (hfind.symm.trans hfind₀)
  have hlt := ChannelRun.stepsLeft_lt hrun
  have hfind' : t.handler.m_mapControllers.find c = some ctl' := by
    rw [hmap, OrdMap.find_modify_self, hfind]
    rfl
  refine ⟨t, ctl', cmd, ht, hcloser, hrun, hfind', ?_⟩
  have hle := threadRank_le (t.thread (some c))
  have houtside : threadRank .outside = 0 := rfl
  simp only [waitRank, hcloser, hcurrent, htimer, hthread, Option.elim_some, workRank, hfind,
    hfind', houtside]
  omega

/-- A step of the worker for which `close` waits. -/
theorem Advances.of_workStep {s t : Closing} (h : s.Unblocked) {c : UInt16}
    (hcurrent : s.closer.current = some c) (hstep : s.workStep c 0 = some t)
    (hlt : t.waitRank < s.waitRank) (hlost : ¬ t.LostWakeUp) :
  s.Advances
  := by
  have hnext : next s (.work c 0) = some t := next_eq_some.mpr ⟨h.not_aborted, hstep⟩
  obtain ⟨-, hcloser, -⟩ := workStep_thread hstep
  exact ⟨.work c 0, t, hnext, h.of_work hcurrent hstep hlost,
    rankLt_of_waitRank_lt hnext hcloser hlt⟩

/-- At `wakeUpAll`, a worker that is about to wait is let wait first. -/
theorem Advances.of_wakeUpAll {s : Closing} (h : s.Unblocked) (hreporting : s.Reporting)
    {c : UInt16} {rest : List UInt16} (hcloser : s.closer = .wakeUpAll c rest) :
  s.Advances
  := by
  have hcurrent : s.closer.current = some c := by
    rw [hcloser]
    rfl
  by_cases hwait : ∃ ctl, s.handler.m_mapControllers.find c = some ctl ∧ ctl.pc = .waitDequeue
  · obtain ⟨ctl, hfind, hpc⟩ := hwait
    have hrunning : ctl.isRunning = true := by
      rw [isRunning, hpc]
      rfl
    obtain ⟨t, ctl', cmd, hstep, hcloser', -, -, hlt⟩ :=
      exists_work hcurrent (hreporting.outside hfind (Or.inl hpc)) hfind hrunning
        (by rw [hpc]; exact Pc.noConfusion)
    apply Advances.of_workStep h hcurrent hstep hlt
    apply not_lostWakeUp_of_ne
    intro c' rest'
    rw [hcloser', hcloser]
    apply ClosePc.noConfusion
  · have hnext : s.closeStep
        = some { s.modify c (fun ctl => ctl.wakeUpAll) with closer := .join c rest } := by
      rw [closeStep, hcloser]
    apply Advances.of_close h hnext
    rintro ⟨c', rest', ctl', hcloser', hfind', hpc⟩
    obtain ⟨rfl, -⟩ := ClosePc.join.inj hcloser'
    obtain ⟨ctl, hfind, rfl⟩ := Option.map_eq_some_iff.mp
      ((OrdMap.find_modify_self _ c _).symm.trans hfind')
    rw [wakeUpAll] at hpc
    split_ifs at hpc with hparked
    · rcases hpc with hpc | hpc <;> cases hpc
    · rcases hpc with hpc | hpc
      · apply hwait ⟨ctl, hfind, hpc⟩
      · apply hparked hpc

/-- At `join`, the worker goes on until it returns. -/
theorem Advances.of_join {s : Closing} (h : s.Unblocked) (hreporting : s.Reporting)
    (htold : s.Told) {c : UInt16} {rest : List UInt16} (hcloser : s.closer = .join c rest) :
  s.Advances
  := by
  have hcurrent : s.closer.current = some c := by
    rw [hcloser]
    rfl
  by_cases hjoin : s.Joinable c
  · have hnext : s.closeStep = some { s with closer := .controllers rest } := by
      rw [closeStep, hcloser]
      simp only [if_pos hjoin]
    apply Advances.of_close h hnext
    apply not_lostWakeUp_of_ne
    intro c' rest'
    apply ClosePc.noConfusion
  · by_cases hthread : s.thread (some c) = .outside
    · obtain ⟨ctl, hfind, hrunning⟩ : ∃ ctl, s.handler.m_mapControllers.find c = some ctl
          ∧ ctl.isRunning = true := by
        cases hfind : s.handler.m_mapControllers.find c with
        | none =>
            apply absurd _ hjoin
            rw [Joinable, hfind]
            exact ⟨hthread, rfl⟩
        | some ctl =>
            use ctl, rfl
            by_contra hnot
            apply hjoin
            rw [Joinable, hfind, Option.all_some, decide_eq_true_eq]
            exact ⟨hthread, hnot⟩
      have hwaits : ctl.pc ≠ .waitDequeue ∧ ctl.pc ≠ .parked := by
        rw [← not_or]
        intro hpc
        apply h.not_lost ⟨c, rest, ctl, hcloser, hfind, hpc⟩
      obtain ⟨t, ctl', cmd, hstep, hcloser', hrun, hfind', hlt⟩ :=
        exists_work hcurrent hthread hfind hrunning hwaits.2
      apply Advances.of_workStep h hcurrent hstep hlt
      rintro ⟨c', rest', ctl₀, hjoin', hfind₀, hpc⟩
      obtain ⟨rfl, -⟩ := ClosePc.join.inj (hcloser.symm.trans (hcloser'.symm.trans hjoin'))
      obtain rfl := Option.some.inj (hfind'.symm.trans hfind₀)
      have hstop := (htold c ctl hcurrent hfind).1
      have hnot := Stopping.not_waiting_of_runStep hrun hstop hwaits.1
      rcases hpc with hpc | hpc
      · apply hnot.1 hpc
      · apply hnot.2 hpc
    · apply Advances.of_report h hreporting hcurrent hthread

theorem advances {s : Closing} (h : s.Unblocked) (hreporting : s.Reporting) (htold : s.Told)
    (hret : s.closer ≠ .returned) :
  s.Advances
  := by
  cases hcloser : s.closer with
  | closeSocket | stopIo | clear c rest =>
      apply Advances.of_closeStep h
      rw [closeStep, hcloser]
      exact ⟨_, rfl, fun _ _ => ClosePc.noConfusion⟩
  | controllers rest =>
      apply Advances.of_closeStep h
      rw [closeStep, hcloser]
      cases rest with
      | nil => exact ⟨_, rfl, fun _ _ => ClosePc.noConfusion⟩
      | cons c rest => exact ⟨_, rfl, fun _ _ => ClosePc.noConfusion⟩
  | stopTimer =>
      by_cases hidle : s.timer = .idle
      · apply Advances.of_closeStep h
        rw [closeStep, hcloser]
        simp only [if_pos hidle]
        exact ⟨_, rfl, fun _ _ => ClosePc.noConfusion⟩
      · apply Advances.of_timer h hidle
  | joinIo =>
      by_cases hthread : s.thread none = .outside
      · apply Advances.of_closeStep h
        rw [closeStep, hcloser]
        simp only [if_pos hthread]
        exact ⟨_, rfl, fun _ _ => ClosePc.noConfusion⟩
      · apply Advances.of_thread h hreporting (by rw [hcloser]; rfl) hthread
        intro t hnext
        apply h.of_io hcloser hnext
  | wakeUpAll c rest => apply Advances.of_wakeUpAll h hreporting hcloser
  | join c rest => apply Advances.of_join h hreporting htold hcloser
  | returned => apply absurd hcloser hret

/-- From every state of `close` that nothing keeps from returning it can return. -/
theorem exists_returned {s : Closing} (h : s.Unblocked) (hreporting : s.Reporting)
    (htold : s.Told) :
  ∃ as t, run next s as = some t ∧ ¬ t.Aborted ∧ t.closer = .returned
  := by
  have hstep : ∀ s : Closing, s.Unblocked ∧ s.Reporting ∧ s.Told → ¬ s.closer = .returned →
      ∃ a t, True ∧ next s a = some t ∧ (t.Unblocked ∧ t.Reporting ∧ t.Told)
        ∧ RankLt t.rank s.rank := by
    rintro s ⟨h, hreporting, htold⟩ hret
    obtain ⟨a, t, hnext, ht, hlt⟩ := advances h hreporting htold hret
    use a, t, trivial, hnext, ⟨ht, hreporting.next hnext, htold.next hnext⟩
  have hreaches : ∃ t, Reaches next (fun _ _ => True) s t
      ∧ (t.Unblocked ∧ t.Reporting ∧ t.Told) ∧ t.closer = .returned :=
    exists_reaches_of_lt wellFounded_rankLt rank hstep ⟨h, hreporting, htold⟩
  obtain ⟨t, ⟨as, -, hrun⟩, ⟨ht, -⟩, hret⟩ := hreaches
  use as, t, hrun, ht.not_aborted

theorem not_aborted_of_run {as : List Action} {s t : Closing} (hrun : run next s as = some t)
    (ht : ¬ t.Aborted) :
  ¬ s.Aborted
  := by
  cases as with
  | nil =>
      obtain rfl := Option.some.inj hrun
      apply ht
  | cons a as =>
      obtain ⟨u, hnext, -⟩ := run_cons_eq_some.mp hrun
      apply (next_eq_some.mp hnext).1

end Closing

/-- A worker in `sendData` stays there when its controller is enlisted. -/
theorem inSendData_enlist {ctl : DoorSwitchChannelController}
    (h : WorkerRun.inSendData ctl.pc = true) (c : UInt16) (task : DoorSwitchOpenNotification) :
  WorkerRun.inSendData (DoorSwitchHandler.enlist c task ctl).pc = true
  := by
  apply SwitchRun.inSendData_addTask
  rw [Start]
  split_ifs
  · apply h
  · rfl

/-- A worker in `sendData` stays there when a door is requested. -/
theorem DoorSwitchHandler.exists_inSendData_openDoor {h : DoorSwitchHandler} {channel : Int16}
    {closeAfterMs : Int32} {c : UInt16} {ctl : DoorSwitchChannelController}
    (hctl : h.m_mapControllers.find c = some ctl) (hpc : WorkerRun.inSendData ctl.pc = true) :
  ∃ ctl', (h.openDoor channel closeAfterMs).1.m_mapControllers.find c = some ctl'
    ∧ WorkerRun.inSendData ctl'.pc = true
  := by
  cases hconn : h.conn.m_isConnected with
  | false =>
      rw [openDoor_disconnected hconn]
      exact ⟨ctl, hctl, hpc⟩
  | true =>
      cases hfind : h.m_mapControllers.find channel.toUInt16 with
      | some ctl₀ =>
          rw [openDoor_found hconn hfind]
          simp only [OrdMap.find_modify]
          split_ifs with hc
          · rw [← hc, hctl]
            exact ⟨_, rfl, SwitchRun.inSendData_addTask hpc _⟩
          · exact ⟨ctl, hctl, hpc⟩
      | none =>
          have hne : c ≠ channel.toUInt16 := by
            rintro rfl
            cases hctl.symm.trans hfind
          have hinsert : (h.m_mapControllers.insert channel.toUInt16 {}).find c = some ctl := by
            rw [OrdMap.find_insert_of_ne _ _ hne, hctl]
          obtain ⟨e, hlast⟩ := OrdMap.exists_crbegin
            ((OrdMap.mem_keys _ _).mpr (Option.isSome_iff_exists.mpr ⟨ctl, hinsert⟩))
          rw [openDoor_new hconn hfind, OrdMap.modifyLast_of_crbegin _ hlast]
          simp only [OrdMap.find_modify]
          split_ifs with hc
          · rw [← hc, hinsert]
            exact ⟨_, rfl, inSendData_enlist hpc _ _⟩
          · exact ⟨ctl, hinsert, hpc⟩

namespace Server

variable {parse : String → Option OpenDoorRequest} {from_string : String → Bool}
  {m_topic : String}

/-! ### The server -/

/-- A wake-up has been lost on the handler that is being closed. -/
def LostWakeUp (s : Server) : Prop :=
  ∃ oid h, s.life.current = some oid ∧ s.engine.m_mapOidSwitchHandler.find oid = some h
    ∧ ((s.threads oid).closing h).LostWakeUp

/-- The io thread of the handler that is being closed is about to start the timer, which has
been started since it stopped it. -/
def StartsTwice (s : Server) : Prop :=
  ∃ oid h, s.life.current = some oid ∧ s.engine.m_mapOidSwitchHandler.find oid = some h
    ∧ ((s.threads oid).closing h).StartsTwice

theorem told_next {s t : Server} (h : Handlers Closing.Told s) {a : Action}
    (hnext : next parse from_string m_topic s a = some t) :
  Handlers Closing.Told t
  := h.next (fun _ hs => Closing.Told.of_current (by rw [hs]; rfl)) (fun _ _ _ hs => hs.next) hnext

/-! ### Workers in handleRWError -/

/-- The threads that are in `handleRWError`: a worker has been called from its `sendData`, no
worker is ended there, and no io thread while the process runs. -/
structure Reporting (s : Server) : Prop where
  sending : s.life ≠ .destroyed → ∀ oid c, (s.threads oid).thread (some c) ≠ .outside →
    ∃ h, s.engine.m_mapOidSwitchHandler.find oid = some h
      ∧ ∃ ctl, h.m_mapControllers.find c = some ctl ∧ WorkerRun.inSendData ctl.pc = true
  not_thrown : ∀ oid c, (s.threads oid).thread (some c) ≠ .thrown
  not_aborted : s.life ≠ .aborted → ∀ oid, (s.threads oid).thread none ≠ .thrown
  destroyed : s.life = .destroyed → ∀ oid, s.engine.m_mapOidSwitchHandler.find oid = none

theorem Reporting.initial (m_config : SvrCfg) :
  Reporting (initial m_config)
  := by
  constructor
  · intro _ oid c hne
    apply absurd rfl hne
  · intro oid c
    apply RWErrorPc.noConfusion
  · intro _ oid
    apply RWErrorPc.noConfusion
  · intro hlife
    cases hlife

theorem Reporting.closing {s : Server} (h : s.Reporting) {oid : String}
    {handler : DoorSwitchHandler}
    (hfind : s.engine.m_mapOidSwitchHandler.find oid = some handler) :
  ((s.threads oid).closing handler).Reporting
  := by
  constructor
  · intro c hne
    have hlife : s.life ≠ .destroyed := by
      intro hlife
      cases hfind.symm.trans (h.destroyed hlife oid)
    obtain ⟨handler', hfind', hctl⟩ := h.sending hlife oid c hne
    obtain rfl := Option.some.inj (hfind.symm.trans hfind')
    apply hctl
  · apply h.not_thrown

/-- A worker in `sendData` stays there when a message comes. -/
theorem Reporting.message {s t : Server} (h : s.Reporting) {message : mosquitto_message}
    {error free : Bool}
    (hnext : next parse from_string m_topic s (.message message error free) = some t) :
  t.Reporting
  := by
  obtain ⟨hlife, rfl⟩ := next_message hnext
  constructor
  · intro _ oid c hne
    obtain ⟨handler, hfind, hctl⟩ := h.sending (by rw [hlife]; exact Life.noConfusion) oid c hne
    apply exists_find_receive _ _ hfind hctl
    · exact fun _ hh => hh
    · rintro req handler ⟨ctl, hctl, hpc⟩
      apply DoorSwitchHandler.exists_inSendData_openDoor hctl hpc
  · apply h.not_thrown
  · intro _
    apply h.not_aborted
    rw [hlife]
    apply Life.noConfusion
  · intro hdestroyed
    simp only at hdestroyed
    split_ifs at hdestroyed

theorem Reporting.handler {s t : Server} (h : s.Reporting) {oid : String} {a : Closing.Action}
    (hnext : next parse from_string m_topic s (.handler oid a) = some t) :
  t.Reporting
  := by
  obtain ⟨handler, x, hfind, -, hstep, rfl⟩ := next_handler hnext
  have hlife : s.life ≠ .destroyed := by
    intro hlife
    cases hfind.symm.trans (h.destroyed hlife oid)
  have hx : (x.2.closing x.1).Reporting := (h.closing hfind).next (Threads.step_eq_some hstep).1
  constructor
  · intro _ oid' c hne
    rcases eq_or_ne oid' oid with rfl | hoid
    · simp only [Function.update_self] at hne
      use x.1
      constructor
      · simp only [DoorSwitchEngine.setHandler, OrdMap.find_modify_self, hfind, Option.map_some]
      · apply hx.sending c hne
    · simp only [Function.update_of_ne hoid] at hne
      simp only [DoorSwitchEngine.setHandler, OrdMap.find_modify_of_ne _ _ hoid]
      apply h.sending hlife oid' c hne
  · intro oid' c
    rcases eq_or_ne oid' oid with rfl | hoid
    · simp only [Function.update_self]
      apply hx.not_thrown
    · simp only [Function.update_of_ne hoid]
      apply h.not_thrown
  · simp only
    split_ifs with hthrown
    · exact fun hne => absurd rfl hne
    · intro haborted oid'
      rcases eq_or_ne oid' oid with rfl | hoid
      · simp only [Function.update_self]
        apply hthrown
      · simp only [Function.update_of_ne hoid]
        apply h.not_aborted haborted
  · intro hdestroyed
    simp only at hdestroyed
    split_ifs at hdestroyed
    apply absurd hdestroyed hlife

theorem Reporting.next {s t : Server} (h : s.Reporting) :
    ∀ {a : Action}, Server.next parse from_string m_topic s a = some t → t.Reporting
  | .message _ _ _, hnext => h.message hnext
  | .handler _ _, hnext => h.handler hnext
  | .terminate, hnext => by
      obtain ⟨hlife, rfl⟩ := next_terminate hnext
      refine ⟨fun _ => h.sending ?_, h.not_thrown, fun _ => h.not_aborted ?_, Life.noConfusion⟩
      all_goals rw [hlife]; exact Life.noConfusion
  | .closed, hnext => by
      obtain ⟨_, _, hlife, -, rfl⟩ := next_closed hnext
      refine ⟨fun _ => h.sending ?_, h.not_thrown, fun _ => h.not_aborted ?_, Life.noConfusion⟩
      all_goals rw [hlife]; exact Life.noConfusion
  | .clear, hnext => by
      obtain ⟨hlife, rfl⟩ := next_clear hnext
      refine ⟨fun hne => absurd rfl hne, h.not_thrown, fun _ => h.not_aborted ?_, fun _ _ => rfl⟩
      rw [hlife]
      apply Life.noConfusion

theorem reporting_of_run {m_config : SvrCfg} {as : List Action} {t : Server}
    (hrun : run (next parse from_string m_topic) (initial m_config) as = some t) :
  t.Reporting
  := run_invariant_of_step (fun _ _ _ hs hnext => hs.next hnext) (Reporting.initial m_config) hrun

/-! ### Runs of the destructor -/

section Runs

variable (parse from_string m_topic)

/-- A run on the handler that is being closed is one of the server, if it does not end the
process. -/
theorem run_close {oid : String} :
    ∀ {as : List Closing.Action} {s : Server} {h : DoorSwitchHandler} {c : Closing},
      s.life.current = some oid → s.engine.m_mapOidSwitchHandler.find oid = some h →
      run Closing.next ((s.threads oid).closing h) as = some c → ¬ c.Aborted →
      ∃ t, run (next parse from_string m_topic) s (as.map (.handler oid)) = some t
        ∧ t.life = s.life ∧ (t.threads oid).closer = c.closer
  | [], s, _, _, _, _, hrun, _ => by
      obtain rfl := Option.some.inj hrun
      use s, rfl, rfl
      rfl
  | a :: as, s, h, c, hcurrent, hfind, hrun, haborted => by
      obtain ⟨c', hnext, hrun⟩ := run_cons_eq_some.mp hrun
      have hallows : Allows s.life oid a := by
        cases a with
        | close => apply hcurrent
        | work | thread | timer =>
            intro hlife
            rw [hlife] at hcurrent
            cases hcurrent
      have hstep : ∃ x, (s.threads oid).step h a = some x ∧ x.2.closing x.1 = c' := by
        rw [Threads.step, hnext]
        exact ⟨_, rfl, rfl⟩
      obtain ⟨x, hx, rfl⟩ := hstep
      have hrunning : ¬ x.2.thread none = .thrown := Closing.not_aborted_of_run hrun haborted
      have hserver : next parse from_string m_topic s (.handler oid a)
          = some { s with
              engine := s.engine.setHandler oid x.1
              threads := Function.update s.threads oid x.2 } := by
        rw [next, if_pos hallows, hfind, Option.bind_some, hx, Option.map_some, if_neg hrunning]
      have hfind' : (s.engine.setHandler oid x.1).m_mapOidSwitchHandler.find oid = some x.1 := by
        simp only [DoorSwitchEngine.setHandler, OrdMap.find_modify_self, hfind, Option.map_some]
      have hrun' : run Closing.next ((Function.update s.threads oid x.2 oid).closing x.1) as
          = some c := by
        rw [Function.update_self]
        apply hrun
      obtain ⟨t, ht⟩ := run_close (s := { s with
        engine := s.engine.setHandler oid x.1
        threads := Function.update s.threads oid x.2 }) hcurrent hfind' hrun' haborted
      use t
      rw [List.map_cons, run_cons, hserver]
      apply ht

theorem exists_destroyed :
    ∀ {rest : List String} {s : Server}, Handlers Closing.Told s → s.Reporting →
      s.life = .closing rest → ¬ s.LostWakeUp → ¬ s.StartsTwice →
      ∃ bs t, run (next parse from_string m_topic) s bs = some t ∧ t.life = .destroyed
  | [], s, _, _, hlife, _, _ => by
      use [.clear]
      rw [run_singleton, next, if_pos hlife]
      exact ⟨_, rfl, rfl⟩
  | oid :: rest, s, hs, hreporting, hlife, hlost, htwice => by
      have hcurrent : s.life.current = some oid := by
        rw [hlife]
        rfl
      obtain ⟨⟨done, hoids, -⟩, -⟩ := hs.destroying.closing _ hlife
      have hmem : oid ∈ s.oids := by
        rw [hoids]
        apply List.mem_append_right _ List.mem_cons_self
      obtain ⟨h, hfind⟩ := Option.isSome_iff_exists.mp ((OrdMap.mem_keys _ _).mp hmem)
      have hunblocked : ((s.threads oid).closing h).Unblocked := by
        constructor
        · apply hreporting.not_aborted
          rw [hlife]
          apply Life.noConfusion
        · exact fun hc => hlost ⟨oid, h, hcurrent, hfind, hc⟩
        · exact fun hc => htwice ⟨oid, h, hcurrent, hfind, hc⟩
      obtain ⟨as, c, hrun, haborted, hret⟩ := Closing.exists_returned hunblocked
        (hreporting.closing hfind) (hs.closing oid h hfind)
      obtain ⟨t, ht, hlife', hcloser⟩ :=
        run_close parse from_string m_topic hcurrent hfind hrun haborted
      have hclosed : next parse from_string m_topic t .closed
          = some { t with life := .closing rest } := by
        rw [next, hlife', hlife]
        simp only [hcloser, hret, if_true]
      have htold : Handlers Closing.Told t :=
        run_invariant_of_step (fun _ _ _ hs hnext => told_next hs hnext) hs ht
      have hreporting' : t.Reporting :=
        run_invariant_of_step (fun _ _ _ hs hnext => hs.next hnext) hreporting ht
      -- the next handler has not been touched
      have huntouched : ∀ oid', (Life.closing rest).current = some oid' →
          (t.threads oid').closer = .closeSocket := by
        intro oid' hcurrent'
        obtain ⟨-, huntouched⟩ := htold.destroying.closing _ (hlife'.trans hlife)
        apply huntouched
        cases rest with
        | nil => cases hcurrent'
        | cons oid'' rest =>
            obtain rfl := Option.some.inj hcurrent'
            apply List.mem_cons_self
      have hlost' : ¬ LostWakeUp { t with life := .closing rest } := by
        rintro ⟨oid', h', hcurrent', -, c', rest', -, hjoin, -⟩
        cases (huntouched oid' hcurrent').symm.trans hjoin
      have htwice' : ¬ StartsTwice { t with life := .closing rest } := by
        rintro ⟨oid', h', hcurrent', -, hjoin, -⟩
        cases (huntouched oid' hcurrent').symm.trans hjoin
      obtain ⟨bs, u, hu, hdestroyed⟩ :=
        exists_destroyed (told_next htold hclosed) (hreporting'.next hclosed) rfl hlost' htwice'
      use as.map (.handler oid) ++ .closed :: bs, u
      rw [run_append, ht, Option.bind_some, run_cons, hclosed]
      exact ⟨hu, hdestroyed⟩

end Runs

/-- Nothing happens in a process that has ended. -/
theorem next_of_aborted {s : Server} (hlife : s.life = .aborted) :
    ∀ a : Action, next parse from_string m_topic s a = none
  | .message _ _ _ | .terminate | .closed | .clear => by
      simp [next, hlife]
  | .handler oid a => by
      rw [next, if_neg]
      rw [hlife]
      cases a with
      | close =>
          intro hcurrent
          cases hcurrent
      | work | thread | timer => exact fun hne => hne rfl

/-- A wake-up that is lost on the handler that is being closed stays lost, unless the process
ends. -/
theorem LostWakeUp.next {s t : Server} (hs : Handlers Closing.Told s) (hreporting : s.Reporting)
    (h : s.LostWakeUp) :
    ∀ {a : Action}, next parse from_string m_topic s a = some t →
      t.LostWakeUp ∨ t.life = .aborted
  | .message _ _ _, hnext => by
      obtain ⟨oid, handler, hcurrent, -⟩ := h
      obtain ⟨hlife, -⟩ := next_message hnext
      rw [hlife] at hcurrent
      cases hcurrent
  | .handler oid' a, hnext => by
      obtain ⟨oid, handler, hcurrent, hfind, hlost⟩ := h
      obtain ⟨handler', x, hfind', -, hstep, rfl⟩ := next_handler hnext
      simp only
      split_ifs with hthrown
      · exact Or.inr rfl
      · left
        rcases eq_or_ne oid oid' with rfl | hne
        · obtain rfl := Option.some.inj (hfind.symm.trans hfind')
          use oid, x.1, hcurrent
          constructor
          · simp only [DoorSwitchEngine.setHandler, OrdMap.find_modify_self, hfind,
              Option.map_some]
          · simp only [Function.update_self]
            apply hlost.next (hs.closing oid handler hfind) (hreporting.closing hfind)
              (Threads.step_eq_some hstep).1
        · use oid, handler, hcurrent
          simp only [DoorSwitchEngine.setHandler, OrdMap.find_modify_of_ne _ _ hne,
            Function.update_of_ne hne]
          exact ⟨hfind, hlost⟩
  | .terminate, hnext => by
      obtain ⟨oid, handler, hcurrent, -⟩ := h
      obtain ⟨hlife, -⟩ := next_terminate hnext
      rw [hlife] at hcurrent
      cases hcurrent
  | .closed, hnext => by
      obtain ⟨oid, handler, hcurrent, -, c, rest, -, hjoin, -⟩ := h
      obtain ⟨oid', rest', hlife, hret, -⟩ := next_closed hnext
      rw [hlife] at hcurrent
      obtain rfl := Option.some.inj hcurrent
      cases hret.symm.trans hjoin
  | .clear, hnext => by
      obtain ⟨oid, handler, hcurrent, -⟩ := h
      obtain ⟨hlife, -⟩ := next_clear hnext
      rw [hlife] at hcurrent
      cases hcurrent

/-- From every state that a run of the server reaches in the destructor of the engine, and in
which the io thread of the handler that is being closed is not about to start a timer that
runs, the destructor can still come to its end, unless a wake-up has been lost on the handler
that is being closed; and then it never does. -/
theorem destroyed_iff (parse : String → Option OpenDoorRequest) (from_string : String → Bool)
    (m_topic : String) (m_config : SvrCfg) (as : List Action) {s : Server}
    (hrun : run (next parse from_string m_topic) (initial m_config) as = some s)
    (rest : List String) (hlife : s.life = .closing rest) (htwice : ¬ s.StartsTwice) :
  (∃ bs t, run (next parse from_string m_topic) s bs = some t ∧ t.life = .destroyed)
    ↔ ¬ s.LostWakeUp
  := by
  have hs : Handlers Closing.Told s :=
    Handlers.of_run (fun _ hs => Closing.Told.of_current (by rw [hs]; rfl))
      (fun _ _ _ hs => hs.next) hrun
  have hreporting := reporting_of_run hrun
  constructor
  · rintro ⟨bs, t, hrun', hdestroyed⟩ hlost
    have hstep : ∀ (s : Server) a t,
        Handlers Closing.Told s ∧ s.Reporting ∧ (s.LostWakeUp ∨ s.life = .aborted) →
        next parse from_string m_topic s a = some t →
        Handlers Closing.Told t ∧ t.Reporting ∧ (t.LostWakeUp ∨ t.life = .aborted) := by
      rintro s a t ⟨hs, hreporting, hlost⟩ hnext
      use told_next hs hnext, hreporting.next hnext
      rcases hlost with hlost | haborted
      · apply hlost.next hs hreporting hnext
      · cases (next_of_aborted haborted a).symm.trans hnext
    obtain ⟨-, -, ⟨oid, h, hcurrent, -⟩ | haborted⟩ :=
      run_invariant_of_step hstep ⟨hs, hreporting, Or.inl hlost⟩ hrun'
    · rw [hdestroyed] at hcurrent
      cases hcurrent
    · cases hdestroyed.symm.trans haborted
  · exact fun hlost => exists_destroyed parse from_string m_topic hs hreporting hlife hlost htwice

/-- The worker for the door of the switch `a` tests `m_stop`, and is about to wait when the
destructor releases the consumers that wait. -/
def lostA : List Action :=
  [.message toA false true, .handler "a" (.work 1 0), .terminate]
    ++ List.replicate 7 (.handler "a" .close)

/-- After this the destructor never comes to its end. -/
theorem destroyed_iff_lost :
  ∃ s, run (next EngineRun.parseAB EngineRun.addressAB "seeta_switch_open")
      (initial EngineRun.twoSwitches) lostA = some s
    ∧ ¬ ∃ bs t, run (next EngineRun.parseAB EngineRun.addressAB "seeta_switch_open") s bs = some t
      ∧ t.life = .destroyed
  := by
  have hevaluated : (run (next EngineRun.parseAB EngineRun.addressAB "seeta_switch_open")
      (initial EngineRun.twoSwitches) lostA).map (fun s =>
        (s.life, (s.threads "a").closer,
          (s.engine.m_mapOidSwitchHandler.find "a").bind (fun h =>
            (h.m_mapControllers.find 1).map (fun ctl => ctl.pc))))
        = some (.closing ["a"], .join 1 [], some .waitDequeue) := by
    decide +kernel
  obtain ⟨s, hrun, hs⟩ := Option.map_eq_some_iff.mp hevaluated
  obtain ⟨hlife, hs⟩ := Prod.mk.inj hs
  obtain ⟨hcloser, hpc⟩ := Prod.mk.inj hs
  obtain ⟨h, hfind, hpc⟩ := Option.bind_eq_some_iff.mp hpc
  obtain ⟨ctl, hctl, hpc⟩ := Option.map_eq_some_iff.mp hpc
  have htwice : ¬ s.StartsTwice := by
    rintro ⟨oid, h', hcurrent, -, hjoin, -⟩
    rw [hlife] at hcurrent
    obtain rfl := Option.some.inj hcurrent
    cases hcloser.symm.trans hjoin
  use s, hrun
  intro hdestroyed
  have hlost := (destroyed_iff EngineRun.parseAB EngineRun.addressAB "seeta_switch_open"
    EngineRun.twoSwitches lostA hrun ["a"] hlife htwice).mp hdestroyed
  apply hlost
  use "a", h
  rw [hlife]
  exact ⟨rfl, hfind, 1, [], ctl, hcloser, hctl, Or.inl hpc⟩

/-- The io thread for the switch `a` and the worker for its door both find `m_isTimerOn` unset,
the io thread stops the timer after `close` has, and the worker starts it. -/
def startedA : List Action :=
  opened ++ List.replicate 3 (.handler "a" (.thread none true))
    ++ List.replicate 3 (.handler "a" (.work 1 0))
    ++ List.replicate 5 (.handler "a" (.thread (some 1) true))
    ++ [.terminate] ++ List.replicate 3 (.handler "a" .close)
    ++ List.replicate 3 (.handler "a" (.thread none true))
    ++ List.replicate 2 (.handler "a" (.thread (some 1) true))

/-- In such a state the exception of the io thread can end the process. -/
theorem aborted_of_startedA :
  ∃ s t, run (next EngineRun.parseAB EngineRun.addressAB "seeta_switch_open")
      (initial EngineRun.twoSwitches) startedA = some s
    ∧ s.StartsTwice
    ∧ run (next EngineRun.parseAB EngineRun.addressAB "seeta_switch_open") s
      (List.replicate 2 (.handler "a" (.thread none true))) = some t
    ∧ t.life = .aborted
  := by
  have hevaluated : (run (next EngineRun.parseAB EngineRun.addressAB "seeta_switch_open")
      (initial EngineRun.twoSwitches) startedA).map (fun s =>
        (s.life.current, (s.engine.m_mapOidSwitchHandler.find "a").map (fun h =>
          decide ((s.threads "a").closing h).StartsTwice))) = some (some "a", some true) := by
    decide +kernel
  have haborted : (run (next EngineRun.parseAB EngineRun.addressAB "seeta_switch_open")
      (initial EngineRun.twoSwitches)
      (startedA ++ List.replicate 2 (.handler "a" (.thread none true)))).map Server.life
        = some .aborted := by
    decide +kernel
  obtain ⟨s, hrun, hs⟩ := Option.map_eq_some_iff.mp hevaluated
  obtain ⟨hcurrent, hs⟩ := Prod.mk.inj hs
  obtain ⟨h, hfind, htwice⟩ := Option.map_eq_some_iff.mp hs
  rw [run_append, hrun] at haborted
  obtain ⟨t, hrun', ht⟩ := Option.map_eq_some_iff.mp haborted
  use s, t, hrun, ⟨"a", h, hcurrent, hfind, of_decide_eq_true htwice⟩, hrun', ht

end Server

end DoorSwitchSvr
