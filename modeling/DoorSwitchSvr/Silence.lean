import DoorSwitchSvr.Joined

/-!
# A closed handler

`DoorSwitchHandler::close` stops the reconnect timer before it waits for the threads of the
handler.  A thread that has found `m_isTimerOn` unset by then, or finds it unset later because
its write fails, starts the timer again, and the timer goes on connecting when `close` has
returned (`timer_left_armed`).

In every run without such a thread the timer stays stopped and makes no further attempt to
connect (`silent_of_run`).  The condition is needed (`armed_of_isStarting`).
-/

namespace DoorSwitchSvr

open Transition RWErrorPc

namespace Closing

/-- The reconnect timer is stopped, and its thread is not in the callback. -/
def Silent (s : Closing) : Prop :=
  s.handler.conn.m_reconnTimer.state = .stopped ∧ s.timer = .idle

/-- A silent handler makes no attempt to connect. -/
theorem Silent.next_timer {s : Closing} (h : s.Silent) (error : Bool) :
  next s (.timer error) = none
  := by
  have hnone : s.handler.conn.timerStep error s.timer = none := by
    rw [h.2, Connection.timerStep, if_neg]
    rw [h.1]
    apply TimerState.noConfusion
  rw [next]
  split_ifs
  · rfl
  · rw [step, hnone]
    rfl

/-- `close` has stopped the timer. -/
def timerStopped : ClosePc → Bool
  | .closeSocket | .stopIo | .stopTimer => false
  | _ => true

/-- The io thread and the workers. -/
def threads (s : Closing) : List (Option UInt16) :=
  none :: s.handler.m_mapControllers.keys.map some

/-- No thread is on its way to start the timer. -/
def NoneStarting (s : Closing) : Prop := ∀ i ∈ s.threads, isStarting (s.thread i) = false

instance (s : Closing) : Decidable s.NoneStarting :=
  List.decidableBAll (fun i => isStarting (s.thread i) = false) s.threads

/-- When `close` stops the timer, no thread has found `m_isTimerOn` unset and has yet to start
the timer, and after that no thread finds it unset. -/
def TestsBeforeStop (s : Closing) : Action → Prop
  | .close => s.closer = .stopTimer → s.NoneStarting
  | .thread i _ =>
      timerStopped s.closer → s.thread i = .testTimerOn → s.handler.conn.m_isTimerOn = true
  | .work _ _ | .timer _ => True

instance (s : Closing) : (a : Action) → Decidable (TestsBeforeStop s a)
  | .close | .thread _ _ => inferInstanceAs (Decidable (_ → _))
  | .work _ _ | .timer _ => isTrue trivial

/-- From the step that stops the timer on, the handler is silent, and no thread is on its way
to start the timer. -/
def SilentOnceStopped (s : Closing) : Prop :=
  timerStopped s.closer → s.Silent ∧ s.NoneStarting

/-! ### Steps -/

theorem threads_next {s t : Closing} {a : Action} (h : next s a = some t) :
  t.threads = s.threads
  := by
  rw [threads, threads, keys_next h]

/-- A thread that does not run, or is to test `m_isTimerOn`, is not on its way to start the
timer. -/
theorem NoneStarting.update {s t : Closing} (h : s.NoneStarting) {i : Option UInt16}
    {pc : RWErrorPc} (hpc : isStarting pc = false) (hthreads : t.threads = s.threads)
    (hthread : t.thread = Function.update s.thread i pc) :
  t.NoneStarting
  := by
  intro j hj
  rw [hthreads] at hj
  rw [hthread]
  rcases eq_or_ne j i with rfl | hne
  · rw [Function.update_self, hpc]
  · rw [Function.update_of_ne hne, h j hj]

/-- `close` stops the timer in one step, and leaves it alone in the others. -/
theorem closeStep_silent {s t : Closing} (h : s.closeStep = some t)
    (hstopped : timerStopped t.closer) :
  s.closer = .stopTimer ∧ t.Silent
    ∨ timerStopped s.closer ∧ t.handler.conn = s.handler.conn ∧ t.timer = s.timer
  := by
  rw [closeStep] at h
  split at h
  next =>
    obtain rfl := Option.some.inj h
    cases hstopped
  next =>
    obtain rfl := Option.some.inj h
    cases hstopped
  next hcloser =>
    split_ifs at h with hidle
    obtain rfl := Option.some.inj h
    left
    exact ⟨hcloser, rfl, hidle⟩
  next hcloser =>
    split_ifs at h
    obtain rfl := Option.some.inj h
    right
    exact ⟨by rw [hcloser]; rfl, rfl, rfl⟩
  next hcloser =>
    obtain rfl := Option.some.inj h
    right
    exact ⟨by rw [hcloser]; rfl, rfl, rfl⟩
  next hcloser =>
    obtain rfl := Option.some.inj h
    right
    exact ⟨by rw [hcloser]; rfl, rfl, rfl⟩
  next hcloser =>
    obtain rfl := Option.some.inj h
    right
    exact ⟨by rw [hcloser]; rfl, rfl, rfl⟩
  next hcloser =>
    obtain rfl := Option.some.inj h
    right
    exact ⟨by rw [hcloser]; rfl, rfl, rfl⟩
  next hcloser =>
    split_ifs at h
    obtain rfl := Option.some.inj h
    right
    exact ⟨by rw [hcloser]; rfl, rfl, rfl⟩
  next => cases h

/-- A worker leaves the timer alone, and is at most about to test `m_isTimerOn`. -/
theorem workStep_timer {s t : Closing} {c : UInt16} {elapsed : Int64}
    (h : s.workStep c elapsed = some t) :
  t.handler.conn.m_reconnTimer = s.handler.conn.m_reconnTimer ∧ t.timer = s.timer
    ∧ (t.thread = s.thread ∨ t.thread = Function.update s.thread (some c) .testTimerOn)
  := by
  rw [workStep] at h
  by_cases hthread : s.thread (some c) = .outside
  · rw [if_pos hthread] at h
    split at h
    next => cases h
    next handler hwork =>
      obtain rfl := Option.some.inj h
      obtain ⟨ctl, ctl', cmd, -, -, -, rfl⟩ := DoorSwitchHandler.work_eq_some hwork
      exact ⟨rfl, rfl, Or.inl rfl⟩
    next handler sent hwork =>
      obtain ⟨ctl, ctl', cmd, -, -, -, rfl⟩ := DoorSwitchHandler.work_eq_some hwork
      split_ifs at h <;> obtain rfl := Option.some.inj h
      · exact ⟨rfl, rfl, Or.inl rfl⟩
      · exact ⟨rfl, rfl, Or.inr rfl⟩
  · rw [if_neg hthread] at h
    cases h

/-- A thread that is not on its way to start the timer, and does not find `m_isTimerOn` unset,
leaves the timer alone. -/
theorem rwErrorStep_notStarting {free : Bool} {timer : TimerPc} {c c' : Connection}
    {pc pc' : RWErrorPc} (h : c.rwErrorStep free timer pc = some (c', pc'))
    (hpc : isStarting pc = false) (hon : pc = .testTimerOn → c.m_isTimerOn = true) :
  c'.m_reconnTimer = c.m_reconnTimer ∧ isStarting pc' = false
  := by
  cases pc with
  | outside =>
      obtain ⟨rfl, rfl⟩ := Prod.mk.inj (Option.some.inj h)
      exact ⟨rfl, rfl⟩
  | testTimerOn =>
      rw [Connection.rwErrorStep, hon rfl] at h
      obtain ⟨rfl, rfl⟩ := Prod.mk.inj (Option.some.inj h)
      exact ⟨rfl, rfl⟩
  | thrown => cases h
  | closeSocket | setTimerOn | setInterval | stopTimer | setPeriod | startTimer => cases hpc

theorem mem_threads_of_canReport {s : Closing} {i : Option UInt16} (h : s.CanReport i) :
  i ∈ s.threads
  := by
  cases i with
  | none => apply List.mem_cons_self
  | some c => apply List.mem_cons_of_mem _ (List.mem_map_of_mem h.1)

theorem SilentOnceStopped.step (s : Closing) :
    ∀ (a : Action) (t : Closing), SilentOnceStopped s → TestsBeforeStop s a →
      next s a = some t → SilentOnceStopped t
  | .close, t, h, hok, hnext => by
      intro hstopped
      have hthread : t.thread = s.thread := (closeStep_eq_some (next_close hnext)).thread
      have hnone : s.NoneStarting → t.NoneStarting := by
        intro hs i hi
        rw [threads_next hnext] at hi
        rw [hthread, hs i hi]
      rcases closeStep_silent (next_close hnext) hstopped with
        ⟨hcloser, hsilent⟩ | ⟨hstopped', hconn, htimer⟩
      · exact ⟨hsilent, hnone (hok hcloser)⟩
      · obtain ⟨hsilent, hs⟩ := h hstopped'
        rw [Silent, hconn, htimer]
        exact ⟨hsilent, hnone hs⟩
  | .work _ _, t, h, _, hnext => by
      intro hstopped
      have hwork := next_work hnext
      obtain ⟨hconn, htimer, hthread⟩ := workStep_timer hwork
      rw [(workStep_kept hwork).1] at hstopped
      obtain ⟨hsilent, hnone⟩ := h hstopped
      rw [Silent, hconn, htimer]
      use hsilent
      rcases hthread with hthread | hthread
      · intro i hi
        rw [threads_next hnext] at hi
        rw [hthread, hnone i hi]
      · apply hnone.update _ (threads_next hnext) hthread
        rfl
  | .thread i _, t, h, hok, hnext => by
      intro hstopped
      have hthreads := threads_next hnext
      obtain ⟨hreport, hstep⟩ := next_thread hnext
      rw [closer_next Action.noConfusion hnext] at hstopped
      obtain ⟨hsilent, hnone⟩ := h hstopped
      have hi := hnone i (mem_threads_of_canReport hreport)
      obtain ⟨conn, pc, hstep, -, rfl⟩ | ⟨c, rfl, hstart, rfl⟩ := hstep
      · obtain ⟨htimer, hpc⟩ := rwErrorStep_notStarting hstep hi (hok hstopped)
        constructor
        · simp only [Silent, htimer]
          apply hsilent
        · apply hnone.update hpc hthreads rfl
      · rw [hstart.1] at hi
        cases hi
  | .timer error, _, h, _, hnext => by
      have hkept := Closing.next_timer hnext
      obtain ⟨conn, pc, -, rfl⟩ := hkept
      intro hstopped
      rw [(h hstopped).1.next_timer error] at hnext
      cases hnext

/-- For every state of the handler and its threads when `close` is called: in every run in
which no thread has found `m_isTimerOn` unset when `close` stops the timer, without having
started the timer by then, and none finds it unset later, the timer is stopped and the handler
makes no attempt to connect once `close` has returned. -/
theorem silent_of_run (s : Closing) (as : List Action) {t : Closing}
    (hpc : s.closer = .closeSocket) (hok : Meets next TestsBeforeStop s as)
    (hrun : run next s as = some t) (hret : t.closer = .returned) :
  t.Silent ∧ ∀ error, next t (.timer error) = none
  := by
  have hs : SilentOnceStopped s := by
    intro hstopped
    rw [hpc] at hstopped
    cases hstopped
  have ht : SilentOnceStopped t := run_invariant SilentOnceStopped.step hs hok hrun
  have hsilent : t.Silent := by
    apply (ht _).1
    rw [hret]
    rfl
  exact ⟨hsilent, hsilent.next_timer⟩

theorem silent_of_run_parked :
  ∃ t, run next oneRequest closeWhileParked = some t
    ∧ t.Silent ∧ ∀ error, next t (.timer error) = none
  := by
  refine ⟨_, rfl, ?_⟩
  exact silent_of_run oneRequest closeWhileParked rfl (by decide) rfl rfl

/-- The worker that is woken up during `closeWhileOpen` fails to write and starts the timer.
When `close` has returned the timer is armed, and two steps of its thread connect the
socket. -/
theorem timer_left_armed :
  ∃ t, run next oneRequest closeWhileOpen = some t ∧ t.closer = .returned ∧ ¬ t.Silent
    ∧ ∃ u, run next t [.timer false, .timer false] = some u
      ∧ u.handler.conn.m_socket = .connected
  := by
  refine ⟨_, rfl, rfl, ?_, _, rfl, rfl⟩
  rintro ⟨hstopped, -⟩
  cases hstopped

/-! ### The condition is needed -/

/-- The thread `i` is on its way to start the timer, and nothing stands in its way. -/
structure Unhindered (s : Closing) (i : Option UInt16) : Prop where
  not_aborted : ¬ s.Aborted
  canReport : s.CanReport i
  idle : s.timer = .idle
  starting : isStarting (s.thread i)

/-- Such a thread can take its next step, after which it is still one if it has not started
the timer. -/
theorem Unhindered.exists_next {s : Closing} {i : Option UInt16} (h : s.Unhindered i)
    {conn : Connection} {pc : RWErrorPc}
    (hstep : s.handler.conn.rwErrorStep true .idle (s.thread i) = some (conn, pc))
    (hpc : pc ≠ .thrown) :
  ∃ t, next s (.thread i true) = some t ∧ t.closer = s.closer ∧ t.handler.conn = conn
    ∧ t.thread i = pc ∧ (isStarting pc → t.Unhindered i)
  := by
  rw [← h.idle] at hstep
  use { s with handler.conn := conn, thread := Function.update s.thread i pc }
  refine ⟨?_, rfl, rfl, Function.update_self _ _ _, ?_⟩
  · apply next_eq_some.mpr
    use h.not_aborted
    rw [step, if_pos h.canReport, threadStep, hstep]
    cases i with
    | none => rfl
    | some c =>
        cases pc with
        | thrown => apply absurd rfl hpc
        | _ => rfl
  · intro hstarting
    have hne : pc ≠ .outside := by
      rintro rfl
      cases hstarting
    constructor
    · intro habort
      simp only [Aborted, Function.update_apply] at habort
      split_ifs at habort
      · apply hpc habort
      · apply h.not_aborted habort
    · cases i with
      | none =>
          intro hout
          simp only [Function.update_self] at hout
          apply absurd hout hne
      | some c =>
          use h.canReport.1
          simp only [Function.update_self]
          apply hne
    · apply h.idle
    · simp only [Function.update_self]
      apply hstarting

/-- The steps of the thread `i` alone may leave the timer armed. -/
def MayArm (s : Closing) (i : Option UInt16) : Prop :=
  ∃ n t, run next s (List.replicate n (.thread i true)) = some t ∧ t.closer = s.closer
    ∧ t.handler.conn.m_reconnTimer.state = .armed

theorem MayArm.of_next {s t : Closing} {i : Option UInt16} (h : t.MayArm i)
    (hnext : next s (.thread i true) = some t) (hcloser : t.closer = s.closer) :
  s.MayArm i
  := by
  obtain ⟨n, u, hrun, hcloser', harmed⟩ := h
  use n + 1, u
  refine ⟨?_, hcloser'.trans hcloser, harmed⟩
  rw [List.replicate_succ, run_cons, hnext]
  apply hrun

theorem Unhindered.mayArm_startTimer {s : Closing} {i : Option UInt16} (h : s.Unhindered i)
    (hi : s.thread i = .startTimer) (hstopped : s.handler.conn.m_reconnTimer.state = .stopped) :
  s.MayArm i
  := by
  have hstep := s.handler.conn.rwErrorStep_startTimer true .idle
  rw [if_pos ⟨hstopped, rfl⟩, ← hi] at hstep
  obtain ⟨t, hnext, hcloser, hconn, -⟩ := h.exists_next hstep RWErrorPc.noConfusion
  have harmed : t.MayArm i := by
    use 0, t, rfl, rfl
    rw [hconn]
  apply harmed.of_next hnext hcloser

theorem Unhindered.mayArm_setPeriod {s : Closing} {i : Option UInt16} (h : s.Unhindered i)
    (hi : s.thread i = .setPeriod) (hstopped : s.handler.conn.m_reconnTimer.state = .stopped) :
  s.MayArm i
  := by
  obtain ⟨t, hnext, hcloser, hconn, hpc, ht⟩ :=
    h.exists_next (by rw [hi]; rfl) RWErrorPc.noConfusion
  apply MayArm.of_next _ hnext hcloser
  apply (ht rfl).mayArm_startTimer hpc
  rw [hconn]
  apply hstopped

theorem Unhindered.mayArm_stopTimer {s : Closing} {i : Option UInt16} (h : s.Unhindered i)
    (hi : s.thread i = .stopTimer) :
  s.MayArm i
  := by
  obtain ⟨t, hnext, hcloser, hconn, hpc, ht⟩ :=
    h.exists_next (by rw [hi]; rfl) RWErrorPc.noConfusion
  apply MayArm.of_next _ hnext hcloser
  apply (ht rfl).mayArm_setPeriod hpc
  rw [hconn]
  rfl

/-- The condition is needed: a thread on its way to start the timer when `close` has stopped
it may leave it armed. -/
theorem armed_of_isStarting {s : Closing} {i : Option UInt16} (h : s.Unhindered i)
    (hstopped : s.handler.conn.m_reconnTimer.state = .stopped) :
  s.MayArm i
  := by
  have hsetInterval : ∀ {s : Closing}, s.Unhindered i → s.thread i = .setInterval →
      s.MayArm i := by
    intro s h hi
    obtain ⟨t, hnext, hcloser, -, hpc, ht⟩ :=
      h.exists_next (by rw [hi]; rfl) RWErrorPc.noConfusion
    apply MayArm.of_next ((ht rfl).mayArm_stopTimer hpc) hnext hcloser
  have hsetTimerOn : ∀ {s : Closing}, s.Unhindered i → s.thread i = .setTimerOn →
      s.MayArm i := by
    intro s h hi
    obtain ⟨t, hnext, hcloser, -, hpc, ht⟩ :=
      h.exists_next (by rw [hi]; rfl) RWErrorPc.noConfusion
    apply MayArm.of_next (hsetInterval (ht rfl) hpc) hnext hcloser
  cases hi : s.thread i with
  | closeSocket =>
      obtain ⟨t, hnext, hcloser, -, hpc, ht⟩ :=
        h.exists_next (by rw [hi]; rfl) RWErrorPc.noConfusion
      apply MayArm.of_next (hsetTimerOn (ht rfl) hpc) hnext hcloser
  | setTimerOn => apply hsetTimerOn h hi
  | setInterval => apply hsetInterval h hi
  | stopTimer => apply h.mayArm_stopTimer hi
  | setPeriod => apply h.mayArm_setPeriod hi hstopped
  | startTimer => apply h.mayArm_startTimer hi hstopped
  | outside | testTimerOn | thrown =>
      have hstarting := h.starting
      rw [hi] at hstarting
      cases hstarting

end Closing

end DoorSwitchSvr
