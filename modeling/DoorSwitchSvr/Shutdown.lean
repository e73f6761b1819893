import DoorSwitchSvr.Handler
import DoorSwitchSvr.RelayBoard
import DoorSwitchSvr.Lib.Transition

/-!
# Closing a handler

`DoorSwitchHandler::close` interleaved with everything else that runs on the handler: the
workers of its controllers, the thread of its io service, and the timer thread.  It closes
the socket, stops the io service and the timer, and then stops the controllers one after
another, waiting for the worker of each to return.

The socket is closed first.  A worker that has its door open then still sends the close
command, and `close` waits for it, but the write fails (`closed_with_door_open`).

All doors are shut after `close` in every run in which they are shut when the socket is
closed and no open command is written after that.  As long as the timer does not connect
again, the doors stay as they are when the socket is closed, so that they are shut after
`close` exactly if they were shut then (`shut_of_run`).

Writes succeed exactly while the socket is connected.  The exception of a `start` that throws
ends the worker that calls it; in the io thread it ends the process.
-/

namespace DoorSwitchSvr

open Transition DoorSwitchChannelController RelayBoard

/-- Where `close` is.  The lists are the keys of the controllers that are still to be
stopped after the one it is at. -/
inductive ClosePc where
  | closeSocket
  | stopIo
  | stopTimer
  | joinIo
  | controllers (rest : List UInt16)
  | clear (c : UInt16) (rest : List UInt16)
  | wakeUpAll (c : UInt16) (rest : List UInt16)
  | join (c : UInt16) (rest : List UInt16)
  | returned
  deriving DecidableEq

/-- A handler that is being closed, with its threads: `thread (some c)` says where the
worker under the key `c` is in `handleRWError`, and `thread none` where the io thread is.
`written` are the commands written successfully, each with its channel. -/
structure Closing where
  handler : DoorSwitchHandler
  thread : Option UInt16 → RWErrorPc
  timer : TimerPc
  ioStopped : Bool
  closer : ClosePc
  written : List (UInt16 × DoorCommand)

namespace Closing

/-- What happens next: a step of `close`; of the worker under a key, in `run`; of a worker
or the io thread in `handleRWError`, which the io thread enters when a read fails or is not
answered in time, where `free` says whether the pool has a free thread for the timer; or of
the timer thread. -/
inductive Action where
  | close
  | work (c : UInt16) (elapsed : Int64)
  | thread (i : Option UInt16) (free : Bool)
  | timer (error : Bool)
  deriving DecidableEq

/-- The controller under a key, changed by `f`. -/
def modify (s : Closing) (c : UInt16)
    (f : DoorSwitchChannelController → DoorSwitchChannelController) : Closing :=
  { s with handler.m_mapControllers := s.handler.m_mapControllers.modify c f }

/-- The worker under a key does not run, or not any more. -/
def Joinable (s : Closing) (c : UInt16) : Prop :=
  s.thread (some c) = .outside
    ∧ (s.handler.m_mapControllers.find c).all (fun ctl => ¬ ctl.isRunning)

instance (s : Closing) (c : UInt16) : Decidable (s.Joinable c) :=
  inferInstanceAs (Decidable (_ ∧ _))

/-- A step of `close`. -/
def closeStep (s : Closing) : Option Closing :=
  match s.closer with
  | .closeSocket => some { s with handler.conn.m_socket := .closed, closer := .stopIo }
  | .stopIo => some { s with ioStopped := true, closer := .stopTimer }
  | .stopTimer =>
      -- the timer is stopped when its callback is over
      if s.timer = .idle then
        some { s with
          handler.conn.m_reconnTimer := s.handler.conn.m_reconnTimer.stop, closer := .joinIo }
      else none
  | .joinIo =>
      if s.thread none = .outside then
        some { s with closer := .controllers s.handler.m_mapControllers.keys }
      else none
  | .controllers [] => some { s with closer := .returned }
  | .controllers (c :: rest) =>
      some { s.modify c (fun ctl => { ctl with m_stop := true }) with closer := .clear c rest }
  | .clear c rest =>
      some { s.modify c (fun ctl => { ctl with m_taskNotiQue := [] }) with
        closer := .wakeUpAll c rest }
  | .wakeUpAll c rest => some { s.modify c (fun ctl => ctl.wakeUpAll) with closer := .join c rest }
  | .join c rest => if s.Joinable c then some { s with closer := .controllers rest } else none
  | .returned => none

/-- A step of a worker in `run`.  When it sends a command and the socket is not connected,
it enters `handleRWError`. -/
def workStep (s : Closing) (c : UInt16) (elapsed : Int64) : Option Closing :=
  if s.thread (some c) = .outside then
    match s.handler.work c elapsed with
    | none => none
    | some (h, none) => some { s with handler := h }
    | some (h, some sent) =>
        if s.handler.conn.m_socket = .connected then
          some { s with handler := h, written := s.written ++ [sent] }
        else
          some { s with
            handler := { h with conn.m_isConnected := false }
            thread := Function.update s.thread (some c) .testTimerOn }
  else none

/-- A thread may enter `handleRWError`, or is in it.  A worker enters it in `workStep`. -/
def CanReport (s : Closing) : Option UInt16 → Prop
  | none => s.thread none = .outside → s.ioStopped = false
  | some c => c ∈ s.handler.m_mapControllers.keys ∧ s.thread (some c) ≠ .outside

instance (s : Closing) : (i : Option UInt16) → Decidable (s.CanReport i)
  | none => inferInstanceAs (Decidable (_ → _))
  | some _ => inferInstanceAs (Decidable (_ ∧ _))

/-- The call of `start` that the worker under a key is about to make throws. -/
def StartThrows (s : Closing) (c : UInt16) (free : Bool) : Prop :=
  s.thread (some c) = .startTimer ∧ s.handler.conn.m_reconnTimer.start free = none

instance (s : Closing) (c : UInt16) (free : Bool) : Decidable (s.StartThrows c free) :=
  inferInstanceAs (Decidable (_ ∧ _))

/-- An exception has left the worker under a key, and ended its thread. -/
def endWorker (s : Closing) (c : UInt16) : Closing :=
  { s.modify c (fun ctl => ctl.endThread) with
    thread := Function.update s.thread (some c) .outside }

/-- A step of a worker or the io thread in `handleRWError`. -/
def threadStep (s : Closing) (i : Option UInt16) (free : Bool) : Option Closing :=
  (s.handler.conn.rwErrorStep free s.timer (s.thread i)).map (fun x =>
    match i, x.2 with
    | some c, .thrown => s.endWorker c
    | i, pc => { s with handler.conn := x.1, thread := Function.update s.thread i pc })

/-- An exception has left the io thread.  Nothing catches it, and the process has ended. -/
def Aborted (s : Closing) : Prop := s.thread none = .thrown

instance (s : Closing) : Decidable s.Aborted :=
  inferInstanceAs (Decidable (_ = _))

/-- The state after an action, in a process that has not ended. -/
def step (s : Closing) : Action → Option Closing
  | .close => s.closeStep
  | .work c elapsed => s.workStep c elapsed
  | .thread i free => if s.CanReport i then s.threadStep i free else none
  | .timer error =>
      (s.handler.conn.timerStep error s.timer).map (fun x =>
        { s with handler.conn := x.1, timer := x.2 })

/-- The state after an action. -/
def next (s : Closing) (a : Action) : Option Closing :=
  if s.Aborted then none else s.step a

/-- The last command written for each channel is not an open command. -/
def AllShut (s : Closing) : Prop := ∀ c, lastCommand s.written c ≠ some .openCommand

/-- It is enough to look at the channels for which commands have been written. -/
theorem allShut_iff (s : Closing) :
  AllShut s ↔ ∀ p ∈ s.written, lastCommand s.written p.1 ≠ some .openCommand
  := by
  constructor
  · intro h p _
    apply h
  · intro h c hopen
    obtain ⟨p, hlast, -⟩ := Option.map_eq_some_iff.mp hopen
    have hp := List.mem_filter.mp (List.mem_of_getLast? hlast)
    have hc : p.1 = c := by simpa using hp.2
    apply h p hp.1
    rw [hc, hopen]

instance (s : Closing) : Decidable s.AllShut := decidable_of_iff _ (allShut_iff s).symm

/-! ### Steps -/

/-- A step of `close` writes nothing, and may close the socket. -/
theorem closeStep_kept {s t : Closing} (h : s.closeStep = some t) :
  t.written = s.written
    ∧ (t.handler.conn.m_socket = s.handler.conn.m_socket ∨ t.handler.conn.m_socket = .closed)
  := by
  rw [closeStep] at h
  split at h
  next =>
    obtain rfl := Option.some.inj h
    exact ⟨rfl, Or.inr rfl⟩
  next =>
    obtain rfl := Option.some.inj h
    exact ⟨rfl, Or.inl rfl⟩
  next =>
    split_ifs at h
    obtain rfl := Option.some.inj h
    exact ⟨rfl, Or.inl rfl⟩
  next =>
    split_ifs at h
    obtain rfl := Option.some.inj h
    exact ⟨rfl, Or.inl rfl⟩
  next =>
    obtain rfl := Option.some.inj h
    exact ⟨rfl, Or.inl rfl⟩
  next =>
    obtain rfl := Option.some.inj h
    exact ⟨rfl, Or.inl rfl⟩
  next =>
    obtain rfl := Option.some.inj h
    exact ⟨rfl, Or.inl rfl⟩
  next =>
    obtain rfl := Option.some.inj h
    exact ⟨rfl, Or.inl rfl⟩
  next =>
    split_ifs at h
    obtain rfl := Option.some.inj h
    exact ⟨rfl, Or.inl rfl⟩
  next => cases h

/-- A step of a worker leaves `close` and the socket alone.  If it writes a command, the
socket is connected, and the worker was where it sends it. -/
theorem workStep_kept {s t : Closing} {c : UInt16} {elapsed : Int64}
    (h : s.workStep c elapsed = some t) :
  t.closer = s.closer ∧ t.handler.conn.m_socket = s.handler.conn.m_socket
    ∧ (t.written = s.written
      ∨ s.handler.conn.m_socket = .connected
        ∧ ∃ ctl cmd, s.handler.m_mapControllers.find c = some ctl
          ∧ (cmd = .openCommand → ctl.pc.isSendOpen)
          ∧ t.written = s.written ++ [(ctl.m_channel, cmd)])
  := by
  rw [workStep] at h
  by_cases hthread : s.thread (some c) = .outside
  · rw [if_pos hthread] at h
    split at h
    next => cases h
    next handler hwork =>
      obtain rfl := Option.some.inj h
      obtain ⟨ctl, ctl', cmd, -, -, -, rfl⟩ := DoorSwitchHandler.work_eq_some hwork
      exact ⟨rfl, rfl, Or.inl rfl⟩
    next handler sent hwork =>
      obtain ⟨ctl, ctl', cmd, hfind, hstep, hsent, rfl⟩ := DoorSwitchHandler.work_eq_some hwork
      split_ifs at h with hsocket
      · obtain rfl := Option.some.inj h
        obtain ⟨cmd', rfl, rfl⟩ := Option.map_eq_some_iff.mp hsent.symm
        refine ⟨rfl, rfl, Or.inr ⟨hsocket, ctl, cmd', hfind, ?_, rfl⟩⟩
        rintro rfl
        apply hstep.opens
      · obtain rfl := Option.some.inj h
        exact ⟨rfl, rfl, Or.inl rfl⟩
  · rw [if_neg hthread] at h
    cases h

theorem next_eq_some {s t : Closing} {a : Action} :
  next s a = some t ↔ ¬ s.Aborted ∧ s.step a = some t
  := by
  rw [next]
  split_ifs with haborted
  · simp [haborted]
  · simp [haborted]

theorem next_close {s t : Closing} (h : next s .close = some t) :
  s.closeStep = some t
  := (next_eq_some.mp h).2

theorem next_work {s t : Closing} {c : UInt16} {elapsed : Int64}
    (h : next s (.work c elapsed) = some t) :
  s.workStep c elapsed = some t
  := (next_eq_some.mp h).2

/-- A step of a thread in `handleRWError` is one on the connection, or its exception ends a
worker. -/
theorem next_thread {s t : Closing} {i : Option UInt16} {free : Bool}
    (h : next s (.thread i free) = some t) :
  s.CanReport i
    ∧ ((∃ conn pc, s.handler.conn.rwErrorStep free s.timer (s.thread i) = some (conn, pc)
          ∧ (pc = .thrown → i = none)
          ∧ t = { s with handler.conn := conn, thread := Function.update s.thread i pc })
      ∨ ∃ c, i = some c ∧ s.StartThrows c free ∧ t = s.endWorker c)
  := by
  have h := (next_eq_some.mp h).2
  rw [step] at h
  split_ifs at h with hreport
  use hreport
  obtain ⟨⟨conn, pc⟩, hstep, ht⟩ := Option.map_eq_some_iff.mp h
  by_cases hthrown : pc = .thrown
  · obtain rfl := hthrown
    cases i with
    | none =>
        left
        exact ⟨conn, .thrown, hstep, fun _ => rfl, ht.symm⟩
    | some c =>
        right
        exact ⟨c, rfl, Connection.startTimer_of_thrown hstep, ht.symm⟩
  · left
    use conn, pc, hstep, fun heq => absurd heq hthrown
    rw [← ht]
    cases i with
    | none => rfl
    | some c =>
        cases pc with
        | thrown => apply absurd rfl hthrown
        | _ => rfl

/-- A step of the timer thread is one on the connection. -/
theorem next_timer {s t : Closing} {error : Bool} (h : next s (.timer error) = some t) :
  ∃ conn pc, s.handler.conn.timerStep error s.timer = some (conn, pc)
    ∧ t = { s with handler.conn := conn, timer := pc }
  := by
  obtain ⟨⟨conn, pc⟩, hstep, rfl⟩ := Option.map_eq_some_iff.mp (next_eq_some.mp h).2
  use conn, pc, hstep

/-! ### Runs of close -/

/-- The action does not close the socket while a door is open, and once it has been closed
does not write an open command, for which the timer must have connected it again. -/
def ClosesShut (s : Closing) : Action → Prop
  | .close => s.closer = .closeSocket → s.AllShut
  | .work c _ =>
      s.closer ≠ .closeSocket → s.handler.conn.m_socket = .connected →
        (s.handler.m_mapControllers.find c).all (fun ctl => ¬ ctl.pc.isSendOpen)
  | _ => True

instance (s : Closing) : (a : Action) → Decidable (ClosesShut s a)
  | .close => inferInstanceAs (Decidable (_ → _))
  | .work _ _ => inferInstanceAs (Decidable (_ → _))
  | .thread _ _ | .timer _ => isTrue trivial

/-- From the step that closes the socket on, all doors are shut. -/
def ShutOnceClosed (s : Closing) : Prop := s.closer ≠ .closeSocket → s.AllShut

theorem allShut_of_written_eq {s t : Closing} (h : s.AllShut) (hwritten : t.written = s.written) :
  t.AllShut
  := by
  rw [AllShut, hwritten]
  apply h

theorem ShutOnceClosed.work {s t : Closing} (h : ShutOnceClosed s) {c : UInt16}
    {elapsed : Int64} (hok : ClosesShut s (.work c elapsed))
    (hstep : s.workStep c elapsed = some t) :
  ShutOnceClosed t
  := by
  intro hpc
  obtain ⟨hcloser, -, hwritten | ⟨hsocket, ctl, cmd, hfind, hopens, hwritten⟩⟩ :=
    workStep_kept hstep
  · rw [hcloser] at hpc
    apply allShut_of_written_eq (h hpc) hwritten
  · rw [hcloser] at hpc
    have hnot := hok hpc hsocket
    rw [hfind, Option.all_some, decide_eq_true_eq] at hnot
    intro c'
    rw [hwritten, lastCommand_concat]
    split_ifs
    · intro hopen
      apply hnot
      apply hopens (Option.some.inj hopen)
    · apply h hpc

theorem ShutOnceClosed.step (s : Closing) :
    ∀ (a : Action) (t : Closing), ShutOnceClosed s → ClosesShut s a → next s a = some t →
      ShutOnceClosed t
  | .close, t, h, hok, hnext => by
      intro _
      apply allShut_of_written_eq _ (closeStep_kept (next_close hnext)).1
      by_cases hpc : s.closer = .closeSocket
      · apply hok hpc
      · apply h hpc
  | .work _ _, _, h, hok, hnext => h.work hok (next_work hnext)
  | .thread _ _, _, h, _, hnext => by
      obtain ⟨-, ⟨conn, pc, -, -, rfl⟩ | ⟨c, -, -, rfl⟩⟩ := next_thread hnext <;> exact h
  | .timer _, _, h, _, hnext => by
      obtain ⟨conn, pc, -, rfl⟩ := next_timer hnext
      apply h

/-! ### Without a new connection -/

/-- The action does not connect the socket. -/
def NoConnection (s : Closing) : Action → Prop
  | .timer error => s.timer = .connect → error = true
  | _ => True

instance (s : Closing) : (a : Action) → Decidable (NoConnection s a)
  | .timer _ => inferInstanceAs (Decidable (_ → _))
  | .close | .work _ _ | .thread _ _ => isTrue trivial

/-- The socket is not connected, and the commands written are `written`. -/
def Sealed (written : List (UInt16 × DoorCommand)) (s : Closing) : Prop :=
  s.handler.conn.m_socket ≠ .connected ∧ s.written = written

theorem Sealed.step {written : List (UInt16 × DoorCommand)} (s : Closing) :
    ∀ (a : Action) (t : Closing), Sealed written s → NoConnection s a → next s a = some t →
      Sealed written t
  | .close, t, h, _, hnext => by
      obtain ⟨hwritten, hsocket⟩ := closeStep_kept (next_close hnext)
      constructor
      · rcases hsocket with hsocket | hsocket <;> rw [hsocket]
        · apply h.1
        · apply Socket.noConfusion
      · rw [hwritten, h.2]
  | .work _ _, t, h, _, hnext => by
      obtain ⟨-, hsocket, hwritten | ⟨hconnected, -⟩⟩ := workStep_kept (next_work hnext)
      · constructor
        · rw [hsocket]
          apply h.1
        · rw [hwritten, h.2]
      · apply absurd hconnected h.1
  | .thread _ _, _, h, _, hnext => by
      obtain ⟨-, ⟨conn, pc, hstep, -, rfl⟩ | ⟨c, -, -, rfl⟩⟩ := next_thread hnext
      · exact ⟨Connection.rwErrorStep_not_connected hstep h.1, h.2⟩
      · exact h
  | .timer _, _, h, hok, hnext => by
      obtain ⟨conn, pc, hstep, rfl⟩ := next_timer hnext
      exact ⟨Connection.timerStep_not_connected hstep hok h.1, h.2⟩

/-! ### All doors -/

theorem closer_next {s t : Closing} :
    ∀ {a : Action}, a ≠ .close → next s a = some t → t.closer = s.closer
  | .close, hne, _ => absurd rfl hne
  | .work _ _, _, hnext => (workStep_kept (next_work hnext)).1
  | .thread _ _, _, hnext => by
      obtain ⟨-, ⟨conn, pc, -, -, rfl⟩ | ⟨c, -, -, rfl⟩⟩ := next_thread hnext <;> rfl
  | .timer _, _, hnext => by
      obtain ⟨conn, pc, -, rfl⟩ := next_timer hnext
      rfl

/-- When `close` has returned it has closed the socket. -/
theorem exists_closeSocket {s t : Closing} {as : List Action} (hpc : s.closer = .closeSocket)
    (hrun : run next s as = some t) (hret : t.closer = .returned) :
  ∃ before after u v, as = before ++ .close :: after ∧ run next s before = some u
    ∧ u.closer = .closeSocket ∧ next u .close = some v ∧ run next v after = some t
  := by
  induction as generalizing s with
  | nil =>
      obtain rfl := Option.some.inj hrun
      cases hpc.symm.trans hret
  | cons a as ih =>
      obtain ⟨v, hv, hrest⟩ := run_cons_eq_some.mp hrun
      by_cases ha : a = .close
      · subst ha
        exact ⟨[], as, s, v, rfl, rfl, hpc, hv, hrest⟩
      · obtain ⟨before, after, u, v', rfl, hbefore, hu⟩ :=
          ih ((closer_next ha hv).trans hpc) hrest
        use a :: before, after, u, v', rfl
        constructor
        · rw [run_cons, hv]
          apply hbefore
        · apply hu

/-- From the step that closes the socket on, the doors stay as they are as long as the timer
does not connect again. -/
theorem shut_iff {s u t : Closing} {as : List Action} (hpc : s.closer = .closeSocket)
    (hclose : next s .close = some u) (hok : Meets next NoConnection u as)
    (hrun : run next u as = some t) :
  t.AllShut ↔ s.AllShut
  := by
  have hu : Sealed s.written u := by
    have hstep := next_close hclose
    rw [closeStep, hpc] at hstep
    obtain rfl := Option.some.inj hstep
    exact ⟨Socket.noConfusion, rfl⟩
  have ht : Sealed s.written t := run_invariant Sealed.step hu hok hrun
  rw [AllShut, AllShut, ht.2]

/-- In every run of `close` that has returned, all doors are shut if they are shut when the
socket is closed and no open command is written after that.  As long as the timer does not
connect after the socket has been closed, all doors are shut if and only if they were shut
then. -/
theorem shut_of_run (s : Closing) (as : List Action) {t : Closing}
    (hpc : s.closer = .closeSocket) (hrun : run next s as = some t) (hret : t.closer = .returned) :
  (Meets next ClosesShut s as → t.AllShut)
    ∧ ∃ before after u v, as = before ++ .close :: after ∧ run next s before = some u
      ∧ u.closer = .closeSocket ∧ next u .close = some v
      ∧ (Meets next NoConnection v after → (t.AllShut ↔ u.AllShut))
  := by
  constructor
  · intro hok
    have hs : ShutOnceClosed s := fun hne => absurd hpc hne
    have ht : ShutOnceClosed t := run_invariant ShutOnceClosed.step hs hok hrun
    apply ht
    rw [hret]
    apply ClosePc.noConfusion
  · obtain ⟨before, after, u, v, has, hbefore, hu, hv, hafter⟩ := exists_closeSocket hpc hrun hret
    use before, after, u, v, has, hbefore, hu, hv
    intro hok
    apply shut_iff hu hv hok hafter

/-- A connected switch whose channel 1 has been requested for a second, about to be
closed. -/
def oneRequest : Closing where
  handler :=
    (DoorSwitchHandler.openDoor
      { m_switchInfo := ⟨"1", "127.0.0.1", 1, 10001, .DIRECT_CONTROL_SWITCH⟩
        conn := (({} : Connection).connect false true).1 } 1 1000).1
  thread := fun _ => .outside
  timer := .idle
  ioStopped := false
  closer := .closeSocket
  written := []

/-- The handler is closed when its worker has served the request and is parked. -/
def closeWhileParked : List Action :=
  List.replicate 9 (.work 1 0) ++ List.replicate 7 .close ++ [.work 1 0, .close, .close]

theorem shut_of_run_parked :
  ∃ t, run next oneRequest closeWhileParked = some t ∧ t.AllShut
    ∧ ∃ before after u v, closeWhileParked = before ++ .close :: after
      ∧ run next oneRequest before = some u ∧ u.closer = .closeSocket ∧ next u .close = some v
      ∧ (Meets next NoConnection v after → (t.AllShut ↔ u.AllShut))
  := by
  refine ⟨_, rfl, ?_⟩
  have h := shut_of_run oneRequest closeWhileParked rfl rfl rfl
  exact ⟨h.1 (by decide), h.2⟩

/-- The handler is closed while its worker sleeps with the door open.  The worker wakes up
when it has been told to stop, and fails to send the close command. -/
def closeWhileOpen : List Action :=
  List.replicate 4 (.work 1 0) ++ List.replicate 7 .close ++ List.replicate 3 (.work 1 0)
    ++ List.replicate 7 (.thread (some 1) true) ++ [.work 1 0, .close, .close]

/-- After `closeWhileOpen` the call of `close` has returned, and the last command written
for channel 1 is an open command. -/
theorem closed_with_door_open :
  ∃ t, run next oneRequest closeWhileOpen = some t ∧ t.closer = .returned ∧ ¬ AllShut t
  := by
  refine ⟨_, rfl, rfl, ?_⟩
  intro h
  apply h 1
  decide

end Closing

end DoorSwitchSvr
