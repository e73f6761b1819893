import DoorSwitchSvr.ChannelNumbers
import DoorSwitchSvr.Isolation
import DoorSwitchSvr.Routing
import DoorSwitchSvr.Shutdown
import DoorSwitchSvr.WorkerRun
import DoorSwitchSvr.Lib.Projection

/-!
# One switch

One switch on its own: the requests that name it, its handler, which is created at the first
of them, and all the threads that run on the handler.  The threads and `close` are those of
`Closing`, on a connection that is lost and found.

Each channel of the switch is then one `WorkerRun` (`worker`).  While `close` has not been
called, every run of the switch in which no new channel is requested below one that has a
controller is, for each channel, a run of that channel's worker alone: it is given exactly
the tasks of the requests for its channel that find the handler connected, in their order, and
is ended when the timer that it starts after a failed write finds no free thread
(`run_worker`).
-/

namespace DoorSwitchSvr

open Transition DoorSwitchChannelController DoorSwitchHandler

/-- What belongs to a handler beside its members: where the threads on it are, and two
histories.

* `issued`: the commands that its workers have sent, each with its channel.
* `written`: those of them whose write has succeeded. -/
structure Threads where
  thread : Option UInt16 → RWErrorPc := fun _ => .outside
  timer : TimerPc := .idle
  ioStopped : Bool := false
  closer : ClosePc := .closeSocket
  issued : List (UInt16 × DoorCommand) := []
  written : List (UInt16 × DoorCommand) := []

namespace Threads

/-- A handler with its threads, for the steps of the threads and of `close`. -/
def closing (th : Threads) (h : DoorSwitchHandler) : Closing where
  handler := h
  thread := th.thread
  timer := th.timer
  ioStopped := th.ioStopped
  closer := th.closer
  written := th.written

/-- The command that is sent in a step, with its channel. -/
def issues (h : DoorSwitchHandler) : Closing.Action → Option (UInt16 × DoorCommand)
  | .work c elapsed => (h.work c elapsed).bind Prod.snd
  | .close | .thread _ _ | .timer _ => none

/-- A step of a thread of the handler, or of `close`. -/
def step (th : Threads) (h : DoorSwitchHandler) (a : Closing.Action) :
    Option (DoorSwitchHandler × Threads) :=
  (Closing.next (th.closing h) a).map (fun c =>
    (c.handler,
      { thread := c.thread
        timer := c.timer
        ioStopped := c.ioStopped
        closer := c.closer
        issued := th.issued ++ (issues h a).toList
        written := c.written }))

end Threads

/-- A switch: its handler, which is `none` before it is created, and what belongs to it. -/
structure SwitchRun where
  handler : Option DoorSwitchHandler := none
  threads : Threads := {}

namespace SwitchRun

/-- What happens next: a request that names the switch, with the outcome of the connection
attempt that it may make, and whether the pool has a free thread for the timer it may start; a
step of a thread of the handler; or the handler is destroyed. -/
inductive Action where
  | request (req : OpenDoorRequest) (error free : Bool)
  | handler (a : Closing.Action)
  | destroy
  deriving DecidableEq

/-- The handler after a request.  The first one creates it. -/
def receive (info : SwitchInfo) (req : OpenDoorRequest) (error free : Bool) :
    Option DoorSwitchHandler → DoorSwitchHandler
  | none => DoorSwitchEngine.served req error free { m_switchInfo := info }
  | some h => (h.openDoor req.m_channel.toInt16 req.m_closeAfter).1

/-- The state after an action. -/
def next (info : SwitchInfo) (s : SwitchRun) : Action → Option SwitchRun
  | .request req error free =>
      some { s with handler := some (receive info req error free s.handler) }
  | .handler a =>
      s.handler.bind (fun h => (s.threads.step h a).map (fun x => ⟨some x.1, x.2⟩))
  | .destroy => some { s with handler := none }

/-- The controller under a key. -/
def controller (s : SwitchRun) (c : UInt16) : Option DoorSwitchChannelController :=
  s.handler.bind (fun h => h.m_mapControllers.find c)

/-- The commands that have been sent for a channel. -/
def issuedFor (s : SwitchRun) (c : UInt16) : List DoorCommand :=
  (s.threads.issued.filter (fun p => p.1 = c)).map Prod.snd

/-- The run of one channel: its worker, which waits for a first task before it is created,
and the commands that have been sent for the channel. -/
def channel (s : SwitchRun) (c : UInt16) : ChannelRun :=
  ⟨(s.controller c).getD (ChannelRun.initial c).ctl, (s.issuedFor c).reverse⟩

/-- The worker of a channel, while `close` has not been called. -/
def worker (s : SwitchRun) (c : UInt16) : WorkerRun := { chan := s.channel c }

/-- A request finds the handler connected, or connects it. -/
def Serves (s : SwitchRun) (error : Bool) : Prop :=
  s.handler.elim (error = false) (fun h => h.conn.m_isConnected = true)

instance (s : SwitchRun) (error : Bool) : Decidable (s.Serves error) :=
  match h : s.handler with
  | none => decidable_of_iff (error = false) (by rw [Serves, h]; rfl)
  | some handler =>
      decidable_of_iff (handler.conn.m_isConnected = true) (by rw [Serves, h]; rfl)

/-- The key of the controller that a request is for. -/
def key (req : OpenDoorRequest) : UInt16 := controllerChannel req.m_channel

/-- The start of the timer that the worker under a key is about to make throws. -/
def StartThrows (s : SwitchRun) (c : UInt16) (free : Bool) : Prop :=
  ∃ h ∈ s.handler, (s.threads.closing h).StartThrows c free

instance (s : SwitchRun) (c : UInt16) (free : Bool) : Decidable (s.StartThrows c free) :=
  inferInstanceAs (Decidable (∃ h ∈ s.handler, (s.threads.closing h).StartThrows c free))

/-- What an action is for the worker of a channel. -/
def seen (c : UInt16) (s : SwitchRun) : Action → List WorkerRun.Action
  | .request req error _ =>
      if s.Serves error ∧ key req = c then [.run (.addTask ⟨req.m_closeAfter⟩)] else []
  | .handler (.work c' elapsed) => if c' = c then [.run (.work elapsed)] else []
  | .handler (.thread (some c') free) => if c' = c ∧ s.StartThrows c free then [.throws] else []
  | .handler .close | .handler (.thread none _) | .handler (.timer _) | .destroy => []

/-! ### Requests -/

theorem serves_none {s : SwitchRun} (h : s.handler = none) (error : Bool) :
  s.Serves error ↔ error = false
  := by
  rw [Serves, h]
  rfl

theorem serves_some {s : SwitchRun} {handler : DoorSwitchHandler} (h : s.handler = some handler)
    (error : Bool) :
  s.Serves error ↔ handler.conn.m_isConnected = true
  := by
  rw [Serves, h]
  rfl

/-- The worker of a channel in a handler, or one that waits for a first task. -/
def workerOf (h : DoorSwitchHandler) (c : UInt16) : DoorSwitchChannelController :=
  (h.m_mapControllers.find c).getD (ChannelRun.initial c).ctl

/-- A new controller that has been enlisted is a started one that has been given a task. -/
theorem enlist_default (c : UInt16) (task : DoorSwitchOpenNotification) :
  enlist c task {} = (ChannelRun.initial c).ctl.addTask task
  := rfl

/-- A request for the channel does not create a controller below one that exists. -/
def CreatesAbove (h : DoorSwitchHandler) (channel : Int16) : Prop :=
  h.conn.m_isConnected = true → h.m_mapControllers.find channel.toUInt16 = none →
    ∀ k ∈ h.m_mapControllers.keys, k < channel.toUInt16

instance (h : DoorSwitchHandler) (channel : Int16) : Decidable (CreatesAbove h channel) :=
  inferInstanceAs (Decidable (_ → _))

/-- A request to a connected handler gives its task to the worker of its channel, and leaves
the other controllers alone. -/
theorem find_openDoor {h : DoorSwitchHandler} {channel : Int16}
    (hconn : h.conn.m_isConnected = true) (habove : CreatesAbove h channel)
    (closeAfterMs : Int32) (c : UInt16) :
  (h.openDoor channel closeAfterMs).1.m_mapControllers.find c
    = if channel.toUInt16 = c then some ((workerOf h c).addTask ⟨closeAfterMs⟩)
      else h.m_mapControllers.find c
  := by
  rw [workerOf]
  cases hfind : h.m_mapControllers.find channel.toUInt16 with
  | none =>
      rw [find_openDoor_of_above hconn hfind (habove hconn hfind)]
      rcases eq_or_ne channel.toUInt16 c with rfl | hne
      · rw [if_pos rfl, if_pos rfl, hfind, enlist_default]
        rfl
      · rw [if_neg hne.symm, if_neg hne]
  | some ctl =>
      rw [openDoor_found hconn hfind]
      rcases eq_or_ne channel.toUInt16 c with rfl | hne
      · rw [if_pos rfl, hfind]
        simp only [OrdMap.find_modify_self, hfind]
        rfl
      · rw [if_neg hne]
        apply OrdMap.find_modify_of_ne _ _ hne.symm

@[simp]
theorem m_switchInfo_openDoor (h : DoorSwitchHandler) (channel : Int16) (closeAfterMs : Int32) :
  (h.openDoor channel closeAfterMs).1.m_switchInfo = h.m_switchInfo
  := by
  cases hconn : h.conn.m_isConnected with
  | false => rw [openDoor_disconnected hconn]
  | true =>
      cases hfind : h.m_mapControllers.find channel.toUInt16 with
      | none => rw [openDoor_new hconn hfind]
      | some ctl => rw [openDoor_found hconn hfind]

/-- No new channel is requested below one that has a controller. -/
def ChannelsAbove (s : SwitchRun) : Action → Prop
  | .request req _ _ => ∀ h ∈ s.handler, CreatesAbove h req.m_channel.toInt16
  | .handler _ | .destroy => True

instance (s : SwitchRun) : (a : Action) → Decidable (ChannelsAbove s a)
  | .request req _ _ =>
      inferInstanceAs (Decidable (∀ h ∈ s.handler, CreatesAbove h req.m_channel.toInt16))
  | .handler _ | .destroy => isTrue trivial

/-- A request that is served is passed to a connected handler with the controllers of the
switch. -/
theorem exists_openDoor_of_serves {s : SwitchRun} {req : OpenDoorRequest} {error free : Bool}
    (hserves : s.Serves error) (habove : ChannelsAbove s (.request req error free))
    (info : SwitchInfo) :
  ∃ h : DoorSwitchHandler, h.conn.m_isConnected = true ∧ CreatesAbove h req.m_channel.toInt16
    ∧ (∀ c, h.m_mapControllers.find c = s.controller c)
    ∧ receive info req error free s.handler
      = (h.openDoor req.m_channel.toInt16 req.m_closeAfter).1
  := by
  obtain ⟨handler, threads⟩ := s
  cases handler with
  | none =>
      obtain rfl := (serves_none rfl error).mp hserves
      use (({ m_switchInfo := info } : DoorSwitchHandler).connect false free).1, rfl
      constructor
      · intro _ _ k hk
        cases hk
      · exact ⟨fun _ => rfl, rfl⟩
  | some h =>
      use h, (serves_some rfl error).mp hserves, habove h rfl
      exact ⟨fun _ => rfl, rfl⟩

/-- A request that is not served leaves the controllers alone. -/
theorem find_receive_of_not_serves {s : SwitchRun} {error : Bool} (hserves : ¬ s.Serves error)
    (info : SwitchInfo) (req : OpenDoorRequest) (free : Bool) (c : UInt16) :
  (receive info req error free s.handler).m_mapControllers.find c = s.controller c
  := by
  obtain ⟨handler, threads⟩ := s
  cases handler with
  | none =>
      rw [serves_none rfl, Bool.not_eq_false] at hserves
      rw [hserves]
      cases free <;> rfl
  | some h =>
      rw [serves_some rfl, Bool.not_eq_true] at hserves
      rw [receive, openDoor_disconnected hserves]
      rfl

/-- A request that is served gives its task to the worker of its channel.  Nothing else
changes in the controllers. -/
theorem controller_request {info : SwitchInfo} {s t : SwitchRun} {req : OpenDoorRequest}
    {error free : Bool} (habove : ChannelsAbove s (.request req error free))
    (hnext : next info s (.request req error free) = some t) (c : UInt16) :
  t.controller c
    = if s.Serves error ∧ key req = c then some ((s.channel c).ctl.addTask ⟨req.m_closeAfter⟩)
      else s.controller c
  := by
  obtain rfl := Option.some.inj hnext
  by_cases hserves : s.Serves error
  · obtain ⟨h, hconn, hcreates, hfind, hreceive⟩ :=
      exists_openDoor_of_serves hserves habove info
    rw [controller, hreceive, Option.bind_some, find_openDoor hconn hcreates, workerOf, hfind]
    split_ifs with hkey hkey' hkey'
    · rfl
    · apply absurd ⟨hserves, hkey⟩ hkey'
    · apply absurd hkey'.2 hkey
    · rfl
  · rw [if_neg (fun h => hserves h.1)]
    apply find_receive_of_not_serves hserves

theorem m_switchInfo_request {info : SwitchInfo} {s t : SwitchRun} {req : OpenDoorRequest}
    {error free : Bool} (hinfo : ∀ h, s.handler = some h → h.m_switchInfo = info)
    (hnext : next info s (.request req error free) = some t) {h : DoorSwitchHandler}
    (hh : t.handler = some h) :
  h.m_switchInfo = info
  := by
  obtain rfl := Option.some.inj hnext
  obtain rfl := Option.some.inj hh
  obtain ⟨handler, threads⟩ := s
  cases handler with
  | none =>
      cases error with
      | true => cases free <;> rfl
      | false => apply m_switchInfo_openDoor
  | some h =>
      rw [receive, m_switchInfo_openDoor]
      apply hinfo h rfl

/-! ### Threads -/

/-- A step of a thread of the handler is one of `Closing`. -/
theorem next_handler {info : SwitchInfo} {s t : SwitchRun} {a : Closing.Action}
    (h : next info s (.handler a) = some t) :
  ∃ handler c, s.handler = some handler ∧ Closing.next (s.threads.closing handler) a = some c
    ∧ t.handler = some c.handler
    ∧ t.threads.issued = s.threads.issued ++ (Threads.issues handler a).toList
    ∧ t.threads.closing c.handler = c
  := by
  obtain ⟨handler, hhandler, hmap⟩ := Option.bind_eq_some_iff.mp h
  obtain ⟨x, hstep, rfl⟩ := Option.map_eq_some_iff.mp hmap
  obtain ⟨c, hc, rfl⟩ := Option.map_eq_some_iff.mp hstep
  exact ⟨handler, c, hhandler, hc, rfl, rfl, rfl⟩

/-- A step of a worker in a handler that is being closed is one of its controller.  Its
command is written if the socket is connected. -/
theorem workStep_eq_some {s t : Closing} {c : UInt16} {elapsed : Int64}
    (h : s.workStep c elapsed = some t) :
  ∃ ctl ctl' cmd, s.handler.m_mapControllers.find c = some ctl
    ∧ RunStep s.handler.m_switchInfo.type elapsed ctl ctl' cmd
    ∧ Threads.issues s.handler (.work c elapsed) = cmd.map (Prod.mk ctl.m_channel)
    ∧ t.handler.m_switchInfo = s.handler.m_switchInfo
    ∧ t.handler.m_mapControllers = s.handler.m_mapControllers.modify c (fun _ => ctl')
    ∧ t.written = s.written ++ (if s.handler.conn.m_socket = .connected then
        (cmd.map (Prod.mk ctl.m_channel)).toList else [])
    ∧ s.thread (some c) = .outside
    ∧ (t.thread = s.thread
      ∨ cmd ≠ none ∧ t.thread = Function.update s.thread (some c) .testTimerOn)
  := by
  rw [Closing.workStep] at h
  by_cases hthread : s.thread (some c) = .outside
  · rw [if_pos hthread] at h
    split at h
    next => cases h
    next handler hwork =>
      obtain rfl := Option.some.inj h
      obtain ⟨ctl, ctl', cmd, hfind, hstep, hsent, rfl⟩ := work_eq_some hwork
      have hissues : Threads.issues s.handler (.work c elapsed) = none := by
        rw [Threads.issues, hwork]
        rfl
      use ctl, ctl', cmd, hfind, hstep
      rw [hissues, ← hsent]
      simp [hthread]
    next handler sent hwork =>
      obtain ⟨ctl, ctl', cmd, hfind, hstep, hsent, rfl⟩ := work_eq_some hwork
      have hissues : Threads.issues s.handler (.work c elapsed) = some sent := by
        rw [Threads.issues, hwork]
        rfl
      have hcmd : cmd ≠ none := by
        rintro rfl
        cases hsent
      use ctl, ctl', cmd, hfind, hstep
      rw [hissues, ← hsent]
      split_ifs at h with hsocket <;> obtain rfl := Option.some.inj h <;>
        simp [hsocket, hthread, hcmd]
  · rw [if_neg hthread] at h
    cases h

/-- A worker that has sent a command is in `sendData`. -/
theorem inSendData_of_runStep {type : SWITCH_TYPE} {elapsed : Int64}
    {c c' : DoorSwitchChannelController} {cmd : Option DoorCommand}
    (h : RunStep type elapsed c c' cmd) (hcmd : cmd ≠ none) :
  WorkerRun.inSendData c'.pc = true
  := by
  cases h with
  | sendOpen | closeIndirect | closeDirect => rfl
  | _ => apply absurd rfl hcmd

/-- A step of a worker changes its own controller, and no other.  It may end in `handleRWError`,
which `sendData` calls. -/
theorem next_work {info : SwitchInfo} {s t : SwitchRun} {c : UInt16} {elapsed : Int64}
    (hinfo : ∀ h, s.handler = some h → h.m_switchInfo = info)
    (hnext : next info s (.handler (.work c elapsed)) = some t) :
  ∃ ctl ctl' cmd, s.controller c = some ctl ∧ RunStep info.type elapsed ctl ctl' cmd
    ∧ (∀ c', t.controller c' = if c' = c then some ctl' else s.controller c')
    ∧ t.threads.issued = s.threads.issued ++ (cmd.map (Prod.mk ctl.m_channel)).toList
    ∧ (∀ h, t.handler = some h → h.m_switchInfo = info)
    ∧ (∀ c', c' ≠ c → t.threads.thread (some c') = s.threads.thread (some c'))
    ∧ (t.threads.thread (some c) ≠ .outside → WorkerRun.inSendData ctl'.pc = true)
  := by
  obtain ⟨handler, closing, hhandler, hstep, hhandler', hissued, hclosing⟩ := next_handler hnext
  obtain ⟨ctl, ctl', cmd, hfind, hrun, hissues, hinfo', hmap, -, houtside, hthread⟩ :=
    workStep_eq_some (Closing.next_work hstep)
  have hinfo₀ := hinfo handler hhandler
  have hthread' : t.threads.thread = closing.thread := by
    rw [← hclosing]
    rfl
  refine ⟨ctl, ctl', cmd, ?_, ?_, ?_, ?_, ?_, ?_, ?_⟩
  · rw [controller, hhandler]
    apply hfind
  · rw [← hinfo₀]
    apply hrun
  · intro c'
    have hfind' : handler.m_mapControllers.find c = some ctl := hfind
    rw [controller, hhandler', Option.bind_some, hmap, OrdMap.find_modify, controller, hhandler]
    simp [Threads.closing, hfind']
  · have hissues' : Threads.issues handler (.work c elapsed) = cmd.map (Prod.mk ctl.m_channel) :=
      hissues
    rw [hissued, hissues']
  · intro h hh
    obtain rfl := Option.some.inj (hhandler'.symm.trans hh)
    rw [hinfo']
    apply hinfo₀
  · intro c' hne
    rw [hthread']
    rcases hthread with hthread | ⟨-, hthread⟩
    · rw [hthread]
      rfl
    · rw [hthread, Function.update_of_ne (fun heq => hne (Option.some.inj heq))]
      rfl
  · rw [hthread']
    rcases hthread with hthread | ⟨hcmd, -⟩
    · rw [hthread]
      intro hne
      apply absurd houtside hne
    · intro _
      apply inSendData_of_runStep hrun hcmd

/-- The commands and the settings of the switch stay as they are. -/
structure Kept (s t : SwitchRun) : Prop where
  issued_eq : t.threads.issued = s.threads.issued
  written_eq : t.threads.written = s.threads.written
  m_switchInfo_eq : ∀ info, (∀ h, s.handler = some h → h.m_switchInfo = info) →
    ∀ h, t.handler = some h → h.m_switchInfo = info

/-- A step of the timer thread changes the connection only. -/
theorem next_timer {info : SwitchInfo} {s t : SwitchRun} {error : Bool}
    (hnext : next info s (.handler (.timer error)) = some t) :
  Kept s t ∧ t.threads.thread = s.threads.thread ∧ ∀ c, t.controller c = s.controller c
  := by
  obtain ⟨handler, closing, hhandler, hstep, hhandler', hissued, hclosing⟩ := next_handler hnext
  obtain ⟨conn, pc, -, rfl⟩ := Closing.next_timer hstep
  refine ⟨⟨?_, ?_, ?_⟩, ?_, ?_⟩
  · rw [hissued, Threads.issues, Option.toList_none, List.append_nil]
  · exact congrArg Closing.written hclosing
  · intro info' hinfo h hh
    obtain rfl := Option.some.inj (hhandler'.symm.trans hh)
    apply hinfo handler hhandler
  · exact congrArg Closing.thread hclosing
  · intro c
    rw [controller, controller, hhandler, hhandler']
    rfl

/-- A step of a thread in `handleRWError` changes the connection only, or its exception ends
the worker. -/
theorem next_thread {info : SwitchInfo} {s t : SwitchRun} {i : Option UInt16} {free : Bool}
    (hnext : next info s (.handler (.thread i free)) = some t) :
  Kept s t ∧ (∀ j, j ≠ i → t.threads.thread j = s.threads.thread j)
    ∧ (∀ c, i = some c → s.threads.thread (some c) ≠ .outside)
    ∧ ((∀ c, i = some c → ¬ s.StartThrows c free) ∧ (∀ c, t.controller c = s.controller c)
      ∨ ∃ c, i = some c ∧ s.StartThrows c free ∧ t.threads.thread (some c) = .outside
        ∧ ∀ c', t.controller c' = if c' = c then (s.controller c).map endThread
            else s.controller c')
  := by
  obtain ⟨handler, closing, hhandler, hstep, hhandler', hissued, hclosing⟩ := next_handler hnext
  obtain ⟨hreport, hcases⟩ := Closing.next_thread hstep
  have hissued' : t.threads.issued = s.threads.issued := by
    rw [hissued, Threads.issues, Option.toList_none, List.append_nil]
  have hwritten : t.threads.written = closing.written := congrArg Closing.written hclosing
  have hthread : t.threads.thread = closing.thread := congrArg Closing.thread hclosing
  have houtside : ∀ c, i = some c → s.threads.thread (some c) ≠ .outside := by
    rintro c rfl
    apply hreport.2
  obtain ⟨conn, pc, hrw, hthrown, rfl⟩ | ⟨c, rfl, hthrows, rfl⟩ := hcases
  · refine ⟨⟨hissued', hwritten, ?_⟩, ?_, houtside, Or.inl ⟨?_, ?_⟩⟩
    · intro info' hinfo h hh
      obtain rfl := Option.some.inj (hhandler'.symm.trans hh)
      apply hinfo handler hhandler
    · intro j hj
      rw [hthread]
      apply Function.update_of_ne hj
    · rintro c rfl ⟨h, hh, hstart, hnone⟩
      obtain rfl := Option.some.inj (hhandler.symm.trans hh)
      rw [hstart, Connection.rwErrorStep, hnone] at hrw
      obtain ⟨-, rfl⟩ := Prod.mk.inj (Option.some.inj hrw)
      cases hthrown rfl
    · intro c
      rw [controller, controller, hhandler, hhandler']
      rfl
  · refine ⟨⟨hissued', hwritten, ?_⟩, ?_, houtside,
      Or.inr ⟨c, rfl, ⟨handler, hhandler, hthrows⟩, ?_, ?_⟩⟩
    · intro info' hinfo h hh
      obtain rfl := Option.some.inj (hhandler'.symm.trans hh)
      apply hinfo handler hhandler
    · intro j hj
      rw [hthread]
      apply Function.update_of_ne hj
    · rw [hthread]
      apply Function.update_self
    · intro c'
      rw [controller, controller, controller, hhandler, hhandler']
      simp only [Option.bind_some, Closing.endWorker, Closing.modify, OrdMap.find_modify]
      rfl

/-! ### The channels of a switch -/

/-- `close` has not been called and the handler is not destroyed, and no new channel is
requested below one that has a controller. -/
def InService (s : SwitchRun) : Action → Prop
  | .handler .close | .destroy => False
  | a => ChannelsAbove s a

instance (s : SwitchRun) : (a : Action) → Decidable (InService s a)
  | .handler .close | .destroy => isFalse not_false
  | .request req error free =>
      inferInstanceAs (Decidable (ChannelsAbove s (.request req error free)))
  | .handler (.work _ _) | .handler (.thread _ _) | .handler (.timer _) => isTrue trivial

/-- The invariant in service: every controller has the channel it is the controller of, nothing
has been sent for a channel without one, and a worker in `handleRWError` has been called from
its `sendData`. -/
structure Inv (info : SwitchInfo) (s : SwitchRun) : Prop where
  m_switchInfo_eq : ∀ h, s.handler = some h → h.m_switchInfo = info
  m_channel_eq : ∀ c ctl, s.controller c = some ctl → ctl.m_channel = c
  issuedFor_eq : ∀ c, s.controller c = none → s.issuedFor c = []
  sending : ∀ c, s.threads.thread (some c) ≠ .outside →
    ∃ ctl, s.controller c = some ctl ∧ WorkerRun.inSendData ctl.pc = true

theorem Inv.initial (info : SwitchInfo) :
  Inv info {}
  := by
  constructor
  · intro h hh
    cases hh
  · intro c ctl hctl
    cases hctl
  · intro c _
    rfl
  · intro c hne
    apply absurd rfl hne

theorem Inv.channel_m_channel {info : SwitchInfo} {s : SwitchRun} (h : Inv info s) (c : UInt16) :
  (s.channel c).ctl.m_channel = c
  := by
  rw [channel]
  cases hctl : s.controller c with
  | none => rfl
  | some ctl => apply h.m_channel_eq c ctl hctl

theorem issuedFor_append {s t : SwitchRun} {sent : List (UInt16 × DoorCommand)}
    (h : t.threads.issued = s.threads.issued ++ sent) (c : UInt16) :
  t.issuedFor c = s.issuedFor c ++ (sent.filter (fun p => p.1 = c)).map Prod.snd
  := by
  rw [issuedFor, h, List.filter_append, List.map_append]
  rfl

theorem issuedFor_of_eq {s t : SwitchRun} (h : t.threads.issued = s.threads.issued)
    (c : UInt16) :
  t.issuedFor c = s.issuedFor c
  := by
  rw [issuedFor, h]
  rfl

theorem channel_of_controller {s : SwitchRun} {c : UInt16} {ctl : DoorSwitchChannelController}
    (h : s.controller c = some ctl) :
  s.channel c = ⟨ctl, (s.issuedFor c).reverse⟩
  := by
  rw [channel, h]
  rfl

theorem worker_of_eq {s t : SwitchRun} {c : UInt16} (hctl : t.controller c = s.controller c)
    (hissued : t.issuedFor c = s.issuedFor c) :
  t.worker c = s.worker c
  := by
  rw [worker, channel, hctl, hissued]
  rfl

/-- A step of the worker of a channel is one of its own. -/
theorem run_seen_work {info : SwitchInfo} {s t : SwitchRun} (h : Inv info s) (c : UInt16)
    {c' : UInt16} {elapsed : Int64} (hnext : next info s (.handler (.work c' elapsed)) = some t) :
  run (WorkerRun.next info.type) (s.worker c) (seen c s (.handler (.work c' elapsed)))
    = some (t.worker c)
  := by
  obtain ⟨ctl, ctl', cmd, hctl, hstep, hcontroller, hissued, -⟩ :=
    next_work h.m_switchInfo_eq hnext
  have hsent := issuedFor_append hissued c
  rw [h.m_channel_eq c' ctl hctl] at hsent
  rw [seen]
  split_ifs with hc
  · subst hc
    have hchannel := channel_of_controller hctl
    have hcommand : (List.filter (fun p => decide (p.1 = c'))
        (cmd.map (Prod.mk c')).toList).map Prod.snd = cmd.toList := by
      cases cmd <;> simp
    have hstep' : RunStep info.type elapsed (s.channel c').ctl ctl' cmd := by
      rw [hchannel]
      apply hstep
    have hchannel' : t.channel c' = ⟨ctl', cmd.toList ++ (s.issuedFor c').reverse⟩ := by
      rw [channel, hcontroller, if_pos rfl, hsent, hcommand, List.reverse_append]
      cases cmd <;> rfl
    have hnext' := ChannelRun.next_of_step hstep'
    rw [run_singleton, WorkerRun.next_of_work hnext', worker, worker, hchannel', hchannel]
  · have hother : (List.filter (fun p => decide (p.1 = c))
        (cmd.map (Prod.mk c')).toList).map Prod.snd = [] := by
      cases cmd <;> simp [hc]
    rw [hother, List.append_nil] at hsent
    rw [worker_of_eq _ hsent]
    · rfl
    · rw [hcontroller, if_neg (Ne.symm hc)]

/-- A step of a thread in `handleRWError` is nothing for a worker, or ends it. -/
theorem run_seen_thread {info : SwitchInfo} {s t : SwitchRun} (h : Inv info s) (c : UInt16)
    {i : Option UInt16} {free : Bool} (hnext : next info s (.handler (.thread i free)) = some t) :
  run (WorkerRun.next info.type) (s.worker c) (seen c s (.handler (.thread i free)))
    = some (t.worker c)
  := by
  obtain ⟨hkept, -, houtside, ⟨hnot, hctl⟩ | ⟨c', rfl, hthrows, -, hctl⟩⟩ := next_thread hnext
  · have hnothing : seen c s (.handler (.thread i free)) = [] := by
      cases i with
      | none => rfl
      | some c' =>
          rw [seen, if_neg]
          rintro ⟨rfl, hthrows⟩
          apply hnot c' rfl hthrows
    rw [hnothing, worker_of_eq (hctl c) (issuedFor_of_eq hkept.issued_eq c)]
    rfl
  · rw [seen]
    by_cases hc : c' = c
    · subst hc
      obtain ⟨ctl, hfind, hsend⟩ := h.sending c' (houtside c' rfl)
      have hchannel := channel_of_controller hfind
      have hctl' : t.controller c' = some ctl.endThread := by
        rw [hctl, if_pos rfl, hfind]
        rfl
      rw [if_pos ⟨rfl, hthrows⟩, run_singleton, worker, worker, hchannel,
        channel_of_controller hctl', issuedFor_of_eq hkept.issued_eq, WorkerRun.next, if_pos hsend]
    · rw [if_neg (fun hseen => hc hseen.1),
        worker_of_eq (by rw [hctl, if_neg (Ne.symm hc)]) (issuedFor_of_eq hkept.issued_eq c)]
      rfl

/-- A step in service is, for each channel, a step of its worker, a task for it, or
nothing. -/
theorem run_seen {info : SwitchInfo} {s t : SwitchRun} (h : Inv info s) (c : UInt16) :
    ∀ {a : Action}, InService s a → next info s a = some t →
      run (WorkerRun.next info.type) (s.worker c) (seen c s a) = some (t.worker c)
  | .request req error free, hok, hnext => by
      have hctl := controller_request hok hnext c
      have hissued : t.issuedFor c = s.issuedFor c := by
        obtain rfl := Option.some.inj hnext
        rfl
      rw [seen]
      split_ifs at hctl ⊢ with hserves
      · rw [run_singleton, WorkerRun.next_of_addTask info.type rfl, worker, worker,
          channel_of_controller hctl, hissued]
        rfl
      · rw [worker_of_eq hctl hissued]
        rfl
  | .handler (.work _ _), _, hnext => run_seen_work h c hnext
  | .handler (.thread _ _), _, hnext => run_seen_thread h c hnext
  | .handler (.timer error), _, hnext => by
      obtain ⟨hkept, -, hctl⟩ := next_timer hnext
      rw [worker_of_eq (hctl c) (issuedFor_of_eq hkept.issued_eq c)]
      rfl
  | .handler .close, hok, _ => absurd hok not_false
  | .destroy, hok, _ => absurd hok not_false

/-- A worker in `sendData` stays there when a task is added. -/
theorem inSendData_addTask {ctl : DoorSwitchChannelController}
    (h : WorkerRun.inSendData ctl.pc = true) (task : DoorSwitchOpenNotification) :
  WorkerRun.inSendData (ctl.addTask task).pc = true
  := by
  have hpc : ctl.pc ≠ .parked := by
    intro hpc
    rw [hpc] at h
    cases h
  rw [addTask, if_neg hpc]
  apply h

theorem Inv.request {info : SwitchInfo} {s t : SwitchRun} (h : Inv info s)
    {req : OpenDoorRequest} {error free : Bool} (hok : InService s (.request req error free))
    (hnext : next info s (.request req error free) = some t) :
  Inv info t
  := by
  have hctl := controller_request hok hnext
  have hissued : ∀ c, t.issuedFor c = s.issuedFor c := by
    obtain rfl := Option.some.inj hnext
    intro c
    rfl
  have hthread : t.threads = s.threads := by
    obtain rfl := Option.some.inj hnext
    rfl
  constructor
  · intro handler hhandler
    apply m_switchInfo_request h.m_switchInfo_eq hnext hhandler
  · intro c ctl hfind
    rw [hctl] at hfind
    split_ifs at hfind
    · obtain rfl := Option.some.inj hfind
      rw [m_channel_addTask, h.channel_m_channel]
    · apply h.m_channel_eq c ctl hfind
  · intro c hfind
    rw [hctl] at hfind
    split_ifs at hfind
    rw [hissued]
    apply h.issuedFor_eq c hfind
  · intro c hne
    rw [hthread] at hne
    obtain ⟨ctl, hfind, hsend⟩ := h.sending c hne
    rw [hctl, channel_of_controller hfind, hfind]
    split_ifs
    · exact ⟨_, rfl, inSendData_addTask hsend _⟩
    · exact ⟨ctl, rfl, hsend⟩

theorem Inv.work {info : SwitchInfo} {s t : SwitchRun} (h : Inv info s) {c : UInt16}
    {elapsed : Int64} (hnext : next info s (.handler (.work c elapsed)) = some t) :
  Inv info t
  := by
  obtain ⟨ctl, ctl', cmd, hctl, hstep, hcontroller, hissued, hinfo, hothers, hthread⟩ :=
    next_work h.m_switchInfo_eq hnext
  constructor
  · apply hinfo
  · intro c' ctl'' hfind
    rw [hcontroller] at hfind
    split_ifs at hfind with hc
    · obtain rfl := Option.some.inj hfind
      rw [hstep.kept.1, hc, h.m_channel_eq c ctl hctl]
    · apply h.m_channel_eq c' ctl'' hfind
  · intro c' hfind
    rw [hcontroller] at hfind
    split_ifs at hfind with hc
    rw [issuedFor_append hissued, h.issuedFor_eq c' hfind, h.m_channel_eq c ctl hctl]
    cases cmd <;> simp [Ne.symm hc]
  · intro c' hne
    rw [hcontroller]
    split_ifs with hc
    · subst hc
      exact ⟨ctl', rfl, hthread hne⟩
    · rw [hothers c' hc] at hne
      apply h.sending c' hne

theorem Inv.thread {info : SwitchInfo} {s t : SwitchRun} (h : Inv info s)
    {i : Option UInt16} {free : Bool} (hnext : next info s (.handler (.thread i free)) = some t) :
  Inv info t
  := by
  obtain ⟨hkept, hothers, houtside, ⟨-, hctl⟩ | ⟨c', rfl, -, hended, hctl⟩⟩ := next_thread hnext
  · constructor
    · apply hkept.m_switchInfo_eq info h.m_switchInfo_eq
    · intro c ctl hfind
      rw [hctl] at hfind
      apply h.m_channel_eq c ctl hfind
    · intro c hfind
      rw [hctl] at hfind
      rw [issuedFor_of_eq hkept.issued_eq, h.issuedFor_eq c hfind]
    · intro c hne
      rw [hctl]
      apply h.sending c
      by_cases hc : i = some c
      · apply houtside c hc
      · rw [← hothers (some c) (Ne.symm hc)]
        apply hne
  · constructor
    · apply hkept.m_switchInfo_eq info h.m_switchInfo_eq
    · intro c ctl hfind
      rw [hctl] at hfind
      split_ifs at hfind with hc
      · obtain ⟨ctl₀, hctl₀, rfl⟩ := Option.map_eq_some_iff.mp hfind
        rw [hc]
        apply h.m_channel_eq c' ctl₀ hctl₀
      · apply h.m_channel_eq c ctl hfind
    · intro c hfind
      rw [issuedFor_of_eq hkept.issued_eq]
      apply h.issuedFor_eq c
      rw [hctl] at hfind
      split_ifs at hfind with hc
      · rw [hc]
        apply Option.map_eq_none_iff.mp hfind
      · apply hfind
    · intro c hne
      by_cases hc : c = c'
      · rw [hc] at hne
        apply absurd hended hne
      · rw [hctl, if_neg hc]
        apply h.sending c
        rw [← hothers (some c) (fun heq => hc (Option.some.inj heq))]
        apply hne

theorem Inv.timer {info : SwitchInfo} {s t : SwitchRun} (h : Inv info s) {error : Bool}
    (hnext : next info s (.handler (.timer error)) = some t) :
  Inv info t
  := by
  obtain ⟨hkept, hthread, hctl⟩ := next_timer hnext
  constructor
  · apply hkept.m_switchInfo_eq info h.m_switchInfo_eq
  · intro c ctl hfind
    rw [hctl] at hfind
    apply h.m_channel_eq c ctl hfind
  · intro c hfind
    rw [hctl] at hfind
    rw [issuedFor_of_eq hkept.issued_eq, h.issuedFor_eq c hfind]
  · intro c hne
    rw [hthread] at hne
    rw [hctl]
    apply h.sending c hne

theorem Inv.step {info : SwitchInfo} {s t : SwitchRun} (h : Inv info s) :
    ∀ {a : Action}, InService s a → next info s a = some t → Inv info t
  | .request _ _ _, hok, hnext => h.request hok hnext
  | .handler (.work _ _), _, hnext => h.work hnext
  | .handler (.thread _ _), _, hnext => h.thread hnext
  | .handler (.timer _), _, hnext => h.timer hnext
  | .handler .close, hok, _ => absurd hok not_false
  | .destroy, hok, _ => absurd hok not_false

/-- Every run of a switch in service is, for each channel, a run of the channel's worker
alone. -/
theorem run_worker (info : SwitchInfo) (c : UInt16) {as : List Action} {t : SwitchRun}
    (hok : Meets (next info) InService {} as) (hrun : run (next info) {} as = some t) :
  run (WorkerRun.next info.type) (WorkerRun.initial c) (trace (next info) (seen c) {} as)
    = some (t.worker c)
  := by
  have hstep : ∀ (s : SwitchRun) a t, Inv info s → InService s a → next info s a = some t →
      run (WorkerRun.next info.type) (s.worker c) (seen c s a) = some (t.worker c) :=
    fun s a t hs ha hnext => run_seen hs c ha hnext
  apply run_trace hstep _ (Inv.initial info) hok hrun
  intro s a t hs ha hnext
  apply hs.step ha hnext

end SwitchRun

end DoorSwitchSvr
