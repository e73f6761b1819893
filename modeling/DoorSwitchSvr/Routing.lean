import DoorSwitchSvr.Handler
import DoorSwitchSvr.Lib.Transition

/-!
# The controllers of a connected handler

A run of requests to a handler that stays connected, with the workers of its controllers
taking steps in between.

`Routed` says that every controller is the one of its channel, is initialised and started,
and has been given exactly the tasks of its channel, in the order of the requests.
`Isolated` says of a step that it does not change another channel's controller.

A run keeps both exactly when every channel that is requested for the first time is above
the channels requested before it (`routed_iff`).
-/

namespace DoorSwitchSvr

open Transition DoorSwitchChannelController DoorSwitchHandler

/-- A handler, and the channels and tasks it has been called with. -/
structure HandlerRun where
  handler : DoorSwitchHandler
  calls : List (UInt16 × DoorSwitchOpenNotification)

namespace HandlerRun

/-- The next step is a request, or one of the worker of the controller under a key. -/
inductive Action where
  | openDoor (channel : Int16) (closeAfterMs : Int32)
  | work (c : UInt16) (elapsed : Int64)
  deriving DecidableEq

/-- The key of the controller that an action is about. -/
def Action.key : Action → UInt16
  | .openDoor channel _ => channel.toUInt16
  | .work c _ => c

/-- The state after an action. -/
def next (s : HandlerRun) : Action → Option HandlerRun
  | .openDoor channel closeAfterMs =>
      some ⟨(s.handler.openDoor channel closeAfterMs).1,
        s.calls ++ [(channel.toUInt16, ⟨closeAfterMs⟩)]⟩
  | .work c elapsed => (s.handler.work c elapsed).map (fun x => { s with handler := x.1 })

/-- A connected handler without controllers. -/
def initial (m_switchInfo : SwitchInfo) : HandlerRun :=
  ⟨{ m_switchInfo := m_switchInfo, conn := (({} : Connection).connect false true).1 }, []⟩

/-- The controller under a key. -/
def controller (s : HandlerRun) (c : UInt16) : Option DoorSwitchChannelController :=
  s.handler.m_mapControllers.find c

/-- The tasks of the calls for a channel, in their order. -/
def tasksOf (s : HandlerRun) (c : UInt16) : List DoorSwitchOpenNotification :=
  (s.calls.filter (fun x => x.1 = c)).map Prod.snd

/-! ### Routed requests -/

/-- A controller initialised for the channel `c`, started, and given the tasks `tasks`. -/
structure Serves (c : UInt16) (tasks : List DoorSwitchOpenNotification)
    (ctl : DoorSwitchChannelController) : Prop where
  channel : ctl.m_channel = c
  callback : ctl.m_handleRWErrorCbFunc = some .handleRWError
  started : ctl.pc ≠ .notStarted
  added : ctl.added = tasks

/-- Every controller serves the channel that it is the controller of, and a channel
without a controller has not been requested. -/
structure Routed (s : HandlerRun) : Prop where
  serves : ∀ c ctl, s.controller c = some ctl → Serves c (s.tasksOf c) ctl
  unrequested : ∀ c, s.controller c = none → s.tasksOf c = []

/-- The step leaves the controllers of the other channels as they are. -/
def Isolated (s : HandlerRun) (a : Action) (t : HandlerRun) : Prop :=
  ∀ c, c ≠ a.key → t.controller c = s.controller c

/-- The action is not the first request for a channel below one that has a controller. -/
def NewChannelAbove (s : HandlerRun) : Action → Prop
  | .openDoor channel _ =>
      s.controller channel.toUInt16 = none →
        ∀ k ∈ s.handler.m_mapControllers.keys, k < channel.toUInt16
  | .work _ _ => True

instance (s : HandlerRun) : (a : Action) → Decidable (NewChannelAbove s a)
  | .openDoor _ _ => inferInstanceAs (Decidable (_ → _))
  | .work _ _ => isTrue trivial

theorem tasksOf_call_self (s : HandlerRun) (h : DoorSwitchHandler) (c : UInt16)
    (task : DoorSwitchOpenNotification) :
  tasksOf ⟨h, s.calls ++ [(c, task)]⟩ c = s.tasksOf c ++ [task]
  := by
  simp [tasksOf]

theorem tasksOf_call_of_ne (s : HandlerRun) (h : DoorSwitchHandler) {c c' : UInt16}
    (task : DoorSwitchOpenNotification) (hne : c' ≠ c) :
  tasksOf ⟨h, s.calls ++ [(c, task)]⟩ c' = s.tasksOf c'
  := by
  simp [tasksOf, hne.symm]

theorem Serves.addTask {c : UInt16} {tasks : List DoorSwitchOpenNotification}
    {ctl : DoorSwitchChannelController} (h : Serves c tasks ctl)
    (task : DoorSwitchOpenNotification) :
  Serves c (tasks ++ [task]) (ctl.addTask task)
  := by
  constructor
  · rw [m_channel_addTask, h.channel]
  · rw [m_handleRWErrorCbFunc_addTask, h.callback]
  · apply addTask_started h.started
  · rw [added_addTask, h.added]

/-- A new controller that has been enlisted serves its channel. -/
theorem serves_enlist (c : UInt16) (task : DoorSwitchOpenNotification) :
  Serves c [task] (enlist c task {})
  := by
  have h : Serves c [] (Init {} c .handleRWError).1.Start := by
    constructor
    · rfl
    · rfl
    · apply Start_started
    · rfl
  apply h.addTask task

/-- Any controller that has been enlisted for a channel has that channel. -/
theorem m_channel_enlist (c : UInt16) (task : DoorSwitchOpenNotification)
    (ctl : DoorSwitchChannelController) :
  (enlist c task ctl).m_channel = c
  := by
  rw [enlist, m_channel_addTask, Start]
  split_ifs <;> rfl

/-! ### Steps -/

/-- What an action must do for the requests to stay routed: change only the controller of
its channel, to one that serves the channel's tasks. -/
theorem Routed.of_step {s t : HandlerRun} (h : Routed s) {c : UInt16}
    (hothers : ∀ c', c' ≠ c → t.controller c' = s.controller c' ∧ t.tasksOf c' = s.tasksOf c')
    (hself : ∃ ctl, t.controller c = some ctl ∧ Serves c (t.tasksOf c) ctl) :
  Routed t
  := by
  obtain ⟨ctl, hctl, hserves⟩ := hself
  constructor
  · intro c' ctl' hfind
    rcases eq_or_ne c' c with rfl | hne
    · obtain rfl := Option.some.inj (hctl.symm.trans hfind)
      apply hserves
    · obtain ⟨hcontroller, htasks⟩ := hothers c' hne
      rw [htasks]
      apply h.serves
      rw [← hcontroller, hfind]
  · intro c' hfind
    rcases eq_or_ne c' c with rfl | hne
    · rw [hctl] at hfind
      cases hfind
    · obtain ⟨hcontroller, htasks⟩ := hothers c' hne
      rw [htasks]
      apply h.unrequested
      rw [← hcontroller, hfind]

/-- A request for a channel above those in the map, or in the map, is routed. -/
theorem Routed.openDoor {s : HandlerRun} (h : Routed s)
    (hconn : s.handler.conn.m_isConnected = true) {channel : Int16} {closeAfterMs : Int32}
    (hok : NewChannelAbove s (.openDoor channel closeAfterMs)) {t : HandlerRun}
    (hnext : next s (.openDoor channel closeAfterMs) = some t) :
  Routed t ∧ Isolated s (.openDoor channel closeAfterMs) t
  := by
  obtain rfl := Option.some.inj hnext
  have hisolated : ∀ c, c ≠ channel.toUInt16 →
      (s.handler.openDoor channel closeAfterMs).1.m_mapControllers.find c
        = s.handler.m_mapControllers.find c := by
    intro c hne
    cases hfind : s.handler.m_mapControllers.find channel.toUInt16 with
    | none => rw [find_openDoor_of_above hconn hfind (hok hfind), if_neg hne]
    | some ctl =>
        rw [openDoor_found hconn hfind]
        apply OrdMap.find_modify_of_ne _ _ hne
  constructor
  · apply h.of_step
    · intro c hne
      constructor
      · apply hisolated c hne
      · apply tasksOf_call_of_ne _ _ _ hne
    · rw [tasksOf_call_self]
      cases hfind : s.handler.m_mapControllers.find channel.toUInt16 with
      | none =>
          use enlist channel.toUInt16 ⟨closeAfterMs⟩ {}
          constructor
          · rw [controller, find_openDoor_of_above hconn hfind (hok hfind), if_pos rfl]
          · rw [h.unrequested _ hfind]
            apply serves_enlist
      | some ctl =>
          use ctl.addTask ⟨closeAfterMs⟩
          constructor
          · rw [controller, openDoor_found hconn hfind, OrdMap.find_modify_self, hfind]
            rfl
          · apply (h.serves _ _ hfind).addTask
  · apply hisolated

/-- A request for a new channel below one in the map is not: the controller that is
enlisted for it is another channel's. -/
theorem not_routed_openDoor {s : HandlerRun} (hconn : s.handler.conn.m_isConnected = true)
    {channel : Int16} {closeAfterMs : Int32}
    (hok : ¬ NewChannelAbove s (.openDoor channel closeAfterMs)) {t : HandlerRun}
    (hnext : next s (.openDoor channel closeAfterMs) = some t) :
  ¬ Routed t
  := by
  obtain rfl := Option.some.inj hnext
  simp only [NewChannelAbove, Classical.not_imp] at hok
  obtain ⟨hfind, habove⟩ := hok
  obtain ⟨c, ctl, hne, -, hc⟩ := misrouted hconn hfind habove closeAfterMs
  intro h
  apply hne
  have hchannel := (h.serves c _ hc).channel
  rw [← hchannel, m_channel_enlist]

/-- A step of a worker leaves the requests routed. -/
theorem Routed.work {s : HandlerRun} (h : Routed s) {c : UInt16} {elapsed : Int64}
    {t : HandlerRun} (hnext : next s (.work c elapsed) = some t) :
  Routed t ∧ Isolated s (.work c elapsed) t
  := by
  obtain ⟨⟨handler, sent⟩, hwork, rfl⟩ := Option.map_eq_some_iff.mp hnext
  obtain ⟨ctl, ctl', cmd, hfind, hstep, -, rfl⟩ := work_eq_some hwork
  obtain ⟨hchannel, hcallback, -, hadded, hstarted⟩ := hstep.kept
  have hisolated : ∀ c', c' ≠ c →
      (s.handler.m_mapControllers.modify c (fun _ => ctl')).find c'
        = s.handler.m_mapControllers.find c' := by
    intro c' hne
    apply OrdMap.find_modify_of_ne _ _ hne
  constructor
  · apply h.of_step
    · intro c' hne
      constructor
      · apply hisolated c' hne
      · rfl
    · use ctl'
      constructor
      · rw [controller, OrdMap.find_modify_self, hfind]
        rfl
      · have hserves := h.serves c ctl hfind
        constructor
        · rw [hchannel, hserves.channel]
        · rw [hcallback, hserves.callback]
        · apply hstarted
        · rw [hadded, hserves.added]
          rfl
  · apply hisolated

/-! ### Runs -/

/-- The invariant of the runs: the handler is connected and its requests are routed. -/
def Inv (s : HandlerRun) : Prop := s.handler.conn.m_isConnected = true ∧ Routed s

theorem m_isConnected_next {s t : HandlerRun} :
    ∀ {a : Action}, next s a = some t →
      t.handler.conn.m_isConnected = s.handler.conn.m_isConnected
  | .openDoor channel closeAfterMs, hnext => by
      obtain rfl := Option.some.inj hnext
      apply m_isConnected_openDoor
  | .work c elapsed, hnext => by
      obtain ⟨⟨handler, sent⟩, hwork, rfl⟩ := Option.map_eq_some_iff.mp hnext
      obtain ⟨ctl, ctl', cmd, -, -, -, rfl⟩ := work_eq_some hwork
      rfl

/-- A step is routed exactly when it is not the first request for a channel below one that
has a controller. -/
theorem routed_step_iff {s : HandlerRun} (h : Inv s) :
    ∀ {a : Action} {t : HandlerRun}, next s a = some t →
      (Routed t ∧ Isolated s a t ↔ NewChannelAbove s a)
  | .openDoor channel closeAfterMs, t, hnext => by
      constructor
      · rintro ⟨ht, -⟩
        by_contra hok
        apply not_routed_openDoor h.1 hok hnext ht
      · intro hok
        apply h.2.openDoor h.1 hok hnext
  | .work c elapsed, t, hnext => by
      constructor
      · intro _
        trivial
      · intro _
        apply h.2.work hnext

theorem Inv.step {s : HandlerRun} {a : Action} {t : HandlerRun} (h : Inv s)
    (hok : NewChannelAbove s a) (hnext : next s a = some t) :
  Inv t
  := by
  constructor
  · rw [m_isConnected_next hnext, h.1]
  · apply ((routed_step_iff h hnext).mpr hok).1

theorem Inv.initial (m_switchInfo : SwitchInfo) :
  Inv (initial m_switchInfo)
  := by
  constructor
  · rfl
  · constructor
    · intro c ctl hfind
      cases hfind
    · intro c _
      rfl

/-- After every step of a run all requests are routed, and the step has not touched another
channel's controller, if and only if no channel is requested for the first time when there
is a controller of a greater one. -/
theorem routed_iff (m_switchInfo : SwitchInfo) (as : List Action) :
  Along next (fun s a t => Routed t ∧ Isolated s a t) (initial m_switchInfo) as
    ↔ Meets next NewChannelAbove (initial m_switchInfo) as
  := by
  apply along_iff_meets _ _ (Inv.initial m_switchInfo)
  · intro s a t hs hnext
    apply routed_step_iff hs hnext
  · intro s a t hs hok hnext
    apply hs.step hok hnext

/-- A switch with eight doors. -/
def eightDoors : SwitchInfo := ⟨"8", "127.0.0.1", 8, 10001, .DIRECT_CONTROL_SWITCH⟩

/-- When channel 3 is requested after channel 5, the requests are not routed. -/
theorem not_routed_descending :
  ¬ Along next (fun s a t => Routed t ∧ Isolated s a t) (initial eightDoors)
    [.openDoor 5 1000, .openDoor 3 1000]
  := by
  intro h
  obtain ⟨-, h⟩ := h _ rfl
  obtain ⟨⟨ht, -⟩, -⟩ := h _ rfl
  -- the controller under 5 has the channel 3
  have hchannel := (ht.serves 5 _ rfl).channel
  revert hchannel
  decide

end HandlerRun

end DoorSwitchSvr
