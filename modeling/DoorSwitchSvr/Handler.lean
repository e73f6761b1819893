import DoorSwitchSvr.ChannelController
import DoorSwitchSvr.Connection
import DoorSwitchSvr.Lib.OrdMap

/-!
# The switch handler

`DoorSwitchHandler` controls one switch.  It keeps the controllers of the channels in an
ordered map, and `openDoor` gives each task to the controller of its channel, which it
creates at the first request.

The new controller is inserted into the map and then looked up as its last entry
(`crbegin`), which it is only if its channel is above all those in the map.  When it is not,
another channel's controller is initialised again for the new channel and given its task
(`misrouted`).
-/

namespace DoorSwitchSvr

open Transition DoorSwitchChannelController

/-- The handler of one switch, with its connection and its controllers. -/
structure DoorSwitchHandler where
  m_switchInfo : SwitchInfo
  conn : Connection := {}
  m_mapControllers : OrdMap UInt16 DoorSwitchChannelController := .empty

namespace DoorSwitchHandler

def connect (h : DoorSwitchHandler) (error free : Bool) : DoorSwitchHandler × Option Bool :=
  ({ h with conn := (h.conn.connect error free).1 }, (h.conn.connect error free).2)

/-- A request to open the door of a channel.  The key of its controller is the channel
converted to `unsigned short`. -/
def openDoor (h : DoorSwitchHandler) (channel : Int16) (closeAfterMs : Int32) :
    DoorSwitchHandler × ERR_CODE :=
  if h.conn.m_isConnected then
    match h.m_mapControllers.find channel.toUInt16 with
    | none =>
        let m := h.m_mapControllers.insert channel.toUInt16 {}
        let init := fun ctl : DoorSwitchChannelController =>
          ctl.Init channel.toUInt16 .handleRWError
        if m.crbegin.any (fun e => (init e.2).2 ≠ .ERR_OK) then
          ({ h with m_mapControllers := m.modifyLast (fun ctl => (init ctl).1) },
            .ERR_CHANNEL_NOT_INITIALIZED)
        else
          let m := m.modifyLast (fun ctl => (init ctl).1)
          let m := m.modifyLast (fun ctl => ctl.Start)
          let m := m.modifyLast (fun ctl => ctl.addTask ⟨closeAfterMs⟩)
          ({ h with m_mapControllers := m }, .ERR_OK)
    | some _ =>
        ({ h with
            m_mapControllers :=
              h.m_mapControllers.modify channel.toUInt16 (fun ctl => ctl.addTask ⟨closeAfterMs⟩) },
          .ERR_OK)
  else (h, .ERR_SWITCH_NOT_CONN)

/-- A step of the worker of the controller under the key `c`, and the command it sends in
it, if any, with the channel it sends it for. -/
def work (h : DoorSwitchHandler) (c : UInt16) (elapsed : Int64) :
    Option (DoorSwitchHandler × Option (UInt16 × DoorCommand)) :=
  (h.m_mapControllers.find c).bind (fun ctl =>
    (ctl.runStep h.m_switchInfo.type elapsed).map (fun x =>
      ({ h with m_mapControllers := h.m_mapControllers.modify c (fun _ => x.1) },
        x.2.map (Prod.mk ctl.m_channel))))

/-! ### Requests -/

/-- A controller initialised for the channel `c`, started, and given a task. -/
def enlist (c : UInt16) (task : DoorSwitchOpenNotification) (ctl : DoorSwitchChannelController) :
    DoorSwitchChannelController :=
  (ctl.Init c .handleRWError).1.Start.addTask task

/-- A request to a handler that is not connected changes nothing. -/
theorem openDoor_disconnected {h : DoorSwitchHandler} (hconn : h.conn.m_isConnected = false)
    (channel : Int16) (closeAfterMs : Int32) :
  h.openDoor channel closeAfterMs = (h, .ERR_SWITCH_NOT_CONN)
  := by
  rw [openDoor, hconn, if_neg Bool.false_ne_true]

/-- A request for a channel that has a controller adds a task to it. -/
theorem openDoor_found {h : DoorSwitchHandler} (hconn : h.conn.m_isConnected = true)
    {channel : Int16} {ctl : DoorSwitchChannelController}
    (hfind : h.m_mapControllers.find channel.toUInt16 = some ctl) (closeAfterMs : Int32) :
  h.openDoor channel closeAfterMs
    = ({ h with
          m_mapControllers :=
            h.m_mapControllers.modify channel.toUInt16 (fun ctl => ctl.addTask ⟨closeAfterMs⟩) },
        .ERR_OK)
  := by
  rw [openDoor, if_pos hconn, hfind]

/-- A request for a channel without a controller inserts one, and enlists the last one. -/
theorem openDoor_new {h : DoorSwitchHandler} (hconn : h.conn.m_isConnected = true)
    {channel : Int16} (hfind : h.m_mapControllers.find channel.toUInt16 = none)
    (closeAfterMs : Int32) :
  h.openDoor channel closeAfterMs
    = ({ h with
          m_mapControllers :=
            (h.m_mapControllers.insert channel.toUInt16 {}).modifyLast
              (enlist channel.toUInt16 ⟨closeAfterMs⟩) },
        .ERR_OK)
  := by
  rw [openDoor, if_pos hconn, hfind]
  simp only [Init, ne_eq, not_true_eq_false, decide_false, Option.any_false,
    Bool.false_eq_true, if_false, OrdMap.modifyLast_modifyLast]
  rfl

@[simp]
theorem m_isConnected_openDoor (h : DoorSwitchHandler) (channel : Int16) (closeAfterMs : Int32) :
  (h.openDoor channel closeAfterMs).1.conn.m_isConnected = h.conn.m_isConnected
  := by
  cases hconn : h.conn.m_isConnected with
  | false => rw [openDoor_disconnected hconn, hconn]
  | true =>
      cases hfind : h.m_mapControllers.find channel.toUInt16 with
      | none => rw [openDoor_new hconn hfind, hconn]
      | some ctl => rw [openDoor_found hconn hfind, hconn]

theorem work_eq_some {h h' : DoorSwitchHandler} {c : UInt16} {elapsed : Int64}
    {sent : Option (UInt16 × DoorCommand)} (hwork : h.work c elapsed = some (h', sent)) :
  ∃ ctl ctl' cmd, h.m_mapControllers.find c = some ctl
    ∧ RunStep h.m_switchInfo.type elapsed ctl ctl' cmd
    ∧ sent = cmd.map (Prod.mk ctl.m_channel)
    ∧ h' = { h with m_mapControllers := h.m_mapControllers.modify c (fun _ => ctl') }
  := by
  obtain ⟨ctl, hfind, hmap⟩ := Option.bind_eq_some_iff.mp hwork
  obtain ⟨⟨ctl', cmd⟩, hstep, heq⟩ := Option.map_eq_some_iff.mp hmap
  obtain ⟨rfl, rfl⟩ := Prod.mk.inj heq
  exact ⟨ctl, ctl', cmd, hfind, runStep_eq_some hstep, rfl, rfl⟩

/-- The controllers after a request for a channel above all those in the map: the new one
is enlisted, and the others are as they were. -/
theorem find_openDoor_of_above {h : DoorSwitchHandler} (hconn : h.conn.m_isConnected = true)
    {channel : Int16} (hfind : h.m_mapControllers.find channel.toUInt16 = none)
    (habove : ∀ k ∈ h.m_mapControllers.keys, k < channel.toUInt16) (closeAfterMs : Int32)
    (c : UInt16) :
  (h.openDoor channel closeAfterMs).1.m_mapControllers.find c
    = if c = channel.toUInt16 then some (enlist channel.toUInt16 ⟨closeAfterMs⟩ {})
      else h.m_mapControllers.find c
  := by
  have hlast := OrdMap.crbegin_insert_of_above ({} : DoorSwitchChannelController) habove
  rw [openDoor_new hconn hfind, OrdMap.modifyLast_of_crbegin _ hlast]
  simp only [OrdMap.find_modify]
  split_ifs with hc
  · rw [OrdMap.find_insert_self _ hfind]
    rfl
  · rw [OrdMap.find_insert_of_ne _ _ hc]

/-- The controllers after a request for a new channel that is not above those in the map:
some other channel's controller has been enlisted for it. -/
theorem misrouted {h : DoorSwitchHandler} (hconn : h.conn.m_isConnected = true)
    {channel : Int16} (hfind : h.m_mapControllers.find channel.toUInt16 = none)
    (habove : ¬ ∀ k ∈ h.m_mapControllers.keys, k < channel.toUInt16) (closeAfterMs : Int32) :
  ∃ c ctl, c ≠ channel.toUInt16 ∧ h.m_mapControllers.find c = some ctl
    ∧ (h.openDoor channel closeAfterMs).1.m_mapControllers.find c
      = some (enlist channel.toUInt16 ⟨closeAfterMs⟩ ctl)
  := by
  obtain ⟨e, hlast, hfind', hlt⟩ :=
    OrdMap.crbegin_insert_of_not_above ({} : DoorSwitchChannelController) hfind habove
  use e.1, e.2, ne_of_gt hlt, hfind'
  rw [openDoor_new hconn hfind, OrdMap.modifyLast_of_crbegin _ hlast]
  simp only [OrdMap.find_modify_self]
  rw [OrdMap.find_insert_of_ne _ _ (ne_of_gt hlt), hfind']
  rfl

end DoorSwitchHandler

end DoorSwitchSvr
