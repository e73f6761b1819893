import DoorSwitchSvr.Handler
import Mathlib.Data.String.Basic

/-!
# The engine

`DoorSwitchEngine` receives the requests to open doors and passes each to the handler of
its switch, which it creates and connects at the first request.

`onRecvMqttMessage` is given the outcome `error` of the connection attempt that it may
make, and whether the pool has a thread `free` for the timer that it may start.  It returns
the engine after the message, the calls it has made on handlers, each with the key of the
handler, and whether an exception has left it.

Two functions of libraries are parameters.

* `parse`: the request in a message, or `none` when parsing it throws.
* `from_string`: whether the text is the literal of an address, which the constructor of
  the handler needs to be; otherwise it throws.
-/

namespace DoorSwitchSvr

/-- A request to open a door. -/
structure OpenDoorRequest where
  m_strSwitchId : String
  m_channel : Int32
  m_closeAfter : Int32
  deriving DecidableEq, Repr

/-- The configured switches, each under its own id. -/
structure SvrCfg where
  m_mapOidSwitchInfo : OrdMap String SwitchInfo
  oid_of_find : ∀ oid info, m_mapOidSwitchInfo.find oid = some info → info.oid = oid

/-- Whether a request may name the channel: `channel` is positive and at most `channels`,
both as `int`. -/
def SwitchInfo.supportsChannel (info : SwitchInfo) (channel : Int32) : Bool :=
  ¬ (channel ≤ 0 ∨ (info.channels.toNat : Int) < channel.toInt)

/-- A call that the engine makes on the handler of a switch. -/
inductive HandlerCall where
  | create (info : SwitchInfo)
  | connect (error free : Bool)
  | openDoor (channel : Int16) (closeAfterMs : Int32)
  deriving DecidableEq, Repr

/-- The call for a request. -/
def OpenDoorRequest.call (req : OpenDoorRequest) : HandlerCall :=
  .openDoor req.m_channel.toInt16 req.m_closeAfter

/-- What a call does to the handler of a switch, which is `none` before it is created. -/
def HandlerCall.run : HandlerCall → Option DoorSwitchHandler → Option DoorSwitchHandler
  | .create info, none => some { m_switchInfo := info }
  | .create _, some h => some h
  | .connect error free, h => h.map (fun h => (h.connect error free).1)
  | .openDoor channel closeAfterMs, h => h.map (fun h => (h.openDoor channel closeAfterMs).1)

structure DoorSwitchEngine where
  m_config : SvrCfg
  m_mapOidSwitchHandler : OrdMap String DoorSwitchHandler := .empty

/-- What a message leads to. -/
structure Received where
  engine : DoorSwitchEngine
  calls : List (String × HandlerCall)
  thrown : Bool

namespace DoorSwitchEngine

/-- The engine with a handler added for the switch, or `none` when the constructor of the
handler throws. -/
def createSwitchHandler (from_string : String → Bool) (engine : DoorSwitchEngine)
    (info : SwitchInfo) : Option DoorSwitchEngine :=
  if from_string info.ip then
    some { engine with
      m_mapOidSwitchHandler :=
        engine.m_mapOidSwitchHandler.insert info.oid { m_switchInfo := info } }
  else none

/-- The engine with the handler under a key replaced. -/
def setHandler (engine : DoorSwitchEngine) (oid : String) (h : DoorSwitchHandler) :
    DoorSwitchEngine :=
  { engine with
    m_mapOidSwitchHandler := engine.m_mapOidSwitchHandler.modify oid (fun _ => h) }

def onRecvMqttMessage (parse : String → Option OpenDoorRequest) (from_string : String → Bool)
    (engine : DoorSwitchEngine) (message : String) (error free : Bool) : Received :=
  match parse message with
  | none => ⟨engine, [], false⟩
  | some req =>
      match engine.m_config.m_mapOidSwitchInfo.find req.m_strSwitchId with
      | none => ⟨engine, [], false⟩
      | some info =>
          if ¬ info.supportsChannel req.m_channel then ⟨engine, [], false⟩
          else
            let channel := req.m_channel.toInt16
            match engine.m_mapOidSwitchHandler.find req.m_strSwitchId with
            | none =>
                match engine.createSwitchHandler from_string info with
                | none => ⟨engine, [], true⟩
                | some engine =>
                    -- the handler is looked up as the last one
                    match engine.m_mapOidSwitchHandler.crbegin with
                    | none => ⟨engine, [(info.oid, .create info)], false⟩
                    | some (oid, h) =>
                        let calls := [(info.oid, .create info), (oid, .connect error free)]
                        match h.connect error free with
                        | (h, none) => ⟨engine.setHandler oid h, calls, true⟩
                        | (h, some false) => ⟨engine.setHandler oid h, calls, false⟩
                        | (h, some true) =>
                            let (h, _) := h.openDoor channel req.m_closeAfter
                            ⟨engine.setHandler oid h,
                              calls ++ [(oid, .openDoor channel req.m_closeAfter)], false⟩
            | some h =>
                let (h, _) := h.openDoor channel req.m_closeAfter
                ⟨engine.setHandler req.m_strSwitchId h,
                  [(req.m_strSwitchId, .openDoor channel req.m_closeAfter)], false⟩

/-! ### Accepted requests -/

/-- The request in a message, with its switch, when the message parses, names a configured
switch, and asks for one of its channels. -/
def acceptedRequest (parse : String → Option OpenDoorRequest) (config : SvrCfg)
    (message : String) : Option (OpenDoorRequest × SwitchInfo) :=
  (parse message).bind (fun req =>
    (config.m_mapOidSwitchInfo.find req.m_strSwitchId).bind (fun info =>
      if info.supportsChannel req.m_channel then some (req, info) else none))

variable {parse : String → Option OpenDoorRequest} {from_string : String → Bool}
  {engine : DoorSwitchEngine} {message : String} {req : OpenDoorRequest} {info : SwitchInfo}

theorem acceptedRequest_eq_some {config : SvrCfg} :
  acceptedRequest parse config message = some (req, info)
    ↔ parse message = some req
      ∧ config.m_mapOidSwitchInfo.find req.m_strSwitchId = some info
      ∧ info.supportsChannel req.m_channel
  := by
  rw [acceptedRequest, Option.bind_eq_some_iff]
  constructor
  · rintro ⟨req', hparse, hbind⟩
    obtain ⟨info', hfind, hif⟩ := Option.bind_eq_some_iff.mp hbind
    split_ifs at hif with hchannel
    obtain ⟨rfl, rfl⟩ := Prod.mk.inj (Option.some.inj hif)
    exact ⟨hparse, hfind, hchannel⟩
  · rintro ⟨hparse, hfind, hchannel⟩
    use req, hparse
    rw [hfind, Option.bind_some, if_pos hchannel]

theorem acceptedRequest_oid {config : SvrCfg}
    (h : acceptedRequest parse config message = some (req, info)) :
  info.oid = req.m_strSwitchId
  := by
  obtain ⟨-, hfind, -⟩ := acceptedRequest_eq_some.mp h
  apply config.oid_of_find _ _ hfind

/-- A message that is not accepted does nothing. -/
theorem onRecvMqttMessage_rejected (h : acceptedRequest parse engine.m_config message = none)
    (error free : Bool) :
  engine.onRecvMqttMessage parse from_string message error free = ⟨engine, [], false⟩
  := by
  rw [onRecvMqttMessage]
  cases hparse : parse message with
  | none => rfl
  | some req =>
      cases hfind : engine.m_config.m_mapOidSwitchInfo.find req.m_strSwitchId with
      | none => simp only [hfind]
      | some info =>
          simp only [hfind]
          rw [if_pos]
          intro hchannel
          have hsome := acceptedRequest_eq_some.mpr ⟨hparse, hfind, hchannel⟩
          rw [h] at hsome
          cases hsome

/-- A request for a switch that has a handler is passed to it. -/
theorem onRecvMqttMessage_known
    (h : acceptedRequest parse engine.m_config message = some (req, info))
    {handler : DoorSwitchHandler}
    (hfind : engine.m_mapOidSwitchHandler.find req.m_strSwitchId = some handler)
    (error free : Bool) :
  engine.onRecvMqttMessage parse from_string message error free
    = ⟨engine.setHandler req.m_strSwitchId
          (handler.openDoor req.m_channel.toInt16 req.m_closeAfter).1,
        [(req.m_strSwitchId, .openDoor req.m_channel.toInt16 req.m_closeAfter)], false⟩
  := by
  obtain ⟨hparse, hinfo, hchannel⟩ := acceptedRequest_eq_some.mp h
  simp only [onRecvMqttMessage, hparse, hinfo, hchannel, not_true_eq_false, if_false, hfind]

/-- When the constructor of the handler throws, the message does nothing else. -/
theorem onRecvMqttMessage_thrown
    (h : acceptedRequest parse engine.m_config message = some (req, info))
    (hfind : engine.m_mapOidSwitchHandler.find req.m_strSwitchId = none)
    (hip : from_string info.ip = false) (error free : Bool) :
  engine.onRecvMqttMessage parse from_string message error free = ⟨engine, [], true⟩
  := by
  obtain ⟨hparse, hinfo, hchannel⟩ := acceptedRequest_eq_some.mp h
  simp only [onRecvMqttMessage, hparse, hinfo, hchannel, not_true_eq_false, if_false, hfind,
    createSwitchHandler, hip, Bool.false_eq_true]

/-- The calls that serve a first request with the handler `h`. -/
def servingCalls (req : OpenDoorRequest) (error free : Bool) (h : DoorSwitchHandler) :
    List HandlerCall :=
  .connect error free :: if (h.connect error free).2 = some true then [req.call] else []

/-- A handler after the calls that serve a first request. -/
def served (req : OpenDoorRequest) (error free : Bool) (h : DoorSwitchHandler) :
    DoorSwitchHandler :=
  if (h.connect error free).2 = some true then
    ((h.connect error free).1.openDoor req.m_channel.toInt16 req.m_closeAfter).1
  else (h.connect error free).1

theorem run_servingCalls (req : OpenDoorRequest) (error free : Bool) (h : DoorSwitchHandler) :
  (servingCalls req error free h).foldl (fun h call => call.run h) (some h)
    = some (served req error free h)
  := by
  rw [servingCalls, served]
  split_ifs <;> rfl

/-- A first request for a switch inserts a handler for it, and serves the request with the
last handler of the map.  When the attempt of that handler fails and the pool has no free
thread, an exception leaves `connect` and the message. -/
theorem onRecvMqttMessage_new
    (h : acceptedRequest parse engine.m_config message = some (req, info))
    (hfind : engine.m_mapOidSwitchHandler.find req.m_strSwitchId = none)
    (hip : from_string info.ip = true) {oid : String} {handler : DoorSwitchHandler}
    (hlast : (engine.m_mapOidSwitchHandler.insert info.oid { m_switchInfo := info }).crbegin
      = some (oid, handler)) (error free : Bool) :
  engine.onRecvMqttMessage parse from_string message error free
    = ⟨{ engine with
          m_mapOidSwitchHandler :=
            (engine.m_mapOidSwitchHandler.insert info.oid { m_switchInfo := info }).modify oid
              (fun _ => served req error free handler) },
        (info.oid, .create info) :: (servingCalls req error free handler).map (Prod.mk oid),
        (handler.connect error free).2.isNone⟩
  := by
  obtain ⟨hparse, hinfo, hchannel⟩ := acceptedRequest_eq_some.mp h
  simp only [onRecvMqttMessage, hparse, hinfo, hchannel, not_true_eq_false, if_false, hfind,
    createSwitchHandler, hip, if_true, hlast, served, servingCalls]
  split
  next h' hconnect => simp [hconnect, setHandler]
  next h' hconnect => simp [hconnect, setHandler]
  next h' hconnect => simp [hconnect, setHandler, OpenDoorRequest.call]

/-- After a handler has been inserted there is a last one. -/
theorem exists_crbegin_insert (engine : DoorSwitchEngine) (info : SwitchInfo) :
  ∃ oid h, (engine.m_mapOidSwitchHandler.insert info.oid { m_switchInfo := info }).crbegin
    = some (oid, h)
  := by
  have hkey : info.oid ∈ (engine.m_mapOidSwitchHandler.insert info.oid
      { m_switchInfo := info }).keys :=
    (OrdMap.mem_keys_insert _ _ _ _).mpr (Or.inr rfl)
  obtain ⟨⟨oid, h⟩, hlast⟩ := OrdMap.exists_crbegin hkey
  use oid, h, hlast

/-- What a message leads to, one constructor for each way through `onRecvMqttMessage`. -/
inductive Receives (parse : String → Option OpenDoorRequest) (from_string : String → Bool)
    (engine : DoorSwitchEngine) (message : String) (error free : Bool) : Received → Prop where
  | rejected (h : acceptedRequest parse engine.m_config message = none) :
      Receives parse from_string engine message error free ⟨engine, [], false⟩
  | known (req : OpenDoorRequest) (info : SwitchInfo) (handler : DoorSwitchHandler)
      (h : acceptedRequest parse engine.m_config message = some (req, info))
      (hfind : engine.m_mapOidSwitchHandler.find req.m_strSwitchId = some handler) :
      Receives parse from_string engine message error free
        ⟨engine.setHandler req.m_strSwitchId
            (handler.openDoor req.m_channel.toInt16 req.m_closeAfter).1,
          [(req.m_strSwitchId, .openDoor req.m_channel.toInt16 req.m_closeAfter)], false⟩
  | thrown (req : OpenDoorRequest) (info : SwitchInfo)
      (h : acceptedRequest parse engine.m_config message = some (req, info))
      (hfind : engine.m_mapOidSwitchHandler.find req.m_strSwitchId = none)
      (hip : from_string info.ip = false) :
      Receives parse from_string engine message error free ⟨engine, [], true⟩
  | created (req : OpenDoorRequest) (info : SwitchInfo) (oid : String)
      (handler : DoorSwitchHandler)
      (h : acceptedRequest parse engine.m_config message = some (req, info))
      (hfind : engine.m_mapOidSwitchHandler.find req.m_strSwitchId = none)
      (hip : from_string info.ip = true)
      (hlast : (engine.m_mapOidSwitchHandler.insert info.oid { m_switchInfo := info }).crbegin
        = some (oid, handler)) :
      Receives parse from_string engine message error free
        ⟨{ engine with
            m_mapOidSwitchHandler :=
              (engine.m_mapOidSwitchHandler.insert info.oid { m_switchInfo := info }).modify oid
                (fun _ => served req error free handler) },
          (info.oid, .create info) :: (servingCalls req error free handler).map (Prod.mk oid),
          (handler.connect error free).2.isNone⟩

/-- `Receives` says what `onRecvMqttMessage` does. -/
theorem receives (parse : String → Option OpenDoorRequest) (from_string : String → Bool)
    (engine : DoorSwitchEngine) (message : String) (error free : Bool) :
  Receives parse from_string engine message error free
    (engine.onRecvMqttMessage parse from_string message error free)
  := by
  cases h : acceptedRequest parse engine.m_config message with
  | none =>
      rw [onRecvMqttMessage_rejected h]
      apply Receives.rejected h
  | some x =>
      obtain ⟨req, info⟩ := x
      cases hfind : engine.m_mapOidSwitchHandler.find req.m_strSwitchId with
      | some handler =>
          rw [onRecvMqttMessage_known h hfind]
          apply Receives.known req info handler h hfind
      | none =>
          cases hip : from_string info.ip with
          | false =>
              rw [onRecvMqttMessage_thrown h hfind hip]
              apply Receives.thrown req info h hfind hip
          | true =>
              obtain ⟨oid, handler, hlast⟩ := exists_crbegin_insert engine info
              rw [onRecvMqttMessage_new h hfind hip hlast]
              apply Receives.created req info oid handler h hfind hip hlast

/-- The configuration stays as it is. -/
theorem Receives.m_config_eq {message : String} {error free : Bool} {r : Received}
    (h : Receives parse from_string engine message error free r) :
  r.engine.m_config = engine.m_config
  := by
  cases h <;> rfl

/-- The calls on the handler under a key. -/
def callsOn (oid : String) (calls : List (String × HandlerCall)) : List HandlerCall :=
  (calls.filter (fun x => x.1 = oid)).map Prod.snd

theorem callsOn_map_self (oid : String) (calls : List HandlerCall) :
  callsOn oid (calls.map (Prod.mk oid)) = calls
  := by
  simp [callsOn, List.filter_map, Function.comp_def]

theorem callsOn_map_of_ne {oid oid' : String} (h : oid' ≠ oid) (calls : List HandlerCall) :
  callsOn oid' (calls.map (Prod.mk oid)) = []
  := by
  simp [callsOn, h.symm]

theorem callsOn_append (oid : String) (calls calls' : List (String × HandlerCall)) :
  callsOn oid (calls ++ calls') = callsOn oid calls ++ callsOn oid calls'
  := by
  simp [callsOn]

theorem run_create {m : OrdMap String DoorSwitchHandler} {info : SwitchInfo}
    (h : m.find info.oid = none) (oid : String) :
  (callsOn oid [(info.oid, .create info)]).foldl (fun h call => call.run h) (m.find oid)
    = (m.insert info.oid { m_switchInfo := info }).find oid
  := by
  rcases eq_or_ne oid info.oid with rfl | hne
  · rw [OrdMap.find_insert_self _ h, h]
    simp [callsOn, HandlerCall.run]
  · rw [OrdMap.find_insert_of_ne _ _ hne]
    simp [callsOn, hne.symm]

theorem run_served {m : OrdMap String DoorSwitchHandler} {e : String × DoorSwitchHandler}
    (h : m.find e.1 = some e.2) (req : OpenDoorRequest) (error free : Bool) (oid : String) :
  (callsOn oid ((servingCalls req error free e.2).map (Prod.mk e.1))).foldl
      (fun h call => call.run h) (m.find oid)
    = (m.modify e.1 (fun _ => served req error free e.2)).find oid
  := by
  rcases eq_or_ne oid e.1 with rfl | hne
  · rw [callsOn_map_self, h, run_servingCalls, OrdMap.find_modify_self, h]
    rfl
  · rw [callsOn_map_of_ne hne, OrdMap.find_modify_of_ne _ _ hne]
    rfl

/-- What a message does to a handler is what its calls on the handler do. -/
theorem find_onRecvMqttMessage (engine : DoorSwitchEngine) (message : String) (error free : Bool)
    (oid : String) :
  (engine.onRecvMqttMessage parse from_string message error
      free).engine.m_mapOidSwitchHandler.find oid
    = (callsOn oid (engine.onRecvMqttMessage parse from_string message error free).calls).foldl
        (fun h call => call.run h) (engine.m_mapOidSwitchHandler.find oid)
  := by
  have hreceives := receives parse from_string engine message error free
  generalize engine.onRecvMqttMessage parse from_string message error free = r at hreceives ⊢
  cases hreceives with
  | rejected h => rfl
  | thrown req info h hfind hip => rfl
  | known req info handler h hfind =>
      simp only [setHandler, OrdMap.find_modify, callsOn]
      rcases eq_or_ne oid req.m_strSwitchId with rfl | hne
      · simp [hfind, HandlerCall.run]
      · simp [hne, hne.symm]
  | created req info oid' handler h hfind hip hlast =>
      rw [← acceptedRequest_oid h] at hfind
      obtain ⟨hfind', -⟩ := OrdMap.crbegin_spec hlast
      simp only
      rw [← List.singleton_append, callsOn_append, List.foldl_append, run_create hfind,
        run_served hfind']

end DoorSwitchEngine

end DoorSwitchSvr
