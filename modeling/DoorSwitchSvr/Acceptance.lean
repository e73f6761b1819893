import DoorSwitchSvr.ChannelNumbers
import DoorSwitchSvr.Isolation

/-!
# The acceptance of messages

`onRecvMqttMessage` rejects a message that does not parse, that names no configured switch,
or whose channel is not one of the switch.  It does so before it touches anything: rejected
messages can be inserted into the messages of a run without any effect
(`run_eq_of_inserts`).

The channel of an accepted request reaches `m_mapControllers` as an `int` converted to
`short` and then to `unsigned short`.  The key it becomes is the number of the channel
(`toNat_controllerChannel`), although a channel above 32767 is negative on the way.
-/

namespace DoorSwitchSvr

open Transition

/-! ### The key of a request -/

/-- A request for a connected handler uses the key `key` in its map of controllers: the key
is inserted when it is not there, and otherwise the controller under it is given the task,
and no other one. -/
structure UsesKey (key : UInt16) (closeAfterMs : Int32) (h h' : DoorSwitchHandler) : Prop where
  keys : ∀ k, k ∈ h'.m_mapControllers.keys ↔ k ∈ h.m_mapControllers.keys ∨ k = key
  found : ∀ ctl, h.m_mapControllers.find key = some ctl →
    h'.m_mapControllers.find key = some (ctl.addTask ⟨closeAfterMs⟩)
      ∧ ∀ k, k ≠ key → h'.m_mapControllers.find k = h.m_mapControllers.find k

theorem usesKey_openDoor {h : DoorSwitchHandler} (hconn : h.conn.m_isConnected = true)
    (channel : Int16) (closeAfterMs : Int32) :
  UsesKey channel.toUInt16 closeAfterMs h (h.openDoor channel closeAfterMs).1
  := by
  cases hfind : h.m_mapControllers.find channel.toUInt16 with
  | none =>
      rw [DoorSwitchHandler.openDoor_new hconn hfind]
      constructor
      · intro k
        rw [OrdMap.keys_modifyLast]
        apply OrdMap.mem_keys_insert
      · intro ctl hctl
        rw [hfind] at hctl
        cases hctl
  | some ctl =>
      rw [DoorSwitchHandler.openDoor_found hconn hfind]
      constructor
      · intro k
        rw [OrdMap.keys_modify, iff_self_or]
        rintro rfl
        rw [OrdMap.mem_keys, hfind]
        rfl
      · intro ctl' hctl'
        rw [hfind] at hctl'
        obtain rfl := Option.some.inj hctl'
        constructor
        · rw [OrdMap.find_modify_self, hfind]
          rfl
        · intro k hk
          apply OrdMap.find_modify_of_ne _ _ hk

/-- The key of an accepted channel is its number. -/
theorem toNat_controllerChannel {info : SwitchInfo} {channel : Int32}
    (h : info.supportsChannel channel) :
  ((controllerChannel channel).toNat : Int) = channel.toInt
  := by
  obtain ⟨hpos, hlt⟩ := toInt_of_supportsChannel h
  have hnat := (controllerChannel channel).toNat_lt
  have hbmod : ((controllerChannel channel).toNat : Int).bmod (2 ^ 16)
      = channel.toInt.bmod (2 ^ 16) := by
    rw [← Int32.toInt_toInt16]
    exact (BitVec.toInt_eq_toNat_bmod channel.toInt16.toBitVec).symm
  rw [Int.bmod_def, Int.bmod_def] at hbmod
  omega

/-! ### Rejected messages -/

namespace DoorSwitchEngine

variable {parse : String → Option OpenDoorRequest} {from_string : String → Bool}

/-- The message does not parse, names no configured switch, or its channel is not one of
the switch. -/
def Rejected (parse : String → Option OpenDoorRequest) (config : SvrCfg) (message : String) :
    Prop :=
  ∀ req, parse message = some req →
    ∀ info, config.m_mapOidSwitchInfo.find req.m_strSwitchId = some info →
      req.m_channel.toInt ≤ 0 ∨ (info.channels.toNat : Int) < req.m_channel.toInt

theorem supportsChannel_iff (info : SwitchInfo) (channel : Int32) :
  info.supportsChannel channel ↔ ¬ (channel.toInt ≤ 0 ∨ (info.channels.toNat : Int) < channel.toInt)
  := by
  rw [SwitchInfo.supportsChannel, decide_eq_true_eq, Int32.le_iff_toInt_le, Int32.toInt_zero]

theorem rejected_iff (config : SvrCfg) (message : String) :
  Rejected parse config message ↔ acceptedRequest parse config message = none
  := by
  rw [Option.eq_none_iff_forall_ne_some]
  constructor
  · rintro h ⟨req, info⟩ haccept
    obtain ⟨hparse, hfind, hchannel⟩ := acceptedRequest_eq_some.mp haccept
    apply (supportsChannel_iff info req.m_channel).mp hchannel
    apply h req hparse info hfind
  · intro h req hparse info hfind
    by_contra hchannel
    apply h (req, info)
    apply acceptedRequest_eq_some.mpr
    exact ⟨hparse, hfind, (supportsChannel_iff info req.m_channel).mpr hchannel⟩

/-! ### Calls of `openDoor` -/

theorem mem_servingCalls {req : OpenDoorRequest} {error free : Bool} {h : DoorSwitchHandler}
    {channel : Int16} {closeAfterMs : Int32}
    (hmem : .openDoor channel closeAfterMs ∈ servingCalls req error free h) :
  channel = req.m_channel.toInt16 ∧ closeAfterMs = req.m_closeAfter
  := by
  rw [servingCalls] at hmem
  rcases List.mem_cons.mp hmem with hmem | hmem
  · cases hmem
  · split_ifs at hmem
    · apply HandlerCall.openDoor.inj (List.mem_singleton.mp hmem)
    · cases hmem

/-- The only calls of `openDoor` that a message leads to are those for the request it is
accepted for. -/
theorem openDoor_mem_calls {engine : DoorSwitchEngine} {message oid : String} {error free : Bool}
    {channel : Int16} {closeAfterMs : Int32}
    (h : (oid, .openDoor channel closeAfterMs)
      ∈ (engine.onRecvMqttMessage parse from_string message error free).calls) :
  ∃ req info, acceptedRequest parse engine.m_config message = some (req, info)
    ∧ channel = req.m_channel.toInt16 ∧ closeAfterMs = req.m_closeAfter
  := by
  have hreceives := receives parse from_string engine message error free
  generalize engine.onRecvMqttMessage parse from_string message error free = r at h hreceives
  cases hreceives with
  | rejected haccept => cases h
  | thrown req info haccept hfind hip => cases h
  | known req info handler haccept hfind =>
      use req, info, haccept
      obtain ⟨-, hcall⟩ := Prod.mk.inj (List.mem_singleton.mp h)
      apply HandlerCall.openDoor.inj hcall
  | created req info oid' handler haccept hfind hip hlast =>
      use req, info, haccept
      rcases List.mem_cons.mp h with h | h
      · cases h
      · obtain ⟨call, hcall, heq⟩ := List.mem_map.mp h
        obtain ⟨-, rfl⟩ := Prod.mk.inj heq
        apply mem_servingCalls hcall

/-! ### The gate -/

/-- A message that is rejected. -/
def RejectedMessage (parse : String → Option OpenDoorRequest) (config : SvrCfg) :
    EngineRun.Action → Prop
  | .message message _ _ => Rejected parse config message
  | .threads _ _ => False

/-- What the engine accepts and what it does with it.

* A rejected message makes no call, throws nothing and leaves the engine as it is.
* The key that a call of `openDoor` uses in the map of a connected handler is the channel of
  the request it is made for.
* Accepted requests for one switch use the same key exactly when they name the same channel.
* Rejected messages can be inserted into a run without changing the engine or the calls. -/
structure Gate (parse : String → Option OpenDoorRequest) (from_string : String → Bool) : Prop where
  rejected : ∀ (engine : DoorSwitchEngine) (message : String) (error free : Bool),
    Rejected parse engine.m_config message →
      engine.onRecvMqttMessage parse from_string message error free = ⟨engine, [], false⟩
  key : ∀ (engine : DoorSwitchEngine) (message : String) (error free : Bool) (oid : String)
    (channel : Int16) (closeAfterMs : Int32),
    (oid, .openDoor channel closeAfterMs)
        ∈ (engine.onRecvMqttMessage parse from_string message error free).calls →
      ∃ req, parse message = some req ∧ ¬ Rejected parse engine.m_config message
        ∧ ((controllerChannel req.m_channel).toNat : Int) = req.m_channel.toInt
        ∧ ∀ h : DoorSwitchHandler, h.conn.m_isConnected = true →
          UsesKey (controllerChannel req.m_channel) req.m_closeAfter h
            (h.openDoor channel closeAfterMs).1
  same_key_iff : ∀ (config : SvrCfg) (message message' : String) (req req' : OpenDoorRequest),
    parse message = some req → parse message' = some req' →
      ¬ Rejected parse config message → ¬ Rejected parse config message' →
        req.m_strSwitchId = req'.m_strSwitchId →
          (controllerChannel req.m_channel = controllerChannel req'.m_channel
            ↔ req.m_channel = req'.m_channel)
  inserted : ∀ (s : EngineRun) (as bs : List EngineRun.Action),
    Inserts (RejectedMessage parse s.engine.m_config) as bs →
      run (EngineRun.next parse from_string) s bs = run (EngineRun.next parse from_string) s as

theorem exists_acceptedRequest {config : SvrCfg} {message : String} {req : OpenDoorRequest}
    (hparse : parse message = some req) (h : ¬ Rejected parse config message) :
  ∃ info, acceptedRequest parse config message = some (req, info)
  := by
  rw [rejected_iff] at h
  obtain ⟨⟨req', info⟩, haccept⟩ := Option.ne_none_iff_exists'.mp h
  obtain ⟨hparse', -, -⟩ := acceptedRequest_eq_some.mp haccept
  obtain rfl := Option.some.inj (hparse'.symm.trans hparse)
  use info

/-- A rejected message leaves the engine and its calls as they are. -/
theorem next_rejected {s : EngineRun} {a : EngineRun.Action}
    (h : RejectedMessage parse s.engine.m_config a) :
  EngineRun.next parse from_string s a = some s
  := by
  cases a with
  | threads oid handler => cases h
  | message message error free =>
      have hnone := (rejected_iff s.engine.m_config message).mp h
      rw [EngineRun.next, onRecvMqttMessage_rejected hnone, EngineRun.acceptedOf, hnone]
      simp

theorem m_config_next {s t : EngineRun} {a : EngineRun.Action}
    (hnext : EngineRun.next parse from_string s a = some t) :
  t.engine.m_config = s.engine.m_config
  := by
  cases a with
  | threads oid handler =>
      obtain rfl := Option.some.inj hnext
      rfl
  | message message error free =>
      obtain rfl := Option.some.inj hnext
      apply (receives parse from_string s.engine message error free).m_config_eq

/-- Rejected messages can be inserted into a run anywhere. -/
theorem run_eq_of_inserts (s : EngineRun) {as bs : List EngineRun.Action}
    (h : Inserts (RejectedMessage parse s.engine.m_config) as bs) :
  run (EngineRun.next parse from_string) s bs = run (EngineRun.next parse from_string) s as
  := by
  have hidle : ∀ (t : EngineRun) (a : EngineRun.Action), t.engine.m_config = s.engine.m_config →
      RejectedMessage parse s.engine.m_config a →
        EngineRun.next parse from_string t a = some t := by
    intro t a ht ha
    apply next_rejected
    rw [ht]
    apply ha
  have hstep : ∀ (t : EngineRun) (a : EngineRun.Action) (u : EngineRun),
      t.engine.m_config = s.engine.m_config → EngineRun.next parse from_string t a = some u →
        u.engine.m_config = s.engine.m_config := by
    intro t a u ht hnext
    rw [m_config_next hnext, ht]
  exact h.run_eq hidle hstep rfl

/-- The gate of the engine holds for every parser of messages and every configuration. -/
theorem gate (parse : String → Option OpenDoorRequest) (from_string : String → Bool) :
  Gate parse from_string
  := by
  constructor
  · intro engine message error free h
    apply onRecvMqttMessage_rejected ((rejected_iff engine.m_config message).mp h)
  · intro engine message error free oid channel closeAfterMs hmem
    obtain ⟨req, info, haccept, rfl, rfl⟩ := openDoor_mem_calls hmem
    obtain ⟨hparse, -, hchannel⟩ := acceptedRequest_eq_some.mp haccept
    refine ⟨req, hparse, ?_, toNat_controllerChannel hchannel, ?_⟩
    · rw [rejected_iff, haccept]
      apply Option.some_ne_none
    · intro h hconn
      apply usesKey_openDoor hconn
  · intro config message message' req req' hparse hparse' h h' hswitch
    obtain ⟨info, haccept⟩ := exists_acceptedRequest hparse h
    obtain ⟨info', haccept'⟩ := exists_acceptedRequest hparse' h'
    obtain ⟨-, -, hchannel⟩ := acceptedRequest_eq_some.mp haccept
    obtain ⟨-, -, hchannel'⟩ := acceptedRequest_eq_some.mp haccept'
    constructor
    · intro hkey
      apply Int32.toInt_inj.mp
      rw [← toNat_controllerChannel hchannel, hkey, toNat_controllerChannel hchannel']
    · intro heq
      rw [heq]
  · intro s as bs h
    apply run_eq_of_inserts s h

end DoorSwitchEngine

end DoorSwitchSvr
