import DoorSwitchSvr.Destructor
import DoorSwitchSvr.Origin
import Mathlib.Data.List.Nodup

/-!
# The size of the server

Handlers and controllers are created when messages ask for them.  Whatever messages come, and
in whatever order, there is at most one handler for each configured switch, with the settings
of that switch, and each has at most as many controllers as the switch with the most channels
(`resources_bounded`).  So the number of threads is bounded by the configuration.
-/

namespace DoorSwitchSvr

open Transition DoorSwitchEngine

/-- The number of channels of the switch that has the most. -/
def SvrCfg.maxChannels (m_config : SvrCfg) : ℕ :=
  (m_config.m_mapOidSwitchInfo.entries.map (fun e => e.2.channels.toNat)).foldr max 0

theorem le_foldr_max {n : ℕ} {ns : List ℕ} (h : n ∈ ns) :
  n ≤ ns.foldr max 0
  := by
  induction ns with
  | nil => cases h
  | cons m ns ih =>
      rw [List.foldr_cons]
      rcases List.mem_cons.mp h with rfl | h
      · apply le_max_left
      · apply le_max_of_le_right (ih h)

theorem SvrCfg.channels_le {m_config : SvrCfg} {oid : String} {info : SwitchInfo}
    (h : m_config.m_mapOidSwitchInfo.find oid = some info) :
  info.channels.toNat ≤ m_config.maxChannels
  := by
  apply le_foldr_max
  apply List.mem_map_of_mem (OrdMap.mem_entries_of_find h)

namespace DoorSwitchHandler

/-! ### Handlers -/

/-- The handler has the settings of its switch, and its controllers are for channels up to the
greatest. -/
structure Sized (m_config : SvrCfg) (oid : String) (h : DoorSwitchHandler) : Prop where
  configured : m_config.m_mapOidSwitchInfo.find oid = some h.m_switchInfo
  keys_le : ∀ k ∈ h.m_mapControllers.keys, 1 ≤ k.toNat ∧ k.toNat ≤ m_config.maxChannels

theorem Sized.openDoor {m_config : SvrCfg} {oid : String} {h : DoorSwitchHandler}
    (hs : Sized m_config oid h) {channel : Int16}
    (hchannel : 1 ≤ channel.toUInt16.toNat ∧ channel.toUInt16.toNat ≤ m_config.maxChannels)
    (closeAfterMs : Int32) :
  Sized m_config oid (h.openDoor channel closeAfterMs).1
  := by
  constructor
  · rw [SwitchRun.m_switchInfo_openDoor, hs.configured]
  · intro k hk
    cases hconn : h.conn.m_isConnected with
    | false =>
        rw [openDoor_disconnected hconn] at hk
        apply hs.keys_le k hk
    | true =>
        cases hfind : h.m_mapControllers.find channel.toUInt16 with
        | some ctl =>
            rw [openDoor_found hconn hfind, OrdMap.keys_modify] at hk
            apply hs.keys_le k hk
        | none =>
            rw [openDoor_new hconn hfind, OrdMap.keys_modifyLast, OrdMap.mem_keys_insert] at hk
            rcases hk with hk | rfl
            · apply hs.keys_le k hk
            · apply hchannel

/-- The threads leave the settings and the keys alone. -/
theorem Sized.step {m_config : SvrCfg} {oid : String} {h : DoorSwitchHandler}
    (hs : Sized m_config oid h) {th : Threads} {a : Closing.Action}
    {x : DoorSwitchHandler × Threads} (hstep : th.step h a = some x) :
  Sized m_config oid x.1
  := by
  obtain ⟨hnext, -⟩ := Threads.step_eq_some hstep
  have hkeys : x.1.m_mapControllers.keys = h.m_mapControllers.keys := Closing.keys_next hnext
  have hinfo : x.1.m_switchInfo = h.m_switchInfo := Closing.m_switchInfo_next hnext
  constructor
  · rw [hinfo, hs.configured]
  · rw [hkeys]
    apply hs.keys_le

end DoorSwitchHandler

namespace Server

variable {parse : String → Option OpenDoorRequest} {from_string : String → Bool}
  {m_topic : String}

/-! ### The server -/

/-- A message leaves the handlers sized. -/
theorem sized_receive {engine : DoorSwitchEngine}
    (hs : engine.m_mapOidSwitchHandler.All (DoorSwitchHandler.Sized engine.m_config))
    (message : mosquitto_message) (error free : Bool) :
  (receive parse from_string m_topic engine message error
      free).engine.m_mapOidSwitchHandler.All (DoorSwitchHandler.Sized engine.m_config)
  := by
  apply all_receive _ (fun _ _ hh => ⟨hh.configured, hh.keys_le⟩) _ hs
  · intro req info haccept
    obtain ⟨text, -, haccept'⟩ := Option.bind_eq_some_iff.mp haccept
    obtain ⟨-, hinfo, -⟩ := acceptedRequest_eq_some.mp haccept'
    constructor
    · rw [acceptedRequest_oid haccept', hinfo]
    · intro k hk
      cases hk
  · intro req info haccept oid handler hhandler
    obtain ⟨text, -, haccept'⟩ := Option.bind_eq_some_iff.mp haccept
    obtain ⟨-, hinfo, hsupported⟩ := acceptedRequest_eq_some.mp haccept'
    obtain ⟨-, hone, hle⟩ := key_of_supported hsupported
    have hmax := SvrCfg.channels_le hinfo
    rw [UInt16.le_iff_toNat_le] at hle
    exact hhandler.openDoor ⟨hone, hle.trans hmax⟩ req.m_closeAfter

/-- The handlers are sized by the configuration. -/
structure SizedBy (m_config : SvrCfg) (s : Server) : Prop where
  m_config_eq : s.engine.m_config = m_config
  handlers : s.engine.m_mapOidSwitchHandler.All (DoorSwitchHandler.Sized m_config)

theorem SizedBy.next {m_config : SvrCfg} {s t : Server} (hs : SizedBy m_config s) :
    ∀ {a : Action}, next parse from_string m_topic s a = some t → SizedBy m_config t
  | .message message error free, hnext => by
      have hconfig := m_config_next hnext
      obtain ⟨-, rfl⟩ := next_message hnext
      use hconfig.trans hs.m_config_eq
      have hhandlers := hs.handlers
      rw [← hs.m_config_eq] at hhandlers ⊢
      apply sized_receive hhandlers
  | .handler oid a, hnext => by
      obtain ⟨handler, x, hfind, -, hstep, rfl⟩ := next_handler hnext
      use hs.m_config_eq
      apply OrdMap.All.modify hs.handlers
      intro handler' hhandler'
      apply (hs.handlers oid handler hfind).step hstep
  | .terminate, hnext => by
      obtain ⟨-, rfl⟩ := next_terminate hnext
      exact ⟨hs.m_config_eq, hs.handlers⟩
  | .closed, hnext => by
      obtain ⟨_, _, -, -, rfl⟩ := next_closed hnext
      exact ⟨hs.m_config_eq, hs.handlers⟩
  | .clear, hnext => by
      obtain ⟨-, rfl⟩ := next_clear hnext
      exact ⟨hs.m_config_eq, OrdMap.All.empty _⟩

/-- Different keys from 1 to `n` are at most `n`. -/
theorem length_keys_le {n : ℕ} {ks : List UInt16} (hnodup : ks.Nodup)
    (h : ∀ k ∈ ks, 1 ≤ k.toNat ∧ k.toNat ≤ n) :
  ks.length ≤ n
  := by
  have hnodup' : (ks.map UInt16.toNat).Nodup :=
    hnodup.map (fun _ _ heq => UInt16.toNat_inj.mp heq)
  have hsubset : ks.map UInt16.toNat ⊆ List.range' 1 n := by
    intro m hm
    obtain ⟨k, hk, rfl⟩ := List.mem_map.mp hm
    have hrange := h k hk
    rw [List.mem_range'_1]
    omega
  have hlength := hnodup'.length_le_of_subset hsubset
  rw [List.length_map, List.length_range'] at hlength
  apply hlength

/-- In every run of the server, each handler is that of a configured switch and has its settings,
so there are at most as many handlers as configured switches; and each has at most as many
controllers as the switch with the most channels has channels. -/
theorem resources_bounded (parse : String → Option OpenDoorRequest)
    (from_string : String → Bool) (m_topic : String) (m_config : SvrCfg) (as : List Action)
    {t : Server}
    (hrun : run (next parse from_string m_topic) (initial m_config) as = some t) :
  (∀ oid h, t.engine.m_mapOidSwitchHandler.find oid = some h →
      m_config.m_mapOidSwitchInfo.find oid = some h.m_switchInfo
        ∧ h.m_mapControllers.keys.length ≤ m_config.maxChannels)
    ∧ t.oids.length ≤ m_config.m_mapOidSwitchInfo.keys.length
  := by
  have hinitial : SizedBy m_config (initial m_config) := ⟨rfl, OrdMap.All.empty _⟩
  have ht : SizedBy m_config t :=
    run_invariant_of_step (fun _ _ _ hs hnext => hs.next hnext) hinitial hrun
  constructor
  · intro oid h hfind
    have hsized := ht.handlers oid h hfind
    use hsized.configured
    apply length_keys_le h.m_mapControllers.nodup_keys hsized.keys_le
  · apply t.engine.m_mapOidSwitchHandler.nodup_keys.length_le_of_subset
    intro oid hoid
    obtain ⟨h, hfind⟩ := Option.isSome_iff_exists.mp ((OrdMap.mem_keys _ _).mp hoid)
    rw [OrdMap.mem_keys, (ht.handlers oid h hfind).configured]
    rfl

theorem resources_bounded_two :
  ∃ t, run (next EngineRun.parseAB EngineRun.addressAB "seeta_switch_open")
      (initial EngineRun.twoSwitches) closingA = some t
    ∧ (∀ oid h, t.engine.m_mapOidSwitchHandler.find oid = some h →
      EngineRun.twoSwitches.m_mapOidSwitchInfo.find oid = some h.m_switchInfo
        ∧ h.m_mapControllers.keys.length ≤ 8)
    ∧ t.oids.length ≤ 2
  := by
  have hrun : (run (next EngineRun.parseAB EngineRun.addressAB "seeta_switch_open")
      (initial EngineRun.twoSwitches) closingA).isSome := by
    decide +kernel
  obtain ⟨t, ht⟩ := Option.isSome_iff_exists.mp hrun
  use t, ht
  have hmax : EngineRun.twoSwitches.maxChannels = 8 := by decide +kernel
  have hkeys : EngineRun.twoSwitches.m_mapOidSwitchInfo.keys.length = 2 := by decide +kernel
  rw [← hmax, ← hkeys]
  exact resources_bounded EngineRun.parseAB EngineRun.addressAB "seeta_switch_open"
    EngineRun.twoSwitches closingA ht

end Server

end DoorSwitchSvr
