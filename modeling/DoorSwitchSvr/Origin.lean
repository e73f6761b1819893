import DoorSwitchSvr.Acceptance
import DoorSwitchSvr.Joined
import DoorSwitchSvr.Server

/-!
# Where commands come from

No command is sent that has not been asked for.  In every run of the server, in whatever
order switches and channels are requested, whatever fails, and also while it is shut down,
each command that a worker sends is for a channel that an accepted message has asked for, one
of those that the switch in the message has (`commands_have_origin`).  When new switches are
requested above those before them, the message names the switch of the worker
(`named_of_run`).

A controller whose thread runs has the channel of some call of `openDoor` on its handler
(`Handles`), also when it has been initialised again for the channel of another.
-/

namespace DoorSwitchSvr

open Transition DoorSwitchChannelController DoorSwitchEngine

namespace DoorSwitchHandler

/-! ### The controllers of a handler -/

/-- What holds of a new controller, and is kept when a controller is given a task or is
enlisted, holds of every controller after a request. -/
theorem all_openDoor {Q : UInt16 → DoorSwitchChannelController → Prop} {h : DoorSwitchHandler}
    {channel : Int16} {closeAfterMs : Int32} (hnew : Q channel.toUInt16 {})
    (hadd : ∀ c ctl, Q c ctl → Q c (ctl.addTask ⟨closeAfterMs⟩))
    (henlist : ∀ c ctl, Q c ctl → Q c (enlist channel.toUInt16 ⟨closeAfterMs⟩ ctl))
    (hh : h.m_mapControllers.All Q) :
  (h.openDoor channel closeAfterMs).1.m_mapControllers.All Q
  := by
  cases hconn : h.conn.m_isConnected with
  | false =>
      rw [openDoor_disconnected hconn]
      apply hh
  | true =>
      cases hfind : h.m_mapControllers.find channel.toUInt16 with
      | some ctl =>
          rw [openDoor_found hconn hfind]
          apply OrdMap.All.modify hh
          intro ctl' hctl'
          apply hadd _ ctl' (hh _ ctl' hctl')
      | none =>
          rw [openDoor_new hconn hfind]
          have hinsert : (h.m_mapControllers.insert channel.toUInt16 {}).All Q :=
            OrdMap.All.insert hh hnew
          have hmem : channel.toUInt16 ∈ (h.m_mapControllers.insert channel.toUInt16 {}).keys :=
            (OrdMap.mem_keys_insert _ _ _ _).mpr (Or.inr rfl)
          obtain ⟨e, hlast⟩ := OrdMap.exists_crbegin hmem
          rw [OrdMap.modifyLast_of_crbegin _ hlast]
          apply OrdMap.All.modify hinsert
          intro ctl hctl
          apply henlist _ ctl (hinsert _ ctl hctl)

/-- Every controller whose thread runs has a channel with the property `P`. -/
def Handles (P : UInt16 → Prop) (h : DoorSwitchHandler) : Prop :=
  h.m_mapControllers.All (fun _ ctl => ctl.isRunning = true → P ctl.m_channel)

theorem Handles.openDoor {P : UInt16 → Prop} {h : DoorSwitchHandler} (hh : Handles P h)
    {channel : Int16} (hP : P channel.toUInt16) (closeAfterMs : Int32) :
  Handles P (h.openDoor channel closeAfterMs).1
  := by
  apply all_openDoor Bool.noConfusion _ _ hh
  · intro _ ctl hctl hrunning
    rw [m_channel_addTask]
    apply hctl
    rw [← isRunning_addTask, hrunning]
  · intro _ ctl _ _
    rw [HandlerRun.m_channel_enlist]
    apply hP

end DoorSwitchHandler

namespace Threads

/-! ### The threads of a handler -/

/-- What is known of a handler and of the commands of its workers: they are all for channels
with the property `P`. -/
structure Commands (P : UInt16 → Prop) (h : DoorSwitchHandler) (th : Threads) : Prop where
  handles : h.Handles P
  issued : ∀ p ∈ th.issued, P p.1
  written : ∀ p ∈ th.written, P p.1

theorem Commands.step {P : UInt16 → Prop} {h : DoorSwitchHandler} {th : Threads}
    (hc : Commands P h th) {a : Closing.Action} {x : DoorSwitchHandler × Threads}
    (hstep : th.step h a = some x) :
  Commands P x.1 x.2
  := by
  obtain ⟨c, hnext, rfl⟩ := Option.map_eq_some_iff.mp hstep
  cases a with
  | close =>
      have hwritten : c.written = th.written :=
        (Closing.closeStep_kept (Closing.next_close hnext)).1
      constructor
      · have hstep := Closing.closeStep_eq_some (Closing.next_close hnext)
        rcases hstep.controllers with hmap | ⟨k, f, hmap, hf⟩
        · intro k ctl hfind
          rw [hmap] at hfind
          apply hc.handles k ctl hfind
        · rw [DoorSwitchHandler.Handles, hmap]
          apply OrdMap.All.modify hc.handles
          intro ctl hfind hrunning
          rw [(hf ctl).1]
          apply hc.handles k ctl hfind
          rw [← (hf ctl).2.1, hrunning]
      · simpa [issues] using hc.issued
      · rw [hwritten]
        apply hc.written
  | work k elapsed =>
      obtain ⟨ctl, ctl', cmd, hfind, hrun, hissues, -, hmap, hwritten, -⟩ :=
        SwitchRun.workStep_eq_some (Closing.next_work hnext)
      have hctl : P ctl.m_channel := hc.handles k ctl hfind hrun.isRunning
      have hsent : ∀ p ∈ (cmd.map (Prod.mk ctl.m_channel)).toList, P p.1 := by
        intro p hp
        cases cmd with
        | none => cases hp
        | some cmd =>
            obtain rfl := List.mem_singleton.mp hp
            apply hctl
      have hissues' : issues h (.work k elapsed) = cmd.map (Prod.mk ctl.m_channel) := hissues
      constructor
      · rw [DoorSwitchHandler.Handles, hmap]
        apply OrdMap.All.modify hc.handles
        intro ctl₀ _ _
        rw [hrun.kept.1]
        apply hctl
      · intro p hp
        rcases List.mem_append.mp hp with hp | hp
        · apply hc.issued p hp
        · rw [hissues'] at hp
          apply hsent p hp
      · intro p hp
        simp only [hwritten] at hp
        rcases List.mem_append.mp hp with hp | hp
        · apply hc.written p hp
        · split_ifs at hp
          · apply hsent p hp
          · cases hp
  | thread i free =>
      obtain ⟨-, ⟨conn, pc, -, -, rfl⟩ | ⟨k, -, -, rfl⟩⟩ := Closing.next_thread hnext
      · exact ⟨hc.handles, by simpa [issues] using hc.issued, hc.written⟩
      · refine ⟨?_, by simpa [issues] using hc.issued, hc.written⟩
        apply OrdMap.All.modify hc.handles
        intro ctl _
        apply Bool.noConfusion
  | timer error =>
      obtain ⟨conn, pc, -, rfl⟩ := Closing.next_timer hnext
      exact ⟨hc.handles, by simpa [issues] using hc.issued, hc.written⟩

end Threads

namespace Server

/-! ### The server -/

variable {parse : String → Option OpenDoorRequest} {from_string : String → Bool}
  {m_topic : String}

/-- The channel is one that an accepted message of a run has asked for. -/
def AskedIn (parse : String → Option OpenDoorRequest) (m_topic : String) (m_config : SvrCfg)
    (as : List Action) (c : UInt16) : Prop :=
  ∃ message error free req info, .message message error free ∈ as
    ∧ requestIn parse m_topic m_config message = some (req, info)
    ∧ SwitchRun.key req = c

/-- All commands of a switch are for channels with the property `P` of the switch. -/
structure CommandsInv (P : String → UInt16 → Prop) (m_config : SvrCfg) (s : Server) : Prop where
  m_config_eq : s.engine.m_config = m_config
  handles : s.engine.m_mapOidSwitchHandler.All (fun oid h => h.Handles (P oid))
  issued : ∀ oid, ∀ p ∈ (s.threads oid).issued, P oid p.1
  written : ∀ oid, ∀ p ∈ (s.threads oid).written, P oid p.1

/-- The action does not ask for a channel without the property `P`. -/
def Asks (parse : String → Option OpenDoorRequest) (m_topic : String) (m_config : SvrCfg)
    (P : UInt16 → Prop) : Action → Prop
  | .message message _ _ =>
      ∀ req info, requestIn parse m_topic m_config message = some (req, info) →
        P (SwitchRun.key req)
  | .handler _ _ | .terminate | .closed | .clear => True

/-- What holds of a new handler, and is kept by the calls of the engine, holds of every handler
after a message. -/
theorem all_receive {I : String → DoorSwitchHandler → Prop} {engine : DoorSwitchEngine}
    {message : mosquitto_message} {error free : Bool}
    (hnew : ∀ req info, requestIn parse m_topic engine.m_config message = some (req, info) →
      I info.oid { m_switchInfo := info })
    (hconnect : ∀ oid h, I oid h → I oid (h.connect error free).1)
    (hopen : ∀ req info, requestIn parse m_topic engine.m_config message = some (req, info) →
      ∀ oid h, I oid h → I oid (h.openDoor req.m_channel.toInt16 req.m_closeAfter).1)
    (hs : engine.m_mapOidSwitchHandler.All I) :
  (receive parse from_string m_topic engine message error free).engine.m_mapOidSwitchHandler.All I
  := by
  rw [receive]
  split
  next => apply hs
  next text htext =>
    rw [requestIn_of_on_message htext] at hnew hopen
    have hreceives := receives parse from_string engine text error free
    generalize engine.onRecvMqttMessage parse from_string text error free = r at hreceives
    cases hreceives with
    | rejected haccept => apply hs
    | thrown req info haccept hfind hip => apply hs
    | known req info handler haccept hfind =>
        apply OrdMap.All.modify hs
        intro _ _
        apply hopen req info haccept _ handler (hs _ handler hfind)
    | created req info oid handler haccept hfind hip hlast =>
        have hinsert := OrdMap.All.insert hs (hnew req info haccept)
        have hhandler := hinsert oid handler (OrdMap.crbegin_spec hlast).1
        apply OrdMap.All.modify hinsert
        intro _ _
        rw [served]
        split_ifs
        · apply hopen req info haccept oid _ (hconnect oid handler hhandler)
        · apply hconnect oid handler hhandler

/-- What a handler has, and the calls of the engine leave it with, it has after a message. -/
theorem exists_find_receive {I : DoorSwitchHandler → Prop} {engine : DoorSwitchEngine}
    {message : mosquitto_message} {error free : Bool}
    (hconnect : ∀ h, I h → I (h.connect error free).1)
    (hopen : ∀ req : OpenDoorRequest, ∀ h, I h →
      I (h.openDoor req.m_channel.toInt16 req.m_closeAfter).1)
    {oid : String} {h : DoorSwitchHandler} (hfind : engine.m_mapOidSwitchHandler.find oid = some h)
    (hh : I h) :
  ∃ h', (receive parse from_string m_topic engine message error
      free).engine.m_mapOidSwitchHandler.find oid = some h' ∧ I h'
  := by
  rw [receive]
  split
  next => use h
  next text htext =>
    have hreceives := receives parse from_string engine text error free
    generalize engine.onRecvMqttMessage parse from_string text error free = r at hreceives
    cases hreceives with
    | rejected haccept => use h
    | thrown req info haccept hnone hip => use h
    | known req info handler haccept hknown =>
        simp only [setHandler, OrdMap.find_modify]
        split_ifs with hoid
        · subst hoid
          rw [hknown] at hfind ⊢
          obtain rfl := Option.some.inj hfind
          exact ⟨_, rfl, hopen req handler hh⟩
        · exact ⟨h, hfind, hh⟩
    | created req info last handler haccept hnone hip hlast =>
        have hne : oid ≠ info.oid := by
          rintro rfl
          rw [acceptedRequest_oid haccept, hnone] at hfind
          cases hfind
        have hinsert : (engine.m_mapOidSwitchHandler.insert info.oid
            { m_switchInfo := info }).find oid = some h := by
          rw [OrdMap.find_insert_of_ne _ _ hne, hfind]
        simp only [OrdMap.find_modify]
        split_ifs with hoid
        · subst hoid
          obtain rfl := Option.some.inj (hinsert.symm.trans (OrdMap.crbegin_spec hlast).1)
          rw [hinsert, served]
          split_ifs
          · exact ⟨_, rfl, hopen req _ (hconnect h hh)⟩
          · exact ⟨_, rfl, hconnect h hh⟩
        · exact ⟨h, hinsert, hh⟩

/-- A message that does not ask for a channel without the property `P` leaves the handlers with
channels that have it. -/
theorem handles_receive {P : UInt16 → Prop} {m_config : SvrCfg} {s : Server}
    (hs : CommandsInv (fun _ => P) m_config s) {message : mosquitto_message} {error free : Bool}
    (hok : Asks parse m_topic m_config P (.message message error free)) :
  (receive parse from_string m_topic s.engine message error
      free).engine.m_mapOidSwitchHandler.All (fun _ h => h.Handles P)
  := by
  apply all_receive _ (fun _ _ hh => hh) _ hs.handles
  · intro req info _ k ctl hfind
    cases hfind
  · intro req info haccept oid h hh
    rw [hs.m_config_eq] at haccept
    apply hh.openDoor (hok req info haccept)

/-- The threads, and a message that leaves the handlers with channels that have the property
`P`, keep the commands to them. -/
theorem CommandsInv.step {P : String → UInt16 → Prop} {m_config : SvrCfg} {s t : Server}
    (hs : CommandsInv P m_config s) :
    ∀ {a : Action},
      (∀ message error free, a = .message message error free →
        (receive parse from_string m_topic s.engine message error
          free).engine.m_mapOidSwitchHandler.All (fun oid h => h.Handles (P oid))) →
      next parse from_string m_topic s a = some t → CommandsInv P m_config t
  | .message message error free, hreceive, hnext => by
      have hconfig := m_config_next hnext
      obtain ⟨-, rfl⟩ := next_message hnext
      exact ⟨hconfig.trans hs.m_config_eq, hreceive message error free rfl, hs.issued, hs.written⟩
  | .handler oid a, _, hnext => by
      obtain ⟨handler, x, hfind, -, hstep, rfl⟩ := next_handler hnext
      have hcommands : Threads.Commands (P oid) handler (s.threads oid) :=
        ⟨hs.handles oid handler hfind, hs.issued oid, hs.written oid⟩
      have hcommands' := hcommands.step hstep
      constructor
      · apply hs.m_config_eq
      · intro oid' h hh
        simp only [setHandler, OrdMap.find_modify] at hh
        split_ifs at hh with hoid
        · obtain ⟨-, -, rfl⟩ := Option.map_eq_some_iff.mp hh
          rw [hoid]
          apply hcommands'.handles
        · apply hs.handles oid' h hh
      · intro oid' p hp
        rcases eq_or_ne oid' oid with rfl | hne
        · simp only [Function.update_self] at hp
          apply hcommands'.issued p hp
        · simp only [Function.update_of_ne hne] at hp
          apply hs.issued oid' p hp
      · intro oid' p hp
        rcases eq_or_ne oid' oid with rfl | hne
        · simp only [Function.update_self] at hp
          apply hcommands'.written p hp
        · simp only [Function.update_of_ne hne] at hp
          apply hs.written oid' p hp
  | .terminate, _, hnext => by
      obtain ⟨-, rfl⟩ := next_terminate hnext
      exact ⟨hs.m_config_eq, hs.handles, hs.issued, hs.written⟩
  | .closed, _, hnext => by
      obtain ⟨_, _, -, -, rfl⟩ := next_closed hnext
      exact ⟨hs.m_config_eq, hs.handles, hs.issued, hs.written⟩
  | .clear, _, hnext => by
      obtain ⟨-, rfl⟩ := next_clear hnext
      exact ⟨hs.m_config_eq, OrdMap.All.empty _, hs.issued, hs.written⟩

theorem CommandsInv.initial (P : String → UInt16 → Prop) (m_config : SvrCfg) :
  CommandsInv P m_config (initial m_config)
  := by
  refine ⟨rfl, OrdMap.All.empty _, ?_, ?_⟩
  · intro oid p hp
    cases hp
  · intro oid p hp
    cases hp

/-- In every run of the server, each command that a worker has sent is for a channel that an
accepted message of the run has asked for. -/
theorem asked_of_run (parse : String → Option OpenDoorRequest)
    (from_string : String → Bool) (m_topic : String) (m_config : SvrCfg) {as : List Action}
    {t : Server}
    (hrun : run (next parse from_string m_topic) (initial m_config) as = some t)
    {oid : String} {p : UInt16 × DoorCommand}
    (hp : p ∈ (t.threads oid).issued ∨ p ∈ (t.threads oid).written) :
  AskedIn parse m_topic m_config as p.1
  := by
  have hok : Meets (next parse from_string m_topic)
      (fun _ a => Asks parse m_topic m_config (AskedIn parse m_topic m_config as) a)
      (initial m_config) as := by
    apply meets_of_forall_mem
    intro a ha
    cases a with
    | message message error free =>
        intro req info haccept
        exact ⟨message, error, free, req, info, ha, haccept, rfl⟩
    | handler | terminate | closed | clear => trivial
  have hstep : ∀ (s : Server) a t,
      CommandsInv (fun _ => AskedIn parse m_topic m_config as) m_config s →
      Asks parse m_topic m_config (AskedIn parse m_topic m_config as) a →
      next parse from_string m_topic s a = some t →
      CommandsInv (fun _ => AskedIn parse m_topic m_config as) m_config t := by
    intro s a t hs ha hnext
    apply hs.step _ hnext
    rintro message error free rfl
    apply handles_receive hs ha
  have ht := run_invariant hstep (CommandsInv.initial _ m_config) hok hrun
  rcases hp with hp | hp
  · apply ht.issued oid p hp
  · apply ht.written oid p hp

/-! ### The switch in the message -/

/-- The channel is one that an accepted message of a run has asked for, of the switch that it
names. -/
def NamedIn (parse : String → Option OpenDoorRequest) (m_topic : String) (m_config : SvrCfg)
    (as : List Action) (oid : String) (c : UInt16) : Prop :=
  ∃ message error free req info, .message message error free ∈ as
    ∧ requestIn parse m_topic m_config message = some (req, info)
    ∧ req.m_strSwitchId = oid ∧ SwitchRun.key req = c

/-- When new switches come above the others, a message asks only the switch that it names for
its channel. -/
theorem handles_receive_named {P : String → UInt16 → Prop} {m_config : SvrCfg} {s : Server}
    (hs : CommandsInv P m_config s) {message : mosquitto_message} {error free : Bool}
    (hok : SwitchesAbove parse from_string m_topic s (.message message error free))
    (hP : ∀ req info, requestIn parse m_topic m_config message = some (req, info) →
      P req.m_strSwitchId (SwitchRun.key req)) :
  (receive parse from_string m_topic s.engine message error
      free).engine.m_mapOidSwitchHandler.All (fun oid h => h.Handles (P oid))
  := by
  cases haccept : requestIn parse m_topic s.engine.m_config message with
  | none =>
      rw [receive_of_none haccept]
      apply hs.handles
  | some x =>
      obtain ⟨req, info⟩ := x
      have hkey := hP req info (by rw [← hs.m_config_eq, haccept])
      intro oid h hfind
      rw [find_receive hok haccept] at hfind
      split_ifs at hfind with hoid
      · subst hoid
        obtain rfl := Option.some.inj hfind
        cases hold : s.engine.m_mapOidSwitchHandler.find req.m_strSwitchId with
        | none =>
            have hnew : DoorSwitchHandler.Handles (P req.m_strSwitchId)
                { m_switchInfo := info } := OrdMap.All.empty _
            rw [SwitchRun.receive, served]
            split_ifs
            · apply DoorSwitchHandler.Handles.openDoor _ hkey
              apply hnew
            · apply hnew
        | some handler => apply (hs.handles _ handler hold).openDoor hkey
      · apply hs.handles oid h hfind

/-- In every run of the server in which new switches come above those before them, each command
that a worker has sent is for a channel that an accepted message of the run has asked for, of
the switch of the worker. -/
theorem named_of_run (parse : String → Option OpenDoorRequest) (from_string : String → Bool)
    (m_topic : String) (m_config : SvrCfg) {as : List Action} {t : Server}
    (hok : Meets (next parse from_string m_topic) (SwitchesAbove parse from_string m_topic)
      (initial m_config) as)
    (hrun : run (next parse from_string m_topic) (initial m_config) as = some t)
    {oid : String} {p : UInt16 × DoorCommand}
    (hp : p ∈ (t.threads oid).issued ∨ p ∈ (t.threads oid).written) :
  NamedIn parse m_topic m_config as oid p.1
  := by
  have hmem : Meets (next parse from_string m_topic) (fun _ a => a ∈ as) (initial m_config) as :=
    meets_of_forall_mem _ (fun _ ha => ha)
  have hstep : ∀ (s : Server) a t, CommandsInv (NamedIn parse m_topic m_config as) m_config s →
      SwitchesAbove parse from_string m_topic s a ∧ a ∈ as →
      next parse from_string m_topic s a = some t →
      CommandsInv (NamedIn parse m_topic m_config as) m_config t := by
    rintro s a t hs ⟨habove, ha⟩ hnext
    apply hs.step _ hnext
    rintro message error free rfl
    apply handles_receive_named hs habove
    intro req info haccept
    exact ⟨message, error, free, req, info, ha, haccept, rfl, rfl⟩
  have ht := run_invariant hstep (CommandsInv.initial _ m_config) (hok.and hmem) hrun
  rcases hp with hp | hp
  · apply ht.issued oid p hp
  · apply ht.written oid p hp

/-! ### Where commands come from -/

/-- The key of a request that the switch supports is the number of its channel. -/
theorem key_of_supported {req : OpenDoorRequest} {info : SwitchInfo}
    (hchannel : info.supportsChannel req.m_channel = true) :
  ((SwitchRun.key req).toNat : Int) = req.m_channel.toInt ∧ 1 ≤ (SwitchRun.key req).toNat
    ∧ SwitchRun.key req ≤ info.channels
  := by
  have hnat := toNat_controllerChannel hchannel
  have hrange := (supportsChannel_iff info req.m_channel).mp hchannel
  rw [SwitchRun.key, UInt16.le_iff_toNat_le]
  omega

/-- In every run of the server, each command that a worker has sent, whether it has been
written or not, is for a channel that an accepted message of the run has asked for, and that
the switch in the message has. -/
theorem commands_have_origin (parse : String → Option OpenDoorRequest)
    (from_string : String → Bool) (m_topic : String) (m_config : SvrCfg) (as : List Action)
    {t : Server}
    (hrun : run (next parse from_string m_topic) (initial m_config) as = some t)
    (oid : String) (p : UInt16 × DoorCommand)
    (hp : p ∈ (t.threads oid).issued ∨ p ∈ (t.threads oid).written) :
  ∃ message error free req info, .message message error free ∈ as
    ∧ requestIn parse m_topic m_config message = some (req, info)
    ∧ (p.1.toNat : Int) = req.m_channel.toInt ∧ 1 ≤ p.1.toNat ∧ p.1 ≤ info.channels
  := by
  obtain ⟨message, error, free, req, info, hmem, haccept, hkey⟩ :=
    asked_of_run parse from_string m_topic m_config hrun hp
  use message, error, free, req, info, hmem, haccept
  obtain ⟨text, -, haccept'⟩ := Option.bind_eq_some_iff.mp haccept
  rw [← hkey]
  apply key_of_supported (acceptedRequest_eq_some.mp haccept').2.2

theorem commands_have_origin_one :
  ∃ t, run (next EngineRun.parseAB EngineRun.addressAB "seeta_switch_open")
      (initial EngineRun.twoSwitches) opened = some t
    ∧ (t.threads "a").written = [(1, .openCommand)]
    ∧ ∃ message error free req info, .message message error free ∈ opened
      ∧ requestIn EngineRun.parseAB "seeta_switch_open" EngineRun.twoSwitches message
        = some (req, info)
      ∧ ((1 : UInt16).toNat : Int) = req.m_channel.toInt ∧ 1 ≤ (1 : UInt16).toNat
      ∧ 1 ≤ info.channels
  := by
  have hwritten : (run (next EngineRun.parseAB EngineRun.addressAB "seeta_switch_open")
      (initial EngineRun.twoSwitches) opened).map (fun t => (t.threads "a").written)
        = some [(1, .openCommand)] := by
    decide +kernel
  obtain ⟨t, hrun, ht⟩ := Option.map_eq_some_iff.mp hwritten
  use t, hrun, ht
  apply commands_have_origin EngineRun.parseAB EngineRun.addressAB "seeta_switch_open"
    EngineRun.twoSwitches opened hrun "a" (1, .openCommand)
  right
  rw [ht]
  apply List.mem_singleton_self

end Server

end DoorSwitchSvr
