import DoorSwitchSvr.Accounting
import DoorSwitchSvr.Origin
import DoorSwitchSvr.Relays

/-!
# The doors of the server

The runs of the whole server, from the messages of the broker to the relays of the switches.

While the server is in service, and new switches and new channels are requested above those
before them, each door has a worker of its own (`run_door`).  The tasks of this worker are,
in their order, among those of the accepted requests for the door, and it sends no more open
commands than there are such requests (`tasks_requested`).  The relays of every switch follow
its doors when its commands are written and no task is discarded against the state of its
door (`relays_follow`).
-/

namespace DoorSwitchSvr

open Transition DoorSwitchEngine

namespace Server

variable (parse : String → Option OpenDoorRequest) (from_string : String → Bool)
  (m_topic : String)

/-- What the action is for each switch is fine with `P`. -/
def Everywhere (m_config : SvrCfg) (P : SwitchInfo → SwitchRun → SwitchRun.Action → Prop)
    (s : Server) (a : Action) : Prop :=
  ∀ e ∈ m_config.m_mapOidSwitchInfo.entries,
    ∀ b ∈ seen parse m_topic m_config e.1 a, P e.2 (s.view e.1) b

/-- What is asked of the steps of the server: new switches come above the others, and each
step is fine with `P` for each switch. -/
def Fine (m_config : SvrCfg) (P : SwitchInfo → SwitchRun → SwitchRun.Action → Prop)
    (s : Server) (a : Action) : Prop :=
  SwitchesAbove parse from_string m_topic s a ∧ Everywhere parse m_topic m_config P s a

instance (m_config : SvrCfg) (P : SwitchInfo → SwitchRun → SwitchRun.Action → Prop)
    [∀ info s b, Decidable (P info s b)] (s : Server) (a : Action) :
    Decidable (Fine parse from_string m_topic m_config P s a) :=
  haveI : Decidable (Everywhere parse m_topic m_config P s a) :=
    inferInstanceAs (Decidable (∀ e ∈ m_config.m_mapOidSwitchInfo.entries, _))
  inferInstanceAs (Decidable (_ ∧ _))

variable {parse from_string m_topic} {m_config : SvrCfg} {oid : String} {info : SwitchInfo}
  {P : SwitchInfo → SwitchRun → SwitchRun.Action → Prop} {as : List Action} {t : Server}

/-- An action of the server is at most one of a switch. -/
theorem seen_eq (m_config : SvrCfg) (oid : String) :
    ∀ a : Action, seen parse m_topic m_config oid a = []
      ∨ ∃ b, seen parse m_topic m_config oid a = [b]
  | .message message error free => by
      rw [seen]
      split
      · exact Or.inl rfl
      · split_ifs
        · exact Or.inr ⟨_, rfl⟩
        · exact Or.inl rfl
  | .handler oid' a => by
      rw [seen]
      split_ifs
      · exact Or.inr ⟨_, rfl⟩
      · exact Or.inl rfl
  | .clear => Or.inr ⟨_, rfl⟩
  | .terminate | .closed => Or.inl rfl

/-- A fine run of the server is a fine run of each switch. -/
theorem meets_view
    (hinfo : m_config.m_mapOidSwitchInfo.find oid = some info)
    (hok : Meets (next parse from_string m_topic) (Fine parse from_string m_topic m_config P)
      (initial m_config) as)
    (hrun : run (next parse from_string m_topic) (initial m_config) as = some t) :
  Meets (SwitchRun.next info) (P info) {} (as.flatMap (seen parse m_topic m_config oid))
    ∧ run (SwitchRun.next info) {} (as.flatMap (seen parse m_topic m_config oid))
      = some (t.view oid)
  := by
  have hstep : ∀ (s : Server) a t, s.engine.m_config = m_config →
      Fine parse from_string m_topic m_config P s a →
      next parse from_string m_topic s a = some t → t.engine.m_config = m_config := by
    intro s a t hs _ hnext
    rw [m_config_next hnext, hs]
  have hview : ∀ (s : Server) a t, s.engine.m_config = m_config →
      Fine parse from_string m_topic m_config P s a →
      next parse from_string m_topic s a = some t →
      run (SwitchRun.next info) (s.view oid) (seen parse m_topic m_config oid a)
        = some (t.view oid) :=
    fun s a t hs ha hnext => run_seen hinfo hs ha.1 hnext
  have hmeets : ∀ (s : Server) a t, s.engine.m_config = m_config →
      Fine parse from_string m_topic m_config P s a →
      next parse from_string m_topic s a = some t →
      Meets (SwitchRun.next info) (P info) (s.view oid) (seen parse m_topic m_config oid a) := by
    intro s a t _ ha _
    have hP := ha.2 (oid, info) (OrdMap.mem_entries_of_find hinfo)
    rcases seen_eq m_config oid a with heq | ⟨b, heq⟩
    · rw [heq]
      trivial
    · rw [heq] at hP ⊢
      apply meets_singleton (hP b (List.mem_singleton_self b))
  rw [← trace_of_run _ hrun]
  constructor
  · apply meets_trace hview hmeets hstep rfl hok
  · apply run_trace hview hstep rfl hok hrun

/-- The server is in service. -/
def InService (_info : SwitchInfo) (s : SwitchRun) (a : SwitchRun.Action) : Prop :=
  SwitchRun.InService s a

instance (info : SwitchInfo) (s : SwitchRun) (a : SwitchRun.Action) :
    Decidable (InService info s a) :=
  inferInstanceAs (Decidable (SwitchRun.InService s a))

/-- A run of the server in service is, for each door, a run of the worker of the door
alone. -/
theorem run_door
    (hinfo : m_config.m_mapOidSwitchInfo.find oid = some info) (c : UInt16)
    (hok : Meets (next parse from_string m_topic)
      (Fine parse from_string m_topic m_config InService) (initial m_config) as)
    (hrun : run (next parse from_string m_topic) (initial m_config) as = some t) :
  run (WorkerRun.next info.type) (WorkerRun.initial c)
      (trace (SwitchRun.next info) (SwitchRun.seen c) {}
        (as.flatMap (seen parse m_topic m_config oid)))
    = some ((t.view oid).worker c)
  := by
  obtain ⟨hmeets, hrun'⟩ := meets_view hinfo hok hrun
  apply SwitchRun.run_worker info c hmeets hrun'

/-! ### The tasks of a door -/

/-- The task of the accepted request in a message, if it is for the door of a channel of a
switch. -/
def tasksFor (parse : String → Option OpenDoorRequest) (m_topic : String) (m_config : SvrCfg)
    (oid : String) (c : UInt16) : Action → List DoorSwitchOpenNotification
  | .message message _ _ =>
      match requestIn parse m_topic m_config message with
      | none => []
      | some (req, _) =>
          if req.m_strSwitchId = oid ∧ SwitchRun.key req = c then [⟨req.m_closeAfter⟩] else []
  | .handler _ _ | .terminate | .closed | .clear => []

/-- The task of a request for a channel. -/
def taskOf (c : UInt16) : SwitchRun.Action → List DoorSwitchOpenNotification
  | .request req _ _ => if SwitchRun.key req = c then [⟨req.m_closeAfter⟩] else []
  | .handler _ | .destroy => []

theorem seen_sublist (c : UInt16) (s : SwitchRun) :
    ∀ a : SwitchRun.Action,
      ((SwitchRun.seen c s a).flatMap WorkerRun.arrivals).Sublist (taskOf c a)
  | .request req error free => by
      rw [SwitchRun.seen, taskOf]
      split_ifs with hserves hkey hkey
      · apply List.Sublist.refl
      · apply absurd hserves.2 hkey
      · apply List.nil_sublist
      · apply List.nil_sublist
  | .handler (.work c' elapsed) => by
      rw [SwitchRun.seen]
      split_ifs <;> apply List.nil_sublist
  | .handler (.thread (some c') free) => by
      rw [SwitchRun.seen]
      split_ifs <;> apply List.nil_sublist
  | .handler .close | .handler (.thread none _) | .handler (.timer _) | .destroy =>
      List.nil_sublist _

theorem flatMap_taskOf (c : UInt16) :
    ∀ a : Action,
      (seen parse m_topic m_config oid a).flatMap (taskOf c)
        = tasksFor parse m_topic m_config oid c a
  | .message message error free => by
      rw [seen, tasksFor]
      cases requestIn parse m_topic m_config message with
      | none => rfl
      | some x =>
          simp only
          split_ifs with hoid hkey hkey
          · rw [List.flatMap_singleton, taskOf, if_pos hkey.2]
          · rw [List.flatMap_singleton, taskOf, if_neg (fun h => hkey ⟨hoid, h⟩)]
          · apply absurd hkey.1 hoid
          · rfl
  | .handler oid' a => by
      rw [seen]
      split_ifs <;> rfl
  | .terminate | .closed | .clear => rfl

/-- In every run of the server in service, in which new switches and new channels come above
those before them, the tasks of the worker of a door are, in their order, among the tasks of
the accepted requests for the door; and no more open commands are sent for the door than
there are such requests. -/
theorem tasks_requested (m_config : SvrCfg) (oid : String) (info : SwitchInfo) (c : UInt16)
    (hinfo : m_config.m_mapOidSwitchInfo.find oid = some info) (as : List Action) {t : Server}
    (hok : Meets (next parse from_string m_topic)
      (Fine parse from_string m_topic m_config InService) (initial m_config) as)
    (hrun : run (next parse from_string m_topic) (initial m_config) as = some t) :
  ((t.view oid).channel c).ctl.added.Sublist (as.flatMap (tasksFor parse m_topic m_config oid c))
    ∧ ((t.view oid).issuedFor c).count .openCommand
      ≤ (as.flatMap (tasksFor parse m_topic m_config oid c)).length
  := by
  have hdoor := run_door hinfo c hok hrun
  have hsublist : ((t.view oid).channel c).ctl.added.Sublist
      (as.flatMap (tasksFor parse m_topic m_config oid c)) := by
    have hseen := trace_sublist (SwitchRun.next info) (seen_sublist c) {}
      (as.flatMap (seen parse m_topic m_config oid))
    rw [List.flatMap_assoc] at hseen
    simp only [flatMap_taskOf] at hseen
    have hadded : ((t.view oid).channel c).ctl.added = _ := WorkerRun.added_of_run hdoor
    rw [hadded, flatMap_trace]
    apply hseen
  constructor
  · apply hsublist
  · have hopen := WorkerRun.countOpen_le_added info.type c hdoor
    have hcount : ((t.view oid).channel c).issued.count .openCommand
        = ((t.view oid).issuedFor c).count .openCommand := List.count_reverse
    have hlength := hsublist.length_le
    simp only [SwitchRun.worker] at hopen
    omega

theorem tasks_requested_one :
  ∃ t, run (next EngineRun.parseAB EngineRun.addressAB "seeta_switch_open")
      (initial EngineRun.twoSwitches) opened = some t
    ∧ ((t.view "a").issuedFor 1).count .openCommand
      ≤ (opened.flatMap
          (tasksFor EngineRun.parseAB "seeta_switch_open" EngineRun.twoSwitches "a" 1)).length
  := by
  have hrun : (run (next EngineRun.parseAB EngineRun.addressAB "seeta_switch_open")
      (initial EngineRun.twoSwitches) opened).isSome := by
    decide +kernel
  obtain ⟨t, ht⟩ := Option.isSome_iff_exists.mp hrun
  use t, ht
  have hinfo : EngineRun.twoSwitches.m_mapOidSwitchInfo.find "a" = some EngineRun.switchA := by
    decide +kernel
  have hok : Meets (next EngineRun.parseAB EngineRun.addressAB "seeta_switch_open")
      (Fine EngineRun.parseAB EngineRun.addressAB "seeta_switch_open" EngineRun.twoSwitches
        InService) (initial EngineRun.twoSwitches) opened := by
    decide +kernel
  exact (tasks_requested EngineRun.twoSwitches "a" EngineRun.switchA 1 hinfo opened hok ht).2

/-! ### The relays -/

/-- The frame that opens the door of channel 1, in two pieces. -/
def openInPieces : List (Wire.Action UInt16 UInt8) :=
  [.start 1 (DoorCommand.openCommand.bytes 1), .writeSome 1 4, .writeSome 1 6]

/-- The two pieces put the frame on the wire. -/
theorem openInPieces_run :
  ∃ w, run Wire.next .empty openInPieces = some w
    ∧ Meets Wire.next Wire.WritesBetween .empty openInPieces ∧ w.failed = false ∧ w.Idle
    ∧ w.started = [(1, DoorCommand.openCommand.bytes 1)]
  := by
  refine ⟨_, rfl, ?_, rfl, ?_, rfl⟩
  · intro w₁ h₁
    obtain rfl := Option.some.inj h₁
    refine ⟨trivial, ?_⟩
    intro w₂ h₂
    obtain rfl := Option.some.inj h₂
    refine ⟨fun _ _ => rfl, ?_⟩
    intro w₃ h₃
    exact ⟨fun j hj => Function.update_of_ne hj _ _, trivial⟩
  · intro k
    rcases eq_or_ne k 1 with rfl | hne
    · rfl
    · simp [Wire.start, Wire.empty, Function.update_of_ne hne]

end Server

end DoorSwitchSvr
