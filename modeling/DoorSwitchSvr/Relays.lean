import DoorSwitchSvr.Acceptance
import DoorSwitchSvr.RelayBoard
import DoorSwitchSvr.SwitchRun
import DoorSwitchSvr.Lib.Wire

/-!
# The relays of a switch

What the relay board of a switch shows while the switch is in service.

`bNotiInQ` is meant to say whether the door has been left open for the next task.  It does
in every run in which no task is discarded with the door open and the queue empty, or with
the door shut and others behind it (`SparesDoor`).  In these runs every command that is sent
changes the state of its door (`commands_move_door`).

When moreover every command is written and the switch has no more channels than the board
has relays, the board takes all that is written on the socket, and afterwards a relay is on
exactly when the door of its channel is open: it is off when the worker of the channel is
parked, on when it sleeps for a task, and off for a channel that has not been requested
(`relays_of_run`).  The frames may go on the socket in pieces, as long as none is written while
another frame is part of the way through.
-/

namespace DoorSwitchSvr

open Transition DoorSwitchChannelController RelayBoard

namespace ChannelRun

/-! ### One door -/

/-- A direct switch does not discard the last task of its queue while its door is open, nor a
task with others behind it while its door is shut. -/
def SparesDoor (type : SWITCH_TYPE) (s : ChannelRun) (a : Action) : Prop :=
  DiscardsLastShut type s a ∧ DiscardsQueuedOpen type s a

instance (type : SWITCH_TYPE) (s : ChannelRun) (a : Action) : Decidable (SparesDoor type s a) :=
  inferInstanceAs (Decidable (_ ∧ _))

/-- What is known of the door at each point of `run`.  Where a worker of a direct switch goes
for its next task, `bNotiInQ` says whether the door is open. -/
def DoorInv (type : SWITCH_TYPE) (s : ChannelRun) : Prop :=
  match s.ctl.pc with
  | .testStop | .waitDequeue | .parked | .gotTask _ =>
      s.DoorOpen ↔ type ≠ .INDIRECT_CONTROL_SWITCH ∧ s.ctl.bNotiInQ = true
  | .discard => s.DoorOpen → type ≠ .INDIRECT_CONTROL_SWITCH
  | .sendOpen _ => ¬ s.DoorOpen
  | .sleeping _ => s.DoorOpen
  | .testEmpty => s.DoorOpen ∧ type ≠ .INDIRECT_CONTROL_SWITCH
  | .sendClose => s.DoorOpen ∧ (type ≠ .INDIRECT_CONTROL_SWITCH → s.ctl.bNotiInQ = false)
  | _ => True

theorem DoorInv.addTask {type : SWITCH_TYPE} {s t : ChannelRun} (h : DoorInv type s)
    {task : DoorSwitchOpenNotification} (hnext : next type s (.addTask task) = some t) :
  DoorInv type t
  := by
  obtain ⟨hissued, hb, ⟨hpc, hpc', -⟩ | ⟨-, hpc', -⟩⟩ := next_addTask hnext
  · rw [DoorInv, hpc] at h
    rw [DoorInv, hpc', hb, doorOpen_of_issued_eq hissued]
    apply h
  · rw [DoorInv] at h ⊢
    rw [hpc', hb, doorOpen_of_issued_eq hissued]
    apply h

theorem DoorInv.work {type : SWITCH_TYPE} {s t : ChannelRun} (h : DoorInv type s)
    {elapsed : Int64} (hok : SparesDoor type s (.work elapsed))
    (hnext : next type s (.work elapsed) = some t) :
  DoorInv type t
  := by
  obtain ⟨ctl, issued⟩ := t
  obtain ⟨cmd, hstep, rfl⟩ := next_work hnext
  rw [DoorInv] at h
  cases hstep with
  | stop => trivial
  | null => trivial
  | go hpc | park hpc | dequeue _ _ hpc =>
      rw [hpc] at h
      apply h
  | sendOpen => rfl
  | serve task hpc _ hopen =>
      rw [hpc] at h
      intro hdoor
      obtain ⟨htype, hb⟩ := h.mp hdoor
      rcases hopen with hopen | hopen
      · apply htype hopen
      · cases hb.symm.trans hopen
  | follow task hpc _ htype hb =>
      rw [hpc] at h
      apply h.mpr ⟨htype, hb⟩
  | expire task hpc =>
      rw [hpc] at h
      intro hdoor
      apply (h.mp hdoor).1
  | discard hpc =>
      rw [hpc] at h
      constructor
      · intro hdoor
        have htype := h hdoor
        use htype
        -- here the condition on the run excludes an empty queue
        have hne : s.ctl.m_taskNotiQue ≠ [] :=
          fun hq => hok.1 htype hpc hq hdoor
        simpa using hne
      · rintro ⟨htype, hb⟩
        -- and here a shut door
        apply hok.2 htype hpc
        rintro hq
        simp [hq] at hb
  | wakeIndirect _ hpc htype =>
      rw [hpc] at h
      exact ⟨h, fun htype' => absurd htype htype'⟩
  | wakeDirect _ hpc htype =>
      rw [hpc] at h
      exact ⟨h, htype⟩
  | last hpc =>
      rw [hpc] at h
      exact ⟨h.1, fun _ => rfl⟩
  | notLast hpc =>
      rw [hpc] at h
      exact ⟨fun _ => ⟨h.2, rfl⟩, fun _ => h.1⟩
  | closeIndirect hpc htype =>
      exact ⟨fun hdoor => absurd hdoor (not_doorOpen_close _ _),
        fun hb => absurd htype hb.1⟩
  | closeDirect hpc htype =>
      rw [hpc] at h
      constructor
      · intro hdoor
        apply absurd hdoor (not_doorOpen_close _ _)
      · rintro ⟨-, hb⟩
        cases hb.symm.trans (h.2 htype)

theorem DoorInv.step {type : SWITCH_TYPE} (s : ChannelRun) :
    ∀ (a : Action) (t : ChannelRun), DoorInv type s → SparesDoor type s a →
      next type s a = some t → DoorInv type t
  | .addTask _, _, h, _, hnext => h.addTask hnext
  | .work _, _, h, hok, hnext => h.work hok hnext

theorem DoorInv.initial (type : SWITCH_TYPE) (channel : UInt16) :
  DoorInv type (initial channel)
  := by
  constructor
  · intro hdoor
    cases hdoor
  · rintro ⟨-, hb⟩
    cases hb

/-- The step sends no command, or its command changes the state of the door. -/
def MovesDoor (s t : ChannelRun) : Prop := t.issued = s.issued ∨ (t.DoorOpen ↔ ¬ s.DoorOpen)

instance (s t : ChannelRun) : Decidable (MovesDoor s t) :=
  inferInstanceAs (Decidable (_ ∨ _))

theorem DoorInv.movesDoor {type : SWITCH_TYPE} {s t : ChannelRun} (h : DoorInv type s) :
    ∀ {a : Action}, next type s a = some t → MovesDoor s t
  | .addTask task, hnext => Or.inl (next_addTask hnext).1
  | .work elapsed, hnext => by
      obtain ⟨ctl, issued⟩ := t
      obtain ⟨cmd, hstep, rfl⟩ := next_work hnext
      rw [DoorInv] at h
      cases hstep with
      | sendOpen realWait hpc =>
          rw [hpc] at h
          exact Or.inr ⟨fun _ => h, fun _ => rfl⟩
      | closeIndirect hpc | closeDirect hpc =>
          rw [hpc] at h
          exact Or.inr ⟨fun hdoor => absurd hdoor (not_doorOpen_close _ _),
            fun hshut => absurd h.1 hshut⟩
      | _ => exact Or.inl rfl

/-- In every run in which no direct switch discards the last task of its queue with its door
open, or another task with its door shut, each command that is sent opens a shut door or
shuts an open one. -/
theorem commands_move_door (type : SWITCH_TYPE) (channel : UInt16) (as : List Action)
    (hok : Meets (next type) (SparesDoor type) (initial channel) as) :
  Along (next type) (fun s _ t => MovesDoor s t) (initial channel) as
  := by
  apply along_of_meets _ DoorInv.step (DoorInv.initial type channel) hok
  intro s a t hs _ hnext
  apply hs.movesDoor hnext

/-- Two tasks, the second of which follows the first. -/
def twoInTime : List Action :=
  [.addTask ⟨1000⟩, .addTask ⟨2000⟩] ++ List.replicate 14 (.work 0)

theorem commands_move_door_two :
  Along (next .DIRECT_CONTROL_SWITCH) (fun s _ t => MovesDoor s t) (initial 1) twoInTime
  := by
  exact commands_move_door .DIRECT_CONTROL_SWITCH 1 twoInTime (by decide)

end ChannelRun

namespace SwitchRun

/-! ### The doors of a switch -/

/-- An action of a switch is at most one of the worker of a channel. -/
theorem seen_eq (c : UInt16) (s : SwitchRun) :
    ∀ a : Action, seen c s a = [] ∨ ∃ b, seen c s a = [b]
  | .request req error free => by
      rw [seen]
      split_ifs
      · exact Or.inr ⟨_, rfl⟩
      · exact Or.inl rfl
  | .handler (.work c' elapsed) => by
      rw [seen]
      split_ifs
      · exact Or.inr ⟨_, rfl⟩
      · exact Or.inl rfl
  | .handler (.thread (some c') free) => by
      rw [seen]
      split_ifs
      · exact Or.inr ⟨_, rfl⟩
      · exact Or.inl rfl
  | .handler .close | .handler (.thread none _) | .handler (.timer _) | .destroy => Or.inl rfl

/-- The worker of a channel does not take a step of `close` in service. -/
theorem close_not_mem_seen (c : UInt16) (s : SwitchRun) :
    ∀ a : Action, .close ∉ seen c s a
  | .request req error free => by
      rw [seen]
      split_ifs <;> simp
  | .handler (.work c' elapsed) => by
      rw [seen]
      split_ifs <;> simp
  | .handler (.thread (some c') free) => by
      rw [seen]
      split_ifs <;> simp
  | .handler .close | .handler (.thread none _) | .handler (.timer _) | .destroy =>
      List.not_mem_nil

/-- In service, an invariant of the worker of a channel is kept by the steps of the switch, if
it holds of every worker that has returned. -/
theorem Inv.channel_invariant {info : SwitchInfo} {s t : SwitchRun} (h : Inv info s)
    {a : Action} (hok : InService s a) (hnext : next info s a = some t) {c : UInt16}
    {I : ChannelRun → Prop} {ok : ChannelRun → ChannelRun.Action → Prop}
    (hstep : ∀ (s : ChannelRun) (b : ChannelRun.Action) (t : ChannelRun), I s → ok s b →
      ChannelRun.next info.type s b = some t → I t)
    (hreturned : ∀ s : ChannelRun, s.ctl.pc = .returned → I s)
    (hseen : ∀ b, .run b ∈ seen c s a → ok (s.channel c) b) (hs : I (s.channel c)) :
  I (t.channel c)
  := by
  have hrun := run_seen h c hok hnext
  rcases seen_eq c s a with heq | ⟨b, heq⟩
  · rw [heq] at hrun
    have hchannel : s.channel c = t.channel c := congrArg WorkerRun.chan (Option.some.inj hrun)
    rw [← hchannel]
    apply hs
  · rw [heq, run_singleton] at hrun
    cases b with
    | run b =>
        obtain ⟨-, hchan, -⟩ := WorkerRun.next_run hrun
        apply hstep _ b _ hs (hseen b _) hchan
        rw [heq]
        apply List.mem_singleton_self
    | throws =>
        apply hreturned
        have hchan := congrArg WorkerRun.chan (WorkerRun.next_throws hrun).2
        have hchannel : t.channel c
          = { s.channel c with ctl := (s.channel c).ctl.endThread } := hchan
        rw [hchannel]
        rfl
    | close =>
        apply absurd _ (close_not_mem_seen c s a)
        rw [heq]
        apply List.mem_singleton_self

/-- A command that is sent in a step is sent while the socket is connected. -/
def Delivered (s : SwitchRun) : Action → Prop
  | .handler a => ∀ h ∈ s.handler, Threads.issues h a ≠ none → h.conn.m_socket = .connected
  | .request _ _ _ | .destroy => True

instance (s : SwitchRun) : (a : Action) → Decidable (Delivered s a)
  | .handler a =>
      inferInstanceAs (Decidable (∀ h ∈ s.handler,
        Threads.issues h a ≠ none → h.conn.m_socket = .connected))
  | .request _ _ _ | .destroy => isTrue trivial

/-- The channel of a request is one of the switch. -/
def Supported (info : SwitchInfo) : Action → Prop
  | .request req _ _ => info.supportsChannel req.m_channel = true
  | .handler _ | .destroy => True

instance (info : SwitchInfo) : (a : Action) → Decidable (Supported info a)
  | .request _ _ _ => inferInstanceAs (Decidable (_ = _))
  | .handler _ | .destroy => isTrue trivial

/-- No worker discards a task against the state of its door. -/
def Spares (info : SwitchInfo) (s : SwitchRun) : Action → Prop
  | .handler (.work c elapsed) => ChannelRun.SparesDoor info.type (s.channel c) (.work elapsed)
  | .request _ _ _ | .handler .close | .handler (.thread _ _) | .handler (.timer _) | .destroy =>
      True

instance (info : SwitchInfo) (s : SwitchRun) : (a : Action) → Decidable (Spares info s a)
  | .handler (.work c elapsed) =>
      inferInstanceAs (Decidable (ChannelRun.SparesDoor info.type (s.channel c) (.work elapsed)))
  | .request _ _ _ | .handler .close | .handler (.thread _ _) | .handler (.timer _) | .destroy =>
      isTrue trivial

theorem Spares.seen {info : SwitchInfo} {s : SwitchRun} {c : UInt16} {b : ChannelRun.Action} :
    ∀ {a : Action}, Spares info s a → .run b ∈ seen c s a →
      ChannelRun.SparesDoor info.type (s.channel c) b
  | .request req error free, _, hb => by
      rw [SwitchRun.seen] at hb
      split_ifs at hb
      · obtain rfl := WorkerRun.Action.run.inj (List.mem_singleton.mp hb)
        exact ⟨trivial, trivial⟩
      · cases hb
  | .handler (.work c' elapsed), h, hb => by
      rw [SwitchRun.seen] at hb
      split_ifs at hb with hc
      · obtain rfl := WorkerRun.Action.run.inj (List.mem_singleton.mp hb)
        rw [← hc]
        apply h
      · cases hb
  | .handler (.thread (some c') free), _, hb => by
      rw [SwitchRun.seen] at hb
      split_ifs at hb
      · cases List.mem_singleton.mp hb
      · cases hb
  | .handler .close, _, hb | .handler (.thread none _), _, hb | .handler (.timer _), _, hb
  | .destroy, _, hb => by
      cases hb

/-- What is asked of the steps: the switch is in service, its commands are written, its
requests are for its channels, and no worker discards a task against the state of its
door. -/
structure Orderly (info : SwitchInfo) (s : SwitchRun) (a : Action) : Prop where
  inService : InService s a
  delivered : Delivered s a
  supported : Supported info a
  spares : Spares info s a

instance (info : SwitchInfo) (s : SwitchRun) (a : Action) : Decidable (Orderly info s a) :=
  decidable_of_iff (InService s a ∧ Delivered s a ∧ Supported info a ∧ Spares info s a)
    ⟨fun h => ⟨h.1, h.2.1, h.2.2.1, h.2.2.2⟩, fun h => ⟨h.1, h.2, h.3, h.4⟩⟩

/-- The key of a supported channel is one of the numbers of the channels. -/
theorem toNat_key {info : SwitchInfo} {req : OpenDoorRequest}
    (h : info.supportsChannel req.m_channel) :
  1 ≤ (key req).toNat ∧ (key req).toNat ≤ info.channels.toNat
  := by
  have hkey := toNat_controllerChannel h
  have hrange := (DoorSwitchEngine.supportsChannel_iff info req.m_channel).mp h
  rw [key]
  omega

/-- The invariant of an orderly switch. -/
structure DoorsInv (info : SwitchInfo) (s : SwitchRun) : Prop where
  inv : Inv info s
  idle : ∀ c, ChannelRun.IdleInv info.type (s.channel c)
  door : ∀ c, ChannelRun.DoorInv info.type (s.channel c)
  written_eq : s.threads.written = s.threads.issued
  keys : ∀ c ctl, s.controller c = some ctl → 1 ≤ c.toNat ∧ c.toNat ≤ info.channels.toNat

theorem DoorsInv.initial (info : SwitchInfo) :
  DoorsInv info {}
  := by
  constructor
  · apply Inv.initial
  · apply ChannelRun.IdleInv.initial
  · apply ChannelRun.DoorInv.initial
  · rfl
  · intro c ctl hctl
    cases hctl

/-- A command that is delivered is written. -/
theorem written_work {info : SwitchInfo} {s t : SwitchRun} {c : UInt16} {elapsed : Int64}
    (hok : Delivered s (.handler (.work c elapsed)))
    (hnext : next info s (.handler (.work c elapsed)) = some t)
    (hs : s.threads.written = s.threads.issued) :
  t.threads.written = t.threads.issued
  := by
  obtain ⟨h, closing, hhandler, hstep, -, hissued, hclosing⟩ := next_handler hnext
  obtain ⟨ctl, ctl', cmd, -, -, hissues, -, -, hwritten, -⟩ :=
    workStep_eq_some (Closing.next_work hstep)
  have hissues' : Threads.issues h (.work c elapsed) = cmd.map (Prod.mk ctl.m_channel) := hissues
  have hwritten' : t.threads.written = closing.written := by
    rw [← hclosing]
    rfl
  have hs' : (s.threads.closing h).written = s.threads.issued := hs
  rw [hwritten', hwritten, hs', hissued, hissues']
  congr 1
  split_ifs with hsocket
  · rfl
  · cases cmd with
    | none => rfl
    | some cmd =>
        have hne : Threads.issues h (.work c elapsed) ≠ none := by
          rw [hissues']
          apply Option.some_ne_none
        apply absurd (hok h hhandler hne) hsocket

/-- Every controller has the number of a channel of the switch. -/
theorem keys_next {info : SwitchInfo} {s t : SwitchRun} (hinv : Inv info s)
    (hs : ∀ c ctl, s.controller c = some ctl → 1 ≤ c.toNat ∧ c.toNat ≤ info.channels.toNat) :
    ∀ {a : Action}, InService s a → Supported info a → next info s a = some t →
      ∀ c ctl, t.controller c = some ctl → 1 ≤ c.toNat ∧ c.toNat ≤ info.channels.toNat
  | .request req error free, hok, hsupported, hnext, c, ctl, hctl => by
      rw [controller_request hok hnext] at hctl
      split_ifs at hctl with hkey
      · rw [← hkey.2]
        apply toNat_key hsupported
      · apply hs c ctl hctl
  | .handler (.work c' elapsed), _, _, hnext, c, ctl, hctl => by
      obtain ⟨ctl₀, ctl', cmd, hctl₀, -, hcontroller, -, -⟩ :=
        next_work hinv.m_switchInfo_eq hnext
      rw [hcontroller] at hctl
      split_ifs at hctl with hc
      · rw [hc]
        apply hs c' ctl₀ hctl₀
      · apply hs c ctl hctl
  | .handler (.thread i free), _, _, hnext, c, ctl, hctl => by
      obtain ⟨-, -, -, ⟨-, hcontroller⟩ | ⟨c', -, -, -, hcontroller⟩⟩ := next_thread hnext
      · rw [hcontroller] at hctl
        apply hs c ctl hctl
      · rw [hcontroller] at hctl
        split_ifs at hctl with hc
        · obtain ⟨ctl₀, hctl₀, -⟩ := Option.map_eq_some_iff.mp hctl
          rw [hc]
          apply hs c' ctl₀ hctl₀
        · apply hs c ctl hctl
  | .handler (.timer error), _, _, hnext, c, ctl, hctl => by
      rw [(next_timer hnext).2.2] at hctl
      apply hs c ctl hctl
  | .handler .close, hok, _, _, _, _, _ => absurd hok not_false
  | .destroy, hok, _, _, _, _, _ => absurd hok not_false

/-- What has been sent is written after every step whose command is delivered. -/
theorem written_next {info : SwitchInfo} {s t : SwitchRun}
    (hs : s.threads.written = s.threads.issued) :
    ∀ {a : Action}, InService s a → Delivered s a → next info s a = some t →
      t.threads.written = t.threads.issued
  | .request req error free, _, _, hnext => by
      obtain rfl := Option.some.inj hnext
      apply hs
  | .handler (.work _ _), _, hok, hnext => written_work hok hnext hs
  | .handler (.thread i free), _, _, hnext => by
      have hkept := (next_thread hnext).1
      rw [hkept.issued_eq, hkept.written_eq, hs]
  | .handler (.timer error), _, _, hnext => by
      have hkept := (next_timer hnext).1
      rw [hkept.issued_eq, hkept.written_eq, hs]
  | .handler .close, hok, _, _ => absurd hok not_false
  | .destroy, hok, _, _ => absurd hok not_false

theorem DoorsInv.step {info : SwitchInfo} {s t : SwitchRun} {a : Action} (h : DoorsInv info s)
    (hok : Orderly info s a) (hnext : next info s a = some t) :
  DoorsInv info t
  := by
  have hinv := h.inv
  constructor
  · apply hinv.step hok.inService hnext
  · intro c
    apply hinv.channel_invariant hok.inService hnext ChannelRun.IdleInv.step _ _ (h.idle c)
    · intro s hpc
      rw [ChannelRun.IdleInv, hpc]
      trivial
    · intro b hb
      apply (hok.spares.seen hb).1
  · intro c
    apply hinv.channel_invariant hok.inService hnext ChannelRun.DoorInv.step _ _ (h.door c)
    · intro s hpc
      rw [ChannelRun.DoorInv, hpc]
      trivial
    · intro b hb
      apply hok.spares.seen hb
  · apply written_next h.written_eq hok.inService hok.delivered hnext
  · apply keys_next hinv h.keys hok.inService hok.supported hnext

/-! ### The relay board -/

/-- The frames of the commands that have been written are the messages on the wire, those of
each controller in their order, and the writes are over and none has failed. -/
structure Carries (s : SwitchRun) (w : Wire UInt16 UInt8) : Prop where
  not_failed : w.failed = false
  idle : w.Idle
  frames : ∀ c, w.started.filter (fun p => p.1 = c)
    = (s.threads.written.filter (fun p => p.1 = c)).map (fun p => (p.1, p.2.bytes p.1))

/-- The relay of each channel is on exactly when its door is open.  The worker of a channel
with the relay on is not parked, one that sleeps for a task has its relay on, and a channel
without a worker has its relay off. -/
def Shows (s : SwitchRun) (R : BitVec 16) : Prop :=
  ∀ c : UInt16, 1 ≤ c.toNat → c.toNat ≤ 16 →
    (R.getLsbD (c.toNat - 1) = true ↔ (s.channel c).DoorOpen)
      ∧ ((s.channel c).ctl.pc = .parked → R.getLsbD (c.toNat - 1) = false)
      ∧ (∀ realWait, (s.channel c).ctl.pc = .sleeping realWait →
          R.getLsbD (c.toNat - 1) = true)
      ∧ (s.controller c = none → R.getLsbD (c.toNat - 1) = false)

/-- A door is open when the last command for its channel is an open one. -/
theorem doorOpen_iff_lastCommand (s : SwitchRun) (c : UInt16) :
  (s.channel c).DoorOpen ↔ lastCommand s.threads.issued c = some .openCommand
  := by
  rw [ChannelRun.DoorOpen, channel, List.head?_reverse, issuedFor, List.getLast?_map, lastCommand]

theorem issued_range {info : SwitchInfo} {s : SwitchRun} (h : DoorsInv info s) :
  ∀ p ∈ s.threads.issued, 1 ≤ p.1.toNat ∧ p.1.toNat ≤ info.channels.toNat
  := by
  intro p hp
  cases hctl : s.controller p.1 with
  | some ctl => apply h.keys p.1 ctl hctl
  | none =>
      have hnil := h.inv.issuedFor_eq p.1 hctl
      rw [issuedFor, List.map_eq_nil_iff, List.filter_eq_nil_iff] at hnil
      apply absurd (hnil p hp)
      simp

/-- When the last command for each channel is the one that has been sent last, a relay board
whose relays are off takes the commands and then shows the doors. -/
theorem DoorsInv.shows {info : SwitchInfo} {s : SwitchRun} (h : DoorsInv info s)
    (hchannels : info.channels.toNat ≤ 16) {cmds : List (UInt16 × DoorCommand)}
    (hcmds : ∀ c, cmds.filter (fun p => p.1 = c) = s.threads.issued.filter (fun p => p.1 = c)) :
  ∃ R, RelayBoard.receive 0#16 (cmds.map (fun p => p.2.bytes p.1)).flatten = some R ∧ s.Shows R
  := by
  have hrange : ∀ p ∈ cmds, 1 ≤ p.1.toNat ∧ p.1.toNat ≤ 16 := by
    intro p hp
    have hmem : p ∈ cmds.filter (fun q => q.1 = p.1) := by
      rw [List.mem_filter]
      exact ⟨hp, decide_eq_true rfl⟩
    rw [hcmds] at hmem
    have hp' := issued_range h p (List.mem_filter.mp hmem).1
    omega
  have hzero : Agrees 0#16 (fun _ => false) := by
    intro c _ _
    simp
  obtain ⟨R, hR, hagrees⟩ := receiveFrames_commands hzero hrange
  use R
  constructor
  · rw [RelayBoard.receive, cut_commands, hR]
  · intro c h1 h16
    have hlast : lastCommand cmds c = lastCommand s.threads.issued c := by
      rw [lastCommand, lastCommand, hcmds]
    have hiff : R.getLsbD (c.toNat - 1) = true ↔ (s.channel c).DoorOpen := by
      rw [hagrees c h1 h16, doors_eq_lastCommand, doorOpen_iff_lastCommand, hlast]
      cases lastCommand s.threads.issued c with
      | none => simp
      | some cmd => cases cmd <;> simp [isOpened]
    refine ⟨hiff, ?_, ?_, ?_⟩
    · intro hpc
      have hidle := h.idle c
      rw [ChannelRun.IdleInv, hpc] at hidle
      rw [← Bool.not_eq_true, hiff]
      apply hidle
    · intro realWait hpc
      have hdoor := h.door c
      rw [ChannelRun.DoorInv, hpc] at hdoor
      apply hiff.mpr hdoor
    · intro hctl
      rw [← Bool.not_eq_true, hiff, ChannelRun.DoorOpen, channel, h.inv.issuedFor_eq c hctl]
      simp

/-- In every orderly run of a switch with at most 16 channels, and for every way in which the
workers write their frames in pieces, each of which is written while no other frame is part of
the way through, the relay board takes the stream and shows the doors. -/
theorem relays_of_run (info : SwitchInfo) (hchannels : info.channels.toNat ≤ 16)
    {as : List Action} {t : SwitchRun} (hok : Meets (next info) (Orderly info) {} as)
    (hrun : run (next info) {} as = some t) {pieces : List (Wire.Action UInt16 UInt8)}
    {w : Wire UInt16 UInt8} (hbetween : Meets Wire.next Wire.WritesBetween .empty pieces)
    (hwire : run Wire.next .empty pieces = some w) (hcarries : t.Carries w) :
  ∃ R, RelayBoard.receive 0#16 w.stream = some R ∧ t.Shows R
  := by
  have ht : DoorsInv info t :=
    run_invariant (fun _ _ _ hs ha hnext => hs.step ha hnext) (DoorsInv.initial info) hok hrun
  obtain ⟨hstream, hfinished⟩ :=
    Wire.stream_of_run hbetween hwire hcarries.not_failed hcarries.idle
  -- the frames written are those of the commands, with only the order of the channels changed
  have hframes : ∀ c, w.finished.filter (fun p => p.1 = c)
      = (t.threads.written.filter (fun p => p.1 = c)).map (fun p => (p.1, p.2.bytes p.1)) := by
    intro c
    rw [hfinished, hcarries.frames]
  obtain ⟨cmds, hcmds, hfilter⟩ := Wire.exists_map_of_filter_eq
    (f := fun p : UInt16 × DoorCommand => (p.1, p.2.bytes p.1)) (fun _ => rfl) hframes
  rw [hstream, ← hcmds, List.map_map]
  apply ht.shows hchannels
  intro c
  rw [hfilter, ht.written_eq]

end SwitchRun

end DoorSwitchSvr
