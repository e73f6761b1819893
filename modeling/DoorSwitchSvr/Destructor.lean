import DoorSwitchSvr.Joined
import DoorSwitchSvr.Server

/-!
# The destructor of the engine

The destructor of `DoorSwitchEngine` calls `close` on one handler after another, in the order
of their ids, and then destroys them.

In every run of the server, when it comes to a handler, all those before it have been closed
and neither their io threads nor their workers run any more, and those after it have not been
touched (`closed_in_order`); so no thread of these runs on a handler that is destroyed.  Once
`close` has returned on a handler, no worker of it sends a command (`silent_once_closed`).
-/

namespace DoorSwitchSvr

open Transition Worklist

namespace Threads

/-- A step of a thread of a handler, or of `close`, is one of `Closing`. -/
theorem step_eq_some {th : Threads} {h : DoorSwitchHandler} {a : Closing.Action}
    {x : DoorSwitchHandler × Threads} (hstep : th.step h a = some x) :
  Closing.next (th.closing h) a = some (x.2.closing x.1)
    ∧ x.2.issued = th.issued ++ (issues h a).toList
  := by
  obtain ⟨c, hnext, rfl⟩ := Option.map_eq_some_iff.mp hstep
  exact ⟨hnext, rfl⟩

/-- Only a step of `close` moves `close` on, and none does when it has returned. -/
theorem closer_step {th : Threads} {h : DoorSwitchHandler} {a : Closing.Action}
    {x : DoorSwitchHandler × Threads} (hstep : th.step h a = some x) :
  x.2.closer = th.closer ∨ a = .close ∧ th.closer ≠ .returned
  := by
  obtain ⟨hnext, -⟩ := step_eq_some hstep
  cases a with
  | close =>
      right
      use rfl
      intro hret
      have hnone : (th.closing h).closeStep = none := by
        have hret' : (th.closing h).closer = .returned := hret
        rw [Closing.closeStep, hret']
      cases hnone.symm.trans (Closing.next_close hnext)
  | work | thread | timer => exact Or.inl (Closing.closer_next Closing.Action.noConfusion hnext)

/-- Nothing is sent when none of the workers runs. -/
theorem silent_step {th : Threads} {h : DoorSwitchHandler} {a : Closing.Action}
    {x : DoorSwitchHandler × Threads} (hstep : th.step h a = some x)
    (hjoinable : ∀ c ∈ h.m_mapControllers.keys, (th.closing h).Joinable c) :
  x.2.issued = th.issued ∧ x.2.written = th.written
  := by
  obtain ⟨hnext, hissued⟩ := step_eq_some hstep
  cases a with
  | close =>
      obtain ⟨hwritten, -⟩ := Closing.closeStep_kept (Closing.next_close hnext)
      exact ⟨by rw [hissued]; exact List.append_nil _, hwritten⟩
  | work c elapsed =>
      obtain ⟨ctl, -, -, hfind, -⟩ := SwitchRun.workStep_eq_some (Closing.next_work hnext)
      obtain ⟨hnot, -⟩ := Closing.workStep_thread (Closing.next_work hnext)
      have hmem : c ∈ h.m_mapControllers.keys :=
        (OrdMap.mem_keys _ _).mpr (Option.isSome_iff_exists.mpr ⟨ctl, hfind⟩)
      apply absurd (hjoinable c hmem) hnot
  | thread i free =>
      obtain ⟨-, ⟨conn, pc, -, -, heq⟩ | ⟨c, -, -, heq⟩⟩ := Closing.next_thread hnext
      · exact ⟨by rw [hissued]; exact List.append_nil _, congrArg Closing.written heq⟩
      · exact ⟨by rw [hissued]; exact List.append_nil _, congrArg Closing.written heq⟩
  | timer error =>
      obtain ⟨conn, pc, -, heq⟩ := Closing.next_timer hnext
      exact ⟨by rw [hissued]; exact List.append_nil _, congrArg Closing.written heq⟩

end Threads

namespace Server

variable {parse : String → Option OpenDoorRequest} {from_string : String → Bool}
  {m_topic : String}

/-- The ids of the handlers, in order. -/
def oids (s : Server) : List String := s.engine.m_mapOidSwitchHandler.keys

/-- `close` has returned on the handler. -/
def Closed (s : Server) (oid : String) : Prop := (s.threads oid).closer = .returned

/-- `close` has not been called on the handler. -/
def Untouched (s : Server) (oid : String) : Prop := (s.threads oid).closer = .closeSocket

/-- Where the destructor is: the handlers before the one at which it is are closed, and those
after it untouched. -/
structure Destroying (s : Server) : Prop where
  serving : s.life = .serving → ∀ oid, s.Untouched oid
  closing : ∀ rest, s.life = .closing rest →
    Done s.Closed s.oids rest ∧ ∀ oid ∈ rest.tail, s.Untouched oid

theorem Destroying.initial (m_config : SvrCfg) :
  Destroying (initial m_config)
  := by
  constructor
  · intro _ oid
    rfl
  · intro rest hrest
    cases hrest

/-- What a step on a handler does to where `close` is on all of them. -/
theorem closer_next {s t : Server} {oid : String} {a : Closing.Action}
    (hnext : next parse from_string m_topic s (.handler oid a) = some t) (oid' : String) :
  (t.threads oid').closer = (s.threads oid').closer
    ∨ oid' = oid ∧ s.life.current = some oid ∧ ¬ s.Closed oid
  := by
  obtain ⟨handler, x, hfind, hallows, hstep, rfl⟩ := next_handler hnext
  rcases eq_or_ne oid' oid with rfl | hne
  · rcases Threads.closer_step hstep with hcloser | ⟨rfl, hnot⟩
    · left
      simp only [Function.update_self]
      apply hcloser
    · exact Or.inr ⟨rfl, hallows, hnot⟩
  · left
    simp only [Function.update_of_ne hne]

theorem Destroying.handler {s t : Server} (h : s.Destroying) {oid : String}
    {a : Closing.Action}
    (hnext : next parse from_string m_topic s (.handler oid a) = some t) :
  t.Destroying
  := by
  have hcloser := closer_next hnext
  have hlife : ∀ life, t.life = life → life ≠ .aborted → s.life = life :=
    fun _ => life_handler hnext
  obtain ⟨handler, x, hfind, -, hstep, rfl⟩ := next_handler hnext
  constructor
  · intro hserving oid'
    have hlife' := hlife _ hserving Life.noConfusion
    rcases hcloser oid' with heq | ⟨-, hcurrent, -⟩
    · apply heq.trans (h.serving hlife' oid')
    · rw [hlife'] at hcurrent
      cases hcurrent
  · intro rest hclosing
    have hlife' := hlife _ hclosing Life.noConfusion
    obtain ⟨hdone, huntouched⟩ := h.closing rest hlife'
    constructor
    · rw [oids, DoorSwitchEngine.setHandler]
      simp only [OrdMap.keys_modify]
      apply hdone.mono
      intro oid' hclosed
      rcases hcloser oid' with heq | ⟨rfl, -, hnot⟩
      · apply heq.trans hclosed
      · apply absurd hclosed hnot
    · intro oid' hmem
      rcases hcloser oid' with heq | ⟨rfl, hcurrent, -⟩
      · apply heq.trans (huntouched oid' hmem)
      · rw [hlife'] at hcurrent
        cases rest with
        | nil => cases hcurrent
        | cons oid rest =>
            obtain rfl := Option.some.inj hcurrent
            apply absurd hmem (hdone.not_mem s.engine.m_mapOidSwitchHandler.nodup_keys)

theorem Destroying.next {s t : Server} (h : s.Destroying) :
    ∀ {a : Action}, next parse from_string m_topic s a = some t → t.Destroying
  | .message message error free, hnext => by
      obtain ⟨hlife, rfl⟩ := next_message hnext
      constructor
      · exact fun _ => h.serving hlife
      · intro rest hrest
        simp only at hrest
        split_ifs at hrest
  | .handler _ _, hnext => h.handler hnext
  | .terminate, hnext => by
      obtain ⟨hlife, rfl⟩ := next_terminate hnext
      use fun hserving => Life.noConfusion hserving
      intro rest hrest
      obtain rfl := Life.closing.inj hrest
      exact ⟨Done.start _ _, fun oid _ => h.serving hlife oid⟩
  | .closed, hnext => by
      obtain ⟨oid, rest, hlife, hret, rfl⟩ := next_closed hnext
      obtain ⟨hdone, huntouched⟩ := h.closing _ hlife
      use fun hserving => Life.noConfusion hserving
      intro rest' hrest'
      obtain rfl := Life.closing.inj hrest'
      exact ⟨hdone.advance hret, fun oid' hmem => huntouched oid' (List.mem_of_mem_tail hmem)⟩
  | .clear, hnext => by
      obtain ⟨hlife, rfl⟩ := next_clear hnext
      exact ⟨fun hserving => Life.noConfusion hserving, fun _ hrest => Life.noConfusion hrest⟩

/-- Every handler, with its threads, has the property `P`. -/
structure Handlers (P : Closing → Prop) (s : Server) : Prop where
  destroying : s.Destroying
  closing : ∀ oid h, s.engine.m_mapOidSwitchHandler.find oid = some h →
    P ((s.threads oid).closing h)

section Handlers

variable {P : Closing → Prop} (hopen : ∀ s, s.closer = .closeSocket → P s)
  (hstep : ∀ s a t, P s → Closing.next s a = some t → P t)

theorem Handlers.initial (m_config : SvrCfg) :
  Handlers P (initial m_config)
  := by
  use Destroying.initial m_config
  intro oid h hfind
  cases hfind

include hopen hstep in
/-- What holds of every handler on which `close` has not been called, and is kept by the steps
of its threads and of `close`, is kept by the server. -/
theorem Handlers.next {s t : Server} (h : Handlers P s) :
    ∀ {a : Action}, next parse from_string m_topic s a = some t → Handlers P t
  | .message message error free, hnext => by
      have ht := h.destroying.next hnext
      obtain ⟨hlife, rfl⟩ := next_message hnext
      use ht
      intro oid handler _
      apply hopen
      apply h.destroying.serving hlife oid
  | .handler oid a, hnext => by
      use h.destroying.next hnext
      obtain ⟨handler, x, hfind, -, hthreads, rfl⟩ := next_handler hnext
      intro oid' handler' hfind'
      simp only [DoorSwitchEngine.setHandler, OrdMap.find_modify] at hfind'
      split_ifs at hfind' with heq
      · subst heq
        rw [hfind] at hfind'
        obtain rfl := Option.some.inj hfind'
        simp only [Function.update_self]
        apply hstep _ _ _ (h.closing _ _ hfind) (Threads.step_eq_some hthreads).1
      · simp only [Function.update_of_ne heq]
        apply h.closing oid' handler' hfind'
  | .terminate, hnext => by
      have ht := h.destroying.next hnext
      obtain ⟨-, rfl⟩ := next_terminate hnext
      exact ⟨ht, h.closing⟩
  | .closed, hnext => by
      have ht := h.destroying.next hnext
      obtain ⟨_, _, -, -, rfl⟩ := next_closed hnext
      exact ⟨ht, h.closing⟩
  | .clear, hnext => by
      have ht := h.destroying.next hnext
      obtain ⟨-, rfl⟩ := next_clear hnext
      use ht
      intro oid handler hfind
      cases hfind

include hopen hstep in
theorem Handlers.of_run {m_config : SvrCfg} {as : List Action} {t : Server}
    (hrun : run (Server.next parse from_string m_topic) (Server.initial m_config) as = some t) :
  Handlers P t
  := run_invariant_of_step (fun _ _ _ hs hnext => hs.next hopen hstep hnext)
    (Handlers.initial m_config) hrun

end Handlers

/-- Neither the io thread of a handler nor one of its workers runs. -/
def Quiet (s : Server) (oid : String) : Prop :=
  ∀ h, s.engine.m_mapOidSwitchHandler.find oid = some h →
    ((s.threads oid).closing h).IoJoined
      ∧ ∀ c ∈ h.m_mapControllers.keys, ((s.threads oid).closing h).Joinable c

theorem Handlers.quiet {s : Server} (h : Handlers Closing.Joining s) {oid : String}
    (hclosed : s.Closed oid) :
  s.Quiet oid
  := by
  intro handler hfind
  apply (h.closing oid handler hfind).returned hclosed

theorem joining_next {s t : Server} (h : Handlers Closing.Joining s) {a : Action}
    (hnext : next parse from_string m_topic s a = some t) :
  Handlers Closing.Joining t
  := h.next (fun _ hs => Closing.Joining.of_closeSocket hs) (fun _ _ _ hs hnext => hs.next hnext)
    hnext

/-- In every run, the threads that a call of `close` has waited for do not run. -/
theorem joining_of_run {m_config : SvrCfg} {as : List Action} {t : Server}
    (hrun : run (next parse from_string m_topic) (initial m_config) as = some t) :
  Handlers Closing.Joining t
  := Handlers.of_run (fun _ hs => Closing.Joining.of_closeSocket hs)
    (fun _ _ _ hs hnext => hs.next hnext) hrun

section Runs

variable (parse from_string m_topic)

/-- In every run of the server, when the destructor of the engine has the handlers `rest` still
to close, all those before them have been closed, and neither the io thread nor a worker of any
of these runs; and it has not touched those after the first of `rest`. -/
theorem closed_in_order (m_config : SvrCfg) (as : List Action) {t : Server}
    (hrun : run (next parse from_string m_topic) (initial m_config) as = some t)
    (rest : List String) (hlife : t.life = .closing rest) :
  ∃ done, t.oids = done ++ rest ∧ (∀ oid ∈ done, t.Closed oid ∧ t.Quiet oid)
    ∧ ∀ oid ∈ rest.tail, t.Untouched oid
  := by
  have ht := joining_of_run hrun
  obtain ⟨⟨done, hoids, hdone⟩, huntouched⟩ := ht.destroying.closing rest hlife
  refine ⟨done, hoids, ?_, huntouched⟩
  intro oid hmem
  exact ⟨hdone oid hmem, ht.quiet (hdone oid hmem)⟩

/-- The switches `a` and `b` are requested, and the destructor closes the handler of `a`, whose
worker is parked, and goes to that of `b`. -/
def closingA : List Action :=
  [.message toA false true, .message toB false true] ++ List.replicate 9 (.handler "a" (.work 1 0))
    ++ [.terminate] ++ List.replicate 7 (.handler "a" .close) ++ [.handler "a" (.work 1 0)]
    ++ List.replicate 2 (.handler "a" .close) ++ [.closed]

theorem closed_in_order_two :
  ∃ t, run (next EngineRun.parseAB EngineRun.addressAB "seeta_switch_open")
      (initial EngineRun.twoSwitches) closingA = some t
    ∧ ∃ done, t.oids = done ++ ["b"] ∧ (∀ oid ∈ done, t.Closed oid ∧ t.Quiet oid)
      ∧ ∀ oid ∈ ["b"].tail, t.Untouched oid
  := by
  have hlife : (run (next EngineRun.parseAB EngineRun.addressAB "seeta_switch_open")
      (initial EngineRun.twoSwitches) closingA).map Server.life = some (.closing ["b"]) := by
    decide +kernel
  obtain ⟨t, hrun, ht⟩ := Option.map_eq_some_iff.mp hlife
  use t, hrun
  exact closed_in_order EngineRun.parseAB EngineRun.addressAB "seeta_switch_open"
    EngineRun.twoSwitches closingA hrun ["b"] ht

/-- `close` has returned on the handler, and the commands of its workers are these. -/
structure Silent (oid : String) (issued written : List (UInt16 × DoorCommand)) (s : Server) :
    Prop where
  joining : Handlers Closing.Joining s
  closed : s.Closed oid
  issued_eq : (s.threads oid).issued = issued
  written_eq : (s.threads oid).written = written

theorem Silent.of_threads_eq {oid : String} {issued written : List (UInt16 × DoorCommand)}
    {s t : Server} (h : Silent oid issued written s) (ht : Handlers Closing.Joining t)
    (hthreads : t.threads oid = s.threads oid) :
  Silent oid issued written t
  := by
  constructor
  · apply ht
  · rw [Closed, hthreads]
    apply h.closed
  · rw [hthreads, h.issued_eq]
  · rw [hthreads, h.written_eq]

variable {parse from_string m_topic}

theorem Silent.next {oid : String} {issued written : List (UInt16 × DoorCommand)}
    {s t : Server} (h : Silent oid issued written s) :
    ∀ {a : Action}, next parse from_string m_topic s a = some t → Silent oid issued written t
  | .handler oid' a, hnext => by
      have ht := joining_next h.joining hnext
      have hcloser := closer_next hnext oid
      obtain ⟨handler, x, hfind, -, hstep, rfl⟩ := next_handler hnext
      rcases eq_or_ne oid oid' with rfl | hne
      · have hquiet := h.joining.quiet h.closed handler hfind
        obtain ⟨hissued, hwritten⟩ := Threads.silent_step hstep hquiet.2
        constructor
        · apply ht
        · rcases hcloser with heq | ⟨-, -, hnot⟩
          · apply heq.trans h.closed
          · apply absurd h.closed hnot
        · simp only [Function.update_self, hissued, h.issued_eq]
        · simp only [Function.update_self, hwritten, h.written_eq]
      · apply h.of_threads_eq ht
        simp only [Function.update_of_ne hne]
  | .message _ _ _, hnext => by
      apply h.of_threads_eq (joining_next h.joining hnext)
      obtain ⟨-, rfl⟩ := next_message hnext
      rfl
  | .terminate, hnext => by
      apply h.of_threads_eq (joining_next h.joining hnext)
      obtain ⟨-, rfl⟩ := next_terminate hnext
      rfl
  | .closed, hnext => by
      apply h.of_threads_eq (joining_next h.joining hnext)
      obtain ⟨_, _, -, -, rfl⟩ := next_closed hnext
      rfl
  | .clear, hnext => by
      apply h.of_threads_eq (joining_next h.joining hnext)
      obtain ⟨-, rfl⟩ := next_clear hnext
      rfl

variable (parse from_string m_topic)

/-- In every run of the server, no worker of a handler sends a command any more once `close`
has returned on the handler. -/
theorem silent_once_closed (m_config : SvrCfg) (as bs : List Action) {s t : Server}
    (hrun : run (next parse from_string m_topic) (initial m_config) as = some s)
    (oid : String) (hclosed : s.Closed oid)
    (hrun' : run (next parse from_string m_topic) s bs = some t) :
  (t.threads oid).issued = (s.threads oid).issued
    ∧ (t.threads oid).written = (s.threads oid).written
  := by
  have hs : Silent oid (s.threads oid).issued (s.threads oid).written s :=
    ⟨joining_of_run hrun, hclosed, rfl, rfl⟩
  have ht := run_invariant_of_step (fun _ _ _ hs hnext => hs.next hnext) hs hrun'
  exact ⟨ht.issued_eq, ht.written_eq⟩

end Runs

/-- The destructor closes the handler of `b`, whose worker is told to stop before it waits for
its first task. -/
def closingB : List Action :=
  List.replicate 6 (.handler "b" .close) ++ [.handler "b" (.work 1 0)]
    ++ List.replicate 3 (.handler "b" .close) ++ [.closed]

theorem silent_once_closed_two :
  ∃ s t, run (next EngineRun.parseAB EngineRun.addressAB "seeta_switch_open")
      (initial EngineRun.twoSwitches) closingA = some s
    ∧ run (next EngineRun.parseAB EngineRun.addressAB "seeta_switch_open") s closingB = some t
    ∧ (t.threads "a").issued = (s.threads "a").issued
    ∧ (t.threads "a").written = (s.threads "a").written
  := by
  have hrun : (run (next EngineRun.parseAB EngineRun.addressAB "seeta_switch_open")
      (initial EngineRun.twoSwitches) (closingA ++ closingB)).isSome := by
    decide +kernel
  have hclosed : (run (next EngineRun.parseAB EngineRun.addressAB "seeta_switch_open")
      (initial EngineRun.twoSwitches) closingA).map (fun s => (s.threads "a").closer)
        = some .returned := by
    decide +kernel
  obtain ⟨s, hs, hret⟩ := Option.map_eq_some_iff.mp hclosed
  rw [run_append, hs] at hrun
  obtain ⟨t, ht⟩ := Option.isSome_iff_exists.mp hrun
  use s, t, hs, ht
  exact silent_once_closed EngineRun.parseAB EngineRun.addressAB "seeta_switch_open"
    EngineRun.twoSwitches closingA closingB hs "a" hret ht

end Server

end DoorSwitchSvr
