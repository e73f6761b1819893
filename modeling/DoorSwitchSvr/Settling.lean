import DoorSwitchSvr.Origin
import DoorSwitchSvr.Returning
import Mathlib.Algebra.GroupWithZero.Nat
import Mathlib.Algebra.Order.BigOperators.Group.List

/-!
# Coming to rest

What the server does when nothing comes from outside: no message, no tick of the reconnect
timer, and no read that fails or is not answered in time.  The workers go on with their
tasks, the threads in `handleRWError` with it, and a callback of the timer goes on
(`Calm`).

None of them waits for another for ever.  From every state that the server in service can
reach, whatever the schedule, the outcomes of the attempts to connect, the calls of `start`
that throw and the readings of the stopwatches, they take at most `stepsLeft` steps.  When
none of them can go on and the process has not ended, no thread is in `handleRWError` or in a
callback, and every worker that has been started waits for a task with its queue empty, unless
an exception has ended it (`comes_to_rest`).
-/

namespace DoorSwitchSvr

open Transition DoorSwitchChannelController

/-! ### Workers in service -/

namespace DoorSwitchChannelController

/-- The worker has not been told to stop, has no tasks left when it waits for one, and has only
returned if an exception has ended it. -/
structure NotStopped (ended : Prop) (ctl : DoorSwitchChannelController) : Prop where
  m_stop_eq : ctl.m_stop = false
  not_null : ctl.pc ≠ .gotNull
  parked_empty : ctl.pc = .parked → ctl.m_taskNotiQue = []
  returned : ctl.pc = .returned → ended

theorem NotStopped.default (ended : Prop) :
  NotStopped ended {}
  := by
  refine ⟨rfl, Pc.noConfusion, Pc.noConfusion, ?_⟩
  intro hpc
  cases hpc

theorem NotStopped.addTask {ended : Prop} {ctl : DoorSwitchChannelController}
    (h : ctl.NotStopped ended) (task : DoorSwitchOpenNotification) :
  (ctl.addTask task).NotStopped ended
  := by
  rw [DoorSwitchChannelController.addTask]
  split_ifs with hpc
  · exact ⟨h.m_stop_eq, Pc.noConfusion, Pc.noConfusion, fun hpc' => Pc.noConfusion hpc'⟩
  · exact ⟨h.m_stop_eq, h.not_null, fun hparked => absurd hparked hpc, h.returned⟩

theorem NotStopped.enlist {ended : Prop} {ctl : DoorSwitchChannelController}
    (h : ctl.NotStopped ended) (c : UInt16) (task : DoorSwitchOpenNotification) :
  (DoorSwitchHandler.enlist c task ctl).NotStopped ended
  := by
  apply NotStopped.addTask
  rw [Start]
  split_ifs
  · exact ⟨h.m_stop_eq, h.not_null, h.parked_empty, h.returned⟩
  · exact ⟨h.m_stop_eq, Pc.noConfusion, Pc.noConfusion, fun hpc => Pc.noConfusion hpc⟩

theorem NotStopped.runStep {ended : Prop} {type : SWITCH_TYPE} {elapsed : Int64}
    {ctl ctl' : DoorSwitchChannelController} {cmd : Option DoorCommand}
    (h : ctl.NotStopped ended) (hstep : RunStep type elapsed ctl ctl' cmd) :
  ctl'.NotStopped ended
  := by
  cases hstep with
  | stop _ hstop => cases h.m_stop_eq.symm.trans hstop
  | null hpc => apply absurd hpc h.not_null
  | park _ hq =>
      exact ⟨h.m_stop_eq, Pc.noConfusion, fun _ => hq, fun hpc => Pc.noConfusion hpc⟩
  | _ =>
      exact ⟨h.m_stop_eq, Pc.noConfusion, Pc.noConfusion, fun hpc => Pc.noConfusion hpc⟩

theorem NotStopped.endThread {ended : Prop} {ctl : DoorSwitchChannelController}
    (h : ctl.NotStopped ended) (hended : ended) :
  ctl.endThread.NotStopped ended
  := ⟨h.m_stop_eq, Pc.noConfusion, Pc.noConfusion, fun _ => hended⟩

end DoorSwitchChannelController

namespace Closing

/-! ### The steps that are left -/

/-- The keys that a controller may have. -/
def channelNumbers : List UInt16 := (List.range UInt16.size).map UInt16.ofNat

theorem mem_channelNumbers (c : UInt16) :
  c ∈ channelNumbers
  := by
  apply List.mem_map.mpr
  use c.toNat, List.mem_range.mpr c.toNat_lt
  apply UInt16.ofNat_toNat

/-- A bound on the steps that the worker under a key still takes, in `run` and in
`handleRWError`. -/
def workerLeft (s : Closing) (c : UInt16) : ℕ :=
  threadRank (s.thread (some c)) + 8 * s.workRank c

/-- A bound on the steps that the threads of a handler still take when nothing comes from
outside. -/
def stepsLeft (s : Closing) : ℕ :=
  timerRank s.timer + threadRank (s.thread none) + (channelNumbers.map s.workerLeft).sum

/-- Nothing comes from outside, neither a tick nor an error that the io thread reports. -/
def Calm (s : Closing) : Action → Prop
  | .close => False
  | .work _ _ => True
  | .thread i _ => s.thread i ≠ .outside
  | .timer _ => s.timer ≠ .idle

instance (s : Closing) : (a : Action) → Decidable (s.Calm a)
  | .close => isFalse not_false
  | .work _ _ => isTrue trivial
  | .thread _ _ => inferInstanceAs (Decidable (_ ≠ _))
  | .timer _ => inferInstanceAs (Decidable (_ ≠ _))

/-- A worker that has fewer steps left, while the others have no more. -/
theorem sum_workerLeft_lt {s t : Closing} (c : UInt16)
    (hother : ∀ c', c' ≠ c → t.workerLeft c' ≤ s.workerLeft c')
    (hlt : t.workerLeft c < s.workerLeft c) :
  (channelNumbers.map t.workerLeft).sum < (channelNumbers.map s.workerLeft).sum
  := by
  apply List.sum_lt_sum
  · intro c' _
    rcases eq_or_ne c' c with rfl | hne
    · apply hlt.le
    · apply hother c' hne
  · use c, mem_channelNumbers c

theorem stepsLeft_lt_of_work {s t : Closing} {c : UInt16} {elapsed : Int64}
    (h : s.workStep c elapsed = some t) :
  t.stepsLeft < s.stepsLeft
  := by
  obtain ⟨-, -, -, htimer, hthread, -⟩ := workStep_thread h
  obtain ⟨ctl, ctl', cmd, hfind, hrun, -, -, hmap, -⟩ := SwitchRun.workStep_eq_some h
  have hlt : (channelNumbers.map t.workerLeft).sum < (channelNumbers.map s.workerLeft).sum := by
    apply sum_workerLeft_lt c
    · intro c' hne
      have hne' : some c' ≠ some c := fun heq => hne (Option.some.inj heq)
      rw [workerLeft, workerLeft, hthread _ hne', workRank, workRank, hmap,
        OrdMap.find_modify_of_ne _ _ hne]
    · have hdone := ChannelRun.stepsLeft_lt hrun
      have hle := threadRank_le (t.thread (some c))
      rw [workerLeft, workerLeft, workRank, workRank, hmap, OrdMap.find_modify_self, hfind]
      simp only [Option.map_some, Option.elim_some]
      omega
  rw [stepsLeft, stepsLeft, htimer, hthread none (Option.some_ne_none c).symm]
  omega

theorem stepsLeft_lt_of_thread {s t : Closing} {i : Option UInt16} {free : Bool}
    (hcalm : s.Calm (.thread i free)) (h : next s (.thread i free) = some t) :
  t.stepsLeft < s.stepsLeft
  := by
  obtain ⟨hlt, hothers, htimer, -, hwork⟩ := threadRank_next hcalm h
  have hle : ∀ c, some c ≠ i → t.workerLeft c ≤ s.workerLeft c := by
    intro c hne
    have hc := hwork c
    rw [workerLeft, workerLeft, hothers (some c) hne]
    omega
  rw [stepsLeft, stepsLeft, htimer]
  cases i with
  | none =>
      have hsum : (channelNumbers.map t.workerLeft).sum ≤ (channelNumbers.map s.workerLeft).sum :=
        List.sum_le_sum (fun c _ => hle c (Option.some_ne_none c))
      omega
  | some c =>
      have hsum : (channelNumbers.map t.workerLeft).sum
          < (channelNumbers.map s.workerLeft).sum := by
        apply sum_workerLeft_lt c
        · exact fun c' hne => hle c' (fun heq => hne (Option.some.inj heq))
        · have hc := hwork c
          rw [workerLeft, workerLeft]
          omega
      rw [hothers none (Option.some_ne_none c).symm]
      omega

/-- Each step of a calm handler leaves fewer of them. -/
theorem stepsLeft_lt {s t : Closing} :
    ∀ {a : Action}, s.Calm a → next s a = some t → t.stepsLeft < s.stepsLeft
  | .work _ _, _, hnext => stepsLeft_lt_of_work (next_work hnext)
  | .thread _ _, hcalm, hnext => stepsLeft_lt_of_thread hcalm hnext
  | .timer _, hcalm, hnext => by
      obtain ⟨conn, pc, hstep, rfl⟩ := next_timer hnext
      have hlt := timerRank_lt hcalm hstep
      apply Nat.add_lt_add_right (Nat.add_lt_add_right hlt _)
  | .close, hcalm, _ => absurd hcalm not_false

/-! ### Rest -/

/-- No thread of the handler is in `handleRWError` or in a callback of the timer, and every
worker that has been started waits for a task, with its queue empty, or has been ended. -/
structure AtRest (ended : UInt16 → Prop) (s : Closing) : Prop where
  timer_idle : s.timer = .idle
  outside : ∀ i, s.thread i = .outside
  parked : ∀ c ctl, s.handler.m_mapControllers.find c = some ctl → ctl.pc ≠ .notStarted →
    ctl.pc = .parked ∧ ctl.m_taskNotiQue = [] ∨ ctl.pc = .returned ∧ ended c

/-- The threads of a handler that is not at rest can go on. -/
theorem exists_calm {ended : UInt16 → Prop} {s : Closing}
    (hs : s.handler.m_mapControllers.All (fun c => NotStopped (ended c)))
    (hreporting : s.Reporting) (haborted : ¬ s.Aborted) (hnot : ¬ s.AtRest ended) :
  ∃ a t, s.Calm a ∧ next s a = some t
  := by
  by_cases hidle : s.timer = .idle
  · by_cases houtside : ∀ i, s.thread i = .outside
    · -- a worker that has been started is neither parked nor ended
      have hworker : ∃ c ctl, s.handler.m_mapControllers.find c = some ctl
          ∧ ctl.pc ≠ .notStarted ∧ ctl.pc ≠ .parked ∧ ctl.pc ≠ .returned := by
        by_contra hall
        push Not at hall
        apply hnot ⟨hidle, houtside, _⟩
        intro c ctl hfind hstarted
        have hctl := hs c ctl hfind
        by_cases hparked : ctl.pc = .parked
        · exact Or.inl ⟨hparked, hctl.parked_empty hparked⟩
        · have hreturned := hall c ctl hfind hstarted hparked
          exact Or.inr ⟨hreturned, hctl.returned hreturned⟩
      obtain ⟨c, ctl, hfind, hstarted, hparked, hreturned⟩ := hworker
      obtain ⟨t, ht⟩ := exists_workStep 0 (houtside (some c)) hfind hstarted hparked hreturned
      use .work c 0, t, trivial, next_eq_some.mpr ⟨haborted, ht⟩
    · obtain ⟨i, hi⟩ := not_forall.mp houtside
      have hthrown : s.thread i ≠ .thrown := by
        cases i with
        | none => apply haborted
        | some c => apply hreporting.not_thrown
      obtain ⟨t, ht⟩ := exists_next_thread haborted hi hthrown (hreporting.canReport hi) hidle
      use .thread i true, t, hi, ht
  · obtain ⟨t, ht⟩ := exists_next_timer haborted hidle
    use .timer false, t, hidle, ht

end Closing

namespace Server

/-! ### The server -/

variable {parse : String → Option OpenDoorRequest} {from_string : String → Bool}
  {m_topic : String}

/-- The action ends the worker of a switch under a key: a call of `start` that it makes in
`handleRWError` throws. -/
def Ends (worker : String × UInt16) (s : Server) (a : Action) : Prop :=
  ∃ free h, a = .handler worker.1 (.thread (some worker.2) free)
    ∧ s.engine.m_mapOidSwitchHandler.find worker.1 = some h
    ∧ ((s.threads worker.1).closing h).StartThrows worker.2 free

/-- In service, no worker has been told to stop. -/
def NoneStopped (ended : String × UInt16 → Prop) (s : Server) : Prop :=
  s.life = .serving → s.engine.m_mapOidSwitchHandler.All
    (fun oid h => h.m_mapControllers.All (fun c => NotStopped (ended (oid, c))))

theorem NoneStopped.initial (ended : String × UInt16 → Prop) (m_config : SvrCfg) :
  NoneStopped ended (initial m_config)
  := by
  intro _ oid h hfind
  cases hfind

/-- A message does not stop a worker. -/
theorem noneStopped_receive {ended : String × UInt16 → Prop} {engine : DoorSwitchEngine}
    (hs : engine.m_mapOidSwitchHandler.All
      (fun oid h => h.m_mapControllers.All (fun c => NotStopped (ended (oid, c)))))
    (message : mosquitto_message) (error free : Bool) :
  (receive parse from_string m_topic engine message error
      free).engine.m_mapOidSwitchHandler.All
    (fun oid h => h.m_mapControllers.All (fun c => NotStopped (ended (oid, c))))
  := by
  apply all_receive _ (fun _ _ hh => hh) _ hs
  · intro _ info _ c ctl hfind
    cases hfind
  · intro req info _ oid h hh
    apply DoorSwitchHandler.all_openDoor (NotStopped.default _) _ _ hh
    · intro c ctl hctl
      apply hctl.addTask
    · intro c ctl hctl
      apply hctl.enlist

/-- A step of a thread does not stop a worker, unless its exception ends it. -/
theorem noneStopped_step {ended : UInt16 → Prop} {h : DoorSwitchHandler} {th : Threads}
    {a : Closing.Action} {x : DoorSwitchHandler × Threads}
    (hs : h.m_mapControllers.All (fun c => NotStopped (ended c))) (hclose : a ≠ .close)
    (hends : ∀ c free, a = .thread (some c) free → (th.closing h).StartThrows c free → ended c)
    (hstep : th.step h a = some x) :
  x.1.m_mapControllers.All (fun c => NotStopped (ended c))
  := by
  obtain ⟨hnext, -⟩ := Threads.step_eq_some hstep
  cases a with
  | close => apply absurd rfl hclose
  | work c elapsed =>
      obtain ⟨ctl, ctl', cmd, hfind, hrun, -, -, hmap, -⟩ :=
        SwitchRun.workStep_eq_some (Closing.next_work hnext)
      have hmap' : x.1.m_mapControllers = h.m_mapControllers.modify c (fun _ => ctl') := hmap
      rw [hmap']
      apply OrdMap.All.modify hs
      intro _ _
      apply (hs c ctl hfind).runStep hrun
  | thread i free =>
      obtain ⟨-, ⟨conn, pc, -, -, heq⟩ | ⟨c, rfl, hthrows, heq⟩⟩ := Closing.next_thread hnext
      · have hmap : x.1.m_mapControllers = h.m_mapControllers :=
          congrArg (fun c => c.handler.m_mapControllers) heq
        rw [hmap]
        apply hs
      · have hmap : x.1.m_mapControllers
            = h.m_mapControllers.modify c (fun ctl => ctl.endThread) :=
          congrArg (fun c => c.handler.m_mapControllers) heq
        rw [hmap]
        apply OrdMap.All.modify hs
        intro ctl hfind
        apply (hs c ctl hfind).endThread (hends c free rfl hthrows)
  | timer error =>
      obtain ⟨conn, pc, -, heq⟩ := Closing.next_timer hnext
      have hmap : x.1.m_mapControllers = h.m_mapControllers :=
        congrArg (fun c => c.handler.m_mapControllers) heq
      rw [hmap]
      apply hs

theorem NoneStopped.next {ended : String × UInt16 → Prop} {s t : Server}
    (hs : s.NoneStopped ended) :
    ∀ {a : Action}, (∀ worker, Ends worker s a → ended worker) →
      Server.next parse from_string m_topic s a = some t → t.NoneStopped ended
  | .message message error free, _, hnext => by
      obtain ⟨hlife, rfl⟩ := next_message hnext
      intro _
      apply noneStopped_receive (hs hlife)
  | .handler oid a, hends, hnext => by
      intro hlife
      have hlife' : s.life = .serving := life_handler hnext hlife Life.noConfusion
      obtain ⟨handler, x, hfind, hallows, hstep, rfl⟩ := next_handler hnext
      have hclose : a ≠ .close := by
        rintro rfl
        rw [hlife'] at hallows
        cases hallows
      apply OrdMap.All.modify (hs hlife')
      intro _ _
      apply noneStopped_step (hs hlife' oid handler hfind) hclose _ hstep
      rintro c free rfl hthrows
      apply hends (oid, c) ⟨free, handler, rfl, hfind, hthrows⟩
  | .terminate, _, hnext => by
      obtain ⟨-, rfl⟩ := next_terminate hnext
      intro hlife
      cases hlife
  | .closed, _, hnext => by
      obtain ⟨_, _, -, -, rfl⟩ := next_closed hnext
      intro hlife
      cases hlife
  | .clear, _, hnext => by
      obtain ⟨-, rfl⟩ := next_clear hnext
      intro hlife
      cases hlife

/-- Nothing comes from outside: the action is a step of a thread of a handler that is calm. -/
def Calm (s : Server) : Action → Prop
  | .handler oid a =>
      ∀ h ∈ s.engine.m_mapOidSwitchHandler.find oid, ((s.threads oid).closing h).Calm a
  | .message _ _ _ | .terminate | .closed | .clear => False

instance (s : Server) : (a : Action) → Decidable (s.Calm a)
  | .handler oid a =>
      inferInstanceAs (Decidable (∀ h ∈ s.engine.m_mapOidSwitchHandler.find oid,
        ((s.threads oid).closing h).Calm a))
  | .message _ _ _ | .terminate | .closed | .clear => isFalse not_false

/-- A bound on the steps that the threads of the handler of a switch still take. -/
def leftOn (s : Server) (oid : String) : ℕ :=
  (s.engine.m_mapOidSwitchHandler.find oid).elim 0
    (fun h => ((s.threads oid).closing h).stepsLeft)

/-- A bound on the steps that the server still takes when nothing comes from outside. -/
def stepsLeft (s : Server) : ℕ := (s.oids.map s.leftOn).sum

/-- Every handler is at rest. -/
def AtRest (ended : String × UInt16 → Prop) (s : Server) : Prop :=
  ∀ oid h, s.engine.m_mapOidSwitchHandler.find oid = some h →
    ((s.threads oid).closing h).AtRest (fun c => ended (oid, c))

theorem leftOn_of_find {s : Server} {oid : String} {h : DoorSwitchHandler}
    (hfind : s.engine.m_mapOidSwitchHandler.find oid = some h) :
  s.leftOn oid = ((s.threads oid).closing h).stepsLeft
  := by
  rw [leftOn, hfind, Option.elim_some]

/-- Each step of a calm server leaves fewer of them, and leaves it in service or ends the
process. -/
theorem stepsLeft_lt {s t : Server} :
    ∀ {a : Action}, s.Calm a → next parse from_string m_topic s a = some t →
      (t.life = s.life ∨ t.life = .aborted) ∧ t.stepsLeft < s.stepsLeft
  | .handler oid a, hcalm, hnext => by
      obtain ⟨handler, x, hfind, -, hstep, rfl⟩ := next_handler hnext
      have hlt := Closing.stepsLeft_lt (hcalm handler hfind) (Threads.step_eq_some hstep).1
      have hfind' : (s.engine.setHandler oid x.1).m_mapOidSwitchHandler.find oid = some x.1 := by
        simp only [DoorSwitchEngine.setHandler, OrdMap.find_modify_self, hfind, Option.map_some]
      generalize hlife : (if x.2.thread none = .thrown then Life.aborted else s.life) = life
      have hsame : leftOn ⟨s.engine.setHandler oid x.1,
          Function.update s.threads oid x.2, life⟩ oid < s.leftOn oid := by
        rw [leftOn_of_find hfind, leftOn_of_find hfind']
        simp only [Function.update_self]
        apply hlt
      have hother : ∀ oid', oid' ≠ oid → leftOn ⟨s.engine.setHandler oid x.1,
          Function.update s.threads oid x.2, life⟩ oid' = s.leftOn oid' := by
        intro oid' hne
        simp only [leftOn, DoorSwitchEngine.setHandler, OrdMap.find_modify_of_ne _ _ hne,
          Function.update_of_ne hne]
      have hoids : (s.engine.setHandler oid x.1).m_mapOidSwitchHandler.keys = s.oids :=
        OrdMap.keys_modify _ _ _
      constructor
      · rw [← hlife]
        split_ifs
        · exact Or.inr rfl
        · exact Or.inl rfl
      · rw [stepsLeft, stepsLeft, oids, hoids]
        apply List.sum_lt_sum
        · intro oid' _
          rcases eq_or_ne oid' oid with rfl | hne
          · apply hsame.le
          · apply (hother oid' hne).le
        · use oid
          constructor
          · apply (OrdMap.mem_keys _ _).mpr
            rw [hfind]
            rfl
          · apply hsame
  | .message _ _ _, hcalm, _ | .terminate, hcalm, _ | .closed, hcalm, _ | .clear, hcalm, _ =>
      absurd hcalm not_false

/-- A server in service that is not at rest can go on. -/
theorem NoneStopped.exists_calm {ended : String × UInt16 → Prop} {s : Server}
    (hs : s.NoneStopped ended) (hreporting : s.Reporting) (hserving : s.life = .serving)
    (hnot : ¬ s.AtRest ended) :
  ∃ a t, s.Calm a ∧ Server.next parse from_string m_topic s a = some t
  := by
  rw [AtRest] at hnot
  push Not at hnot
  obtain ⟨oid, h, hfind, hnot⟩ := hnot
  have hrunning : s.life ≠ .aborted := by
    rw [hserving]
    apply Life.noConfusion
  obtain ⟨a, c, hcalm, hnext⟩ := Closing.exists_calm (hs hserving oid h hfind)
    (hreporting.closing hfind) (hreporting.not_aborted hrunning oid) hnot
  have hallows : Allows s.life oid a := by
    cases a with
    | close => apply absurd hcalm not_false
    | work | thread | timer => apply hrunning
  use .handler oid a
  rw [Server.next, if_pos hallows, hfind, Option.bind_some, Threads.step, hnext]
  refine ⟨_, ?_, rfl⟩
  intro h' hh'
  obtain rfl := Option.some.inj (hfind.symm.trans hh')
  apply hcalm

section Runs

variable (parse from_string m_topic)

/-- A worker has been ended in a run by an exception of `start`. -/
def EndedIn (m_config : SvrCfg) (as : List Action) (worker : String × UInt16) : Prop :=
  Occurs (next parse from_string m_topic) (Ends worker) (initial m_config) as

/-- From every state that the server in service can reach, when nothing comes from outside,
its threads take at most `stepsLeft` steps, and when none of them can go on it is at rest, or
an exception that left the io thread of a switch has ended the process. -/
theorem comes_to_rest (m_config : SvrCfg) (as : List Action) {s : Server}
    (hrun : run (next parse from_string m_topic) (initial m_config) as = some s)
    (hserving : s.life = .serving) (bs : List Action) {t : Server}
    (hcalm : Meets (next parse from_string m_topic) Calm s bs)
    (hrun' : run (next parse from_string m_topic) s bs = some t) :
  bs.length + t.stepsLeft ≤ s.stepsLeft
    ∧ ((∀ a, t.Calm a → next parse from_string m_topic t a = none) →
      t.life = .aborted
        ∨ t.AtRest (EndedIn parse from_string m_topic m_config (as ++ bs)))
  := by
  have hstep : ∀ (s : Server) a t, s.life = .serving ∨ s.life = .aborted → s.Calm a →
      next parse from_string m_topic s a = some t →
      (t.life = .serving ∨ t.life = .aborted) ∧ t.stepsLeft < s.stepsLeft := by
    intro s a t hlife ha hnext
    obtain ⟨hlife' | hlife', hlt⟩ := stepsLeft_lt ha hnext
    · rw [hlife']
      exact ⟨hlife, hlt⟩
    · exact ⟨Or.inr hlife', hlt⟩
  constructor
  · apply length_add_le_of_lt stepsLeft hstep (Or.inl hserving) hcalm hrun'
  · intro hstuck
    have hlife : t.life = .serving ∨ t.life = .aborted :=
      run_invariant (fun s a t hs ha hnext => (hstep s a t hs ha hnext).1) (Or.inl hserving)
        hcalm hrun'
    rcases hlife with hserving' | haborted
    · right
      have hall : run (next parse from_string m_topic) (initial m_config) (as ++ bs) = some t := by
        rw [run_append, hrun]
        apply hrun'
      have ht : t.NoneStopped (EndedIn parse from_string m_topic m_config (as ++ bs)) := by
        apply run_invariant _ (NoneStopped.initial _ m_config) (meets_occurs Ends _ _) hall
        intro s a t hs hends hnext
        apply hs.next hends hnext
      by_contra hnot
      obtain ⟨a, u, ha, hnext⟩ := ht.exists_calm (reporting_of_run hall) hserving' hnot
      cases (hstuck a ha).symm.trans hnext
    · exact Or.inl haborted

end Runs

/-- The server after a message for the switch `a`. -/
def requestedA : Server :=
  { initial EngineRun.twoSwitches with
    engine := (receive EngineRun.parseAB EngineRun.addressAB "seeta_switch_open"
      { m_config := EngineRun.twoSwitches } toA false true).engine }

/-- The worker of the switch `a` serves the task of the message. -/
theorem comes_to_rest_one :
  ∃ t, run (next EngineRun.parseAB EngineRun.addressAB "seeta_switch_open") requestedA
      (List.replicate 9 (.handler "a" (.work 1 0))) = some t
    ∧ 9 + t.stepsLeft ≤ requestedA.stepsLeft
    ∧ ((∀ a, t.Calm a →
        next EngineRun.parseAB EngineRun.addressAB "seeta_switch_open" t a = none) →
      t.life = .aborted
        ∨ t.AtRest (EndedIn EngineRun.parseAB EngineRun.addressAB "seeta_switch_open"
          EngineRun.twoSwitches
          ([.message toA false true] ++ List.replicate 9 (.handler "a" (.work 1 0)))))
  := by
  have hrun : run (next EngineRun.parseAB EngineRun.addressAB "seeta_switch_open")
      (initial EngineRun.twoSwitches) [.message toA false true] = some requestedA := by
    have hserving : (initial EngineRun.twoSwitches).life = .serving := rfl
    have hthrown : (receive EngineRun.parseAB EngineRun.addressAB "seeta_switch_open"
        (initial EngineRun.twoSwitches).engine toA false true).thrown = false := by
      decide +kernel
    rw [run_singleton, next, if_pos hserving]
    simp only [hthrown, Bool.false_eq_true, if_false]
    rfl
  have hsome : (run (next EngineRun.parseAB EngineRun.addressAB "seeta_switch_open") requestedA
      (List.replicate 9 (.handler "a" (.work 1 0)))).isSome := by
    decide +kernel
  have hcalm : Meets (next EngineRun.parseAB EngineRun.addressAB "seeta_switch_open") Calm
      requestedA (List.replicate 9 (.handler "a" (.work 1 0))) := by
    decide +kernel
  obtain ⟨t, ht⟩ := Option.isSome_iff_exists.mp hsome
  have hrest := comes_to_rest EngineRun.parseAB EngineRun.addressAB "seeta_switch_open"
    EngineRun.twoSwitches [.message toA false true] hrun rfl _ hcalm ht
  rw [List.length_replicate] at hrest
  use t, ht

end Server

end DoorSwitchSvr
