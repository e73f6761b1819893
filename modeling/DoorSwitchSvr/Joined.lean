import DoorSwitchSvr.Shutdown
import DoorSwitchSvr.Lib.Worklist

/-!
# The threads of a closed handler

`DoorSwitchHandler::close` waits for the io thread, and then for the worker of each
controller, one after another in the order of the map.  Whatever else happens on the handler
meanwhile, those that it has waited for do not run any more (`Joining`), and when it has
returned none of them runs ever after (`Joining.returned`, `Joining.next`).
-/

namespace DoorSwitchSvr

open Transition Worklist DoorSwitchChannelController

/-- `close` has stopped the io service. -/
def ClosePc.stopsIo : ClosePc → Bool
  | .closeSocket | .stopIo => false
  | .stopTimer | .joinIo | .controllers _ | .clear _ _ | .wakeUpAll _ _ | .join _ _
  | .returned => true

/-- The controllers that `close` has not waited for, once it has come to them. -/
def ClosePc.unjoined : ClosePc → Option (List UInt16)
  | .closeSocket | .stopIo | .stopTimer | .joinIo => none
  | .controllers rest => some rest
  | .clear c rest | .wakeUpAll c rest | .join c rest => some (c :: rest)
  | .returned => some []

/-- Only a thread that runs takes a step. -/
theorem DoorSwitchChannelController.RunStep.isRunning {type : SWITCH_TYPE} {elapsed : Int64}
    {c c' : DoorSwitchChannelController} {cmd : Option DoorCommand}
    (h : RunStep type elapsed c c' cmd) :
  c.isRunning = true
  := by
  rw [DoorSwitchChannelController.isRunning, decide_eq_true_eq]
  constructor
  · intro hpc
    have hnone : runStep type elapsed c = none := by
      rw [runStep, hpc]
    cases hnone.symm.trans h.runStep_eq
  · intro hpc
    have hnone : runStep type elapsed c = none := by
      rw [runStep, hpc]
    cases hnone.symm.trans h.runStep_eq

namespace Closing

/-- The change does not start or end the thread of a controller, or give it another
channel, and leaves the thread where it is unless it waits. -/
def KeepsThread (f : DoorSwitchChannelController → DoorSwitchChannelController) : Prop :=
  ∀ ctl, (f ctl).m_channel = ctl.m_channel ∧ (f ctl).isRunning = ctl.isRunning
    ∧ (ctl.pc ≠ .parked → (f ctl).pc = ctl.pc)

theorem keepsThread_wakeUpAll :
  KeepsThread wakeUpAll
  := by
  intro ctl
  rw [wakeUpAll]
  split_ifs with hparked
  · rw [isRunning, isRunning, hparked]
    exact ⟨rfl, rfl, fun hne => absurd rfl hne⟩
  · exact ⟨rfl, rfl, fun _ => rfl⟩

/-- A step of `close`: on the way to the controllers, to the first of them, at one of them,
to the next one, or the last step. -/
inductive CloseStep (s : Closing) : Closing → Prop where
  | prepare (conn : Connection) (io : Bool) (pc : ClosePc) (hs : s.closer.unjoined = none)
      (hpc : pc.unjoined = none) (hio : s.ioStopped = true → io = true)
      (hstops : pc.stopsIo = true → s.closer.stopsIo = true ∨ io = true) :
      CloseStep s { s with handler.conn := conn, ioStopped := io, closer := pc }
  | joinIo (hs : s.closer = .joinIo) (hthread : s.thread none = .outside) :
      CloseStep s { s with closer := .controllers s.handler.m_mapControllers.keys }
  | stop (c : UInt16) (rest : List UInt16)
      (f : DoorSwitchChannelController → DoorSwitchChannelController) (pc : ClosePc)
      (hf : KeepsThread f) (hs : s.closer.unjoined = some (c :: rest))
      (hpc : pc.unjoined = some (c :: rest)) :
      CloseStep s { s.modify c f with closer := pc }
  | join (c : UInt16) (rest : List UInt16) (hs : s.closer = .join c rest)
      (hjoin : s.Joinable c) :
      CloseStep s { s with closer := .controllers rest }
  | last (hs : s.closer = .controllers []) : CloseStep s { s with closer := .returned }

theorem closeStep_eq_some {s t : Closing} (h : s.closeStep = some t) :
  CloseStep s t
  := by
  rw [closeStep] at h
  split at h
  next hs =>
    obtain rfl := Option.some.inj h
    apply CloseStep.prepare _ s.ioStopped .stopIo (by rw [hs]; rfl) rfl id Bool.noConfusion
  next hs =>
    obtain rfl := Option.some.inj h
    apply CloseStep.prepare s.handler.conn true .stopTimer (by rw [hs]; rfl) rfl (fun _ => rfl)
    exact fun _ => Or.inr rfl
  next hs =>
    split_ifs at h
    obtain rfl := Option.some.inj h
    apply CloseStep.prepare _ s.ioStopped .joinIo (by rw [hs]; rfl) rfl id
    exact fun _ => Or.inl (by rw [hs]; rfl)
  next hs =>
    split_ifs at h with hthread
    obtain rfl := Option.some.inj h
    apply CloseStep.joinIo hs hthread
  next hs =>
    obtain rfl := Option.some.inj h
    apply CloseStep.last hs
  next c rest hs =>
    obtain rfl := Option.some.inj h
    apply CloseStep.stop c rest _ (.clear c rest) _ (by rw [hs]; rfl) rfl
    exact fun ctl => ⟨rfl, rfl, fun _ => rfl⟩
  next c rest hs =>
    obtain rfl := Option.some.inj h
    apply CloseStep.stop c rest _ (.wakeUpAll c rest) _ (by rw [hs]; rfl) rfl
    exact fun ctl => ⟨rfl, rfl, fun _ => rfl⟩
  next c rest hs =>
    obtain rfl := Option.some.inj h
    apply CloseStep.stop c rest _ (.join c rest) keepsThread_wakeUpAll (by rw [hs]; rfl) rfl
  next c rest hs =>
    split_ifs at h with hjoin
    obtain rfl := Option.some.inj h
    apply CloseStep.join c rest hs hjoin
  next => cases h

/-- A step of `close` leaves the controllers alone or changes one of them. -/
theorem CloseStep.controllers {s t : Closing} (h : CloseStep s t) :
  t.handler.m_mapControllers = s.handler.m_mapControllers
    ∨ ∃ c f, t.handler.m_mapControllers = s.handler.m_mapControllers.modify c f ∧ KeepsThread f
  := by
  cases h with
  | prepare | joinIo | join | last => exact Or.inl rfl
  | stop c rest f pc hf => exact Or.inr ⟨c, f, rfl, hf⟩

theorem CloseStep.thread {s t : Closing} (h : CloseStep s t) :
  t.thread = s.thread
  := by
  cases h <;> rfl

/-! ### Threads that have ended -/

/-- A step of a worker is one of a thread that runs, outside `handleRWError`, and leaves the
other threads and `close` alone. -/
theorem workStep_thread {s t : Closing} {c : UInt16} {elapsed : Int64}
    (h : s.workStep c elapsed = some t) :
  ¬ s.Joinable c ∧ t.closer = s.closer ∧ t.ioStopped = s.ioStopped ∧ t.timer = s.timer
    ∧ (∀ i, i ≠ some c → t.thread i = s.thread i)
    ∧ ∃ ctl', t.handler.m_switchInfo = s.handler.m_switchInfo
      ∧ t.handler.m_mapControllers = s.handler.m_mapControllers.modify c (fun _ => ctl')
  := by
  have hjoin : ∀ {handler sent}, s.handler.work c elapsed = some (handler, sent) →
      ¬ s.Joinable c := by
    rintro handler sent hwork ⟨-, hctl⟩
    obtain ⟨ctl, ctl', cmd, hfind, hrun, -, -⟩ := DoorSwitchHandler.work_eq_some hwork
    rw [hfind, Option.all_some, decide_eq_true_eq] at hctl
    apply hctl hrun.isRunning
  rw [workStep] at h
  by_cases hthread : s.thread (some c) = .outside
  · rw [if_pos hthread] at h
    split at h
    next => cases h
    next handler hwork =>
      have hnot := hjoin hwork
      obtain rfl := Option.some.inj h
      obtain ⟨ctl, ctl', cmd, -, -, -, rfl⟩ := DoorSwitchHandler.work_eq_some hwork
      exact ⟨hnot, rfl, rfl, rfl, fun _ _ => rfl, ctl', rfl, rfl⟩
    next handler sent hwork =>
      have hnot := hjoin hwork
      obtain ⟨ctl, ctl', cmd, -, -, -, rfl⟩ := DoorSwitchHandler.work_eq_some hwork
      split_ifs at h <;> obtain rfl := Option.some.inj h
      · exact ⟨hnot, rfl, rfl, rfl, fun _ _ => rfl, ctl', rfl, rfl⟩
      · exact ⟨hnot, rfl, rfl, rfl, fun i hi => Function.update_of_ne hi _ _, ctl', rfl, rfl⟩
  · rw [if_neg hthread] at h
    cases h

theorem keys_next {s t : Closing} :
    ∀ {a : Action}, next s a = some t →
      t.handler.m_mapControllers.keys = s.handler.m_mapControllers.keys
  | .close, hnext => by
      rcases (closeStep_eq_some (next_close hnext)).controllers with hmap | ⟨c, f, hmap, -⟩
      · rw [hmap]
      · rw [hmap, OrdMap.keys_modify]
  | .work _ _, hnext => by
      obtain ⟨-, -, -, -, -, ctl', -, hmap⟩ := workStep_thread (next_work hnext)
      rw [hmap, OrdMap.keys_modify]
  | .thread _ _, hnext => by
      obtain ⟨-, ⟨conn, pc, -, -, rfl⟩ | ⟨c, -, -, rfl⟩⟩ := next_thread hnext
      · rfl
      · apply OrdMap.keys_modify
  | .timer _, hnext => by
      obtain ⟨conn, pc, -, rfl⟩ := next_timer hnext
      rfl

theorem m_switchInfo_next {s t : Closing} :
    ∀ {a : Action}, next s a = some t → t.handler.m_switchInfo = s.handler.m_switchInfo
  | .close, hnext => by
      cases closeStep_eq_some (next_close hnext) <;> rfl
  | .work _ _, hnext => by
      obtain ⟨-, -, -, -, -, -, hinfo, -⟩ := workStep_thread (next_work hnext)
      apply hinfo
  | .thread _ _, hnext => by
      obtain ⟨-, ⟨conn, pc, -, -, rfl⟩ | ⟨c, -, -, rfl⟩⟩ := next_thread hnext <;> rfl
  | .timer _, hnext => by
      obtain ⟨conn, pc, -, rfl⟩ := next_timer hnext
      rfl

/-- A worker that does not run does not run any more. -/
theorem Joinable.next {s t : Closing} {c : UInt16} (h : s.Joinable c) :
    ∀ {a : Action}, Closing.next s a = some t → t.Joinable c
  | .close, hnext => by
      have hstep := closeStep_eq_some (next_close hnext)
      obtain ⟨hthread, hctl⟩ := h
      constructor
      · rw [hstep.thread, hthread]
      · rcases hstep.controllers with hmap | ⟨c', f, hmap, hf⟩
        · rw [hmap]
          apply hctl
        · rw [hmap, OrdMap.find_modify]
          split_ifs with heq
          · subst heq
            cases hfind : s.handler.m_mapControllers.find c with
            | none => rfl
            | some ctl =>
                rw [hfind] at hctl
                simpa [(hf ctl).2.1] using hctl
          · apply hctl
  | .work c' elapsed, hnext => by
      obtain ⟨hnot, -, -, -, hthread, ctl', -, hmap⟩ := workStep_thread (next_work hnext)
      have hne : c ≠ c' := by
        rintro rfl
        apply hnot h
      obtain ⟨hthread', hctl⟩ := h
      constructor
      · rw [hthread (some c) (fun heq => hne (Option.some.inj heq)), hthread']
      · rw [hmap, OrdMap.find_modify_of_ne _ _ hne]
        apply hctl
  | .thread i _, hnext => by
      obtain ⟨hthread, hctl⟩ := h
      obtain ⟨hreport, hstep⟩ := next_thread hnext
      have hne : some c ≠ i := by
        rintro rfl
        apply hreport.2 hthread
      obtain ⟨conn, pc, -, -, rfl⟩ | ⟨c', rfl, -, rfl⟩ := hstep
      · constructor
        · simp only [Function.update_of_ne hne, hthread]
        · apply hctl
      · constructor
        · simp only [endWorker, Function.update_of_ne hne, hthread]
        · have hne' : c ≠ c' := fun heq => hne (congrArg some heq)
          simp only [endWorker, modify, OrdMap.find_modify_of_ne _ _ hne']
          apply hctl
  | .timer _, hnext => by
      obtain ⟨conn, pc, -, rfl⟩ := next_timer hnext
      apply h

/-- The io service is stopped, and its thread has returned. -/
def IoJoined (s : Closing) : Prop := s.ioStopped = true ∧ s.thread none = .outside

theorem IoJoined.next {s t : Closing} (h : s.IoJoined) :
    ∀ {a : Action}, Closing.next s a = some t → t.IoJoined
  | .close, hnext => by
      obtain ⟨hio, hthread⟩ := h
      cases closeStep_eq_some (next_close hnext) with
      | prepare conn io pc _ _ hio' => exact ⟨hio' hio, hthread⟩
      | joinIo | stop | join | last => exact ⟨hio, hthread⟩
  | .work c elapsed, hnext => by
      obtain ⟨hio, hthread⟩ := h
      obtain ⟨-, -, hio', -, hthread', -⟩ := workStep_thread (next_work hnext)
      exact ⟨hio'.trans hio, (hthread' none (Option.some_ne_none c).symm).trans hthread⟩
  | .thread i _, hnext => by
      obtain ⟨hio, hthread⟩ := h
      obtain ⟨hreport, hstep⟩ := next_thread hnext
      have hne : none ≠ i := by
        rintro rfl
        rw [hreport hthread] at hio
        cases hio
      obtain ⟨conn, pc, -, -, rfl⟩ | ⟨c, rfl, -, rfl⟩ := hstep
      · exact ⟨hio, (Function.update_of_ne hne _ _).trans hthread⟩
      · exact ⟨hio, (Function.update_of_ne hne .outside s.thread).trans hthread⟩
  | .timer _, hnext => by
      obtain ⟨conn, pc, -, rfl⟩ := next_timer hnext
      apply h

/-! ### Runs of close -/

/-- The threads that `close` has waited for do not run. -/
structure Joining (s : Closing) : Prop where
  ioStopped : s.closer.stopsIo = true → s.ioStopped = true
  joined : ∀ rest, s.closer.unjoined = some rest →
    s.IoJoined ∧ Done s.Joinable s.handler.m_mapControllers.keys rest

theorem Joining.of_closeSocket {s : Closing} (h : s.closer = .closeSocket) :
  s.Joining
  := by
  constructor
  · rw [h]
    apply Bool.noConfusion
  · rw [h]
    intro rest hrest
    cases hrest

/-- The invariant is kept by whatever leaves `close` where it is. -/
theorem Joining.keep {s t : Closing} (h : s.Joining) {a : Action} (hnext : next s a = some t)
    (hcloser : t.closer = s.closer) (hio : t.ioStopped = s.ioStopped) :
  t.Joining
  := by
  constructor
  · rw [hcloser, hio]
    apply h.ioStopped
  · rw [hcloser, keys_next hnext]
    intro rest hrest
    obtain ⟨hjoined, hdone⟩ := h.joined rest hrest
    use hjoined.next hnext
    apply hdone.mono
    intro c hc
    apply hc.next hnext

/-- The invariant is kept once the io thread has been joined. -/
theorem Joining.of_joined {t : Closing} (hjoined : t.IoJoined)
    (hdone : ∀ rest, t.closer.unjoined = some rest →
      Done t.Joinable t.handler.m_mapControllers.keys rest) :
  t.Joining
  := ⟨fun _ => hjoined.1, fun rest hrest => ⟨hjoined, hdone rest hrest⟩⟩

theorem Joining.close {s t : Closing} (h : s.Joining) (hnext : next s .close = some t) :
  t.Joining
  := by
  have hjoinable : ∀ c, s.Joinable c → t.Joinable c := fun c hc => hc.next hnext
  have hjoined : s.IoJoined → t.IoJoined := fun hs => hs.next hnext
  have hkeys := keys_next hnext
  cases closeStep_eq_some (next_close hnext) with
  | prepare conn io pc hs hpc hio hstops =>
      constructor
      · intro hpc'
        rcases hstops hpc' with hs' | hio'
        · apply hio (h.ioStopped hs')
        · apply hio'
      · intro rest hrest
        cases hpc.symm.trans hrest
  | joinIo hs hthread =>
      have hio : s.ioStopped = true := h.ioStopped (by rw [hs]; rfl)
      apply Joining.of_joined (hjoined ⟨hio, hthread⟩)
      intro rest hrest
      obtain rfl := Option.some.inj hrest
      apply Done.start
  | stop c rest f pc hf hs hpc =>
      obtain ⟨hio, hdone⟩ := h.joined _ hs
      apply Joining.of_joined (hjoined hio)
      intro rest' hrest'
      obtain rfl := Option.some.inj (hpc.symm.trans hrest')
      rw [hkeys]
      apply hdone.mono hjoinable
  | join c rest hs hjoin =>
      obtain ⟨hio, hdone⟩ := h.joined (c :: rest) (by rw [hs]; rfl)
      apply Joining.of_joined (hjoined hio)
      intro rest' hrest'
      obtain rfl := Option.some.inj hrest'
      apply hdone.advance hjoin
  | last hs =>
      obtain ⟨hio, hdone⟩ := h.joined [] (by rw [hs]; rfl)
      apply Joining.of_joined (hjoined hio)
      intro rest' hrest'
      obtain rfl := Option.some.inj hrest'
      apply hdone

theorem Joining.next {s t : Closing} (h : s.Joining) :
    ∀ {a : Action}, Closing.next s a = some t → t.Joining
  | .close, hnext => h.close hnext
  | .work _ _, hnext => by
      obtain ⟨-, hcloser, hio, -⟩ := workStep_thread (next_work hnext)
      apply h.keep hnext hcloser hio
  | .thread _ _, hnext => by
      apply h.keep hnext <;>
        obtain ⟨-, ⟨conn, pc, -, -, rfl⟩ | ⟨c, -, -, rfl⟩⟩ := next_thread hnext <;> rfl
  | .timer _, hnext => by
      apply h.keep hnext <;> obtain ⟨conn, pc, -, rfl⟩ := next_timer hnext <;> rfl

/-- When `close` has returned, neither the io thread nor a worker runs. -/
theorem Joining.returned {s : Closing} (h : s.Joining) (hret : s.closer = .returned) :
  s.IoJoined ∧ ∀ c ∈ s.handler.m_mapControllers.keys, s.Joinable c
  := by
  obtain ⟨hio, hdone⟩ := h.joined [] (by rw [hret]; rfl)
  exact ⟨hio, hdone.finished⟩

end Closing

end DoorSwitchSvr
