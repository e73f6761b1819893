import DoorSwitchSvr.Service

/-!
# The windows of an indirect switch

An indirect switch serves its requests one after another, each with an open and a close
command of its own.  A request is measured from its creation, so that a part of its window
may go by while the worker sleeps for the requests before it.

Nothing of it is lost: the door is open at that time for the sake of another request.  So a
prompt worker holds the door for exactly the union of the windows, with one pulse for each
request that has time left when it is taken (`holdsUnion`).
-/

namespace DoorSwitchSvr

open Transition Signal

namespace TimedRun

/-- From being taken to its deadline, the window of each request that has time left when it
is taken. -/
def served (dequeued : List (Request × Int)) : List (Int × Int) :=
  (dequeued.filter (fun p => p.2 < p.1.deadline)).map (fun p => (p.2, p.1.deadline))

/-- The door is held for the union of the windows: the requests are taken in the order of
their arrival, and each that then has time left gets an open and a close command. -/
structure HoldsUnion (schedule : List Request) (s : TimedRun) : Prop where
  relayOn_iff : ∀ time, s.RelayOn time ↔ ∃ r ∈ schedule, r.time ≤ time ∧ time < r.deadline
  in_order : s.dequeued.map Prod.fst = schedule
  issued : s.issued = commandPulses (served s.dequeued)
  alternates : s.Alternates

/-! ### The commands -/

/-- The commands that are still to be issued for the current request, with their times. -/
def pending (s : TimedRun) : List (Int × DoorCommand) :=
  match s.pc with
  | .gotTask r =>
      if s.now < r.deadline then [(s.now, .openCommand), (r.deadline, .closeCommand)] else []
  | .sendOpen realWait => [(s.now, .openCommand), (s.now + realWait, .closeCommand)]
  | .sleeping wake => [(wake, .closeCommand)]
  | .sendClose => [(s.now, .closeCommand)]
  | _ => []

/-- With the commands that are still to be issued for the current request, those that have
been issued are the pulses of the requests taken so far. -/
structure Pulsed (s : TimedRun) : Prop where
  issued : s.issued ++ s.pending = commandPulses (served s.dequeued)
  not_testEmpty : s.pc ≠ .testEmpty

theorem served_concat (dequeued : List (Request × Int)) (r : Request) (now : Int) :
  served (dequeued ++ [(r, now)])
    = served dequeued ++ (if now < r.deadline then [(now, r.deadline)] else [])
  := by
  rw [served, served, List.filter_append, List.map_append]
  split_ifs with hlt <;> simp [hlt]

theorem commandPulses_served_concat (dequeued : List (Request × Int)) (r : Request)
    (now : Int) :
  commandPulses (served (dequeued ++ [(r, now)]))
    = commandPulses (served dequeued)
      ++ (if now < r.deadline then [(now, .openCommand), (r.deadline, .closeCommand)] else [])
  := by
  rw [served_concat]
  split_ifs
  · apply commandPulses_concat
  · simp only [List.append_nil]

/-- The pulse of a request that is taken is still to be issued. -/
theorem Pulsed.take {s t : TimedRun} (h : Pulsed s) {r : Request} (hidle : s.pending = [])
    (hnow : t.now = s.now) (hissued : t.issued = s.issued) (hpc : t.pc = .gotTask r)
    (hdequeued : t.dequeued = s.dequeued ++ [(r, s.now)]) :
  Pulsed t
  := by
  have hs := h.issued
  rw [hidle, List.append_nil] at hs
  constructor
  · simp only [pending, hpc, hnow]
    rw [hdequeued, commandPulses_served_concat, hissued, hs]
  · rw [hpc]
    apply TimedPc.noConfusion

theorem Pulsed.addTask {s : TimedRun} (h : Pulsed s) (r : Request) :
  Pulsed (s.addTask r)
  := by
  rw [TimedRun.addTask]
  split_ifs with hpc
  · have hidle : s.pending = [] := by rw [pending, hpc]
    apply h.take hidle
    all_goals rfl
  · exact ⟨h.issued, h.not_testEmpty⟩

theorem Pulsed.tick {s : TimedRun} (h : Pulsed s) (hblocked : s.Blocked) :
  Pulsed { s with now := s.now + 1 }
  := by
  have hissued := h.issued
  refine ⟨?_, h.not_testEmpty⟩
  rcases hblocked with hpc | ⟨wake, hpc, -⟩
  · simp only [pending, hpc] at hissued ⊢
    apply hissued
  · simp only [pending, hpc] at hissued ⊢
    apply hissued

theorem Pulsed.work {s t : TimedRun} (h : Pulsed s) (hcurrent : Current s)
    (hstep : WorkStep .INDIRECT_CONTROL_SWITCH s t) :
  Pulsed t
  := by
  have hissued := h.issued
  cases hstep with
  | dequeue r rs hpc hq =>
      have hidle : s.pending = [] := by rw [pending, hpc]
      apply h.take hidle
      all_goals rfl
  | serve r hpc hwait =>
      have hlt := (r.realWait_pos_iff s.now).mp hwait
      refine ⟨?_, TimedPc.noConfusion⟩
      simp only [pending, hpc, if_pos hlt] at hissued
      simp only [pending, r.add_realWait s.now]
      apply hissued
  | follow r hpc hwait htype => apply absurd rfl htype
  | expire r hpc hwait =>
      rw [r.realWait_pos_iff] at hwait
      refine ⟨?_, TimedPc.noConfusion⟩
      simp only [pending, hpc, if_neg hwait] at hissued
      simp only [pending]
      apply hissued
  | sendOpen realWait hpc =>
      refine ⟨?_, TimedPc.noConfusion⟩
      simp only [pending, hpc] at hissued
      simp only [pending, List.append_assoc, List.singleton_append]
      apply hissued
  | wakeIndirect wake hpc hwake =>
      -- a prompt worker does not oversleep
      rw [Current, hpc] at hcurrent
      obtain ⟨r, taken, -, -, hle, -⟩ := hcurrent
      obtain rfl : wake = s.now := by omega
      refine ⟨?_, TimedPc.noConfusion⟩
      simp only [pending, hpc] at hissued
      simp only [pending]
      apply hissued
  | wakeDirect wake hpc hwake htype => apply absurd rfl htype
  | last hpc | notLast hpc => apply absurd hpc h.not_testEmpty
  | closeIndirect hpc =>
      refine ⟨?_, TimedPc.noConfusion⟩
      simp only [pending, hpc] at hissued
      simp only [pending, List.append_nil]
      apply hissued
  | closeDirect hpc htype => apply absurd rfl htype
  | go hpc | park hpc | discard hpc =>
      refine ⟨?_, TimedPc.noConfusion⟩
      simp only [pending, hpc] at hissued
      simp only [pending]
      apply hissued

/-! ### The time in the queue -/

/-- The time is in the window of a request, after that request has been taken. -/
def Held (s : TimedRun) (time : Int) : Prop :=
  ∃ p ∈ s.dequeued, p.2 ≤ time ∧ time < p.1.deadline

/-- While a request has been in the queue, the door has been held for others. -/
structure Waited (s : TimedRun) : Prop where
  queue : ∀ r ∈ s.m_taskNotiQue, ∀ time, r.time ≤ time → time < s.now → s.Held time
  dequeued : ∀ p ∈ s.dequeued, ∀ time, p.1.time ≤ time → time < p.2 → s.Held time

theorem Held.mono {s t : TimedRun} (h : ∀ p ∈ s.dequeued, p ∈ t.dequeued) {time : Int}
    (hheld : s.Held time) :
  t.Held time
  := by
  obtain ⟨p, hp, hle, hlt⟩ := hheld
  use p, h p hp, hle, hlt

/-- A request that has waited as others have is taken. -/
theorem Waited.take {s t : TimedRun} (h : Waited s) (hnow : t.now = s.now) {r : Request}
    (hr : ∀ time, r.time ≤ time → time < s.now → s.Held time)
    (hdequeued : t.dequeued = s.dequeued ++ [(r, s.now)])
    (hqueue : ∀ r' ∈ t.m_taskNotiQue, r' ∈ s.m_taskNotiQue) :
  Waited t
  := by
  have hmono : ∀ p ∈ s.dequeued, p ∈ t.dequeued := by
    intro p hp
    rw [hdequeued]
    apply List.mem_append_left _ hp
  constructor
  · intro r' hr' time hle hlt
    rw [hnow] at hlt
    apply (h.queue r' (hqueue r' hr') time hle hlt).mono hmono
  · intro p hp time hle hlt
    rw [hdequeued] at hp
    rcases List.mem_append.mp hp with hp | hp
    · apply (h.dequeued p hp time hle hlt).mono hmono
    · rw [List.mem_singleton.mp hp] at hle hlt
      apply (hr time hle hlt).mono hmono

theorem Waited.addTask {s : TimedRun} (h : Waited s) {r : Request} (htime : r.time = s.now) :
  Waited (s.addTask r)
  := by
  have hnew : ∀ time, r.time ≤ time → time < s.now → s.Held time := by
    intro time hle hlt
    omega
  rw [TimedRun.addTask]
  split_ifs
  · exact h.take rfl hnew rfl (fun _ hr' => hr')
  · constructor
    · intro r' hr' time hle hlt
      rcases List.mem_append.mp hr' with hr' | hr'
      · apply h.queue r' hr' time hle hlt
      · rw [List.mem_singleton.mp hr'] at hle
        apply hnew time hle hlt
    · apply h.dequeued

/-- While time goes by for a request in the queue, the worker sleeps for the one it has
taken last. -/
theorem Waited.tick {s : TimedRun} (h : Waited s) (horder : InOrder s)
    (hblocked : s.Blocked) :
  Waited { s with now := s.now + 1 }
  := by
  constructor
  · intro r hr time hle hlt
    simp only at hr hlt
    by_cases hpast : time < s.now
    · apply h.queue r hr time hle hpast
    · rcases hblocked with hpc | ⟨wake, hpc, hwake⟩
      · rw [horder.parked hpc] at hr
        cases hr
      · have hcurrent := horder.current
        rw [Current, hpc] at hcurrent
        obtain ⟨r', taken, hlast, -, -, rfl⟩ := hcurrent
        have hmem := List.mem_of_getLast? hlast
        have htaken := (horder.taken (r', taken) hmem).2
        use (r', taken), hmem
        simp only at htaken ⊢
        omega
  · apply h.dequeued

theorem Waited.work {type : SWITCH_TYPE} {s t : TimedRun} (h : Waited s)
    (hstep : WorkStep type s t) :
  Waited t
  := by
  cases hstep with
  | dequeue r rs hpc hq =>
      apply h.take
      · rfl
      · apply h.queue r
        rw [hq]
        apply List.mem_cons_self
      · rfl
      · intro r' hr'
        rw [hq]
        apply List.mem_cons_of_mem r hr'
  | _ => exact ⟨h.queue, h.dequeued⟩

/-! ### Runs -/

/-- The invariant of a prompt worker of an indirect switch. -/
structure UnionInv (s : TimedRun) : Prop where
  order : InOrder s
  pulsed : Pulsed s
  waited : Waited s

theorem UnionInv.initial (start : Int) :
  UnionInv (initial start)
  := by
  constructor
  · apply InOrder.initial
  · exact ⟨rfl, TimedPc.noConfusion⟩
  · constructor
    · intro r hr
      cases hr
    · intro p hp
      cases hp

theorem UnionInv.step (s : TimedRun) (a : Action) (t : TimedRun) (h : UnionInv s)
    (hok : Prompt .INDIRECT_CONTROL_SWITCH s a)
    (hnext : next .INDIRECT_CONTROL_SWITCH s a = some t) :
  UnionInv t
  := by
  have horder := h.order.step s a t hok hnext
  cases a with
  | request closeAfterMs =>
      obtain rfl := Option.some.inj hnext
      exact ⟨horder, h.pulsed.addTask _, h.waited.addTask rfl⟩
  | work =>
      have hstep := runStep_eq_some hnext
      exact ⟨horder, h.pulsed.work h.order.current hstep, h.waited.work hstep⟩
  | tick =>
      have hblocked := runStep_eq_none.mp hok
      obtain rfl := Option.some.inj hnext
      exact ⟨horder, h.pulsed.tick hblocked, h.waited.tick h.order hblocked⟩

/-- The pulses of the requests come one after another. -/
theorem InOrder.sequential_served {s : TimedRun} (h : InOrder s) :
  Sequential (served s.dequeued)
  := by
  constructor
  · intro p hp
    obtain ⟨q, hq, rfl⟩ := List.mem_map.mp hp
    apply of_decide_eq_true (List.mem_filter.mp hq).2
  · apply List.Pairwise.map _ _ (h.sequential.filter _)
    intro p q hle
    apply hle

/-- A time is in the window of a request exactly when the door is held for one. -/
theorem UnionInv.held_iff {s : TimedRun} (h : UnionInv s) (hq : s.m_taskNotiQue = [])
    (time : Int) :
  s.Held time ↔ ∃ r ∈ s.requested, r.time ≤ time ∧ time < r.deadline
  := by
  rw [h.order.requested, hq, List.append_nil]
  constructor
  · rintro ⟨p, hp, hle, hlt⟩
    have htaken := (h.order.taken p hp).1
    use p.1, List.mem_map_of_mem hp
    omega
  · rintro ⟨r, hr, hle, hlt⟩
    obtain ⟨p, hp, rfl⟩ := List.mem_map.mp hr
    rcases lt_or_ge time p.2 with hbefore | hafter
    · apply h.waited.dequeued p hp time hle hbefore
    · use p, hp, hafter, hlt

theorem exists_mem_served {dequeued : List (Request × Int)} {time : Int} :
  (∃ p ∈ served dequeued, p.1 ≤ time ∧ time < p.2)
    ↔ ∃ p ∈ dequeued, p.2 ≤ time ∧ time < p.1.deadline
  := by
  constructor
  · rintro ⟨p, hp, hle, hlt⟩
    obtain ⟨q, hq, rfl⟩ := List.mem_map.mp hp
    use q, (List.mem_filter.mp hq).1, hle, hlt
  · rintro ⟨p, hp, hle, hlt⟩
    use (p.2, p.1.deadline)
    constructor
    · apply List.mem_map_of_mem (f := fun p : Request × Int => (p.2, p.1.deadline))
      apply List.mem_filter.mpr ⟨hp, _⟩
      apply decide_eq_true (hle.trans_lt hlt)
    · exact ⟨hle, hlt⟩

/-- For every schedule of requests to an indirect switch, a prompt worker serves it, and
whenever it has, the door has been held for exactly the union of the windows. -/
theorem holdsUnion {start : Int} {schedule : List Request} (hschedule : IsSchedule start schedule) :
  (∃ s, Serves .INDIRECT_CONTROL_SWITCH (Prompt .INDIRECT_CONTROL_SWITCH) start schedule s)
    ∧ ∀ s, Serves .INDIRECT_CONTROL_SWITCH (Prompt .INDIRECT_CONTROL_SWITCH) start schedule s →
        HoldsUnion schedule s
  := by
  constructor
  · obtain ⟨s, hs⟩ := exists_serves .INDIRECT_CONTROL_SWITCH hschedule
    use s
    exact ⟨hs.reaches.mono (fun _ _ h => h.1), hs.requested, hs.parked⟩
  · rintro s hs
    obtain rfl := hs.requested
    have hinv : UnionInv s := hs.reaches.invariant UnionInv.step (UnionInv.initial start)
    have hq := hinv.order.parked hs.parked
    have hissued := hinv.pulsed.issued
    rw [pending, hs.parked, List.append_nil] at hissued
    constructor
    · intro time
      rw [relayOn_iff_of_pulses hissued hinv.order.sequential_served, exists_mem_served]
      apply hinv.held_iff hq
    · rw [hinv.order.requested, hq, List.append_nil]
    · apply hissued
    · apply alternates_of_pulses hissued

/-- A request of 3 milliseconds, one within it, one that is also over later, one that expires
in the queue, and one that has no time from the start. -/
theorem holdsUnion_five :
  (∃ s, Serves .INDIRECT_CONTROL_SWITCH (Prompt .INDIRECT_CONTROL_SWITCH) 0
      [⟨0, 3⟩, ⟨1, 1⟩, ⟨1, 5⟩, ⟨2, 1⟩, ⟨9, -1⟩] s)
    ∧ ∀ s, Serves .INDIRECT_CONTROL_SWITCH (Prompt .INDIRECT_CONTROL_SWITCH) 0
        [⟨0, 3⟩, ⟨1, 1⟩, ⟨1, 5⟩, ⟨2, 1⟩, ⟨9, -1⟩] s →
      HoldsUnion [⟨0, 3⟩, ⟨1, 1⟩, ⟨1, 5⟩, ⟨2, 1⟩, ⟨9, -1⟩] s
  := holdsUnion (by decide)

end TimedRun

end DoorSwitchSvr
