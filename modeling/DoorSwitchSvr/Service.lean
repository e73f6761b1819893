import DoorSwitchSvr.Clock
import DoorSwitchSvr.Lib.Signal

/-!
# A prompt worker

The worker on an exact clock: it takes each step as soon as it can, so that time only goes
by while it waits for a task or sleeps, and no sleep is longer than `realWait`.

A prompt worker takes the requests in the order of their arrival, each when the window of
the one before it is over, and sleeps for each to its deadline (`InOrder`).  Every schedule
of requests is served by some run (`exists_serves`), in which moreover a request that is made
when a sleep ends only arrives after the test of the queue that follows.  The worker with
machine integers serves it with the same commands (`Serves.exists_channelRun`).
-/

namespace DoorSwitchSvr

open Transition

namespace TimedRun

/-- The clock only advances when the worker can take no step. -/
def Prompt (type : SWITCH_TYPE) (s : TimedRun) : Action → Prop
  | .tick => s.runStep type = none
  | _ => True

/-- A request made when a sleep ends arrives after the test of the queue that follows. -/
def ArrivesAfterTest (s : TimedRun) : Action → Prop
  | .request _ => s.pc ≠ .testEmpty ∧ ∀ wake, s.pc = .sleeping wake → s.now < wake
  | _ => True

/-- A prompt worker that no request comes to between a sleep and the test of the queue. -/
def Ideal (type : SWITCH_TYPE) (s : TimedRun) (a : Action) : Prop :=
  Prompt type s a ∧ ArrivesAfterTest s a

/-- A run whose steps satisfy `ok` has served the requests of the schedule: they have all
been made, and the worker waits for another one. -/
structure Serves (type : SWITCH_TYPE) (ok : TimedRun → Action → Prop) (start : Int)
    (schedule : List Request) (t : TimedRun) : Prop where
  reaches : Reaches (next type) ok (initial start) t
  requested : t.requested = schedule
  parked : t.pc = .parked

/-- Requests in the order of their times, none before `start`. -/
def IsSchedule (start : Int) (schedule : List Request) : Prop :=
  (∀ r ∈ schedule, start ≤ r.time) ∧ schedule.Pairwise (fun r r' => r.time ≤ r'.time)

instance (start : Int) (schedule : List Request) : Decidable (IsSchedule start schedule) :=
  inferInstanceAs (Decidable (_ ∧ _))

/-- The relay is on at a time: the last command up to then, those of that instant included,
is an open command. -/
def RelayOn (s : TimedRun) (time : Int) : Prop :=
  Signal.valueAt s.issued time = some .openCommand

instance (s : TimedRun) (time : Int) : Decidable (s.RelayOn time) :=
  inferInstanceAs (Decidable (_ = _))

/-- The commands are in turn open and close commands, from an open one to a close one. -/
def Alternates (s : TimedRun) : Prop :=
  ∃ n, s.issued.map Prod.snd = (List.replicate n [.openCommand, .closeCommand]).flatten

/-- An open and a close command at the two ends of each interval. -/
def commandPulses (ps : List (Int × Int)) : List (Int × DoorCommand) :=
  Signal.pulses .openCommand .closeCommand ps

theorem commandPulses_concat (ps : List (Int × Int)) (p : Int × Int) :
  commandPulses (ps ++ [p])
    = commandPulses ps ++ [(p.1, .openCommand), (p.2, .closeCommand)]
  := Signal.pulses_concat _ _ ps p

theorem relayOn_iff_of_pulses {s : TimedRun} {ps : List (Int × Int)}
    (h : s.issued = commandPulses ps) (hps : Signal.Sequential ps) (time : Int) :
  s.RelayOn time ↔ ∃ p ∈ ps, p.1 ≤ time ∧ time < p.2
  := by
  rw [RelayOn, h]
  apply Signal.valueAt_pulses DoorCommand.noConfusion hps

theorem alternates_of_pulses {s : TimedRun} {ps : List (Int × Int)}
    (h : s.issued = commandPulses ps) :
  s.Alternates
  := by
  use ps.length
  rw [h]
  apply Signal.map_snd_pulses

/-! ### Requests in order -/

/-- What is known of the request that was taken last, at each point of `run`. -/
def Current (s : TimedRun) : Prop :=
  match s.pc with
  | .gotTask r => s.dequeued.getLast? = some (r, s.now)
  | .sendOpen realWait =>
      ∃ r, s.dequeued.getLast? = some (r, s.now) ∧ s.now + realWait = r.deadline
  | .sleeping wake =>
      ∃ r taken, s.dequeued.getLast? = some (r, taken) ∧ taken < wake ∧ s.now ≤ wake
        ∧ wake = r.deadline
  | _ => ∀ p ∈ s.dequeued, p.1.deadline ≤ s.now

/-- The requests are taken in the order in which they were made, each one when those before
it are over.  A parked worker has left none in the queue. -/
structure InOrder (s : TimedRun) : Prop where
  requested : s.requested = s.dequeued.map Prod.fst ++ s.m_taskNotiQue
  arrived : ∀ r ∈ s.m_taskNotiQue, r.time ≤ s.now
  taken : ∀ p ∈ s.dequeued, p.1.time ≤ p.2 ∧ p.2 ≤ s.now
  sequential : s.dequeued.Pairwise (fun p q => p.1.deadline ≤ q.2)
  current : Current s
  parked : s.pc = .parked → s.m_taskNotiQue = []

theorem InOrder.initial (start : Int) :
  InOrder (initial start)
  := by
  constructor <;> simp [TimedRun.initial, Current]

/-- All the requests that have been taken are over when the one that was taken last is. -/
theorem InOrder.over {s : TimedRun} (h : InOrder s) {r : Request} {taken : Int}
    (hlast : s.dequeued.getLast? = some (r, taken)) (hover : r.deadline ≤ s.now) :
  ∀ p ∈ s.dequeued, p.1.deadline ≤ s.now
  := by
  obtain ⟨rest, hrest⟩ := List.getLast?_eq_some_iff.mp hlast
  have hsequential := h.sequential
  have htaken := (h.taken (r, taken) (List.mem_of_getLast? hlast)).2
  rw [hrest] at hsequential
  intro p hp
  rw [hrest] at hp
  rcases List.mem_append.mp hp with hp | hp
  · have hle := (List.pairwise_append.mp hsequential).2.2 p hp (r, taken)
      (List.mem_singleton_self _)
    exact hle.trans htaken
  · rw [List.mem_singleton.mp hp]
    apply hover

/-- The worker takes a request when those before it are over. -/
theorem InOrder.take {s : TimedRun} (h : InOrder s) (hover : ∀ p ∈ s.dequeued, p.1.deadline ≤ s.now)
    {r : Request} (htime : r.time ≤ s.now) :
  (∀ p ∈ s.dequeued ++ [(r, s.now)], p.1.time ≤ p.2 ∧ p.2 ≤ s.now)
    ∧ (s.dequeued ++ [(r, s.now)]).Pairwise (fun p q => p.1.deadline ≤ q.2)
  := by
  constructor
  · intro p hp
    rcases List.mem_append.mp hp with hp | hp
    · apply h.taken p hp
    · rw [List.mem_singleton.mp hp]
      exact ⟨htime, le_rfl⟩
  · rw [List.pairwise_append]
    use h.sequential, List.pairwise_singleton _ _
    intro p hp q hq
    rw [List.mem_singleton.mp hq]
    apply hover p hp

theorem InOrder.addTask {s : TimedRun} (h : InOrder s) (closeAfterMs : Int) :
  InOrder (s.addTask ⟨s.now, closeAfterMs⟩)
  := by
  have hcurrent := h.current
  rw [TimedRun.addTask]
  split_ifs with hpc
  · rw [Current, hpc] at hcurrent
    have hq := h.parked hpc
    obtain ⟨htaken, hsequential⟩ := h.take hcurrent (r := ⟨s.now, closeAfterMs⟩) le_rfl
    constructor
    · simp only [h.requested, hq, List.map_append, List.append_nil, List.map_cons, List.map_nil]
    · apply h.arrived
    · apply htaken
    · apply hsequential
    · apply List.getLast?_concat
    · intro hpc'
      cases hpc'
  · constructor
    · simp only [h.requested, List.append_assoc]
    · intro r hr
      rcases List.mem_append.mp hr with hr | hr
      · apply h.arrived r hr
      · rw [List.mem_singleton.mp hr]
    · apply h.taken
    · apply h.sequential
    · apply hcurrent
    · intro hpc'
      apply absurd hpc' hpc

theorem InOrder.tick {s : TimedRun} (h : InOrder s) (hblocked : s.Blocked) :
  InOrder { s with now := s.now + 1 }
  := by
  have hcurrent := h.current
  constructor
  · apply h.requested
  · intro r hr
    have htime := h.arrived r hr
    simp only
    omega
  · intro p hp
    obtain ⟨hle, hle'⟩ := h.taken p hp
    simp only
    omega
  · apply h.sequential
  · rcases hblocked with hpc | ⟨wake, hpc, hwake⟩
    · rw [Current, hpc] at hcurrent
      simp only [Current, hpc]
      intro p hp
      have hle := hcurrent p hp
      omega
    · rw [Current, hpc] at hcurrent
      simp only [Current, hpc]
      obtain ⟨r, taken, hlast, hlt, -, hdeadline⟩ := hcurrent
      use r, taken, hlast, hlt, hwake, hdeadline
  · apply h.parked

/-- A step that neither takes a request nor parks the worker leaves the requests as they
are. -/
theorem InOrder.of_current {s t : TimedRun} (h : InOrder s) (hnow : t.now = s.now)
    (hrequested : t.requested = s.requested) (hdequeued : t.dequeued = s.dequeued)
    (hqueue : t.m_taskNotiQue = s.m_taskNotiQue) (hpc : t.pc ≠ .parked) (hcurrent : Current t) :
  InOrder t
  := by
  constructor
  · rw [hrequested, hdequeued, hqueue]
    apply h.requested
  · rw [hqueue, hnow]
    apply h.arrived
  · rw [hdequeued, hnow]
    apply h.taken
  · rw [hdequeued]
    apply h.sequential
  · apply hcurrent
  · intro hparked
    apply absurd hparked hpc

theorem InOrder.work {type : SWITCH_TYPE} {s t : TimedRun} (h : InOrder s)
    (hstep : WorkStep type s t) :
  InOrder t
  := by
  have hcurrent := h.current
  cases hstep with
  | park hpc hq =>
      rw [Current, hpc] at hcurrent
      exact ⟨h.requested, h.arrived, h.taken, h.sequential, hcurrent, fun _ => hq⟩
  | dequeue r rs hpc hq =>
      rw [Current, hpc] at hcurrent
      have harrived := h.arrived
      rw [hq] at harrived
      obtain ⟨htaken, hsequential⟩ := h.take hcurrent (harrived r List.mem_cons_self)
      constructor
      · simp only [h.requested, hq, List.map_append, List.append_assoc, List.map_cons,
          List.map_nil, List.singleton_append]
      · intro r' hr'
        apply harrived r' (List.mem_cons_of_mem r hr')
      · apply htaken
      · apply hsequential
      · apply List.getLast?_concat
      · intro hpc'
        cases hpc'
  | serve r hpc hwait =>
      rw [Current, hpc] at hcurrent
      refine h.of_current rfl rfl rfl rfl TimedPc.noConfusion ?_
      use r, hcurrent, r.add_realWait s.now
  | follow r hpc hwait =>
      rw [Current, hpc] at hcurrent
      refine h.of_current rfl rfl rfl rfl TimedPc.noConfusion ?_
      use r, s.now, hcurrent
      simp only
      have hdeadline := r.add_realWait s.now
      omega
  | expire r hpc hwait =>
      rw [Current, hpc] at hcurrent
      refine h.of_current rfl rfl rfl rfl TimedPc.noConfusion ?_
      rw [r.realWait_pos_iff] at hwait
      apply h.over hcurrent (Int.not_lt.mp hwait)
  | sendOpen realWait hpc =>
      rw [Current, hpc] at hcurrent
      refine h.of_current rfl rfl rfl rfl TimedPc.noConfusion ?_
      obtain ⟨r, hlast, hdeadline⟩ := hcurrent
      have hpos := realWait.property
      use r, s.now, hlast
      simp only
      omega
  | wakeIndirect wake hpc hwake | wakeDirect wake hpc hwake =>
      rw [Current, hpc] at hcurrent
      refine h.of_current rfl rfl rfl rfl TimedPc.noConfusion ?_
      obtain ⟨r, taken, hlast, -, -, rfl⟩ := hcurrent
      apply h.over hlast hwake
  | go hpc | discard hpc | last hpc | notLast hpc | closeIndirect hpc | closeDirect hpc =>
      rw [Current, hpc] at hcurrent
      exact h.of_current rfl rfl rfl rfl TimedPc.noConfusion hcurrent

theorem InOrder.step {type : SWITCH_TYPE} (s : TimedRun) (a : Action) (t : TimedRun)
    (h : InOrder s) (hok : Prompt type s a) (hnext : next type s a = some t) :
  InOrder t
  := by
  cases a with
  | request closeAfterMs =>
      obtain rfl := Option.some.inj hnext
      apply h.addTask
  | work => apply h.work (runStep_eq_some hnext)
  | tick =>
      obtain rfl := Option.some.inj hnext
      apply h.tick (runStep_eq_none.mp hok)

/-! ### Every schedule is served -/

/-- How far the worker may be from a point where it can take no step. -/
def rank : TimedPc → ℕ
  | .gotTask _ => 8
  | .sendOpen _ => 7
  | .sleeping _ => 6
  | .testEmpty => 5
  | .sendClose => 4
  | .discard => 4
  | .testStop => 3
  | .waitDequeue => 2
  | .parked => 0

/-- A bound on the steps the worker takes before it can take none. -/
def stepsLeft (s : TimedRun) : ℕ := 10 * s.m_taskNotiQue.length + rank s.pc

theorem WorkStep.stepsLeft_lt {type : SWITCH_TYPE} {s t : TimedRun} (h : WorkStep type s t) :
  t.stepsLeft < s.stepsLeft
  := by
  cases h with
  | dequeue r rs hpc hq =>
      simp only [stepsLeft, hpc, hq, rank, List.length_cons]
      omega
  | go hpc | park hpc | serve r hpc | follow r hpc | expire r hpc | discard hpc
  | sendOpen _ hpc | wakeIndirect _ hpc | wakeDirect _ hpc | last hpc | notLast hpc
  | closeIndirect hpc | closeDirect hpc =>
      simp only [stepsLeft, hpc, rank]
      omega

theorem WorkStep.kept {type : SWITCH_TYPE} {s t : TimedRun} (h : WorkStep type s t) :
  t.now = s.now ∧ t.requested = s.requested
  := by
  cases h <;> exact ⟨rfl, rfl⟩

/-- `t` is reached from `s` at a point where the worker can take no step, at the time `now`
and with the further requests `rs` made. -/
structure Settles (type : SWITCH_TYPE) (s : TimedRun) (now : Int) (rs : List Request)
    (t : TimedRun) : Prop where
  reaches : Reaches (next type) (Ideal type) s t
  blocked : t.Blocked
  now_eq : t.now = now
  requested : t.requested = s.requested ++ rs

theorem Settles.trans {type : SWITCH_TYPE} {s t u : TimedRun} {now now' : Int}
    {rs rs' : List Request} (h : Settles type s now rs t) (h' : Settles type t now' rs' u) :
  Settles type s now' (rs ++ rs') u
  := by
  constructor
  · apply h.reaches.trans h'.reaches
  · apply h'.blocked
  · apply h'.now_eq
  · rw [h'.requested, h.requested, List.append_assoc]

/-- A worker that is left alone comes to a point where it can take no step. -/
theorem exists_settles (type : SWITCH_TYPE) (s : TimedRun) :
  ∃ t, Settles type s s.now [] t
  := by
  induction hsteps : s.stepsLeft using Nat.strong_induction_on generalizing s with
  | _ n ih =>
      cases hrun : s.runStep type with
      | none => exact ⟨s, Reaches.refl s, runStep_eq_none.mp hrun, rfl, (List.append_nil _).symm⟩
      | some u =>
          have hstep := runStep_eq_some hrun
          obtain ⟨hnow, hrequested⟩ := hstep.kept
          obtain ⟨t, ht⟩ := ih u.stepsLeft (hsteps ▸ hstep.stepsLeft_lt) u rfl
          use t
          constructor
          · apply Reaches.head (a := .work) ⟨trivial, trivial⟩ hrun ht.reaches
          · apply ht.blocked
          · rw [ht.now_eq, hnow]
          · rw [ht.requested, hrequested]

/-- Time goes by for a worker that is left alone. -/
theorem exists_settles_at (type : SWITCH_TYPE) {s : TimedRun} (hblocked : s.Blocked) (n : ℕ) :
  ∃ t, Settles type s (s.now + n) [] t
  := by
  induction n with
  | zero =>
      use s
      exact ⟨Reaches.refl s, hblocked, by omega, (List.append_nil _).symm⟩
  | succ n ih =>
      obtain ⟨t, ht⟩ := ih
      obtain ⟨u, hu⟩ := exists_settles type { t with now := t.now + 1 }
      use u
      constructor
      · apply ht.reaches.trans
        apply Reaches.head (a := .tick) ⟨runStep_eq_none.mpr ht.blocked, trivial⟩ rfl hu.reaches
      · apply hu.blocked
      · rw [hu.now_eq, ht.now_eq]
        push_cast
        omega
      · rw [hu.requested, ht.requested, List.append_nil]

/-- A request is made at its time. -/
theorem exists_settles_request (type : SWITCH_TYPE) {s : TimedRun} (hblocked : s.Blocked)
    {r : Request} (htime : s.now ≤ r.time) :
  ∃ t, Settles type s r.time [r] t
  := by
  obtain ⟨u, hu⟩ := exists_settles_at type hblocked (r.time - s.now).toNat
  obtain ⟨t, ht⟩ := exists_settles type (u.addTask ⟨u.now, r.closeAfterMs⟩)
  have hnow : u.now = r.time := by
    rw [hu.now_eq]
    omega
  have harrives : ArrivesAfterTest u (.request r.closeAfterMs) := by
    rcases hu.blocked with hpc | ⟨wake, hpc, hwake⟩
    · simp [ArrivesAfterTest, hpc]
    · simp only [ArrivesAfterTest, hpc, ne_eq, reduceCtorEq, not_false_eq_true, true_and]
      intro wake' heq
      rw [← TimedPc.sleeping.inj heq]
      apply hwake
  use t
  constructor
  · apply hu.reaches.trans
    apply Reaches.head (a := .request r.closeAfterMs) ⟨trivial, harrives⟩ rfl ht.reaches
  · apply ht.blocked
  · rw [ht.now_eq, now_addTask, hnow]
  · rw [ht.requested, requested_addTask, hu.requested, hnow, List.append_nil, List.append_nil]

/-- The requests of a schedule are made one after another. -/
theorem exists_settles_schedule (type : SWITCH_TYPE) :
    ∀ {schedule : List Request} {s : TimedRun}, s.Blocked → IsSchedule s.now schedule →
      ∃ t now, Settles type s now schedule t
  | [], s, hblocked, _ => by
      use s, s.now
      exact ⟨Reaches.refl s, hblocked, rfl, (List.append_nil _).symm⟩
  | r :: rs, s, hblocked, hschedule => by
      obtain ⟨hstart, hsorted⟩ := hschedule
      obtain ⟨hle, hsorted⟩ := List.pairwise_cons.mp hsorted
      obtain ⟨u, hu⟩ := exists_settles_request type hblocked (hstart r List.mem_cons_self)
      have hrest : IsSchedule u.now rs := by
        rw [hu.now_eq]
        exact ⟨hle, hsorted⟩
      obtain ⟨t, now, ht⟩ := exists_settles_schedule type hu.blocked hrest
      use t, now
      apply hu.trans ht

/-- There is a time by which the deadlines of all the requests are over. -/
theorem exists_over (now : Int) (rs : List Request) :
  ∃ n : ℕ, ∀ r ∈ rs, r.deadline ≤ now + n
  := by
  induction rs with
  | nil =>
      use 0
      intro r hr
      cases hr
  | cons r rs ih =>
      obtain ⟨n, hn⟩ := ih
      use max n (r.deadline - now).toNat
      intro r' hr'
      rcases List.mem_cons.mp hr' with rfl | hr'
      · omega
      · have hle := hn r' hr'
        omega

/-- Every schedule of requests is served. -/
theorem exists_serves (type : SWITCH_TYPE) {start : Int} {schedule : List Request}
    (hschedule : IsSchedule start schedule) :
  ∃ t, Serves type (Ideal type) start schedule t
  := by
  obtain ⟨s, hs⟩ := exists_settles type (initial start)
  have hschedule' : IsSchedule s.now schedule := by
    rw [hs.now_eq]
    apply hschedule
  obtain ⟨u, now, hu⟩ := exists_settles_schedule type hs.blocked hschedule'
  obtain ⟨n, hn⟩ := exists_over u.now u.requested
  obtain ⟨t, ht⟩ := exists_settles_at type hu.blocked n
  have htotal := (hs.trans hu).trans ht
  use t
  constructor
  · apply htotal.reaches
  · rw [htotal.requested, List.append_nil]
    rfl
  · rcases htotal.blocked with hpc | ⟨wake, hpc, hwake⟩
    · apply hpc
    · -- a worker that sleeps does so to a deadline, and these are over
      have horder : InOrder t :=
        (htotal.reaches.mono (fun _ _ h => h.1)).invariant InOrder.step (InOrder.initial start)
      have hcurrent := horder.current
      rw [Current, hpc] at hcurrent
      obtain ⟨r, taken, hlast, -, -, rfl⟩ := hcurrent
      have hmem : r ∈ t.requested := by
        rw [horder.requested]
        apply List.mem_append_left
        apply List.mem_map_of_mem (List.mem_of_getLast? hlast)
      rw [ht.requested, List.append_nil] at hmem
      have hover := hn r hmem
      rw [ht.now_eq] at hwake
      omega

/-- When nothing overflows, the worker with machine integers serves the schedule with the same
commands, and then waits on an empty queue. -/
theorem Serves.exists_channelRun {type : SWITCH_TYPE} {ok : TimedRun → Action → Prop}
    {start : Int} {schedule : List Request} {t : TimedRun} (h : Serves type ok start schedule t)
    (hok : ∀ s a, ok s a → Prompt type s a ∧ InRange s a) (channel : UInt16) :
  ∃ bs c, run (ChannelRun.next type) (ChannelRun.initial channel) bs = some c
    ∧ c.ctl.pc = .parked ∧ c.ctl.m_taskNotiQue = []
    ∧ c.issued.reverse = t.issued.map Prod.snd
  := by
  have horder : InOrder t :=
    (h.reaches.mono (fun s a hsa => (hok s a hsa).1)).invariant InOrder.step
      (InOrder.initial start)
  obtain ⟨as, hrange, hrun⟩ := h.reaches.mono (fun s a hsa => (hok s a hsa).2)
  obtain ⟨bs, c, hc, hsim⟩ := TimedRun.exists_channelRun channel hrange hrun
  have hqueue := hsim.queue
  have hpc := hsim.pc
  rw [horder.parked h.parked] at hqueue
  rw [h.parked] at hpc
  use bs, c, hc, hpc, List.forall₂_nil_left_iff.mp hqueue
  rw [hsim.issued, List.reverse_reverse]

end TimedRun

end DoorSwitchSvr
