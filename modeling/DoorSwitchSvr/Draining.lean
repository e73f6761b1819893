import DoorSwitchSvr.Accounting

/-!
# Draining the queue

Once no more tasks are added, the worker of a channel comes to an end of its work: whatever
its stopwatches read, it takes at most seven steps for each task in the queue, and seven for
what it is doing, and then is parked on an empty queue with every task judged, unless it
returns before, because `close` has been called or an exception ends it (`drained_of_run`).

Each step lowers `stepsLeft` (`stepsLeft_lt`), and a worker that runs can take a step unless
it is parked (`isSome_runStep`).
-/

namespace DoorSwitchSvr

open Transition DoorSwitchChannelController

namespace ChannelRun

/-- A bound on the steps that a worker takes until it is about to look at `m_stop` again, and
two more. -/
def stepsAt : Pc → ℕ
  | .notStarted | .parked | .returned => 0
  | .waitDequeue | .gotNull => 1
  | .testStop => 2
  | .discard | .sendClose => 3
  | .testEmpty => 4
  | .sleeping _ => 5
  | .sendOpen _ => 6
  | .gotTask _ => 7

/-- A bound on the steps that a worker takes when no more tasks are added. -/
def stepsLeft (c : DoorSwitchChannelController) : ℕ := 7 * c.m_taskNotiQue.length + stepsAt c.pc

theorem stepsAt_le (pc : Pc) :
  stepsAt pc ≤ 7
  := by
  cases pc <;> simp [stepsAt]

theorem stepsLeft_lt {type : SWITCH_TYPE} {elapsed : Int64} {c c' : DoorSwitchChannelController}
    {cmd : Option DoorCommand} (h : RunStep type elapsed c c' cmd) :
  stepsLeft c' < stepsLeft c
  := by
  rw [stepsLeft, stepsLeft]
  cases h with
  | dequeue task tasks hpc hq =>
      rw [hpc, hq, List.length_cons]
      simp only [stepsAt]
      omega
  | stop hpc | go hpc | park hpc | null hpc | serve _ hpc | follow _ hpc | expire _ hpc
  | discard hpc | sendOpen _ hpc | wakeIndirect _ hpc | wakeDirect _ hpc | last hpc
  | notLast hpc | closeIndirect hpc | closeDirect hpc =>
      rw [hpc]
      simp [stepsAt]

theorem stepsLeft_endThread (c : DoorSwitchChannelController) :
  stepsLeft c.endThread ≤ stepsLeft c
  := by
  rw [stepsLeft, stepsLeft]
  simp [endThread, stepsAt]

/-- A worker that runs can take a step unless it is parked. -/
theorem isSome_runStep (type : SWITCH_TYPE) (elapsed : Int64) {c : DoorSwitchChannelController}
    (hstarted : c.pc ≠ .notStarted) (hparked : c.pc ≠ .parked) (hreturned : c.pc ≠ .returned) :
  (runStep type elapsed c).isSome
  := by
  rw [runStep]
  split
  next hpc => apply absurd hpc hstarted
  next => split_ifs <;> rfl
  next => split <;> rfl
  next hpc => apply absurd hpc hparked
  next => rfl
  next => split_ifs <;> rfl
  next => rfl
  next => rfl
  next => split_ifs <;> rfl
  next => split_ifs <;> rfl
  next => split_ifs <;> rfl
  next hpc => apply absurd hpc hreturned

theorem stepsLeft_le (c : DoorSwitchChannelController) :
  stepsLeft c ≤ 7 * (c.m_taskNotiQue.length + 1)
  := by
  have hle := stepsAt_le c.pc
  rw [stepsLeft]
  omega

end ChannelRun

namespace WorkerRun

open ChannelRun (inHand stepsLeft stepsLeft_lt stepsLeft_le)

/-- The steps of a worker, with what its stopwatches read in each. -/
def works (elapsed : List Int64) : List Action := elapsed.map (fun e => .run (.work e))

/-- A step of the worker is one in `run`, and changes nothing else. -/
theorem next_work {type : SWITCH_TYPE} {s t : WorkerRun} {elapsed : Int64}
    (h : next type s (.run (.work elapsed)) = some t) :
  t.closer = s.closer ∧ t.dropped = s.dropped ∧ t.chan.ctl.added = s.chan.ctl.added
    ∧ t.chan.ctl.pc ≠ .notStarted ∧ stepsLeft t.chan.ctl < stepsLeft s.chan.ctl
  := by
  obtain ⟨-, hchan, ht⟩ := next_run h
  obtain ⟨cmd, hstep, -⟩ := ChannelRun.next_work hchan
  obtain ⟨-, -, -, hadded, hstarted⟩ := hstep.kept
  rw [ht]
  exact ⟨rfl, rfl, hadded, hstarted, stepsLeft_lt hstep⟩

/-- A worker that has been started can take a step, unless it is parked or has returned. -/
theorem exists_next {s : WorkerRun} (hstarted : s.chan.ctl.pc ≠ .notStarted)
    (hparked : s.chan.ctl.pc ≠ .parked) (hreturned : s.chan.ctl.pc ≠ .returned)
    (type : SWITCH_TYPE) (elapsed : Int64) :
  ∃ t, next type s (.run (.work elapsed)) = some t
  := by
  have hsome := ChannelRun.isSome_runStep type elapsed hstarted hparked hreturned
  obtain ⟨x, hx⟩ := Option.isSome_iff_exists.mp hsome
  use { s with chan := ⟨x.1, x.2.toList ++ s.chan.issued⟩ }
  apply next_of_work
  rw [ChannelRun.next, hx]
  rfl

/-- A worker that has been started comes to be parked or returns in at most `stepsLeft`
steps. -/
theorem exists_parked (type : SWITCH_TYPE) {s : WorkerRun}
    (hstarted : s.chan.ctl.pc ≠ .notStarted) {elapsed : List Int64}
    (hlength : stepsLeft s.chan.ctl ≤ elapsed.length) :
  ∃ read rest t, elapsed = read ++ rest ∧ read.length ≤ stepsLeft s.chan.ctl
    ∧ run (next type) s (works read) = some t
    ∧ t.closer = s.closer ∧ t.dropped = s.dropped ∧ t.chan.ctl.added = s.chan.ctl.added
    ∧ (t.chan.ctl.pc = .parked ∨ t.chan.ctl.pc = .returned)
  := by
  induction elapsed generalizing s with
  | nil =>
      use [], [], s, rfl, Nat.zero_le _, rfl, rfl, rfl, rfl
      by_contra hnot
      rw [not_or] at hnot
      obtain ⟨t, ht⟩ := exists_next hstarted hnot.1 hnot.2 type 0
      obtain ⟨-, -, -, -, hlt⟩ := next_work ht
      simp only [List.length_nil, Nat.le_zero] at hlength
      omega
  | cons e es ih =>
      by_cases hdone : s.chan.ctl.pc = .parked ∨ s.chan.ctl.pc = .returned
      · use [], e :: es, s, rfl, Nat.zero_le _, rfl, rfl, rfl, rfl
      · rw [not_or] at hdone
        obtain ⟨u, hu⟩ := exists_next hstarted hdone.1 hdone.2 type e
        obtain ⟨hcloser, hdropped, hadded, hstarted', hlt⟩ := next_work hu
        rw [List.length_cons] at hlength
        obtain ⟨read, rest, t, rfl, hread, hrun, hcloser', hdropped', hadded', hpc⟩ :=
          ih hstarted' (by omega)
        use e :: read, rest, t, rfl
        refine ⟨?_, ?_, hcloser'.trans hcloser, hdropped'.trans hdropped, hadded'.trans hadded, hpc⟩
        · rw [List.length_cons]
          omega
        · rw [works, List.map_cons, run_cons, hu]
          apply hrun

end WorkerRun

end DoorSwitchSvr
