import DoorSwitchSvr.ChannelController
import Mathlib.Algebra.Group.Int.Defs

/-!
# The wait for a task

`run` computes how long to wait for a task, `realWait`, in 32 bits: the milliseconds since
the creation of the task are a 64-bit quotient narrowed to an `int`, which is subtracted
from `m_closeAfterMs`, any `int` that a request carries.

When time is left there is no wrapping, and the wait is exact (`toInt_realWait_of_left`).
When the task is overdue the wait is to be non-positive, so that the task is discarded.  It
is unless the milliseconds by which the task is overdue exceed `2 ^ 31` modulo `2 ^ 32`
(`exactWait_iff`).
-/

namespace DoorSwitchSvr

namespace DoorSwitchOpenNotification

open DoorSwitchChannelController

/-- The milliseconds left for the task, as an integer, where `elapsed` is the reading of its
stopwatch in microseconds. -/
def timeLeft (task : DoorSwitchOpenNotification) (elapsed : Int64) : Int :=
  task.m_closeAfterMs.toInt - elapsed.toInt / MICRO2MS.toInt

/-- The wait for the task is the time left when either is positive, and not positive when no
time is left; and a worker waits for the task only when time is left, and no longer than
`m_closeAfterMs`. -/
structure ExactWait (task : DoorSwitchOpenNotification) (elapsed : Int64) : Prop where
  eq_of_pos : 0 < task.realWait elapsed → (task.realWait elapsed).toInt = task.timeLeft elapsed
  eq_of_left : 0 < task.timeLeft elapsed → (task.realWait elapsed).toInt = task.timeLeft elapsed
  not_pos : task.timeLeft elapsed ≤ 0 → task.realWait elapsed ≤ 0
  sleeps : ∀ (type : SWITCH_TYPE) (c c' : DoorSwitchChannelController)
    (cmd : Option DoorCommand) (realWait : PositiveWait),
    RunStep type elapsed c c' cmd → c.pc = .gotTask task →
      c'.pc = .sendOpen realWait ∨ c'.pc = .sleeping realWait →
        0 < task.timeLeft elapsed ∧ realWait.val ≤ task.m_closeAfterMs

/-- Time is left for the task, or the milliseconds by which it is overdue are at most
`2 ^ 31` modulo `2 ^ 32`. -/
def OverdueInRange (task : DoorSwitchOpenNotification) (elapsed : Int64) : Prop :=
  0 < task.timeLeft elapsed ∨ - task.timeLeft elapsed % 2 ^ 32 ≤ 2 ^ 31

instance (task : DoorSwitchOpenNotification) (elapsed : Int64) :
    Decidable (task.OverdueInRange elapsed) :=
  inferInstanceAs (Decidable (_ ∨ _))

/-! ### The value of the wait -/

variable {task : DoorSwitchOpenNotification} {elapsed : Int64}

theorem toInt_getElapsed (task : DoorSwitchOpenNotification) (h : 0 ≤ elapsed) :
  (task.getElapsed elapsed).toInt = (elapsed.toInt / MICRO2MS.toInt).bmod (2 ^ 32)
  := by
  have hnonneg : 0 ≤ elapsed.toInt := Int64.le_iff_toInt_le.mp h
  rw [getElapsed, Int64.toInt_toInt32, Int64.toInt_div_of_ne_right _ _ (by decide),
    Int32.toInt_toInt64, Int.tdiv_eq_ediv_of_nonneg hnonneg]

/-- The wait is the time left, wrapped to 32 bits. -/
theorem toInt_realWait (task : DoorSwitchOpenNotification) (h : 0 ≤ elapsed) :
  (task.realWait elapsed).toInt = (task.timeLeft elapsed).bmod (2 ^ 32)
  := by
  rw [realWait, Int32.toInt_sub, toInt_getElapsed task h, Int.sub_bmod_bmod]
  rfl

theorem timeLeft_le (task : DoorSwitchOpenNotification) (h : 0 ≤ elapsed) :
  task.timeLeft elapsed ≤ task.m_closeAfterMs.toInt
  := by
  have hnonneg : 0 ≤ elapsed.toInt := Int64.le_iff_toInt_le.mp h
  have hquot : 0 ≤ elapsed.toInt / MICRO2MS.toInt :=
    Int.ediv_nonneg hnonneg (by decide)
  rw [timeLeft]
  omega

/-- A time left that fits into 32 bits is not wrapped. -/
theorem toInt_realWait_of_le (task : DoorSwitchOpenNotification) (h : 0 ≤ elapsed)
    (hle : - 2 ^ 31 ≤ task.timeLeft elapsed) :
  (task.realWait elapsed).toInt = task.timeLeft elapsed
  := by
  have hlt := task.m_closeAfterMs.toInt_lt
  have hleft := timeLeft_le task h
  rw [toInt_realWait task h]
  apply Int.bmod_eq_of_le <;> omega

theorem toInt_realWait_of_left (task : DoorSwitchOpenNotification) (h : 0 ≤ elapsed)
    (hleft : 0 < task.timeLeft elapsed) :
  (task.realWait elapsed).toInt = task.timeLeft elapsed
  := by
  apply toInt_realWait_of_le task h
  omega

theorem realWait_pos_iff (task : DoorSwitchOpenNotification) (elapsed : Int64) :
  0 < task.realWait elapsed ↔ 0 < (task.realWait elapsed).toInt
  := Int32.lt_iff_toInt_lt

theorem realWait_le_zero_iff (task : DoorSwitchOpenNotification) (elapsed : Int64) :
  task.realWait elapsed ≤ 0 ↔ (task.realWait elapsed).toInt ≤ 0
  := Int32.le_iff_toInt_le

/-- An integer wraps to a positive one when its negation exceeds `2 ^ 31` modulo `2 ^ 32`. -/
theorem bmod_pos_iff (x : Int) :
  0 < x.bmod (2 ^ 32) ↔ 2 ^ 31 < - x % 2 ^ 32
  := by
  rw [Int.bmod_def]
  omega

/-! ### When the wait is exact -/

/-- A worker that is to wait for its task waits for `realWait`, which it has found to be
positive. -/
theorem wait_eq {type : SWITCH_TYPE} {c c' : DoorSwitchChannelController}
    {cmd : Option DoorCommand} {realWait : PositiveWait} (h : RunStep type elapsed c c' cmd)
    (hpc : c.pc = .gotTask task) (hpc' : c'.pc = .sendOpen realWait ∨ c'.pc = .sleeping realWait) :
  realWait.val = task.realWait elapsed
  := by
  cases h with
  | serve task' hgot hwait =>
      obtain rfl := Pc.gotTask.inj (hgot.symm.trans hpc)
      rcases hpc' with hpc' | hpc'
      · rw [← Pc.sendOpen.inj hpc']
      · cases hpc'
  | follow task' hgot hwait =>
      obtain rfl := Pc.gotTask.inj (hgot.symm.trans hpc)
      rcases hpc' with hpc' | hpc'
      · cases hpc'
      · rw [← Pc.sleeping.inj hpc']
  | sendOpen _ hsend => cases hsend.symm.trans hpc
  | _ => rcases hpc' with hpc' | hpc' <;> cases hpc'

/-- When an overdue task has a wait that is not positive, all that is wanted of the wait
holds. -/
theorem ExactWait.of_not_pos (h : 0 ≤ elapsed)
    (hoverdue : task.timeLeft elapsed ≤ 0 → task.realWait elapsed ≤ 0) :
  task.ExactWait elapsed
  := by
  have hleft : 0 < task.realWait elapsed → 0 < task.timeLeft elapsed := by
    intro hpos
    apply Int.lt_of_not_ge
    intro hle
    have hnot := (realWait_le_zero_iff task elapsed).mp (hoverdue hle)
    have hpos' := (realWait_pos_iff task elapsed).mp hpos
    omega
  constructor
  · intro hpos
    apply toInt_realWait_of_left task h (hleft hpos)
  · apply toInt_realWait_of_left task h
  · apply hoverdue
  · intro type c c' cmd realWait hstep hpc hpc'
    have hval := wait_eq hstep hpc hpc'
    have hpos := hleft (hval ▸ realWait.property)
    use hpos
    rw [hval, Int32.le_iff_toInt_le, toInt_realWait_of_left task h hpos]
    apply timeLeft_le task h

/-- For every task and every reading of its stopwatch, the wait is exact exactly when time
is left, or the milliseconds by which the task is overdue are at most `2 ^ 31` modulo
`2 ^ 32`. -/
theorem exactWait_iff (task : DoorSwitchOpenNotification) (h : 0 ≤ elapsed) :
  task.ExactWait elapsed ↔ task.OverdueInRange elapsed
  := by
  have hpos : ¬ task.realWait elapsed ≤ 0 ↔ 2 ^ 31 < - task.timeLeft elapsed % 2 ^ 32 := by
    rw [realWait_le_zero_iff, Int.not_le, toInt_realWait task h, bmod_pos_iff]
  constructor
  · intro hexact
    rw [OverdueInRange, or_iff_not_imp_left]
    intro hleft
    have hwait : task.realWait elapsed ≤ 0 := by
      apply hexact.not_pos
      omega
    apply Int.not_lt.mp
    intro hlt
    apply hpos.mpr hlt hwait
  · intro hrange
    apply ExactWait.of_not_pos h
    intro hle
    by_contra hnot
    have hlt := hpos.mp hnot
    rcases hrange with hleft | hrange <;> omega

/-- A task for a second, half a second after its creation. -/
theorem exactWait_iff_half :
  (⟨1000⟩ : DoorSwitchOpenNotification).ExactWait 500000
  := (exactWait_iff ⟨1000⟩ (by decide)).mpr (by decide)

/-- A task that was overdue by `2 ^ 31` milliseconds when it was created: a millisecond later
it is taken to have nearly `2 ^ 31` milliseconds left. -/
theorem overdue_waits :
  ¬ (⟨-2147483648⟩ : DoorSwitchOpenNotification).ExactWait 1000
  := by
  intro h
  have hnot := h.not_pos (by decide)
  revert hnot
  decide

end DoorSwitchOpenNotification

end DoorSwitchSvr
