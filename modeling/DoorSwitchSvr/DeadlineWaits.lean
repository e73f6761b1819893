import DoorSwitchSvr.Lib.Waits
import DoorSwitchSvr.ReplyStream

/-!
# The waits on the deadline of a reply

Every change of the deadline of a controller cancels the waits on it and starts a new one.
The handler of each wait is `check_read_ret_deadline`, which is not told whether its wait has
expired or was cancelled, and may run long after.

A deadline that is set is not lost: there is a wait on it, or a handler of a wait on it that
has expired is still to be run (`Sound.watched`), so that it can always be reported
(`Sound.reports`), and is no longer set once it has passed and nothing is left to be run
(`Sound.settled`).  Each report follows the setting of a deadline that has passed, with
nothing in between (`Sound.reported`), and so there is at most one for each setting
(`Sound.once`).
-/

namespace DoorSwitchSvr

open Transition

/-- What happens to the deadline. -/
inductive DeadlineEvent where
  | set (deadline : Int)
  | read
  | report (now : Int)
  deriving DecidableEq

/-- The event is a report. -/
def DeadlineEvent.isReport : DeadlineEvent → Bool
  | .report _ => true
  | .set _ | .read => false

/-- A controller, the waits on its deadline, the time, and the reads it has started that have
not completed.  `history` is what has happened to the deadline, the latest first. -/
structure DeadlineWaits where
  ctl : DoorSwitchChannelController
  waits : Waits Expiry
  now : Int
  reads : ℕ
  history : List DeadlineEvent
  deriving DecidableEq

namespace DeadlineWaits

/-- The controller with its deadline changed, and a wait started on it. -/
def rearm (s : DeadlineWaits) (ctl : DoorSwitchChannelController) (events : List DeadlineEvent) :
    DeadlineWaits :=
  { s with
    ctl := ctl
    waits := s.waits.cancel.asyncWait ctl.m_write_ret_deadline_timer
    history := events ++ s.history }

def set_read_ret_deadline (s : DeadlineWaits) : DeadlineWaits :=
  { s.rearm (s.ctl.set_read_ret_deadline s.now) [.set (s.now + 30 * 1000)] with
    reads := s.reads + 1 }

/-- `sendData`, when it has written its data. -/
def sendData (s : DeadlineWaits) : DeadlineWaits :=
  if s.ctl.m_write_ret_deadline_timer = .pos_infin then s.set_read_ret_deadline else s

def handle_read_ret (s : DeadlineWaits) (ec : Bool) (read_size : ℕ) : DeadlineWaits :=
  s.rearm (s.ctl.handle_read_ret ec read_size).1 [.read]

/-- `check_read_ret_deadline`, which reports the error through the callback, if it is set. -/
def check_read_ret_deadline (s : DeadlineWaits) : DeadlineWaits :=
  if s.ctl.m_write_ret_deadline_timer.passed s.now then
    let (ctl, cb) := s.ctl.check_read_ret_deadline s.now
    s.rearm ctl (if cb.isSome then [.report s.now] else [])
  else s

/-- What happens next.

* `sendData`: the worker sends data.
* `readDone`: a read completes, and its handler is run.
* `advance`: `n` milliseconds go by.
* `expire`: a live wait ends, since its expiry has passed.
* `deliver`: the handler of a wait is run. -/
inductive Action where
  | sendData
  | readDone (ec : Bool) (read_size : ℕ)
  | advance (n : ℕ)
  | expire (i : ℕ)
  | deliver (i : ℕ)
  deriving DecidableEq

/-- The state after an action. -/
def next (s : DeadlineWaits) : Action → Option DeadlineWaits
  | .sendData => some s.sendData
  | .readDone ec read_size =>
      if 0 < s.reads then some ({ s with reads := s.reads - 1 }.handle_read_ret ec read_size)
      else none
  | .advance n => some { s with now := s.now + n }
  | .expire i =>
      (s.waits.expire (Expiry.passed s.now) i).map (fun waits => { s with waits := waits })
  | .deliver i =>
      (s.waits.deliver i).map (fun waits => { s with waits := waits }.check_read_ret_deadline)

/-- After `Init`. -/
def initial (channel : UInt16) (now : Int) : DeadlineWaits :=
  { ctl := {}, waits := .empty, now := now, reads := 0, history := [] : DeadlineWaits }.rearm
    (DoorSwitchChannelController.Init {} channel .handleRWError).1 []

/-- The deadline is neither lost nor reported twice.

* A finite deadline has a live wait on it, or the handler of a wait on it that has expired is
  still to be run.
* A finite deadline can be reported, at it or after it, before anything else happens to it.
* When no live wait is to expire and no handler is to be run, the deadline has not passed.
* A report comes after a deadline that has been set and has passed, with neither a read nor a
  report in between.
* After the setting of a deadline and before the next one there is at most one report. -/
structure Sound (s : DeadlineWaits) : Prop where
  watched : ∀ t, s.ctl.m_write_ret_deadline_timer = .moment t →
    Expiry.moment t ∈ s.waits.live ∨ (.moment t, true) ∈ s.waits.queued ∧ t ≤ s.now
  reports : ∀ t, s.ctl.m_write_ret_deadline_timer = .moment t →
    ∃ as u, run next s as = some u ∧ t ≤ u.now ∧ u.history = .report u.now :: s.history
  settled : (∀ e ∈ s.waits.live, ¬ e.passed s.now) → s.waits.queued = [] →
    ¬ s.ctl.m_write_ret_deadline_timer.passed s.now
  reported : ∀ newer older now, s.history = newer ++ .report now :: older →
    ∃ t rest, older = .set t :: rest ∧ t ≤ now
  once : ∀ newer older t, s.history = newer ++ .set t :: older →
    (∀ t', .set t' ∉ newer) → newer.countP DeadlineEvent.isReport ≤ 1

/-! ### The invariant -/

/-- Each report in the history directly follows the setting of a deadline that has passed. -/
def Reported : List DeadlineEvent → Prop
  | [] => True
  | .report now :: older => (∃ t rest, older = .set t :: rest ∧ t ≤ now) ∧ Reported older
  | .set _ :: older | .read :: older => Reported older

theorem Reported.of_cons {event : DeadlineEvent} {older : List DeadlineEvent}
    (h : Reported (event :: older)) :
  Reported older
  := by
  cases event with
  | set t => exact h
  | read => exact h
  | report now => exact h.2

theorem Reported.exists_set {newer older : List DeadlineEvent} {now : Int}
    (h : Reported (newer ++ .report now :: older)) :
  ∃ t rest, older = .set t :: rest ∧ t ≤ now
  := by
  induction newer with
  | nil => apply h.1
  | cons event newer ih => apply ih h.of_cons

/-- Without a setting in between there is at most one report, and nothing between it and the
setting of its deadline. -/
theorem Reported.countP_le {newer older : List DeadlineEvent} {t : Int}
    (h : Reported (newer ++ .set t :: older)) (hno : ∀ t', .set t' ∉ newer) :
  newer.countP DeadlineEvent.isReport ≤ 1
  := by
  induction newer with
  | nil => apply Nat.zero_le
  | cons event newer ih =>
      cases event with
      | set t' => apply absurd List.mem_cons_self (hno t')
      | read =>
          rw [List.countP_cons_of_neg (by decide)]
          apply ih h.of_cons
          intro t' ht'
          apply hno t' (List.mem_cons_of_mem _ ht')
      | report now =>
          obtain ⟨t', rest, hset, -⟩ := h.1
          cases newer with
          | nil => exact le_rfl
          | cons event newer =>
              obtain ⟨rfl, -⟩ := List.cons.inj hset
              apply absurd _ (hno t')
              simp

/-- There is a wait on the deadline or an expired one to be handled; a finite deadline is what
has been set last, with no event since; and each report is right. -/
structure Inv (s : DeadlineWaits) : Prop where
  callback : s.ctl.m_handleRWErrorCbFunc = some .handleRWError
  watched : s.waits.Watched s.ctl.m_write_ret_deadline_timer
  expired : s.waits.Expired (Expiry.passed s.now)
  set : ∀ t, s.ctl.m_write_ret_deadline_timer = .moment t → ∃ rest, s.history = .set t :: rest
  reported : Reported s.history

/-- Changing the deadline leaves a wait on the new one. -/
theorem Inv.rearm {s : DeadlineWaits} {ctl : DoorSwitchChannelController}
    {events : List DeadlineEvent} (hexpired : s.waits.Expired (Expiry.passed s.now))
    (hcallback : ctl.m_handleRWErrorCbFunc = some .handleRWError)
    (hset : ∀ t, ctl.m_write_ret_deadline_timer = .moment t →
      ∃ rest, events ++ s.history = .set t :: rest)
    (hreported : Reported (events ++ s.history)) :
  Inv (s.rearm ctl events)
  := ⟨hcallback, s.waits.watched_rearm _, hexpired.rearm _, hset, hreported⟩

/-- The deadline is reported when it has passed. -/
theorem check_of_passed {s : DeadlineWaits}
    (hcallback : s.ctl.m_handleRWErrorCbFunc = some .handleRWError)
    (hpassed : s.ctl.m_write_ret_deadline_timer.passed s.now = true) :
  s.check_read_ret_deadline
    = s.rearm { s.ctl with m_write_ret_deadline_timer := .pos_infin } [.report s.now]
  := by
  have hreports : s.ctl.m_handleRWErrorCbFunc.isSome = true := by
    rw [hcallback]
    rfl
  rw [check_read_ret_deadline, if_pos hpassed,
    DoorSwitchChannelController.check_read_ret_deadline, if_pos hpassed]
  simp only [hreports, if_true]

theorem check_of_not_passed {s : DeadlineWaits}
    (hpassed : s.ctl.m_write_ret_deadline_timer.passed s.now ≠ true) :
  s.check_read_ret_deadline = s
  := by
  rw [check_read_ret_deadline, if_neg hpassed]

theorem Inv.initial (channel : UInt16) (now : Int) :
  Inv (initial channel now)
  := by
  apply Inv.rearm
  · intro e he
    cases he
  · rfl
  · intro t ht
    cases ht
  · trivial

theorem Inv.sendData {s : DeadlineWaits} (h : Inv s) :
  Inv s.sendData
  := by
  rw [DeadlineWaits.sendData]
  split_ifs
  · have hrearm : Inv (s.rearm (s.ctl.set_read_ret_deadline s.now)
        [.set (s.now + 30 * 1000)]) := by
      apply Inv.rearm h.expired
      · exact h.callback
      · intro t ht
        obtain rfl := Expiry.moment.inj ht
        exact ⟨_, rfl⟩
      · apply h.reported
    exact ⟨hrearm.callback, hrearm.watched, hrearm.expired, hrearm.set, hrearm.reported⟩
  · apply h

theorem Inv.handle_read_ret {s : DeadlineWaits} (h : Inv s) (ec : Bool) (read_size : ℕ) :
  Inv (s.handle_read_ret ec read_size)
  := by
  apply Inv.rearm h.expired
  · exact h.callback
  · intro t ht
    cases ht
  · apply h.reported

/-- The handler of a wait reports the deadline if it has passed, and otherwise the wait on it
is left. -/
theorem Inv.deliver {s : DeadlineWaits} (h : Inv s) {i : ℕ} {waits : Waits Expiry}
    (hdeliver : s.waits.deliver i = some waits) :
  Inv ({ s with waits := waits }.check_read_ret_deadline)
  := by
  by_cases hpassed : s.ctl.m_write_ret_deadline_timer.passed s.now = true
  · rw [check_of_passed (by exact h.callback) (by exact hpassed)]
    obtain ⟨t, ht, hle⟩ := Expiry.exists_moment_of_passed hpassed
    obtain ⟨rest, hrest⟩ := h.set t ht
    apply Inv.rearm
    · exact h.expired.deliver hdeliver
    · exact h.callback
    · intro t ht
      cases ht
    · exact ⟨⟨t, rest, hrest, hle⟩, h.reported⟩
  · rw [check_of_not_passed (by exact hpassed)]
    constructor
    · apply h.callback
    · apply (h.watched.deliver h.expired hdeliver).resolve_right hpassed
    · apply h.expired.deliver hdeliver
    · apply h.set
    · apply h.reported

theorem Inv.step {s t : DeadlineWaits} (h : Inv s) :
    ∀ {a : Action}, next s a = some t → Inv t
  | .sendData, hnext => by
      obtain rfl := Option.some.inj hnext
      apply h.sendData
  | .readDone ec read_size, hnext => by
      rw [next] at hnext
      split_ifs at hnext
      obtain rfl := Option.some.inj hnext
      apply Inv.handle_read_ret
      exact ⟨h.callback, h.watched, h.expired, h.set, h.reported⟩
  | .advance n, hnext => by
      obtain rfl := Option.some.inj hnext
      constructor
      · apply h.callback
      · apply h.watched
      · intro e he
        obtain ⟨t, rfl, hle⟩ := Expiry.exists_moment_of_passed (h.expired e he)
        apply decide_eq_true
        simp only
        omega
      · apply h.set
      · apply h.reported
  | .expire i, hnext => by
      obtain ⟨waits, hexpire, rfl⟩ := Option.map_eq_some_iff.mp hnext
      exact ⟨h.callback, h.watched.expire hexpire, h.expired.expire hexpire, h.set, h.reported⟩
  | .deliver i, hnext => by
      obtain ⟨waits, hdeliver, rfl⟩ := Option.map_eq_some_iff.mp hnext
      apply h.deliver hdeliver

/-! ### Runs -/

/-- When the deadline has passed the next handler that is run reports it. -/
theorem Inv.exists_deliver {s : DeadlineWaits} (h : Inv s)
    (hpassed : s.ctl.m_write_ret_deadline_timer.passed s.now = true) {i : ℕ}
    {waits : Waits Expiry} (hdeliver : s.waits.deliver i = some waits) :
  ∃ u, next s (.deliver i) = some u ∧ u.now = s.now ∧ u.history = .report s.now :: s.history
  := by
  have hcheck := check_of_passed (s := { s with waits := waits }) h.callback hpassed
  have hnext : next s (.deliver i)
      = some { s with waits := waits }.check_read_ret_deadline := by
    rw [next, hdeliver]
    rfl
  exact ⟨_, hnext.trans (congrArg some hcheck), rfl, rfl⟩

/-- A deadline is reported when it has passed, its wait has expired, and a handler is run. -/
theorem Inv.exists_report {s : DeadlineWaits} (h : Inv s) {t : Int}
    (ht : s.ctl.m_write_ret_deadline_timer = .moment t) :
  ∃ as u, run next s as = some u ∧ t ≤ u.now ∧ u.history = .report u.now :: s.history
  := by
  have hle : t ≤ s.now + (t - s.now).toNat := by omega
  have hadvance : next s (.advance (t - s.now).toNat)
      = some { s with now := s.now + (t - s.now).toNat } := rfl
  have hinv := h.step hadvance
  have hpassed : s.ctl.m_write_ret_deadline_timer.passed (s.now + (t - s.now).toNat) = true := by
    rw [ht]
    apply decide_eq_true hle
  rcases hinv.watched.exists_deliver hpassed with ⟨i, waits, hdeliver⟩
    | ⟨j, waits', hexpire, i, waits, hdeliver⟩
  · obtain ⟨u, hu, hnow, hhistory⟩ := hinv.exists_deliver hpassed hdeliver
    use [.advance (t - s.now).toNat, .deliver i], u
    refine ⟨run_cons_eq_some.mpr ⟨_, hadvance, (run_singleton _ _ _).trans hu⟩, ?_, ?_⟩
    · rw [hnow]
      apply hle
    · rw [hnow]
      apply hhistory
  · have hexpires : next { s with now := s.now + (t - s.now).toNat } (.expire j)
        = some { s with now := s.now + (t - s.now).toNat, waits := waits' } := by
      rw [next, hexpire]
      rfl
    obtain ⟨u, hu, hnow, hhistory⟩ := (hinv.step hexpires).exists_deliver hpassed hdeliver
    use [.advance (t - s.now).toNat, .expire j, .deliver i], u
    refine ⟨run_cons_eq_some.mpr ⟨_, hadvance, run_cons_eq_some.mpr ⟨_, hexpires,
      (run_singleton _ _ _).trans hu⟩⟩, ?_, ?_⟩
    · rw [hnow]
      apply hle
    · rw [hnow]
      apply hhistory

theorem Inv.sound {s : DeadlineWaits} (h : Inv s) :
  s.Sound
  := by
  constructor
  · intro t ht
    have hwatched := h.watched
    rw [ht] at hwatched
    apply hwatched.imp_right
    intro hqueued
    use hqueued
    apply of_decide_eq_true (h.expired _ hqueued)
  · intro t ht
    apply h.exists_report ht
  · intro hlive hqueued
    apply h.watched.of_settled hlive hqueued
  · intro newer older now hhistory
    have hreported := h.reported
    rw [hhistory] at hreported
    apply hreported.exists_set
  · intro newer older t hhistory hno
    have hreported := h.reported
    rw [hhistory] at hreported
    apply hreported.countP_le hno

/-- In every reachable state the deadline is neither lost nor reported twice. -/
theorem sound_of_run (channel : UInt16) (now : Int) (as : List Action) {t : DeadlineWaits}
    (hrun : run next (initial channel now) as = some t) :
  t.Sound
  := by
  have h : Inv t :=
    run_invariant_of_step (fun _ _ _ hs hnext => Inv.step hs hnext) (Inv.initial channel now) hrun
  apply h.sound

/-- A frame is sent and answered, and another one is sent and not answered.  When its deadline
has passed the handler of the wait for the first frame is run, which was cancelled, and then
the handler of the wait for the second one, which the first handler has cancelled. -/
def runsCancelled : List Action :=
  [.sendData, .readDone false 3, .sendData, .advance 30000, .deliver 1, .deliver 2]

/-- The deadline of the second frame is reported once. -/
theorem sound_of_run_cancelled :
  ∃ t, run next (initial 1 0) runsCancelled = some t
    ∧ t.history = [.report 30000, .set 30000, .read, .set 30000] ∧ t.Sound
  := by
  refine ⟨_, rfl, rfl, ?_⟩
  exact sound_of_run 1 0 runsCancelled rfl

end DeadlineWaits

end DoorSwitchSvr
