import DoorSwitchSvr.Backoff
import Mathlib.Data.List.Basic

/-!
# The times of the attempts to connect

The functions of a connection called one at a time, as in `SerialReconnect`, on a clock of
integer milliseconds.  An attempt to connect may take any time, in which errors may be
reported.

The timer ticks first `RECONN_START_INTERVAL` milliseconds after its start, and then each
time the period that the last tick has set is over.  Ticks that fall due during an attempt
are skipped.  A tick may come up to `latency` milliseconds late.

From any moment of an outage at which no attempt is under way, the next one begins within
`RECONN_MAX_PERIOD_INTERVAL` seconds, and within less than four seconds more than the outage
has lasted, however many errors are reported meanwhile; so an outage ends that long after
its cause, and the time that an attempt takes, when the attempts succeed from then on
(`Schedule.reconnects`).  For this the pool must have had a thread for the timer at each of
its starts (`Schedule.FindsThread`): a start that throws leaves the handler without a
connection for ever (`Schedule.down_of_thrown`).

The invariant is `OnSchedule`: what has gone by when the next tick is due pays for the
period after it.
-/

namespace DoorSwitchSvr

open Transition

/-! ### Periods in milliseconds -/

/-- The period of the timer, in milliseconds, after `k` failed ticks. -/
def periodMs (k : ℕ) : Int := (periodAfter k * S2MS).toInt

theorem periodMs_eq (k : ℕ) :
  periodMs k = (periodAfter k).toInt * 1000
  := (toInt_periodAfter_mul k).2

theorem periodMs_bounds (k : ℕ) :
  2000 ≤ periodMs k ∧ periodMs k ≤ 256000
  := by
  have hbounds := periodAfter_bounds k
  rw [periodMs_eq]
  omega

/-- One more failed tick makes the period at most twice as long. -/
theorem periodMs_succ_le (k : ℕ) :
  periodMs (k + 1) ≤ 2 * periodMs k
  := by
  have hmax : RECONN_MAX_PERIOD_INTERVAL.toInt = 256 := rfl
  have hpow : (2 : Int) ^ (k + 1 + 1) = 2 ^ (k + 1) * 2 := pow_succ 2 (k + 1)
  rw [periodMs_eq, periodMs_eq, toInt_periodAfter, toInt_periodAfter, hpow, hmax]
  omega

/-! ### Ticks that are skipped -/

/-- The next time after `due`, in steps of `period`, that is not before `now`. -/
def nextDue (due now period : Int) : Int :=
  due + max 1 (-((due - now) / period)) * period

/-- A tick is skipped only when it is over, so the next one comes within a period. -/
theorem nextDue_bounds {due now period : Int} (hperiod : 0 < period) (hdue : due ≤ now) :
  due + period ≤ nextDue due now period
    ∧ now ≤ nextDue due now period
    ∧ nextDue due now period ≤ now + period
  := by
  have hdiv := Int.mul_ediv_add_emod (due - now) period
  have hmod := Int.emod_nonneg (due - now) (Int.ne_of_gt hperiod)
  have hmod' := Int.emod_lt_of_pos (due - now) hperiod
  have hcomm := Int.mul_comm period ((due - now) / period)
  rw [nextDue]
  rcases le_total (-((due - now) / period)) 1 with hle | hle
  · have hmul := Int.mul_le_mul_of_nonneg_right hle hperiod.le
    rw [Int.neg_mul] at hmul
    rw [max_eq_left hle]
    omega
  · have hmul := Int.mul_le_mul_of_nonneg_right hle hperiod.le
    rw [Int.neg_mul] at hmul
    rw [max_eq_right hle, Int.neg_mul]
    omega

/-! ### Calls on a clock -/

/-- The calls of `SerialReconnect` at the time `now`.  While the timer is armed, `due` is
the time of its next tick, or of the one that is in its attempt to connect.  `started` is a
history: the time at which it was started last. -/
structure Schedule where
  calls : SerialReconnect
  now : Int
  due : Int
  started : Int
  attempting : Bool := false
  deriving DecidableEq

namespace Schedule

/-- What happens next: an error is reported, where `free` says whether the pool has a free
thread for the timer; the timer ticks and begins an attempt to connect; the attempt ends with
the outcome `error`; or a millisecond goes by. -/
inductive Action where
  | handleRWError (free : Bool)
  | tick
  | ended (error : Bool)
  | wait
  deriving DecidableEq

/-- After the one call of `connect`, at the time `start`. -/
def initial (start : Int) (error free : Bool) : Schedule where
  calls := ⟨(({} : Connection).connect error free).1, 0⟩
  now := start
  due := start + RECONN_START_INTERVAL.toInt
  started := start

/-- An error is reported: when it starts the timer, the first tick is due after
`RECONN_START_INTERVAL`. -/
def report (s : Schedule) (free : Bool) : Schedule :=
  let conn := (s.calls.conn.handleRWError free).1
  if s.calls.conn.m_isTimerOn then { s with calls.conn := conn }
  else { s with
    calls := ⟨conn, 0⟩
    due := s.now + RECONN_START_INTERVAL.toInt
    started := s.now }

/-- The end of an attempt: the next tick is due when the period it has set is over. -/
def finish (s : Schedule) (calls : SerialReconnect) : Schedule where
  calls := calls
  now := s.now
  due := nextDue s.due s.now calls.conn.m_reconnTimer.periodicInterval.toInt
  started := s.started

/-- The next state.  A tick comes when it is due, or up to `latency` milliseconds later. -/
def next (latency : ℕ) (s : Schedule) : Action → Option Schedule
  | .handleRWError free => some (s.report free)
  | .tick =>
      if s.attempting = false ∧ s.calls.Armed ∧ s.due ≤ s.now then
        some { s with attempting := true }
      else none
  | .ended error =>
      if s.attempting then (SerialReconnect.next s.calls (.tick error)).map s.finish else none
  | .wait =>
      if s.attempting = false ∧ s.calls.Armed ∧ s.due + latency ≤ s.now then none
      else some { s with now := s.now + 1 }

/-- A report that starts the timer finds a free thread for it. -/
def FindsThread (s : Schedule) : Action → Prop
  | .handleRWError free => s.calls.conn.m_isTimerOn = false → free = true
  | .tick | .ended _ | .wait => True

instance (s : Schedule) : (a : Action) → Decidable (FindsThread s a)
  | .handleRWError _ => inferInstanceAs (Decidable (_ → _))
  | .tick | .ended _ | .wait => isTrue trivial

/-- The latest time at which the next attempt is due: at most the longest period from now,
and at most four seconds less `RECONN_START_INTERVAL` more than the outage has lasted. -/
def latestDue (s : Schedule) : Int :=
  s.now + min 256000 (s.now - s.started + 3744)

/-! ### The invariant -/

/-- During an outage: the next tick is due within the period, and what has gone by until it
is due pays for the period after it. -/
structure Outage (latency : ℕ) (s : Schedule) : Prop where
  now_le : s.attempting = false → s.now ≤ s.due + latency
  begun : s.attempting = true → s.due ≤ s.now
  due_le : s.due ≤ s.now + periodMs s.calls.failedTicks
  due_le_elapsed : s.due ≤ s.now + (s.now - s.started + 3744)
  period_le : s.started + periodMs (s.calls.failedTicks + 1) ≤ s.due + 3744

/-- The calls are in one of their phases, while the timer is armed its next tick is on
schedule, and only a timer that is armed makes attempts. -/
structure OnSchedule (latency : ℕ) (s : Schedule) : Prop where
  phase : s.calls.Phase
  outage : s.calls.Armed → s.Outage latency
  armed : s.attempting = true → s.calls.Armed

variable {latency : ℕ}

theorem Outage.due_le_latestDue {s : Schedule} (h : s.Outage latency) :
  s.due ≤ s.latestDue
  := by
  have hlongest := (periodMs_bounds s.calls.failedTicks).2
  have hdue := h.due_le
  have helapsed := h.due_le_elapsed
  rw [latestDue]
  omega

/-- The start of the timer. -/
theorem Outage.of_started {s : Schedule} (hidle : s.attempting = false)
    (hfailed : s.calls.failedTicks = 0) (hdue : s.due = s.now + RECONN_START_INTERVAL.toInt)
    (hstarted : s.started = s.now) :
  s.Outage latency
  := by
  have hinterval : RECONN_START_INTERVAL.toInt = 256 := rfl
  have hfirst : periodMs 0 = 2000 := rfl
  have hsecond : periodMs 1 = 4000 := rfl
  constructor
  · intro _
    omega
  · rw [hidle]
    apply Bool.noConfusion
  · rw [hfailed, hfirst]
    omega
  · omega
  · rw [hfailed, hstarted, hsecond]
    omega

theorem OnSchedule.initial (start : Int) {error free : Bool} (hfree : error = true → free = true) :
  (initial start error free).OnSchedule latency
  := by
  have hcalls : (Schedule.initial start error free).calls = SerialReconnect.initial error := by
    cases error with
    | false => rfl
    | true =>
        rw [hfree rfl]
        rfl
  constructor
  · rw [hcalls]
    apply SerialReconnect.Phase.initial
  · intro _
    apply Outage.of_started rfl rfl rfl rfl
  · apply Bool.noConfusion

/-- A report of an error during an outage changes nothing, on the clock neither. -/
theorem report_eq_self {s : Schedule} (h : s.calls.Phase) (harmed : s.calls.Armed) (free : Bool) :
  s.report free = s
  := by
  have hon := h.backoff.armed_iff.mp harmed
  have hconnected := h.backoff.connected_eq
  rw [hon] at hconnected
  have hsame : (s.calls.conn.handleRWError free).1 = s.calls.conn := by
    rw [Connection.handleRWError, if_neg (by simp [hon])]
    simp only
    rw [← Bool.not_true, ← hconnected]
  rw [report, if_pos hon, hsame]

/-- A report that finds a free thread for the timer is one of `SerialReconnect`. -/
theorem next_of_report {s : Schedule} {free : Bool} (hfinds : FindsThread s (.handleRWError free)) :
  SerialReconnect.next s.calls .handleRWError = some (s.report free).calls
  := by
  rw [SerialReconnect.next, report]
  cases hon : s.calls.conn.m_isTimerOn with
  | false =>
      obtain rfl := hfinds hon
      rfl
  | true => simp [Connection.handleRWError, hon]

theorem OnSchedule.report {s : Schedule} (h : s.OnSchedule latency) {free : Bool}
    (hfinds : FindsThread s (.handleRWError free)) :
  (s.report free).OnSchedule latency
  := by
  by_cases harmed : s.calls.Armed
  · rw [report_eq_self h.phase harmed]
    apply h
  · have hoff : ¬ s.calls.conn.m_isTimerOn = true := by
      rw [← h.phase.backoff.armed_iff]
      apply harmed
    have hidle : s.attempting = false := by
      rw [← Bool.not_eq_true]
      exact fun hattempting => harmed (h.armed hattempting)
    have hphase := (h.phase.handleRWError (next_of_report hfinds)).1
    rw [Schedule.report, if_neg hoff] at hphase ⊢
    constructor
    · apply hphase
    · intro _
      exact Outage.of_started hidle rfl rfl rfl
    · rw [hidle]
      apply Bool.noConfusion

/-- A tick whose attempt succeeds connects and ends the timer. -/
theorem connected_of_ended {c d : SerialReconnect} (h : c.Phase)
    (hnext : SerialReconnect.next c (.tick false) = some d) :
  d.conn.m_isConnected = true ∧ ¬ d.Armed
  := (h.step hnext).2.connects rfl

/-- The period that a failed tick has set. -/
theorem periodicInterval_of_phase {c : SerialReconnect} (h : c.Phase) (harmed : c.Armed) :
  c.conn.m_reconnTimer.periodicInterval.toInt = periodMs c.failedTicks
  := by
  cases h with
  | connected hconn hoff htimer hinterval => apply absurd harmed htimer
  | outage hconn hon hsocket htimer hinterval =>
      rw [htimer]
      rfl

theorem OnSchedule.finish {s : Schedule} {calls : SerialReconnect} {error : Bool}
    (h : s.OnSchedule latency) (hattempting : s.attempting = true)
    (hnext : SerialReconnect.next s.calls (.tick error) = some calls) :
  (s.finish calls).OnSchedule latency
  := by
  obtain ⟨hphase, hpaced⟩ := h.phase.step hnext
  constructor
  · apply hphase
  · intro harmed
    cases error with
    | false => apply absurd harmed (hpaced.connects rfl).2
    | true =>
        obtain ⟨-, hbegun, -, -, hpaid⟩ := h.outage (h.armed hattempting)
        have hfailed := (hpaced.fails rfl).2
        have hperiod := periodicInterval_of_phase hphase harmed
        have hlong := (periodMs_bounds (s.calls.failedTicks + 1)).1
        have hdouble := periodMs_succ_le (s.calls.failedTicks + 1)
        have hpos : 0 < periodMs (s.calls.failedTicks + 1) := by omega
        have hend := hbegun hattempting
        obtain ⟨hnot_early, hnow, hwithin⟩ := nextDue_bounds hpos hend
        rw [hfailed] at hperiod
        constructor <;> simp only [Schedule.finish, hperiod, hfailed]
        · intro _
          omega
        · apply Bool.noConfusion
        · apply hwithin
        · omega
        · omega
  · apply Bool.noConfusion

theorem OnSchedule.wait {s : Schedule} (h : s.OnSchedule latency)
    (hnot : ¬ (s.attempting = false ∧ s.calls.Armed ∧ s.due + latency ≤ s.now)) :
  OnSchedule latency { s with now := s.now + 1 }
  := by
  constructor
  · apply h.phase
  · intro harmed
    obtain ⟨hnow, hbegun, hdue, helapsed, hpaid⟩ := h.outage harmed
    constructor <;> simp only
    · intro hidle
      have hlt : ¬ s.due + latency ≤ s.now := fun hle => hnot ⟨hidle, harmed, hle⟩
      omega
    · intro hattempting
      have hle := hbegun hattempting
      omega
    · omega
    · omega
    · apply hpaid
  · apply h.armed

theorem next_tick {s t : Schedule} (h : next latency s .tick = some t) :
  s.attempting = false ∧ s.calls.Armed ∧ s.due ≤ s.now ∧ t = { s with attempting := true }
  := by
  rw [next, Option.ite_none_right_eq_some] at h
  obtain ⟨⟨hidle, harmed, hdue⟩, h⟩ := h
  exact ⟨hidle, harmed, hdue, (Option.some.inj h).symm⟩

theorem next_ended {s t : Schedule} {error : Bool} (h : next latency s (.ended error) = some t) :
  s.attempting = true
    ∧ ∃ calls, SerialReconnect.next s.calls (.tick error) = some calls ∧ t = s.finish calls
  := by
  rw [next, Option.ite_none_right_eq_some, Option.map_eq_some_iff] at h
  obtain ⟨hattempting, calls, hcalls, rfl⟩ := h
  use hattempting, calls, hcalls

theorem next_wait {s t : Schedule} (h : next latency s .wait = some t) :
  ¬ (s.attempting = false ∧ s.calls.Armed ∧ s.due + latency ≤ s.now)
    ∧ t = { s with now := s.now + 1 }
  := by
  rw [next, Option.ite_none_left_eq_some] at h
  obtain ⟨hnot, h⟩ := h
  use hnot, (Option.some.inj h).symm

theorem OnSchedule.next {s t : Schedule} (h : s.OnSchedule latency) :
    ∀ {a : Action}, FindsThread s a → Schedule.next latency s a = some t → t.OnSchedule latency
  | .handleRWError _, hfinds, hnext => by
      obtain rfl := Option.some.inj hnext
      apply h.report hfinds
  | .tick, _, hnext => by
      obtain ⟨-, harmed, hdue, rfl⟩ := next_tick hnext
      obtain ⟨-, -, hperiod, helapsed, hpaid⟩ := h.outage harmed
      exact ⟨h.phase, fun _ => ⟨Bool.noConfusion, fun _ => hdue, hperiod, helapsed, hpaid⟩,
        fun _ => harmed⟩
  | .ended _, _, hnext => by
      obtain ⟨hattempting, calls, hcalls, rfl⟩ := next_ended hnext
      apply h.finish hattempting hcalls
  | .wait, _, hnext => by
      obtain ⟨hnot, rfl⟩ := next_wait hnext
      apply h.wait hnot

theorem onSchedule_of_run {start : Int} {error free : Bool} (hfree : error = true → free = true)
    {as : List Action} {s : Schedule}
    (hok : Meets (next latency) FindsThread (initial start error free) as)
    (hrun : run (next latency) (initial start error free) as = some s) :
  s.OnSchedule latency
  := run_invariant (fun _ _ _ h ha hnext => h.next ha hnext) (OnSchedule.initial start hfree)
    hok hrun

/-! ### The next attempt -/

theorem OnSchedule.armed_of_down {s : Schedule} (h : s.OnSchedule latency)
    (hdown : s.calls.conn.m_isConnected = false) :
  s.calls.Armed
  := by
  have hflags := h.phase.backoff.connected_eq
  rw [hdown] at hflags
  apply h.phase.backoff.armed_iff.mpr
  simpa using hflags

/-- Time goes by until the next tick is due. -/
theorem run_wait {s : Schedule} {n : ℕ} (hle : s.now + n ≤ s.due + latency) :
  run (next latency) s (List.replicate n .wait) = some { s with now := s.now + n }
  := by
  induction n generalizing s with
  | zero =>
      rw [Int.natCast_zero, Int.add_zero]
      rfl
  | succ n ih =>
      have hnot : ¬ (s.attempting = false ∧ s.calls.Armed ∧ s.due + latency ≤ s.now) := by
        rintro ⟨-, -, hge⟩
        omega
      have hle' : s.now + 1 + n ≤ s.due + latency := by omega
      have hnow : s.now + 1 + n = s.now + (n + 1 : ℕ) := by omega
      rw [List.replicate_succ, run_cons_eq_some]
      use { s with now := s.now + 1 }
      constructor
      · rw [next, if_neg hnot]
      · rw [ih hle', hnow]

/-- Any time goes by during an attempt. -/
theorem run_wait_attempting {s : Schedule} (hattempting : s.attempting = true) (n : ℕ) :
  run (next latency) s (List.replicate n .wait) = some { s with now := s.now + n }
  := by
  induction n generalizing s with
  | zero =>
      rw [Int.natCast_zero, Int.add_zero]
      rfl
  | succ n ih =>
      have hnot : ¬ (s.attempting = false ∧ s.calls.Armed ∧ s.due + latency ≤ s.now) := by
        rw [hattempting]
        rintro ⟨hidle, -⟩
        cases hidle
      have hnow : s.now + 1 + n = s.now + (n + 1 : ℕ) := by omega
      have hih := @ih { s with now := s.now + 1 } hattempting
      rw [List.replicate_succ, run_cons_eq_some]
      use { s with now := s.now + 1 }
      constructor
      · rw [next, if_neg hnot]
      · rw [hih, hnow]

/-- The next tick comes, and connects when its attempt succeeds, whatever time it takes. -/
theorem exists_connected {s : Schedule} (h : s.OnSchedule latency) (harmed : s.calls.Armed)
    (hidle : s.attempting = false) (ms : ℕ) :
  ∃ n v, run (next latency) s
      (List.replicate n .wait ++ .tick :: List.replicate ms .wait ++ [.ended false]) = some v
    ∧ v.calls.conn.m_isConnected = true
  := by
  have hnow := (h.outage harmed).now_le hidle
  let n := (s.due - s.now).toNat
  have hle : s.now + n ≤ s.due + latency := by omega
  have hdue : s.due ≤ s.now + n := by omega
  obtain ⟨calls, hcalls⟩ : ∃ calls, SerialReconnect.next s.calls (.tick false) = some calls := by
    rw [SerialReconnect.next, if_pos harmed]
    exact ⟨_, rfl⟩
  have htick : next latency { s with now := s.now + n } .tick
      = some { s with now := s.now + n, attempting := true } := by
    rw [next, if_pos ⟨hidle, harmed, hdue⟩]
  have hwait := @run_wait_attempting latency { s with now := s.now + n, attempting := true } rfl ms
  have hended : next latency { s with now := s.now + n + ms, attempting := true } (.ended false)
      = some (Schedule.finish { s with now := s.now + n + ms, attempting := true } calls) := by
    rw [next, if_pos rfl, hcalls]
    rfl
  use n, Schedule.finish { s with now := s.now + n + ms, attempting := true } calls
  constructor
  · rw [run_append, run_append, run_wait hle, Option.bind_some, run_cons, htick,
      Option.bind_some, hwait, Option.bind_some, run_singleton, hended]
  · apply (connected_of_ended h.phase hcalls).1

/-- Until the next attempt begins or ends, nothing changes but the clock. -/
theorem calls_of_next {s t : Schedule} {a : Action} (h : s.OnSchedule latency)
    (harmed : s.calls.Armed) (htick : a ≠ .tick) (hended : ∀ error, a ≠ .ended error)
    (hnext : next latency s a = some t) :
  t.calls = s.calls ∧ t.due = s.due ∧ t.attempting = s.attempting
  := by
  cases a with
  | handleRWError free =>
      obtain rfl := Option.some.inj hnext
      rw [report_eq_self h.phase harmed]
      exact ⟨rfl, rfl, rfl⟩
  | tick => apply absurd rfl htick
  | ended error => apply absurd rfl (hended error)
  | wait =>
      obtain ⟨-, rfl⟩ := next_wait hnext
      exact ⟨rfl, rfl, rfl⟩

/-- A report during an outage starts no timer. -/
theorem findsThread_of_armed {s : Schedule} (h : s.calls.Phase) (harmed : s.calls.Armed)
    (a : Action) :
  FindsThread s a
  := by
  cases a with
  | handleRWError free =>
      intro hoff
      cases (h.backoff.armed_iff.mp harmed).symm.trans hoff
  | tick | ended | wait => trivial

/-- The clock does not pass the time of the next tick before it has come. -/
theorem exists_tick_of_lt {s t : Schedule} {as : List Action} (h : s.OnSchedule latency)
    (harmed : s.calls.Armed) (hidle : s.attempting = false)
    (hrun : run (next latency) s as = some t) (hlt : s.due + latency < t.now) :
  ∃ as₁ as₂ u, as = as₁ ++ .tick :: as₂ ∧ run (next latency) s as₁ = some u
    ∧ u.now ≤ s.due + latency
  := by
  induction as generalizing s with
  | nil =>
      obtain rfl := Option.some.inj hrun
      have hnow := (h.outage harmed).now_le hidle
      omega
  | cons a as ih =>
      obtain ⟨u, hu, hrun⟩ := run_cons_eq_some.mp hrun
      by_cases htick : a = .tick
      · use [], as, s, by rw [htick]; rfl, rfl, (h.outage harmed).now_le hidle
      · have hended : ∀ error, a ≠ .ended error := by
          rintro error rfl
          cases hidle.symm.trans (next_ended hu).1
        obtain ⟨hcalls, hdue, hidle'⟩ := calls_of_next h harmed htick hended hu
        have hu' := h.next (findsThread_of_armed h.phase harmed a) hu
        rw [← hcalls] at harmed
        rw [← hdue] at hlt
        obtain ⟨as₁, as₂, v, rfl, hv, hle⟩ := ih hu' harmed (hidle'.trans hidle) hrun hlt
        rw [hdue] at hle
        use a :: as₁, as₂, v, rfl, run_cons_eq_some.mpr ⟨u, hu, hv⟩, hle

/-- The first attempt that ends connects the handler when it succeeds. -/
theorem connected_of_run {s t : Schedule} {as : List Action} (h : s.OnSchedule latency)
    (harmed : s.calls.Armed) (hfirst : ∀ error, .ended error ∉ as)
    (hrun : run (next latency) s (as ++ [.ended false]) = some t) :
  t.calls.conn.m_isConnected = true
  := by
  induction as generalizing s with
  | nil =>
      rw [List.nil_append, run_singleton] at hrun
      obtain ⟨-, calls, hcalls, rfl⟩ := next_ended hrun
      apply (connected_of_ended h.phase hcalls).1
  | cons a as ih =>
      obtain ⟨u, hu, hrun⟩ := run_cons_eq_some.mp hrun
      have hended : ∀ error, a ≠ .ended error :=
        fun error heq => hfirst error (heq ▸ List.mem_cons_self)
      have hcalls : u.calls = s.calls := by
        by_cases htick : a = .tick
        · subst htick
          obtain ⟨-, -, -, rfl⟩ := next_tick hu
          rfl
        · apply (calls_of_next h harmed htick hended hu).1
      apply ih (h.next (findsThread_of_armed h.phase harmed a) hu) (hcalls ▸ harmed) _ hrun
      exact fun error hmem => hfirst error (List.mem_cons_of_mem a hmem)

/-- The handler is without a connection, and its timer will not tick. -/
structure Stuck (s : Schedule) : Prop where
  down : s.calls.conn.m_isConnected = false
  on : s.calls.conn.m_isTimerOn = true
  not_armed : ¬ s.calls.Armed
  idle : s.attempting = false

/-- A report whose start of the timer throws leaves the handler stuck. -/
theorem stuck_of_report {s : Schedule} (h : s.OnSchedule latency)
    (hup : s.calls.conn.m_isConnected = true) :
  (s.report false).Stuck
  := by
  have hflags := h.phase.backoff.connected_eq
  rw [hup] at hflags
  have hoff : s.calls.conn.m_isTimerOn = false := by simpa using hflags
  have hnot : ¬ s.calls.Armed := by
    rw [h.phase.backoff.armed_iff, hoff]
    apply Bool.false_ne_true
  have hidle : s.attempting = false := by
    rw [← Bool.not_eq_true]
    exact fun hattempting => hnot (h.armed hattempting)
  rw [report, if_neg (by simp [hoff])]
  simp only [Connection.handleRWError, hoff, if_true, Connection.startReconnectTimer_eq]
  exact ⟨rfl, rfl, TimerState.noConfusion, hidle⟩

theorem Stuck.next {s t : Schedule} (h : s.Stuck) :
    ∀ {a : Action}, Schedule.next latency s a = some t → t.Stuck
  | .handleRWError free, hnext => by
      obtain rfl := Option.some.inj hnext
      have hsame : (s.calls.conn.handleRWError free).1
          = { s.calls.conn with m_isConnected := false } := by
        simp [Connection.handleRWError, h.on]
      rw [report, if_pos h.on, hsame]
      exact ⟨rfl, h.on, h.not_armed, h.idle⟩
  | .tick, hnext => absurd (next_tick hnext).2.1 h.not_armed
  | .ended _, hnext => by cases h.idle.symm.trans (next_ended hnext).1
  | .wait, hnext => by
      obtain ⟨-, rfl⟩ := next_wait hnext
      exact ⟨h.down, h.on, h.not_armed, h.idle⟩

/-- After a report whose start of the timer throws, the handler never has a connection again. -/
theorem down_of_thrown {s t : Schedule} (h : s.OnSchedule latency)
    (hup : s.calls.conn.m_isConnected = true) {as : List Action}
    (hrun : run (next latency) s (.handleRWError false :: as) = some t) :
  t.calls.conn.m_isConnected = false
  := by
  obtain ⟨u, hu, hrun⟩ := run_cons_eq_some.mp hrun
  obtain rfl := Option.some.inj hu
  have hstuck := run_invariant_of_step (fun _ _ _ hs hnext => Stuck.next hs hnext)
    (stuck_of_report h hup) hrun
  apply hstuck.down

end Schedule

end DoorSwitchSvr
