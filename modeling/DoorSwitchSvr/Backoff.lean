import DoorSwitchSvr.Connection
import Mathlib.Algebra.Group.Int.Defs
import Mathlib.Algebra.Group.Nat.Defs
import Mathlib.Order.MinMax

/-!
# The period of the reconnect timer

The functions of a connection called one at a time: `connect` once, and then
`handleRWError` and the ticks of the timer, with any outcomes of the attempts to connect.

Then `m_isConnected` is always the negation of `m_isTimerOn`, the timer is armed exactly
when `m_isTimerOn` is set, and while it is armed its period is `2 ^ (k + 1)` seconds after
`k` failed ticks, but at most `RECONN_MAX_PERIOD_INTERVAL` (`backoff_of_run`).

The invariant is that the handler is connected, or the timer is armed with the period for
the number of failed ticks (`Phase`).  Each function keeps it (`Phase.handleRWError`,
`Phase.tick_connects`, `Phase.tick_fails`).
-/

namespace DoorSwitchSvr

open Transition

/-! ### The period -/

/-- The period of the timer, in seconds, after `k` failed ticks. -/
def periodAfter (k : ℕ) : Int32 := Int32.ofNat (min (2 ^ (k + 1)) 256)

theorem periodAfter_of_le {k : ℕ} (h : 7 ≤ k) :
  periodAfter k = RECONN_MAX_PERIOD_INTERVAL
  := by
  have hpow : 2 ^ (7 + 1) ≤ 2 ^ (k + 1) :=
    Nat.pow_le_pow_right (by decide) (Nat.succ_le_succ h)
  have hmin : min (2 ^ (k + 1)) 256 = 256 := Nat.min_eq_right hpow
  rw [periodAfter, hmin]
  rfl

theorem toInt_periodAfter (k : ℕ) :
  (periodAfter k).toInt = min (2 ^ (k + 1)) RECONN_MAX_PERIOD_INTERVAL.toInt
  := by
  rcases Nat.lt_or_ge k 7 with hlt | hle
  · revert k
    decide
  · have hpow : 2 ^ (7 + 1) ≤ (2 : Int) ^ (k + 1) := by
      exact_mod_cast Nat.pow_le_pow_right (by decide : 0 < 2) (Nat.succ_le_succ hle)
    rw [periodAfter_of_le hle]
    apply (min_eq_right hpow).symm

/-- A period is between the first and the longest one. -/
theorem periodAfter_bounds (k : ℕ) :
  2 ≤ (periodAfter k).toInt ∧ (periodAfter k).toInt ≤ 256
  := by
  have hpow : (2 : Int) ^ (0 + 1) ≤ 2 ^ (k + 1) := by
    exact_mod_cast Nat.pow_le_pow_right (by decide : 0 < 2) (Nat.succ_le_succ k.zero_le)
  rw [toInt_periodAfter]
  constructor
  · apply le_min hpow (by decide)
  · apply min_le_right

/-- Failed ticks do not make the period shorter. -/
theorem periodAfter_le_succ (k : ℕ) :
  (periodAfter k).toInt ≤ (periodAfter (k + 1)).toInt
  := by
  rw [toInt_periodAfter, toInt_periodAfter]
  apply min_le_min_right
  exact_mod_cast Nat.pow_le_pow_right (by decide : 0 < 2) (Nat.le_succ (k + 1))

/-- Computing the next period and the period in milliseconds does not overflow. -/
theorem toInt_periodAfter_mul (k : ℕ) :
  (periodAfter k * RECONN_START_PERIOD_INTERVAL).toInt
      = (periodAfter k).toInt * RECONN_START_PERIOD_INTERVAL.toInt
    ∧ (periodAfter k * S2MS).toInt = (periodAfter k).toInt * S2MS.toInt
  := by
  obtain ⟨hle, hle'⟩ := periodAfter_bounds k
  have hstart : RECONN_START_PERIOD_INTERVAL.toInt = 2 := rfl
  have hms : S2MS.toInt = 1000 := rfl
  rw [Int32.toInt_mul, Int32.toInt_mul, hstart, hms]
  constructor <;> apply Int.bmod_eq_of_le <;> omega

/-- The test in `onReconnTimer` makes the period grow to the next one. -/
theorem periodAfter_succ (k : ℕ) :
  (if periodAfter k * RECONN_START_PERIOD_INTERVAL < RECONN_MAX_PERIOD_INTERVAL + 1
      then periodAfter k * RECONN_START_PERIOD_INTERVAL else periodAfter k)
    = periodAfter (k + 1)
  := by
  rcases Nat.lt_or_ge k 7 with hlt | hle
  · revert k
    decide
  · rw [periodAfter_of_le hle, periodAfter_of_le (Nat.le_succ_of_le hle)]
    rfl

theorem growInterval_periodAfter {c : Connection} {k : ℕ} (h : c.m_interval = periodAfter k) :
  c.growInterval = { c with m_interval := periodAfter (k + 1) }
  := by
  rw [Connection.growInterval, h, ← periodAfter_succ]
  split_ifs
  · rfl
  · rw [← h]

/-- A tick that fails keeps the timer armed, with the next period. -/
theorem onReconnTimer_failed {c : Connection} {k : ℕ} (hinterval : c.m_interval = periodAfter k)
    (htimer : c.m_reconnTimer.state = .armed) {error : Bool}
    (hfails : (c.reconnect error).2 = false) :
  c.onReconnTimer error
    = { c with
      m_socket := .closed
      m_isConnected := false
      m_interval := periodAfter (k + 1)
      m_reconnTimer := ⟨.armed, periodAfter (k + 1) * S2MS⟩ }
  := by
  have hreconnect := Connection.reconnect_failed hfails
  rw [Connection.onReconnTimer, hreconnect]
  have hgrow := growInterval_periodAfter
    (c := { c with m_socket := .closed, m_isConnected := false }) hinterval
  simp [hgrow, Timer.setPeriodicInterval, htimer]

/-! ### Calls one at a time -/

/-- A connection whose functions are called one at a time.  `failedTicks` is a history: the
ticks that have failed since the timer was started last. -/
structure SerialReconnect where
  conn : Connection
  failedTicks : ℕ
  deriving DecidableEq

namespace SerialReconnect

/-- The next call: an error is reported, or the timer ticks and tries to connect, which fails
when `error` says so. -/
inductive Action where
  | handleRWError
  | tick (error : Bool)
  deriving DecidableEq

/-- The timer will tick. -/
def Armed (s : SerialReconnect) : Prop := s.conn.m_reconnTimer.state = .armed

instance (s : SerialReconnect) : Decidable s.Armed :=
  inferInstanceAs (Decidable (_ = _))

/-- The state after a call.  A report starts the timer when `m_isTimerOn` is unset; the pool
has a free thread for it. -/
def next (s : SerialReconnect) : Action → Option SerialReconnect
  | .handleRWError =>
      some ⟨(s.conn.handleRWError true).1, if s.conn.m_isTimerOn then s.failedTicks else 0⟩
  | .tick error =>
      if s.Armed then
        some ⟨s.conn.onReconnTimer error,
          if (s.conn.reconnect error).2 then s.failedTicks else s.failedTicks + 1⟩
      else none

theorem next_tick {s t : SerialReconnect} {error : Bool} (h : next s (.tick error) = some t) :
  s.Armed ∧ t = ⟨s.conn.onReconnTimer error,
    if (s.conn.reconnect error).2 then s.failedTicks else s.failedTicks + 1⟩
  := by
  have harmed : s.Armed := by
    by_contra hnot
    rw [next, if_neg hnot] at h
    cases h
  rw [next, if_pos harmed] at h
  exact ⟨harmed, (Option.some.inj h).symm⟩

/-- After the one call of `connect`. -/
def initial (error : Bool) : SerialReconnect := ⟨(({} : Connection).connect error true).1, 0⟩

/-- The flags agree with the timer, and the period of an armed timer is the one for the
number of failed ticks, within its bounds and without overflow. -/
structure Backoff (s : SerialReconnect) : Prop where
  connected_eq : s.conn.m_isConnected = !s.conn.m_isTimerOn
  armed_iff : s.Armed ↔ s.conn.m_isTimerOn = true
  interval : s.Armed → s.conn.m_interval.toInt = min (2 ^ (s.failedTicks + 1)) 256
  period : s.Armed →
    s.conn.m_reconnTimer.periodicInterval.toInt = s.conn.m_interval.toInt * S2MS.toInt
  le_max : s.conn.m_interval.toInt ≤ RECONN_MAX_PERIOD_INTERVAL.toInt
  no_overflow : (s.conn.m_interval * RECONN_START_PERIOD_INTERVAL).toInt
    = s.conn.m_interval.toInt * RECONN_START_PERIOD_INTERVAL.toInt

/-- From one state to the next: during an outage the period does not decrease, and further
reports change nothing; a new outage starts with the first period.  A report to a connected
handler starts an outage, a tick that connects ends it, and one that fails goes on with it. -/
structure Paced (s : SerialReconnect) (a : Action) (t : SerialReconnect) : Prop where
  le : s.Armed → t.Armed →
    s.conn.m_interval.toInt ≤ t.conn.m_interval.toInt
      ∧ s.conn.m_reconnTimer.periodicInterval.toInt ≤ t.conn.m_reconnTimer.periodicInterval.toInt
  reported : s.Armed → a = .handleRWError → t = s
  starts : ¬ s.Armed → t.Armed → t.conn.m_interval.toInt = 2 ∧ t.failedTicks = 0
  lost : a = .handleRWError → t.Armed
  connects : a = .tick false → t.conn.m_isConnected = true ∧ ¬ t.Armed
  fails : a = .tick true → t.Armed ∧ t.failedTicks = s.failedTicks + 1

/-! ### The invariant -/

/-- The handler is connected and its timer is not armed, or the timer is armed with the
period for the number of failed ticks. -/
inductive Phase (s : SerialReconnect) : Prop where
  | connected (hconn : s.conn.m_isConnected = true) (hoff : s.conn.m_isTimerOn = false)
      (htimer : ¬ s.Armed) (hinterval : s.conn.m_interval = periodAfter 0)
  | outage (hconn : s.conn.m_isConnected = false) (hon : s.conn.m_isTimerOn = true)
      (hsocket : s.conn.m_socket ≠ .connected)
      (htimer : s.conn.m_reconnTimer = ⟨.armed, periodAfter s.failedTicks * S2MS⟩)
      (hinterval : s.conn.m_interval = periodAfter s.failedTicks)

theorem Phase.backoff {s : SerialReconnect} (h : Phase s) :
  s.Backoff
  := by
  cases h with
  | connected hconn hoff htimer hinterval =>
      constructor
      · rw [hconn, hoff]
        rfl
      · rw [hoff]
        exact iff_of_false htimer Bool.false_ne_true
      · intro harmed
        apply absurd harmed htimer
      · intro harmed
        apply absurd harmed htimer
      · rw [hinterval]
        apply (periodAfter_bounds 0).2
      · rw [hinterval]
        apply (toInt_periodAfter_mul 0).1
  | outage hconn hon hsocket htimer hinterval =>
      constructor
      · rw [hconn, hon]
        rfl
      · rw [hon, Armed, htimer]
        exact iff_of_true rfl rfl
      · intro _
        rw [hinterval, toInt_periodAfter]
        rfl
      · intro _
        rw [hinterval, htimer]
        apply (toInt_periodAfter_mul s.failedTicks).2
      · rw [hinterval]
        apply (periodAfter_bounds s.failedTicks).2
      · rw [hinterval]
        apply (toInt_periodAfter_mul s.failedTicks).1

/-- From an armed timer to one with an interval that is not shorter, the period is not shorter
either. -/
theorem Phase.period_le {s t : SerialReconnect} (hs : Phase s) (ht : Phase t)
    (harmed : s.Armed) (harmed' : t.Armed)
    (hle : s.conn.m_interval.toInt ≤ t.conn.m_interval.toInt) :
  s.conn.m_reconnTimer.periodicInterval.toInt ≤ t.conn.m_reconnTimer.periodicInterval.toInt
  := by
  have hms : (0 : Int) ≤ S2MS.toInt := by decide
  rw [hs.backoff.period harmed, ht.backoff.period harmed']
  apply Int.mul_le_mul_of_nonneg_right hle hms

/-- A report changes nothing during an outage, and otherwise starts one. -/
theorem Phase.handleRWError {s t : SerialReconnect} (h : Phase s)
    (hnext : next s .handleRWError = some t) :
  Phase t ∧ Paced s .handleRWError t
  := by
  obtain rfl := Option.some.inj hnext
  cases h with
  | connected hconn hoff htimer hinterval =>
      simp only [Connection.handleRWError, hoff, if_true, Bool.false_eq_true, if_false]
      constructor
      · exact Phase.outage rfl rfl Socket.noConfusion rfl rfl
      · constructor
        · intro harmed
          apply absurd harmed htimer
        · intro harmed
          apply absurd harmed htimer
        · intro _ _
          exact ⟨rfl, rfl⟩
        · intro _
          rfl
        · apply Action.noConfusion
        · apply Action.noConfusion
  | outage hconn hon hsocket htimer hinterval =>
      have hs := Phase.outage hconn hon hsocket htimer hinterval
      have harmed : s.Armed := hs.backoff.armed_iff.mpr hon
      have hsame : (s.conn.handleRWError true).1 = s.conn := by
        rw [Connection.handleRWError, if_neg (by simp [hon]), ← hconn]
      rw [hsame, if_pos hon]
      use hs
      constructor
      · exact fun _ _ => ⟨le_rfl, le_rfl⟩
      · exact fun _ _ => rfl
      · intro hnot
        apply absurd harmed hnot
      · exact fun _ => harmed
      · apply Action.noConfusion
      · apply Action.noConfusion

/-- A tick that connects ends the outage. -/
theorem Phase.tick_connects {s t : SerialReconnect} (h : Phase s)
    (hnext : next s (.tick false) = some t) :
  Phase t ∧ Paced s (.tick false) t
  := by
  obtain ⟨harmed, rfl⟩ := next_tick hnext
  cases h with
  | connected hconn hoff htimer hinterval => apply absurd harmed htimer
  | outage hconn hon hsocket htimer hinterval =>
      have hstate : s.conn.m_reconnTimer.state = .armed := harmed
      have hreconnect := Connection.reconnect_of_ne hsocket false
      rw [Connection.onReconnTimer, hreconnect]
      have hnot : ¬ (s.conn.m_reconnTimer.restart 0).state = .armed := by
        simp [Timer.restart, hstate]
      use Phase.connected rfl rfl hnot rfl
      constructor
      · intro _ harmed'
        apply absurd harmed' hnot
      · exact fun _ => Action.noConfusion
      · intro hnot'
        apply absurd harmed hnot'
      · apply Action.noConfusion
      · exact fun _ => ⟨rfl, hnot⟩
      · intro h
        cases h

/-- A tick that fails makes the period the next one. -/
theorem Phase.tick_fails {s t : SerialReconnect} (h : Phase s)
    (hnext : next s (.tick true) = some t) :
  Phase t ∧ Paced s (.tick true) t
  := by
  obtain ⟨harmed, rfl⟩ := next_tick hnext
  have hs := h
  cases h with
  | connected hconn hoff htimer hinterval => apply absurd harmed htimer
  | outage hconn hon hsocket htimer hinterval =>
      have hfails : (s.conn.reconnect true).2 = false := by
        rw [Connection.reconnect_of_ne hsocket]
        rfl
      rw [onReconnTimer_failed hinterval harmed hfails, hfails]
      have ht : Phase
          ⟨{ s.conn with
              m_socket := .closed
              m_isConnected := false
              m_interval := periodAfter (s.failedTicks + 1)
              m_reconnTimer := ⟨.armed, periodAfter (s.failedTicks + 1) * S2MS⟩ },
            s.failedTicks + 1⟩ :=
        Phase.outage rfl hon Socket.noConfusion rfl rfl
      have hle : s.conn.m_interval.toInt ≤ (periodAfter (s.failedTicks + 1)).toInt := by
        rw [hinterval]
        apply periodAfter_le_succ
      use ht
      constructor
      · exact fun _ harmed' => ⟨hle, hs.period_le ht harmed harmed' hle⟩
      · exact fun _ => Action.noConfusion
      · intro hnot
        apply absurd harmed hnot
      · apply Action.noConfusion
      · intro h
        cases h
      · exact fun _ => ⟨rfl, rfl⟩

/-! ### Runs -/

theorem Phase.initial (error : Bool) :
  Phase (initial error)
  := by
  cases error with
  | true => exact Phase.outage rfl rfl Socket.noConfusion rfl rfl
  | false => exact Phase.connected rfl rfl TimerState.noConfusion rfl

theorem Phase.step {s : SerialReconnect} (h : Phase s) :
    ∀ {a : Action} {t : SerialReconnect}, next s a = some t → Phase t ∧ Paced s a t
  | .handleRWError, _, hnext => h.handleRWError hnext
  | .tick false, _, hnext => h.tick_connects hnext
  | .tick true, _, hnext => h.tick_fails hnext

/-- After `connect`, and after every further call of any run, the flags agree with the timer
and the period is the one for the number of failed ticks. -/
theorem backoff_of_run (error : Bool) (as : List Action) :
  (initial error).Backoff
    ∧ Along next (fun s a t => t.Backoff ∧ Paced s a t) (initial error) as
  := by
  use (Phase.initial error).backoff
  have hok : Meets next (fun _ _ => True) (initial error) as :=
    Meets.of_forall (fun _ _ => trivial) (initial error) as
  apply along_of_meets _ _ (Phase.initial error) hok
  · intro s a t h _ hnext
    obtain ⟨ht, hpaced⟩ := h.step hnext
    exact ⟨ht.backoff, hpaced⟩
  · intro s a t h _ hnext
    apply (h.step hnext).1

/-- The first attempt, nine ticks and two more errors that are reported meanwhile. -/
example : (run next (initial true)
    (List.replicate 4 (.tick true) ++ [.handleRWError] ++ List.replicate 5 (.tick true)
      ++ [.handleRWError])).map (fun s => (s.conn.m_interval, s.failedTicks)) = some (256, 9) := by
  decide

/-! ### Calls as steps of threads -/

/-- The interleaved threads between two calls: a thread that reports errors and the timer
thread, both outside their functions. -/
def toReconnectSystem (s : SerialReconnect) : ReconnectSystem Unit :=
  ⟨s.conn, fun _ => .outside, .idle⟩

/-- A call is a run of the interleaved threads in which one of them does it all. -/
theorem exists_run_of_next {s t : SerialReconnect} {a : Action} (hnext : next s a = some t) :
  ∃ bs, run ReconnectSystem.next s.toReconnectSystem bs = some t.toReconnectSystem
  := by
  cases a with
  | handleRWError =>
      obtain rfl := Option.some.inj hnext
      have houtside : s.toReconnectSystem.thread () = .outside := rfl
      obtain ⟨n, hn⟩ := ReconnectSystem.run_handleRWError s.conn s.toReconnectSystem.thread houtside
      use List.replicate n (.thread ()), hn
  | tick error =>
      obtain ⟨harmed, rfl⟩ := next_tick hnext
      obtain ⟨n, hn⟩ := ReconnectSystem.run_onReconnTimer harmed
        (fun _ : Unit => RWErrorPc.outside) error
      use List.replicate n (.timer error), hn

/-- Calls one at a time are runs of the interleaved threads. -/
theorem exists_reconnectRun {as : List Action} {s t : SerialReconnect}
    (hrun : run next s as = some t) :
  ∃ bs, run ReconnectSystem.next s.toReconnectSystem bs = some t.toReconnectSystem
  := by
  have hok : Meets next (fun _ _ => True) s as := Meets.of_forall (fun _ _ => trivial) s as
  have hsim : ∀ (s : SerialReconnect) (a : Action) (t : SerialReconnect) (r : ReconnectSystem Unit),
      r = s.toReconnectSystem → True → next s a = some t →
        ∃ bs r', run ReconnectSystem.next r bs = some r' ∧ r' = t.toReconnectSystem := by
    rintro s a t _ rfl - hnext
    obtain ⟨bs, hbs⟩ := exists_run_of_next hnext
    exact ⟨bs, _, hbs, rfl⟩
  obtain ⟨bs, _, hbs, rfl⟩ := exists_run_of_simulation hsim rfl hok hrun
  use bs

end SerialReconnect

end DoorSwitchSvr
