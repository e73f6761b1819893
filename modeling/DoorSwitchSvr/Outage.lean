import DoorSwitchSvr.Reconnect

/-!
# Outages

When a connection is lost all the channels of the switch fail, and several threads are in
`handleRWError` at once.  `m_isTimerOn` is to let one of them restart the reconnect timer.

A thread tests `m_isTimerOn`, closes the socket, and only then sets `m_isTimerOn`.  Two
threads that test it one after the other both restart the timer, and the second one to call
`start` finds the timer running (`started_twice`).  In every run in which no thread finds
`m_isTimerOn` unset while another one is about to set it, the timer is never started while
it runs, and is started at most once between two successful connections
(`startedOnce_of_run`).
-/

namespace DoorSwitchSvr

open Transition ReconnectSystem RWErrorPc

/-- The threads of a handler, and how often one of them has entered `startReconnectTimer`
since the last successful connection. -/
structure OutageRun (ι : Type) where
  sys : ReconnectSystem ι
  starts : ℕ

namespace OutageRun

variable {ι : Type}

/-- The handler after its first `connect`, which starts the timer itself when it fails. -/
def initial (ι : Type) (error : Bool) : OutageRun ι :=
  ⟨ReconnectSystem.initial ι error, if error then 1 else 0⟩

/-- The step is an attempt to connect, and it succeeds. -/
def Connects (s : ReconnectSystem ι) (error : Bool) : Prop :=
  s.timer = .connect ∧ (s.conn.m_socket.connect error).2 = false

instance (s : ReconnectSystem ι) (error : Bool) : Decidable (Connects s error) :=
  inferInstanceAs (Decidable (_ ∧ _))

/-- How often `startReconnectTimer` has been entered after a step. -/
def startsAfter (s : OutageRun ι) : Action ι → ℕ
  | .thread i => if s.sys.thread i = .setTimerOn then s.starts + 1 else s.starts
  | .timer error => if Connects s.sys error then 0 else s.starts

/-- The state after a step. -/
def next [DecidableEq ι] (s : OutageRun ι) (a : Action ι) : Option (OutageRun ι) :=
  (ReconnectSystem.next s.sys a).map (fun sys => ⟨sys, s.startsAfter a⟩)

/-- The timer does not run when a thread is about to start it, and it has been started at
most once since the last successful connection. -/
structure StartedOnce (s : OutageRun ι) : Prop where
  stopped : ∀ i, s.sys.thread i = .startTimer → s.sys.conn.m_reconnTimer.state = .stopped
  once : s.starts ≤ 1

/-! ### Who starts the timer -/

/-- About to set `m_isTimerOn`. -/
def beforeSet : RWErrorPc → Bool
  | .closeSocket | .setTimerOn => true
  | _ => false

theorem isStarting_of_beforeSet {pc : RWErrorPc} (h : beforeSet pc) :
  isStarting pc
  := by
  cases pc <;> first | rfl | cases h

/-- No thread finds `m_isTimerOn` unset while another one is about to set it. -/
def TestsAlone (s : OutageRun ι) : Action ι → Prop
  | .thread i =>
      s.sys.thread i = .testTimerOn → s.sys.conn.m_isTimerOn = false →
        ∀ j, beforeSet (s.sys.thread j) = false
  | .timer _ => True

instance [Fintype ι] (s : OutageRun ι) : (a : Action ι) → Decidable (TestsAlone s a)
  | .thread _ => inferInstanceAs (Decidable (_ → _))
  | .timer _ => isTrue trivial

/-- In `onReconnTimer`, on its way to clear `m_isTimerOn`. -/
def Succeeding (s : ReconnectSystem ι) : Prop :=
  s.timer = .setConnected ∨ s.timer = .returnConnected ∧ s.conn.m_isConnected = true
    ∨ s.timer = .restart ∨ finishing s.timer

/-- The connection is not being restored: `m_isTimerOn` is unset, the timer does not tick,
and has not been started since the last successful connection. -/
structure Off (s : OutageRun ι) : Prop where
  off : s.sys.conn.m_isTimerOn = false
  idle : s.sys.timer = .idle
  not_armed : s.sys.conn.m_reconnTimer.state ≠ .armed
  starts : s.starts = 0

/-- The thread `i` is on its way to start the timer, which does not tick. -/
structure Starting (s : OutageRun ι) (i : ι) : Prop where
  on : s.sys.conn.m_isTimerOn = true
  idle : s.sys.timer = .idle
  not_armed : s.sys.conn.m_reconnTimer.state ≠ .armed
  stopped : beforeStart (s.sys.thread i) → s.sys.conn.m_reconnTimer.state = .stopped
  starts : s.starts = 1

/-- The timer has been started.  Its callback clears `m_isTimerOn` only after a successful
connection. -/
structure On (s : OutageRun ι) : Prop where
  on : s.sys.conn.m_isTimerOn = true
  callback : s.sys.timer ≠ .idle →
    s.sys.conn.m_reconnTimer.state = if finishing s.sys.timer then .ended else .armed
  succeeding : Succeeding s.sys → s.starts = 0
  starts : s.starts ≤ 1

/-- At most one thread is starting the timer.  With `m_isTimerOn` unset it is one about to
set it. -/
inductive Phase (s : OutageRun ι) : Prop where
  | off (h : Off s) (hthread : ∀ j, isStarting (s.sys.thread j) = false)
  | tested (i : ι) (h : Off s) (hi : beforeSet (s.sys.thread i))
      (hothers : ∀ j, j ≠ i → isStarting (s.sys.thread j) = false)
  | starting (i : ι) (h : Starting s i) (hi : isStarting (s.sys.thread i))
      (hset : beforeSet (s.sys.thread i) = false)
      (hothers : ∀ j, j ≠ i → isStarting (s.sys.thread j) = false)
  | on (h : On s) (hthread : ∀ j, isStarting (s.sys.thread j) = false)

theorem Phase.startedOnce {s : OutageRun ι} (h : Phase s) :
  StartedOnce s
  := by
  cases h with
  | off h hthread =>
      constructor
      · intro i hi
        have hnot := hthread i
        rw [hi] at hnot
        cases hnot
      · rw [h.starts]
        exact Nat.zero_le 1
  | tested i h hi hothers =>
      constructor
      · intro j hj
        rcases eq_or_ne j i with rfl | hne
        · rw [hj] at hi
          cases hi
        · have hnot := hothers j hne
          rw [hj] at hnot
          cases hnot
      · rw [h.starts]
        exact Nat.zero_le 1
  | starting i h hi hset hothers =>
      constructor
      · intro j hj
        rcases eq_or_ne j i with rfl | hne
        · apply h.stopped
          rw [hj]
          rfl
        · have hnot := hothers j hne
          rw [hj] at hnot
          cases hnot
      · rw [h.starts]
  | on h hthread =>
      constructor
      · intro i hi
        have hnot := hthread i
        rw [hi] at hnot
        cases hnot
      · apply h.starts

theorem Phase.initial (error : Bool) :
  Phase (initial ι error)
  := by
  cases error with
  | true =>
      apply Phase.on
      · constructor
        · rfl
        · intro hne
          apply absurd rfl hne
        · rintro (h | ⟨h, -⟩ | h | h) <;> cases h
        · exact Nat.le_refl 1
      · intro j
        rfl
  | false =>
      apply Phase.off
      · constructor
        · rfl
        · rfl
        · apply TimerState.noConfusion
        · rfl
      · intro j
        rfl

/-! ### Steps -/

variable [DecidableEq ι]

theorem next_thread {s t : OutageRun ι} {i : ι} (h : next s (.thread i) = some t) :
  ∃ c pc, s.sys.conn.rwErrorStep true s.sys.timer (s.sys.thread i) = some (c, pc)
    ∧ t = ⟨⟨c, Function.update s.sys.thread i pc, s.sys.timer⟩, s.startsAfter (.thread i)⟩
  := by
  obtain ⟨sys, hsys, rfl⟩ := Option.map_eq_some_iff.mp h
  obtain ⟨c, pc, hstep, rfl⟩ := ReconnectSystem.next_thread hsys
  use c, pc, hstep

theorem next_timer {s t : OutageRun ι} {error : Bool} (h : next s (.timer error) = some t) :
  ∃ c pc, s.sys.conn.timerStep error s.sys.timer = some (c, pc)
    ∧ t = ⟨⟨c, s.sys.thread, pc⟩, s.startsAfter (.timer error)⟩
  := by
  obtain ⟨sys, hsys, rfl⟩ := Option.map_eq_some_iff.mp h
  obtain ⟨c, pc, hstep, rfl⟩ := ReconnectSystem.next_timer hsys
  use c, pc, hstep

omit [DecidableEq ι] in
/-- The phase stays when only `m_isConnected` is unset and threads that do not start the
timer move. -/
theorem Phase.keep {s t : OutageRun ι} (h : Phase s)
    (hon : t.sys.conn.m_isTimerOn = s.sys.conn.m_isTimerOn)
    (hconn : t.sys.conn.m_isConnected = true → s.sys.conn.m_isConnected = true)
    (htimer : t.sys.conn.m_reconnTimer = s.sys.conn.m_reconnTimer)
    (hpc : t.sys.timer = s.sys.timer) (hstarts : t.starts = s.starts)
    (hthread : ∀ j, t.sys.thread j = s.sys.thread j
      ∨ isStarting (s.sys.thread j) = false ∧ isStarting (t.sys.thread j) = false) :
  Phase t
  := by
  have hkept : ∀ j, isStarting (t.sys.thread j) = isStarting (s.sys.thread j) := by
    intro j
    rcases hthread j with hj | ⟨hj, hj'⟩
    · rw [hj]
    · rw [hj, hj']
  have hsame : ∀ j, isStarting (s.sys.thread j) = true → t.sys.thread j = s.sys.thread j := by
    intro j hj
    apply (hthread j).resolve_right
    rintro ⟨hnot, -⟩
    rw [hj] at hnot
    cases hnot
  have hoff : Off s → Off t := by
    rintro ⟨hoff, hidle, harmed, hzero⟩
    constructor
    · rw [hon, hoff]
    · rw [hpc, hidle]
    · rw [htimer]
      apply harmed
    · rw [hstarts, hzero]
  cases h with
  | off h hnot =>
      apply Phase.off (hoff h)
      intro j
      rw [hkept, hnot]
  | tested i h hi hothers =>
      apply Phase.tested i (hoff h)
      · rw [hsame i (isStarting_of_beforeSet hi)]
        apply hi
      · intro j hj
        rw [hkept, hothers j hj]
  | starting i h hi hset hothers =>
      have hi' := hsame i hi
      apply Phase.starting i
      · constructor
        · rw [hon, h.on]
        · rw [hpc, h.idle]
        · rw [htimer]
          apply h.not_armed
        · rw [hi', htimer]
          apply h.stopped
        · rw [hstarts, h.starts]
      · rw [hi', hi]
      · rw [hi', hset]
      · intro j hj
        rw [hkept, hothers j hj]
  | on h hnot =>
      apply Phase.on
      · constructor
        · rw [hon, h.on]
        · rw [hpc, htimer]
          apply h.callback
        · rintro hsucc
          rw [hstarts]
          apply h.succeeding
          rw [Succeeding, hpc] at hsucc
          apply hsucc.imp_right
          apply Or.imp_left
          rintro ⟨hret, htrue⟩
          exact ⟨hret, hconn htrue⟩
        · rw [hstarts]
          apply h.starts
      · intro j
        rw [hkept, hnot]

omit [DecidableEq ι] in
/-- A thread that is starting the timer is the only one. -/
theorem Phase.of_starting {s : OutageRun ι} (h : Phase s) {i : ι}
    (hi : isStarting (s.sys.thread i)) :
  (∀ j, j ≠ i → isStarting (s.sys.thread j) = false)
    ∧ (beforeSet (s.sys.thread i) ∧ Off s
      ∨ beforeSet (s.sys.thread i) = false ∧ Starting s i)
  := by
  have hone : ∀ {j}, (∀ k, k ≠ j → isStarting (s.sys.thread k) = false) → i = j := by
    intro j hothers
    by_contra hne
    rw [hothers i hne] at hi
    cases hi
  cases h with
  | off h hnot =>
      rw [hnot i] at hi
      cases hi
  | tested j h hj hothers =>
      obtain rfl := hone hothers
      exact ⟨hothers, Or.inl ⟨hj, h⟩⟩
  | starting j h hj hset hothers =>
      obtain rfl := hone hothers
      exact ⟨hothers, Or.inr ⟨hset, h⟩⟩
  | on h hnot =>
      rw [hnot i] at hi
      cases hi

omit [DecidableEq ι] in
/-- While a thread is about to set `m_isTimerOn`, the timer is off. -/
theorem Phase.of_beforeSet {s : OutageRun ι} (h : Phase s) {i : ι} {pc : RWErrorPc}
    (hi : s.sys.thread i = pc) (hpc : beforeSet pc) :
  (∀ j, j ≠ i → isStarting (s.sys.thread j) = false) ∧ Off s
  := by
  rw [← hi] at hpc
  obtain ⟨hothers, ⟨-, hoff⟩ | ⟨hset, -⟩⟩ := h.of_starting (isStarting_of_beforeSet hpc)
  · exact ⟨hothers, hoff⟩
  · rw [hset] at hpc
    cases hpc

omit [DecidableEq ι] in
/-- After a thread has set `m_isTimerOn`, it is the one that starts the timer. -/
theorem Phase.of_afterSet {s : OutageRun ι} (h : Phase s) {i : ι} {pc : RWErrorPc}
    (hi : s.sys.thread i = pc) (hpc : isStarting pc) (hset : beforeSet pc = false) :
  (∀ j, j ≠ i → isStarting (s.sys.thread j) = false) ∧ Starting s i
  := by
  rw [← hi] at hpc hset
  obtain ⟨hothers, ⟨hbefore, -⟩ | ⟨-, hstart⟩⟩ := h.of_starting hpc
  · rw [hset] at hbefore
    cases hbefore
  · exact ⟨hothers, hstart⟩

/-- The other threads are where they were when `i` has taken a step. -/
theorem others_update {thread : ι → RWErrorPc} {i : ι} (pc : RWErrorPc)
    (h : ∀ j, j ≠ i → isStarting (thread j) = false) :
  ∀ j, j ≠ i → isStarting (Function.update thread i pc j) = false
  := by
  intro j hj
  rw [Function.update_of_ne hj]
  apply h j hj

/-- A thread that does not start the timer, and does not find `m_isTimerOn` unset, keeps the
phase. -/
theorem Phase.wait {s : OutageRun ι} (h : Phase s) {i : ι}
    (hi : isStarting (s.sys.thread i) = false) {c : Connection} {pc : RWErrorPc}
    (hpc : isStarting pc = false)
    (hc : c = s.sys.conn ∨ c = { s.sys.conn with m_isConnected := false }) :
  Phase ⟨⟨c, Function.update s.sys.thread i pc, s.sys.timer⟩, s.starts⟩
  := by
  apply h.keep
  · rcases hc with rfl | rfl <;> rfl
  · rcases hc with rfl | rfl
    · intro htrue
      apply htrue
    · intro htrue
      cases htrue
  · rcases hc with rfl | rfl <;> rfl
  · rfl
  · rfl
  · intro j
    rcases eq_or_ne j i with rfl | hne
    · right
      use hi
      simp only [Function.update_self]
      apply hpc
    · left
      apply Function.update_of_ne hne

/-- The thread `i` has moved to a point before it sets `m_isTimerOn`. -/
theorem Phase.toTested {s : OutageRun ι} (h : Off s) {i : ι}
    (hothers : ∀ j, j ≠ i → isStarting (s.sys.thread j) = false) {c : Connection}
    {pc : RWErrorPc} (hpc : beforeSet pc) (hon : c.m_isTimerOn = s.sys.conn.m_isTimerOn)
    (htimer : c.m_reconnTimer = s.sys.conn.m_reconnTimer) :
  Phase ⟨⟨c, Function.update s.sys.thread i pc, s.sys.timer⟩, s.starts⟩
  := by
  apply Phase.tested i
  · constructor
    · apply hon.trans h.off
    · apply h.idle
    · simp only [htimer]
      apply h.not_armed
    · apply h.starts
  · simp only [Function.update_self]
    apply hpc
  · apply others_update _ hothers

/-- The thread `i` has moved to a point after it has set `m_isTimerOn`. -/
theorem Phase.toStarting {s : OutageRun ι} (hidle : s.sys.timer = .idle) {i : ι}
    (hothers : ∀ j, j ≠ i → isStarting (s.sys.thread j) = false) {c : Connection}
    {pc : RWErrorPc} (hpc : isStarting pc) (hset : beforeSet pc = false)
    (hon : c.m_isTimerOn = true) (harmed : c.m_reconnTimer.state ≠ .armed)
    (hstopped : beforeStart pc → c.m_reconnTimer.state = .stopped) {starts : ℕ}
    (hstarts : starts = 1) :
  Phase ⟨⟨c, Function.update s.sys.thread i pc, s.sys.timer⟩, starts⟩
  := by
  apply Phase.starting i
  · constructor
    · apply hon
    · apply hidle
    · apply harmed
    · simp only [Function.update_self]
      apply hstopped
    · apply hstarts
  · simp only [Function.update_self]
    apply hpc
  · simp only [Function.update_self]
    apply hset
  · apply others_update _ hothers

omit [DecidableEq ι] in
theorem startsAfter_of_ne {s : OutageRun ι} {i : ι} {pc : RWErrorPc}
    (hi : s.sys.thread i = pc) (hne : pc ≠ .setTimerOn) :
  s.startsAfter (.thread i) = s.starts
  := by
  rw [startsAfter, hi, if_neg hne]

theorem Phase.thread {s t : OutageRun ι} (h : Phase s) {i : ι}
    (hok : TestsAlone s (.thread i)) (hnext : next s (.thread i) = some t) :
  Phase t
  := by
  obtain ⟨c, pc, hstep, rfl⟩ := next_thread hnext
  cases hi : s.sys.thread i with
  | outside =>
      rw [hi] at hstep
      obtain ⟨rfl, rfl⟩ := Prod.mk.inj (Option.some.inj hstep)
      rw [startsAfter_of_ne hi RWErrorPc.noConfusion]
      apply h.wait _ rfl (Or.inr rfl)
      rw [hi]
      rfl
  | testTimerOn =>
      rw [hi] at hstep
      obtain ⟨rfl, rfl⟩ := Prod.mk.inj (Option.some.inj hstep)
      rw [startsAfter_of_ne hi RWErrorPc.noConfusion]
      by_cases hon : s.sys.conn.m_isTimerOn = false
      · rw [if_pos hon]
        cases h with
        | off h hnot => apply Phase.toTested h (fun j _ => hnot j) <;> rfl
        | tested j h hj hothers =>
            -- here the condition on the run excludes the thread `j`
            rw [hok hi hon j] at hj
            cases hj
        | starting j h _ _ _ => cases hon.symm.trans h.on
        | on h _ => cases hon.symm.trans h.on
      · rw [if_neg hon]
        apply h.wait _ rfl (Or.inl rfl)
        rw [hi]
        rfl
  | closeSocket =>
      rw [hi] at hstep
      obtain ⟨rfl, rfl⟩ := Prod.mk.inj (Option.some.inj hstep)
      rw [startsAfter_of_ne hi RWErrorPc.noConfusion]
      obtain ⟨hothers, hoff⟩ := h.of_beforeSet hi rfl
      apply Phase.toTested hoff hothers <;> rfl
  | setTimerOn =>
      rw [hi] at hstep
      obtain ⟨rfl, rfl⟩ := Prod.mk.inj (Option.some.inj hstep)
      rw [startsAfter, if_pos hi]
      obtain ⟨hothers, hoff⟩ := h.of_beforeSet hi rfl
      apply Phase.toStarting hoff.idle hothers
      · rfl
      · rfl
      · rfl
      · apply hoff.not_armed
      · intro hbefore
        cases hbefore
      · rw [hoff.starts]
  | setInterval =>
      rw [hi] at hstep
      obtain ⟨rfl, rfl⟩ := Prod.mk.inj (Option.some.inj hstep)
      rw [startsAfter_of_ne hi RWErrorPc.noConfusion]
      obtain ⟨hothers, hstart⟩ := h.of_afterSet hi rfl rfl
      apply Phase.toStarting hstart.idle hothers
      · rfl
      · rfl
      · apply hstart.on
      · apply hstart.not_armed
      · intro hbefore
        cases hbefore
      · apply hstart.starts
  | stopTimer =>
      rw [hi, Connection.rwErrorStep] at hstep
      split_ifs at hstep with hidle
      obtain ⟨rfl, rfl⟩ := Prod.mk.inj (Option.some.inj hstep)
      rw [startsAfter_of_ne hi RWErrorPc.noConfusion]
      obtain ⟨hothers, hstart⟩ := h.of_afterSet hi rfl rfl
      apply Phase.toStarting hidle hothers
      · rfl
      · rfl
      · apply hstart.on
      · apply TimerState.noConfusion
      · intro _
        rfl
      · apply hstart.starts
  | setPeriod =>
      rw [hi] at hstep
      obtain ⟨rfl, rfl⟩ := Prod.mk.inj (Option.some.inj hstep)
      rw [startsAfter_of_ne hi RWErrorPc.noConfusion]
      obtain ⟨hothers, hstart⟩ := h.of_afterSet hi rfl rfl
      apply Phase.toStarting hstart.idle hothers
      · rfl
      · rfl
      · apply hstart.on
      · apply hstart.not_armed
      · intro _
        apply hstart.stopped
        rw [hi]
        rfl
      · apply hstart.starts
  | thrown =>
      rw [hi] at hstep
      cases hstep
  | startTimer =>
      obtain ⟨hothers, hstart⟩ := h.of_afterSet hi rfl rfl
      have hstopped : s.sys.conn.m_reconnTimer.state = .stopped := by
        apply hstart.stopped
        rw [hi]
        rfl
      rw [hi, Connection.rwErrorStep_startTimer, if_pos ⟨hstopped, rfl⟩] at hstep
      obtain ⟨rfl, rfl⟩ := Prod.mk.inj (Option.some.inj hstep)
      rw [startsAfter_of_ne hi RWErrorPc.noConfusion]
      apply Phase.on
      · constructor
        · apply hstart.on
        · intro hne
          apply absurd hstart.idle hne
        · intro hsucc
          simp only [Succeeding, hstart.idle] at hsucc
          rcases hsucc with hsucc | ⟨hsucc, -⟩ | hsucc | hsucc <;> cases hsucc
        · simp only [hstart.starts]
          exact Nat.le_refl 1
      · intro j
        rcases eq_or_ne j i with rfl | hne
        · simp only [Function.update_self]
          rfl
        · apply others_update _ hothers j hne

omit [DecidableEq ι] in
/-- The timer thread only moves when the timer has been started. -/
theorem Phase.on_of_timer {s : OutageRun ι} (h : Phase s)
    (htimer : s.sys.timer = .idle → s.sys.conn.m_reconnTimer.state = .armed) :
  On s ∧ ∀ j, isStarting (s.sys.thread j) = false
  := by
  cases h with
  | off h _ => apply absurd (htimer h.idle) h.not_armed
  | tested _ h _ _ => apply absurd (htimer h.idle) h.not_armed
  | starting _ h _ _ _ => apply absurd (htimer h.idle) h.not_armed
  | on h hnot => exact ⟨h, hnot⟩

omit [DecidableEq ι] in
/-- The callback is only on its way to clear `m_isTimerOn` after a step when it was so before,
or has just connected. -/
theorem succeeding_of_timerStep {s : ReconnectSystem ι} {error : Bool} {c : Connection}
    {pc : TimerPc} (hstep : s.conn.timerStep error s.timer = some (c, pc))
    (hsucc : Succeeding ⟨c, s.thread, pc⟩) :
  Succeeding s ∨ Connects s error
  := by
  cases hpc : s.timer with
  | idle =>
      rw [hpc] at hstep
      have harmed := armed_of_timerStep hstep
      rw [Connection.timerStep, if_pos harmed] at hstep
      obtain ⟨rfl, rfl⟩ := Prod.mk.inj (Option.some.inj hstep)
      rcases hsucc with h | ⟨h, -⟩ | h | h <;> cases h
  | connect =>
      rw [hpc, Connection.timerStep_connect] at hstep
      obtain ⟨rfl, rfl⟩ := Prod.mk.inj (Option.some.inj hstep)
      split_ifs at hsucc with hfails
      · rcases hsucc with h | ⟨h, -⟩ | h | h <;> cases h
      · right
        use hpc
        simpa using hfails
  | setDisconnected =>
      rw [hpc] at hstep
      obtain ⟨rfl, rfl⟩ := Prod.mk.inj (Option.some.inj hstep)
      rcases hsucc with h | ⟨-, h⟩ | h | h <;> cases h
  | setConnected =>
      left
      left
      apply hpc
  | returnConnected =>
      rw [hpc] at hstep
      obtain ⟨rfl, rfl⟩ := Prod.mk.inj (Option.some.inj hstep)
      cases hconn : s.conn.m_isConnected with
      | true =>
          left
          right
          left
          exact ⟨hpc, hconn⟩
      | false =>
          rw [hconn] at hsucc
          rcases hsucc with h | ⟨h, -⟩ | h | h <;> cases h
  | restart =>
      left
      right
      right
      left
      apply hpc
  | resetInterval | clearTimerOn =>
      left
      right
      right
      right
      rw [hpc]
      rfl
  | closeSocket | growInterval | setPeriod =>
      rw [hpc] at hstep
      obtain ⟨rfl, rfl⟩ := Prod.mk.inj (Option.some.inj hstep)
      rcases hsucc with h | ⟨h, -⟩ | h | h <;> cases h

theorem Phase.timer {s t : OutageRun ι} (h : Phase s) {error : Bool}
    (hnext : next s (.timer error) = some t) :
  Phase t
  := by
  obtain ⟨c, pc, hstep, rfl⟩ := next_timer hnext
  have harmed : s.sys.timer = .idle → s.sys.conn.m_reconnTimer.state = .armed := by
    intro hidle
    rw [hidle] at hstep
    apply armed_of_timerStep hstep
  obtain ⟨hon, hnot⟩ := h.on_of_timer harmed
  rcases eq_or_ne s.sys.timer .clearTimerOn with hpc | hne
  · have hfin : finishing s.sys.timer := by
      rw [hpc]
      rfl
    have hended := hon.callback (by rw [hpc]; exact TimerPc.noConfusion)
    rw [hpc] at hstep
    obtain ⟨rfl, rfl⟩ := Prod.mk.inj (Option.some.inj hstep)
    have hsame : s.startsAfter (.timer error) = s.starts := by
      rw [startsAfter, if_neg]
      rintro ⟨hconnect, -⟩
      cases hpc.symm.trans hconnect
    apply Phase.off
    · constructor
      · rfl
      · rfl
      · simp only [hended, if_pos hfin]
        apply TimerState.noConfusion
      · apply hsame.trans (hon.succeeding (Or.inr (Or.inr (Or.inr hfin))))
    · apply hnot
  · obtain ⟨hkept, hstate⟩ := timerStep_kept hstep hne hon.callback
    apply Phase.on
    · constructor
      · apply hkept.trans hon.on
      · intro _
        apply hstate
      · intro hsucc
        simp only [startsAfter]
        split_ifs with hconnect
        · rfl
        · apply hon.succeeding ((succeeding_of_timerStep hstep hsucc).resolve_right hconnect)
      · simp only [startsAfter]
        split_ifs
        · apply Nat.zero_le
        · apply hon.starts
    · apply hnot

theorem Phase.step (s : OutageRun ι) :
    ∀ (a : Action ι) (t : OutageRun ι), Phase s → TestsAlone s a → next s a = some t → Phase t
  | .thread _, _, h, hok, hnext => h.thread hok hnext
  | .timer _, _, h, _, hnext => h.timer hnext

/-- In every run in which no thread finds `m_isTimerOn` unset while another one is about to
set it, the timer is never started while it runs, and `startReconnectTimer` is entered at
most once between two successful connections. -/
theorem startedOnce_of_run (error : Bool) (as : List (Action ι)) {t : OutageRun ι}
    (hok : Meets next TestsAlone (initial ι error) as)
    (hrun : run next (initial ι error) as = some t) :
  t.StartedOnce
  := by
  have h : Phase t := run_invariant Phase.step (Phase.initial error) hok hrun
  apply h.startedOnce

/-- The first thread has set `m_isTimerOn` when the second one tests it. -/
theorem startedOnce_of_run_two :
  ∃ t, run next (initial Bool false)
      ([.thread false, .thread true] ++ List.replicate 3 (.thread false) ++ [.thread true]
        ++ List.replicate 4 (.thread false)) = some t ∧ t.StartedOnce
  := by
  refine ⟨_, rfl, ?_⟩
  exact startedOnce_of_run false
    ([.thread false, .thread true] ++ List.replicate 3 (.thread false) ++ [.thread true]
      ++ List.replicate 4 (.thread false)) (by decide) rfl

/-- Two threads take turns, up to the point where the first one has started the timer. -/
def takeTurns : List (Action Bool) :=
  (List.replicate 7 [.thread false, .thread true]).flatten ++ [.thread false]

/-- After `takeTurns` the timer runs, the second thread is about to start it, and it will
have been started twice. -/
theorem started_twice :
  ∃ t, run next (initial Bool false) takeTurns = some t ∧ ¬ t.StartedOnce
    ∧ t.sys.thread true = .startTimer ∧ t.sys.conn.m_reconnTimer.start true = none ∧ t.starts = 2
  := by
  refine ⟨_, rfl, ?_, rfl, rfl, rfl⟩
  intro h
  have hstopped := h.stopped true rfl
  cases hstopped

/-- The condition is needed: when a thread finds `m_isTimerOn` unset while another one is
about to set it, both may go on to enter `startReconnectTimer`. -/
theorem started_twice_of_test {s : OutageRun ι} {i j : ι} (hi : s.sys.thread i = .testTimerOn)
    (hon : s.sys.conn.m_isTimerOn = false) (hj : beforeSet (s.sys.thread j)) :
  ∃ as t, run next s (.thread i :: as) = some t ∧ t.starts = s.starts + 2
  := by
  have hne : i ≠ j := by
    rintro rfl
    rw [hi] at hj
    cases hj
  have hne' : j ≠ i := hne.symm
  cases hpc : s.sys.thread j with
  | closeSocket =>
      use [.thread j, .thread i, .thread j, .thread i]
      simp [run_cons, next, ReconnectSystem.next, Connection.rwErrorStep, startsAfter, hi, hpc,
        hon, hne, hne', Function.update_of_ne]
  | setTimerOn =>
      use [.thread i, .thread j, .thread i]
      simp [run_cons, next, ReconnectSystem.next, Connection.rwErrorStep, startsAfter, hi, hpc,
        hon, hne, hne', Function.update_of_ne]
  | outside | testTimerOn | setInterval | stopTimer | setPeriod | startTimer | thrown =>
      rw [hpc] at hj
      cases hj

end OutageRun

end DoorSwitchSvr
