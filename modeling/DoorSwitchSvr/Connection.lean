import DoorSwitchSvr.Param
import DoorSwitchSvr.Lib.Transition

/-!
# The connection of a switch

The part of `DoorSwitchHandler` that keeps the connection to its switch: the socket, the
flags `m_isConnected` and `m_isTimerOn`, and the timer that tries to connect again.

Each function of the source is here twice.

* As a function on the connection (`reconnect`, `startReconnectTimer`, `connect`,
  `onReconnTimer`, `handleRWError`), for when nothing interferes with it.
* As the steps a thread takes in it (`rwErrorStep` for `handleRWError`, `timerStep` for
  `onReconnTimer`), each a single read or write of a flag or a single call on the socket
  or the timer, for when threads interleave.

Two things are decided outside, and are arguments.

* `error`: whether an attempt to connect a socket that is not connected fails.
* `free`: whether the pool has a free thread for the timer.  The timer runs in a thread of a
  pool that all timers of the process share, and `start` throws when it has none left.
-/

namespace DoorSwitchSvr

/-! ### The socket and the timer -/

/-- A TCP socket: closed, open without a connection, or connected. -/
inductive Socket where
  | closed
  | opened
  | connected
  deriving DecidableEq, Repr

/-- `connect`, and whether it fails.  It opens a closed socket, and connects it or fails, as
`error` says.  On a connected socket it fails. -/
def Socket.connect (error : Bool) : Socket → Socket × Bool
  | .closed | .opened => (if error then .opened else .connected, error)
  | .connected => (.connected, true)

/-- `connect` on a socket that is not connected fails when `error` says so. -/
theorem Socket.connect_of_ne {socket : Socket} (h : socket ≠ .connected) (error : Bool) :
  socket.connect error = (if error then .opened else .connected, error)
  := by
  cases socket with
  | connected => apply absurd rfl h
  | closed | opened => rfl

/-- `connect` only succeeds on a socket that is not connected. -/
theorem Socket.connect_succeeds {socket : Socket} {error : Bool}
    (h : (socket.connect error).2 = false) :
  socket ≠ .connected ∧ error = false ∧ (socket.connect error).1 = .connected
  := by
  cases socket with
  | connected => cases h
  | closed | opened =>
      obtain rfl : error = false := h
      exact ⟨Socket.noConfusion, rfl, rfl⟩

/-- A timer that has not been started or has been stopped, one that will tick, and one
that has been ended from its callback but not stopped. -/
inductive TimerState where
  | stopped
  | armed
  | ended
  deriving DecidableEq, Repr

/-- `Poco::Timer`, with its periodic interval in milliseconds. -/
structure Timer where
  state : TimerState
  periodicInterval : Int32
  deriving DecidableEq, Repr

namespace Timer

/-- `start` throws on a timer that has not been stopped since it was started last, and when
the pool has no free thread. -/
def start (free : Bool) (t : Timer) : Option Timer :=
  if t.state = .stopped ∧ free = true then some { t with state := .armed } else none

def stop (t : Timer) : Timer := { t with state := .stopped }

def setPeriodicInterval (t : Timer) (ms : Int32) : Timer := { t with periodicInterval := ms }

/-- `restart` gives a running timer a new interval, and ends it when the interval is 0. -/
def restart (t : Timer) (ms : Int32) : Timer :=
  if t.state = .stopped then t
  else { state := if ms = 0 then .ended else .armed, periodicInterval := ms }

end Timer

/-- The members of `DoorSwitchHandler` that its connection consists of. -/
structure Connection where
  m_socket : Socket := .closed
  m_isConnected : Bool := false
  m_isTimerOn : Bool := false
  m_interval : Int32 := RECONN_START_PERIOD_INTERVAL
  m_reconnTimer : Timer := ⟨.stopped, RECONN_START_PERIOD_INTERVAL⟩
  deriving DecidableEq, Repr

namespace Connection

/-! ### The functions -/

def reconnect (c : Connection) (error : Bool) : Connection × Bool :=
  let (socket, error) := c.m_socket.connect error
  let c := { c with m_socket := socket }
  let c :=
    if error then { c with m_socket := .closed, m_isConnected := false }
    else { c with m_isConnected := true }
  (c, c.m_isConnected)

/-- An attempt on a socket that is not connected has the outcome that `error` says. -/
theorem reconnect_of_ne {c : Connection} (h : c.m_socket ≠ .connected) (error : Bool) :
  c.reconnect error
    = ({ c with m_socket := if error then .closed else .connected, m_isConnected := !error },
        !error)
  := by
  rw [reconnect, Socket.connect_of_ne h]
  cases error <;> rfl

/-- An attempt that fails closes the socket. -/
theorem reconnect_failed {c : Connection} {error : Bool} (h : (c.reconnect error).2 = false) :
  c.reconnect error = ({ c with m_socket := .closed, m_isConnected := false }, false)
  := by
  cases hfails : (c.m_socket.connect error).2 with
  | true => simp [reconnect, hfails]
  | false => simp [reconnect, hfails] at h

/-- An attempt that succeeds has been made on a socket that was not connected. -/
theorem reconnect_succeeds {c : Connection} {error : Bool} (h : (c.reconnect error).2 = true) :
  c.m_socket ≠ .connected ∧ error = false
    ∧ c.reconnect error = ({ c with m_socket := .connected, m_isConnected := true }, true)
  := by
  cases hfails : (c.m_socket.connect error).2 with
  | true => simp [reconnect, hfails] at h
  | false =>
      obtain ⟨hne, herror, hsocket⟩ := Socket.connect_succeeds hfails
      use hne, herror
      simp [reconnect, hfails, hsocket]

/-- `startReconnectTimer`, and whether an exception leaves it. -/
def startReconnectTimer (c : Connection) (free : Bool) : Connection × Bool :=
  let c := { c with m_isTimerOn := true }
  let c := { c with m_interval := RECONN_START_PERIOD_INTERVAL }
  let c := { c with m_reconnTimer := c.m_reconnTimer.stop }
  let c := { c with m_reconnTimer := c.m_reconnTimer.setPeriodicInterval (c.m_interval * S2MS) }
  match c.m_reconnTimer.start free with
  | some timer => ({ c with m_reconnTimer := timer }, false)
  | none => (c, true)

/-- `connect`, and what it returns, which is `none` when an exception leaves it. -/
def connect (c : Connection) (error free : Bool) : Connection × Option Bool :=
  let (c, ok) := c.reconnect error
  if ok then (c, some c.m_isConnected)
  else
    let (c, thrown) := c.startReconnectTimer free
    (c, if thrown then none else some c.m_isConnected)

/-- The next period after a failed attempt: twice as long, up to the longest. -/
def growInterval (c : Connection) : Connection :=
  if c.m_interval * RECONN_START_PERIOD_INTERVAL < RECONN_MAX_PERIOD_INTERVAL + 1 then
    { c with m_interval := c.m_interval * RECONN_START_PERIOD_INTERVAL }
  else c

def onReconnTimer (c : Connection) (error : Bool) : Connection :=
  let (c, ok) := c.reconnect error
  if ok then
    let c := { c with m_reconnTimer := c.m_reconnTimer.restart 0 }
    let c := { c with m_interval := RECONN_START_PERIOD_INTERVAL }
    { c with m_isTimerOn := false }
  else
    let c := c.growInterval
    { c with m_reconnTimer := c.m_reconnTimer.setPeriodicInterval (c.m_interval * S2MS) }

/-- `connect` returns whether its attempt has succeeded, unless the attempt fails and the pool
has no free thread for the timer. -/
theorem connect_result (c : Connection) (error free : Bool) :
  (c.connect error free).2
    = if (c.reconnect error).2 then some true else if free then some false else none
  := by
  rw [connect]
  cases hok : (c.reconnect error).2 with
  | true =>
      obtain ⟨-, -, hreconnect⟩ := reconnect_succeeds hok
      rw [hreconnect]
      rfl
  | false =>
      rw [reconnect_failed hok]
      cases free <;> rfl

/-- `handleRWError`, and whether an exception leaves it. -/
def handleRWError (c : Connection) (free : Bool) : Connection × Bool :=
  let c := { c with m_isConnected := false }
  if c.m_isTimerOn = false then
    let c := { c with m_socket := .closed }
    c.startReconnectTimer free
  else (c, false)

/-- `startReconnectTimer` throws exactly when the pool has no free thread.  The flag is set
then, and the timer is stopped. -/
theorem startReconnectTimer_eq (c : Connection) (free : Bool) :
  c.startReconnectTimer free
    = ({ c with
          m_isTimerOn := true
          m_interval := RECONN_START_PERIOD_INTERVAL
          m_reconnTimer :=
            ⟨if free then .armed else .stopped, RECONN_START_PERIOD_INTERVAL * S2MS⟩ }, !free)
  := by
  cases free <;> rfl

end Connection

/-! ### Single steps -/

/-- Where a thread is in `handleRWError` and in the `startReconnectTimer` it calls.  `thrown`
is a thread that an exception of `start` has ended. -/
inductive RWErrorPc where
  | outside
  | testTimerOn
  | closeSocket
  | setTimerOn
  | setInterval
  | stopTimer
  | setPeriod
  | startTimer
  | thrown
  deriving DecidableEq, Repr

/-- In `handleRWError`, after `m_isTimerOn` has been found unset, with the call of `start`
still to come. -/
def RWErrorPc.isStarting : RWErrorPc → Bool
  | .outside | .testTimerOn | .thrown => false
  | .closeSocket | .setTimerOn | .setInterval | .stopTimer | .setPeriod | .startTimer => true

/-- Where the timer thread is in `onReconnTimer` and in the `reconnect` it calls. -/
inductive TimerPc where
  | idle
  | connect
  | closeSocket
  | setDisconnected
  | setConnected
  | returnConnected
  | restart
  | resetInterval
  | clearTimerOn
  | growInterval
  | setPeriod
  deriving DecidableEq, Repr

namespace Connection

/-- A step of a thread in `handleRWError`; the first one enters it.  Stopping the timer
waits for its callback to finish, so it is not enabled while the timer thread is in it.
Nothing catches the exception of a `start` that throws, which ends the thread and leaves the
timer as it is. -/
def rwErrorStep (free : Bool) (timer : TimerPc) (c : Connection) :
    RWErrorPc → Option (Connection × RWErrorPc)
  | .outside => some ({ c with m_isConnected := false }, .testTimerOn)
  | .testTimerOn => some (c, if c.m_isTimerOn = false then .closeSocket else .outside)
  | .closeSocket => some ({ c with m_socket := .closed }, .setTimerOn)
  | .setTimerOn => some ({ c with m_isTimerOn := true }, .setInterval)
  | .setInterval => some ({ c with m_interval := RECONN_START_PERIOD_INTERVAL }, .stopTimer)
  | .stopTimer =>
      if timer = .idle then some ({ c with m_reconnTimer := c.m_reconnTimer.stop }, .setPeriod)
      else none
  | .setPeriod =>
      some ({ c with
        m_reconnTimer := c.m_reconnTimer.setPeriodicInterval (c.m_interval * S2MS) }, .startTimer)
  | .startTimer =>
      match c.m_reconnTimer.start free with
      | some timer => some ({ c with m_reconnTimer := timer }, .outside)
      | none => some (c, .thrown)
  | .thrown => none

/-- A step of the timer thread in `onReconnTimer`; the first one is a tick.  `error` is the
outcome of the connection attempt in the step that makes one. -/
def timerStep (error : Bool) (c : Connection) : TimerPc → Option (Connection × TimerPc)
  | .idle => if c.m_reconnTimer.state = .armed then some (c, .connect) else none
  | .connect =>
      let (socket, error) := c.m_socket.connect error
      some ({ c with m_socket := socket }, if error then .closeSocket else .setConnected)
  | .closeSocket => some ({ c with m_socket := .closed }, .setDisconnected)
  | .setDisconnected => some ({ c with m_isConnected := false }, .returnConnected)
  | .setConnected => some ({ c with m_isConnected := true }, .returnConnected)
  | .returnConnected => some (c, if c.m_isConnected then .restart else .growInterval)
  | .restart => some ({ c with m_reconnTimer := c.m_reconnTimer.restart 0 }, .resetInterval)
  | .resetInterval =>
      some ({ c with m_interval := RECONN_START_PERIOD_INTERVAL }, .clearTimerOn)
  | .clearTimerOn => some ({ c with m_isTimerOn := false }, .idle)
  | .growInterval => some (c.growInterval, .setPeriod)
  | .setPeriod =>
      some ({ c with
        m_reconnTimer := c.m_reconnTimer.setPeriodicInterval (c.m_interval * S2MS) }, .idle)

/-- `start` starts a stopped timer if the pool has a free thread, and otherwise ends the
thread that calls it. -/
theorem rwErrorStep_startTimer (c : Connection) (free : Bool) (timer : TimerPc) :
  c.rwErrorStep free timer .startTimer
    = if c.m_reconnTimer.state = .stopped ∧ free = true then
        some ({ c with m_reconnTimer.state := .armed }, .outside)
      else some (c, .thrown)
  := by
  rw [rwErrorStep, Timer.start]
  split_ifs <;> rfl

/-- Only `start` throws. -/
theorem startTimer_of_thrown {free : Bool} {timer : TimerPc} {c c' : Connection}
    {pc : RWErrorPc} (h : c.rwErrorStep free timer pc = some (c', .thrown)) :
  pc = .startTimer ∧ c.m_reconnTimer.start free = none
  := by
  cases pc with
  | startTimer =>
      use rfl
      rw [rwErrorStep] at h
      split at h
      next => cases h
      next hstart => apply hstart
  | testTimerOn =>
      rw [rwErrorStep] at h
      split_ifs at h <;> cases h
  | stopTimer =>
      rw [rwErrorStep] at h
      split_ifs at h
      cases h
  | outside | closeSocket | setTimerOn | setInterval | setPeriod | thrown => cases h

theorem timerStep_connect (c : Connection) (error : Bool) :
  c.timerStep error .connect
    = some ({ c with m_socket := (c.m_socket.connect error).1 },
        if (c.m_socket.connect error).2 then .closeSocket else .setConnected)
  := rfl

/-- A thread in `handleRWError` does not connect the socket. -/
theorem rwErrorStep_not_connected {free : Bool} {timer : TimerPc} {c c' : Connection}
    {pc pc' : RWErrorPc} (h : c.rwErrorStep free timer pc = some (c', pc'))
    (hc : c.m_socket ≠ .connected) :
  c'.m_socket ≠ .connected
  := by
  cases pc with
  | closeSocket =>
      obtain ⟨rfl, rfl⟩ := Prod.mk.inj (Option.some.inj h)
      apply Socket.noConfusion
  | stopTimer =>
      rw [rwErrorStep] at h
      split_ifs at h
      obtain ⟨rfl, rfl⟩ := Prod.mk.inj (Option.some.inj h)
      apply hc
  | startTimer =>
      rw [rwErrorStep_startTimer] at h
      split_ifs at h <;> obtain ⟨rfl, rfl⟩ := Prod.mk.inj (Option.some.inj h) <;> exact hc
  | thrown => cases h
  | outside | testTimerOn | setTimerOn | setInterval | setPeriod =>
      obtain ⟨rfl, rfl⟩ := Prod.mk.inj (Option.some.inj h)
      apply hc

/-- The timer thread only connects the socket in an attempt that succeeds. -/
theorem timerStep_not_connected {error : Bool} {c c' : Connection} {pc pc' : TimerPc}
    (h : c.timerStep error pc = some (c', pc')) (herror : pc = .connect → error = true)
    (hc : c.m_socket ≠ .connected) :
  c'.m_socket ≠ .connected
  := by
  cases pc with
  | idle =>
      rw [timerStep] at h
      split_ifs at h
      obtain ⟨rfl, rfl⟩ := Prod.mk.inj (Option.some.inj h)
      apply hc
  | connect =>
      obtain rfl := herror rfl
      rw [timerStep_connect, Socket.connect_of_ne hc] at h
      obtain ⟨rfl, rfl⟩ := Prod.mk.inj (Option.some.inj h)
      apply Socket.noConfusion
  | closeSocket =>
      obtain ⟨rfl, rfl⟩ := Prod.mk.inj (Option.some.inj h)
      apply Socket.noConfusion
  | growInterval =>
      obtain ⟨rfl, rfl⟩ := Prod.mk.inj (Option.some.inj h)
      rw [growInterval]
      split_ifs <;> exact hc
  | setDisconnected | setConnected | returnConnected | restart | resetInterval | clearTimerOn
  | setPeriod =>
      obtain ⟨rfl, rfl⟩ := Prod.mk.inj (Option.some.inj h)
      apply hc

end Connection

/-! ### Interleaved threads -/

/-- A connection, the threads that report errors to it, and its timer thread. -/
structure ReconnectSystem (ι : Type) where
  conn : Connection
  thread : ι → RWErrorPc
  timer : TimerPc

namespace ReconnectSystem

variable {ι : Type} [DecidableEq ι]

/-- The next step is taken by a thread in `handleRWError`, or by the timer thread. -/
inductive Action (ι : Type) where
  | thread (i : ι)
  | timer (error : Bool)
  deriving DecidableEq

/-- The state after a step, while the pool has a free thread for the timer. -/
def next (s : ReconnectSystem ι) : Action ι → Option (ReconnectSystem ι)
  | .thread i =>
      (s.conn.rwErrorStep true s.timer (s.thread i)).map
        (fun x => { s with conn := x.1, thread := Function.update s.thread i x.2 })
  | .timer error =>
      (s.conn.timerStep error s.timer).map (fun x => { s with conn := x.1, timer := x.2 })

theorem next_thread {s t : ReconnectSystem ι} {i : ι} (h : next s (.thread i) = some t) :
  ∃ c pc, s.conn.rwErrorStep true s.timer (s.thread i) = some (c, pc)
    ∧ t = ⟨c, Function.update s.thread i pc, s.timer⟩
  := by
  obtain ⟨⟨c, pc⟩, hstep, rfl⟩ := Option.map_eq_some_iff.mp h
  use c, pc, hstep

theorem next_timer {s t : ReconnectSystem ι} {error : Bool}
    (h : next s (.timer error) = some t) :
  ∃ c pc, s.conn.timerStep error s.timer = some (c, pc) ∧ t = ⟨c, s.thread, pc⟩
  := by
  obtain ⟨⟨c, pc⟩, hstep, rfl⟩ := Option.map_eq_some_iff.mp h
  use c, pc, hstep

/-- A thread that nothing interferes with takes the connection through `handleRWError`. -/
theorem run_handleRWError (c : Connection) (thread : ι → RWErrorPc) {i : ι}
    (hi : thread i = .outside) :
  ∃ n, Transition.run next ⟨c, thread, .idle⟩ (List.replicate n (.thread i))
    = some ⟨(c.handleRWError true).1, thread, .idle⟩
  := by
  have hback : Function.update thread i .outside = thread := by
    rw [← hi, Function.update_eq_self]
  cases hon : c.m_isTimerOn with
  | true =>
      use 2
      simp [List.replicate, Transition.run_cons, next, Connection.rwErrorStep, hi, hon,
        Connection.handleRWError, hback]
  | false =>
      use 8
      simp [List.replicate, Transition.run_cons, next, Connection.rwErrorStep, hi, hon,
        Connection.handleRWError, Connection.startReconnectTimer, Timer.start, Timer.stop,
        Timer.setPeriodicInterval, hback]

/-- A timer thread that nothing interferes with takes the connection through
`onReconnTimer`. -/
theorem run_onReconnTimer {c : Connection} (hc : c.m_reconnTimer.state = .armed)
    (thread : ι → RWErrorPc) (error : Bool) :
  ∃ n, Transition.run next ⟨c, thread, .idle⟩ (List.replicate n (.timer error))
    = some ⟨c.onReconnTimer error, thread, .idle⟩
  := by
  use 7
  cases hfails : (c.m_socket.connect error).2 with
  | true =>
      simp [List.replicate, Transition.run_cons, next, Connection.timerStep, hc, hfails,
        Connection.onReconnTimer, Connection.reconnect]
  | false =>
      simp [List.replicate, Transition.run_cons, next, Connection.timerStep, hc, hfails,
        Connection.onReconnTimer, Connection.reconnect]

end ReconnectSystem

end DoorSwitchSvr
