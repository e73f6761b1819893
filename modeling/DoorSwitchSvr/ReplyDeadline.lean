import DoorSwitchSvr.Connection
import DoorSwitchSvr.ReplyStream

/-!
# The deadline of a reply

One controller on the connection of its handler.  An infinite deadline is to mean that no
frame waits for its reply.

The deadline is a single one for all the frames of the controller.  A frame that is sent
while the deadline is running starts neither a deadline nor a read, and the read that
completes next stops the deadline, whether or not it has taken the reply to that frame
(`unwatched_frame`).

The deadline runs whenever a frame that has been written on the current connection waits for
its reply, exactly in the runs in which no frame waits for its reply when the handler of a
successful read is run (`noMissedReply_iff`).

Each call of `sendData`, of a handler and of the timer is a step, and so is each reply and
each receipt of bytes.
-/

namespace DoorSwitchSvr

open Transition

namespace DoorSwitchChannelController

/-- The deadline is running. -/
def isArmed (c : DoorSwitchChannelController) : Bool :=
  match c.m_write_ret_deadline_timer with
  | .moment _ => true
  | .not_a_date_time | .pos_infin => false

end DoorSwitchChannelController

/-- A controller and the connection of its handler.

* `waiting`: the reads that wait for bytes, the first one first, each with the number of
  bytes it has taken.
* `completed`: the reads whose handler is still to be run, each with its error and its size.
* `unreplied`: the frames written on the connection that the switch has not replied to, and
  `avail`: the bytes of its replies that have not been received. -/
structure ReplyDeadline where
  ctl : DoorSwitchChannelController
  conn : Connection
  waiting : List ℕ
  completed : List (Bool × ℕ)
  unreplied : ℕ
  avail : ℕ
  deriving DecidableEq

namespace ReplyDeadline

/-- What happens next.

* `sendData`: the worker calls `sendData` at the time `now`, whose write may fail.
* `reply`: the switch replies to a frame.
* `readSome`: the first read that waits takes `n` bytes, and `readFail`: it fails.
* `handle`: the handler of the first completed read is run.
* `check`: the deadline is looked at, at the time `now`.
* `tick`: the timer makes an attempt to connect. -/
inductive Action where
  | sendData (now : Int) (error : Bool)
  | reply
  | readSome (n : ℕ)
  | readFail
  | handle
  | check (now : Int)
  | tick (error : Bool)
  deriving DecidableEq

/-- With the connection closed the reads are aborted, and no frame has been written on the
next one. -/
def setConn (s : ReplyDeadline) (conn : Connection) : ReplyDeadline :=
  if conn.m_socket = .connected then { s with conn := conn }
  else
    { s with
      conn := conn
      waiting := []
      completed := s.completed ++ s.waiting.map (fun got => (true, got))
      unreplied := 0
      avail := 0 }

/-- What a function of the controller leaves it as, and the callback it calls, if any. -/
def report (s : ReplyDeadline)
    (x : DoorSwitchChannelController × Option HandleRWErrorCbFunc) : ReplyDeadline :=
  match x with
  | (ctl, none) => { s with ctl := ctl }
  | (ctl, some .handleRWError) => { s with ctl := ctl }.setConn (s.conn.handleRWError true).1

/-- The state after an action. -/
def next (s : ReplyDeadline) : Action → Option ReplyDeadline
  | .sendData now error =>
      if s.conn.m_socket = .connected ∧ error = false then
        if s.ctl.m_write_ret_deadline_timer = .pos_infin then
          some { s with
            unreplied := s.unreplied + 1
            ctl := s.ctl.set_read_ret_deadline now
            waiting := s.waiting ++ [0] }
        else some { s with unreplied := s.unreplied + 1 }
      else some (s.report (s.ctl, s.ctl.m_handleRWErrorCbFunc))
  | .reply =>
      if 0 < s.unreplied then
        some { s with unreplied := s.unreplied - 1, avail := s.avail + replySize }
      else none
  | .readSome n =>
      match s.waiting with
      | [] => none
      | got :: rest =>
          if 0 < n ∧ n ≤ s.avail ∧ n ≤ readLimit then
            if replySize ≤ got + n then
              some { s with
                waiting := rest
                completed := s.completed ++ [(false, got + n)]
                avail := s.avail - n }
            else some { s with waiting := (got + n) :: rest, avail := s.avail - n }
          else none
  | .readFail =>
      match s.waiting with
      | [] => none
      | got :: rest =>
          some { s with waiting := rest, completed := s.completed ++ [(true, got)] }
  | .handle =>
      match s.completed with
      | [] => none
      | (ec, read_size) :: rest =>
          some ({ s with completed := rest }.report (s.ctl.handle_read_ret ec read_size))
  | .check now => some (s.report (s.ctl.check_read_ret_deadline now))
  | .tick error =>
      if s.conn.m_reconnTimer.state = .armed then
        some (s.setConn (s.conn.onReconnTimer error))
      else none

/-- An initialised controller of a handler after its first `connect`. -/
def initial (channel : UInt16) (error : Bool) : ReplyDeadline where
  ctl := (DoorSwitchChannelController.Init {} channel .handleRWError).1
  conn := (({} : Connection).connect error true).1
  waiting := []
  completed := []
  unreplied := 0
  avail := 0

/-- A frame has been written on the current connection and its reply has not been
received. -/
def Awaits (s : ReplyDeadline) : Prop := 0 < s.unreplied ∨ 0 < s.avail

instance (s : ReplyDeadline) : Decidable s.Awaits :=
  inferInstanceAs (Decidable (_ ∨ _))

/-- The deadline is running while a frame waits for its reply. -/
def NoMissedReply (s : ReplyDeadline) : Prop := s.Awaits → s.ctl.isArmed

instance (s : ReplyDeadline) : Decidable s.NoMissedReply :=
  inferInstanceAs (Decidable (_ → _))

/-- No frame waits for its reply when the handler of a successful read is run. -/
def TakesAll (s : ReplyDeadline) : Action → Prop
  | .handle => ∀ p ∈ s.completed.head?, p.1 = false → ¬ s.Awaits
  | _ => True

instance (s : ReplyDeadline) : (a : Action) → Decidable (TakesAll s a)
  | .handle => inferInstanceAs (Decidable (∀ p ∈ s.completed.head?, _))
  | .sendData _ _ | .reply | .readSome _ | .readFail | .check _ | .tick _ => isTrue trivial

/-! ### The invariant -/

/-- The controller reports its failures to the handler; a connected handler has
`m_isTimerOn` unset; without a connection no frame waits for its reply; and a read that has
completed without an error has the size of a reply. -/
structure Tracked (s : ReplyDeadline) : Prop where
  callback : s.ctl.m_handleRWErrorCbFunc = some .handleRWError
  isSet : s.ctl.m_write_ret_deadline_timer ≠ .not_a_date_time
  timer_off : s.conn.m_socket = .connected → s.conn.m_isTimerOn = false
  not_awaits : s.conn.m_socket ≠ .connected → ¬ s.Awaits
  size : ∀ p ∈ s.completed, p.1 = false → replySize ≤ p.2

/-- The frames, the replies and the reads may change, as long as no frame comes to wait for its
reply and what completes has failed or has the size of a reply. -/
theorem Tracked.setReads {s : ReplyDeadline} (h : Tracked s) {waiting : List ℕ}
    {completed : List (Bool × ℕ)} {unreplied avail : ℕ}
    (hawaits : 0 < unreplied ∨ 0 < avail → s.Awaits)
    (hsize : ∀ p ∈ completed, p ∈ s.completed ∨ p.1 = true ∨ replySize ≤ p.2) :
  Tracked { s with
    waiting := waiting, completed := completed, unreplied := unreplied, avail := avail }
  := by
  constructor
  · apply h.callback
  · apply h.isSet
  · apply h.timer_off
  · intro hne
    apply mt hawaits (h.not_awaits hne)
  · intro p hp hfalse
    rcases hsize p hp with hmem | htrue | hle
    · apply h.size p hmem hfalse
    · apply absurd (htrue.symm.trans hfalse) Bool.noConfusion
    · apply hle

/-! ### Reports -/

/-- A report closes the connection. -/
theorem Tracked.handleRWError_closes {s : ReplyDeadline} (h : Tracked s) :
  (s.conn.handleRWError true).1.m_socket ≠ .connected
  := by
  rw [Connection.handleRWError]
  split_ifs with hoff
  · apply Socket.noConfusion
  · intro hsocket
    apply hoff (h.timer_off hsocket)

theorem not_awaits_setConn (s : ReplyDeadline) {conn : Connection}
    (hconn : conn.m_socket ≠ .connected) :
  ¬ (s.setConn conn).Awaits
  := by
  rw [setConn, if_neg hconn]
  rintro (h | h) <;> cases h

theorem ctl_setConn (s : ReplyDeadline) (conn : Connection) :
  (s.setConn conn).ctl = s.ctl
  := by
  rw [setConn]
  split_ifs <;> rfl

theorem Tracked.setConn {s : ReplyDeadline} (h : Tracked s) {conn : Connection}
    (hoff : conn.m_socket = .connected → conn.m_isTimerOn = false) :
  Tracked (s.setConn conn)
  := by
  by_cases hconn : conn.m_socket = .connected
  · rw [ReplyDeadline.setConn, if_pos hconn]
    constructor
    · apply h.callback
    · apply h.isSet
    · apply hoff
    · intro hne
      apply absurd hconn hne
    · apply h.size
  · have hnot := not_awaits_setConn s hconn
    rw [ReplyDeadline.setConn, if_neg hconn] at hnot ⊢
    constructor
    · apply h.callback
    · apply h.isSet
    · apply hoff
    · intro _
      apply hnot
    · intro p hp hfalse
      rcases List.mem_append.mp hp with hp | hp
      · apply h.size p hp hfalse
      · obtain ⟨got, -, rfl⟩ := List.mem_map.mp hp
        cases hfalse

/-- A controller may be changed, as long as it reports to the handler and its deadline has
been set. -/
theorem Tracked.setCtl {s : ReplyDeadline} (h : Tracked s) {ctl : DoorSwitchChannelController}
    (hcallback : ctl.m_handleRWErrorCbFunc = some .handleRWError)
    (hset : ctl.m_write_ret_deadline_timer ≠ .not_a_date_time) :
  Tracked { s with ctl := ctl }
  := ⟨hcallback, hset, h.timer_off, h.not_awaits, h.size⟩

theorem Tracked.report {s : ReplyDeadline} (h : Tracked s)
    {x : DoorSwitchChannelController × Option HandleRWErrorCbFunc}
    (hcallback : x.1.m_handleRWErrorCbFunc = some .handleRWError)
    (hset : x.1.m_write_ret_deadline_timer ≠ .not_a_date_time) :
  Tracked (s.report x)
  := by
  obtain ⟨ctl, cb⟩ := x
  have hctl := h.setCtl hcallback hset
  cases cb with
  | none => apply hctl
  | some =>
      apply hctl.setConn
      intro hsocket
      apply absurd hsocket h.handleRWError_closes

/-- After a report no frame waits for its reply. -/
theorem Tracked.not_awaits_report {s : ReplyDeadline} (h : Tracked s)
    (ctl : DoorSwitchChannelController) :
  ¬ (s.report (ctl, some .handleRWError)).Awaits
  := by
  apply not_awaits_setConn
  apply h.handleRWError_closes

/-! ### Steps -/

theorem Tracked.sendData {s t : ReplyDeadline} (h : Tracked s)
    {now : Int} {error : Bool} (hnext : next s (.sendData now error) = some t) :
  Tracked t ∧ t.NoMissedReply
  := by
  rw [next] at hnext
  split_ifs at hnext with hok hinf <;> obtain rfl := Option.some.inj hnext
  · constructor
    · constructor
      · apply h.callback
      · apply Expiry.noConfusion
      · apply h.timer_off
      · intro hne
        apply absurd hok.1 hne
      · apply h.size
    · intro _
      rfl
  · constructor
    · constructor
      · apply h.callback
      · apply h.isSet
      · apply h.timer_off
      · intro hne
        apply absurd hok.1 hne
      · apply h.size
    · -- the deadline has been set and is not infinite
      intro _
      cases hexpiry : s.ctl.m_write_ret_deadline_timer with
      | not_a_date_time => apply absurd hexpiry h.isSet
      | pos_infin => apply absurd hexpiry hinf
      | moment => simp [DoorSwitchChannelController.isArmed, hexpiry]
  · rw [h.callback]
    constructor
    · apply h.report h.callback h.isSet
    · intro hawaits
      apply absurd hawaits (h.not_awaits_report s.ctl)

theorem Tracked.reply {s t : ReplyDeadline} (h : Tracked s) (hs : s.NoMissedReply)
    (hnext : next s .reply = some t) :
  Tracked t ∧ t.NoMissedReply
  := by
  rw [next] at hnext
  split_ifs at hnext with hpos
  obtain rfl := Option.some.inj hnext
  constructor
  · apply h.setReads
    · intro _
      left
      apply hpos
    · intro p hp
      left
      apply hp
  · intro _
    apply hs (Or.inl hpos)

theorem Tracked.readSome {s t : ReplyDeadline} (h : Tracked s) (hs : s.NoMissedReply) {n : ℕ}
    (hnext : next s (.readSome n) = some t) :
  Tracked t ∧ t.NoMissedReply
  := by
  have hless : 0 < s.unreplied ∨ 0 < s.avail - n → s.Awaits := by
    apply Or.imp_right
    intro hpos
    apply Nat.lt_of_lt_of_le hpos (Nat.sub_le _ _)
  rw [next] at hnext
  split at hnext
  next => cases hnext
  next got rest hwaiting =>
    split_ifs at hnext with hn hdone <;> obtain rfl := Option.some.inj hnext
    · constructor
      · apply h.setReads hless
        intro p hp
        apply (List.mem_append.mp hp).imp_right
        intro hlast
        right
        rw [List.mem_singleton.mp hlast]
        apply hdone
      · intro hawaits
        apply hs (hless hawaits)
    · constructor
      · apply h.setReads hless
        intro p hp
        left
        apply hp
      · intro hawaits
        apply hs (hless hawaits)

theorem Tracked.readFail {s t : ReplyDeadline} (h : Tracked s) (hs : s.NoMissedReply)
    (hnext : next s .readFail = some t) :
  Tracked t ∧ t.NoMissedReply
  := by
  rw [next] at hnext
  split at hnext
  next => cases hnext
  next got rest hwaiting =>
    obtain rfl := Option.some.inj hnext
    constructor
    · apply h.setReads (fun hawaits => hawaits)
      intro p hp
      apply (List.mem_append.mp hp).imp_right
      intro hlast
      left
      rw [List.mem_singleton.mp hlast]
    · apply hs

theorem Tracked.check {s t : ReplyDeadline} (h : Tracked s) (hs : s.NoMissedReply) {now : Int}
    (hnext : next s (.check now) = some t) :
  Tracked t ∧ t.NoMissedReply
  := by
  rw [next, DoorSwitchChannelController.check_read_ret_deadline] at hnext
  split_ifs at hnext <;> obtain rfl := Option.some.inj hnext
  · rw [h.callback]
    constructor
    · apply h.report rfl Expiry.noConfusion
    · intro hawaits
      apply absurd hawaits (h.not_awaits_report _)
  · exact ⟨h.report h.callback h.isSet, hs⟩

/-- A tick that connects unsets `m_isTimerOn`. -/
theorem onReconnTimer_timer_off {c : Connection} {error : Bool}
    (h : (c.onReconnTimer error).m_socket = .connected) :
  (c.onReconnTimer error).m_isTimerOn = false
  := by
  rw [Connection.onReconnTimer] at h ⊢
  cases hok : (c.reconnect error).2 with
  | true =>
      obtain ⟨-, -, hreconnect⟩ := Connection.reconnect_succeeds hok
      rw [hreconnect]
      rfl
  | false =>
      rw [Connection.reconnect_failed hok] at h
      simp only [Connection.growInterval, Bool.false_eq_true, if_false] at h
      split_ifs at h

theorem Tracked.tick {s t : ReplyDeadline} (h : Tracked s) (hs : s.NoMissedReply)
    {error : Bool} (hnext : next s (.tick error) = some t) :
  Tracked t ∧ t.NoMissedReply
  := by
  rw [next] at hnext
  split_ifs at hnext
  obtain rfl := Option.some.inj hnext
  constructor
  · apply h.setConn onReconnTimer_timer_off
  · intro hawaits
    rw [ctl_setConn]
    by_cases hsocket : (s.conn.onReconnTimer error).m_socket = .connected
    · rw [ReplyDeadline.setConn, if_pos hsocket] at hawaits
      apply hs hawaits
    · apply absurd hawaits (not_awaits_setConn s hsocket)

/-- The handler of a read stops the deadline; when the read has failed it also closes the
connection. -/
theorem Tracked.handle {s t : ReplyDeadline} (h : Tracked s) (hnext : next s .handle = some t) :
  Tracked t ∧ (t.NoMissedReply ↔ TakesAll s .handle)
  := by
  rw [next] at hnext
  split at hnext
  next => cases hnext
  next ec read_size rest hcompleted =>
    obtain rfl := Option.some.inj hnext
    have hrest : Tracked { s with completed := rest } := by
      apply h.setReads (fun hawaits => hawaits)
      intro p hp
      left
      rw [hcompleted]
      apply List.mem_cons_of_mem _ hp
    use hrest.report h.callback Expiry.noConfusion
    simp only [TakesAll, hcompleted, List.head?_cons, Option.mem_some_iff, forall_eq']
    cases ec with
    | true =>
        constructor
        · intro _ hfalse
          cases hfalse
        · intro _ hawaits
          rw [DoorSwitchChannelController.handle_read_ret, if_pos (Or.inl rfl), h.callback]
            at hawaits
          apply absurd hawaits (hrest.not_awaits_report _)
    | false =>
        have hsize : replySize ≤ read_size := by
          apply h.size (false, read_size) _ rfl
          rw [hcompleted]
          apply List.mem_cons_self
        have hno : ¬ (false = true ∨ read_size = 0) := by
          rintro (hfalse | hzero)
          · cases hfalse
          · rw [hzero] at hsize
            cases hsize
        rw [DoorSwitchChannelController.handle_read_ret, if_neg hno]
        constructor
        · intro ht _ hawaits
          cases ht hawaits
        · intro hnot hawaits
          apply absurd hawaits (hnot rfl)

/-! ### Runs -/

/-- The deadline is running while a frame waits for its reply. -/
structure Inv (s : ReplyDeadline) : Prop where
  tracked : Tracked s
  noMissedReply : s.NoMissedReply

theorem Inv.initial (channel : UInt16) (error : Bool) :
  Inv (initial channel error)
  := by
  constructor
  · constructor
    · rfl
    · apply Expiry.noConfusion
    · intro hsocket
      cases error with
      | true => cases hsocket
      | false => rfl
    · rintro - (h | h) <;> cases h
    · intro p hp
      cases hp
  · rintro (h | h) <;> cases h

/-- A step leaves the deadline running while a frame waits for its reply, exactly when it
does not run the handler of a successful read while a frame waits for its reply. -/
theorem Inv.tracked_and_iff {s t : ReplyDeadline} (h : Inv s) :
    ∀ {a : Action}, next s a = some t → Tracked t ∧ (t.NoMissedReply ↔ TakesAll s a)
  | .sendData _ _, hnext => by
      obtain ⟨htracked, ht⟩ := h.tracked.sendData hnext
      exact ⟨htracked, iff_of_true ht trivial⟩
  | .reply, hnext => by
      obtain ⟨htracked, ht⟩ := h.tracked.reply h.noMissedReply hnext
      exact ⟨htracked, iff_of_true ht trivial⟩
  | .readSome _, hnext => by
      obtain ⟨htracked, ht⟩ := h.tracked.readSome h.noMissedReply hnext
      exact ⟨htracked, iff_of_true ht trivial⟩
  | .readFail, hnext => by
      obtain ⟨htracked, ht⟩ := h.tracked.readFail h.noMissedReply hnext
      exact ⟨htracked, iff_of_true ht trivial⟩
  | .handle, hnext => h.tracked.handle hnext
  | .check _, hnext => by
      obtain ⟨htracked, ht⟩ := h.tracked.check h.noMissedReply hnext
      exact ⟨htracked, iff_of_true ht trivial⟩
  | .tick _, hnext => by
      obtain ⟨htracked, ht⟩ := h.tracked.tick h.noMissedReply hnext
      exact ⟨htracked, iff_of_true ht trivial⟩

theorem Inv.step (s : ReplyDeadline) (a : Action) (t : ReplyDeadline) (h : Inv s)
    (hok : TakesAll s a) (hnext : next s a = some t) :
  Inv t
  := by
  obtain ⟨htracked, hiff⟩ := h.tracked_and_iff hnext
  exact ⟨htracked, hiff.mpr hok⟩

/-- In every run the deadline is running in each state in which a frame written on the
current connection waits for its reply, if and only if no frame waits for its reply whenever
the handler of a successful read is run. -/
theorem noMissedReply_iff (channel : UInt16) (error : Bool) (as : List Action) :
  Along next (fun _ _ t => t.NoMissedReply) (initial channel error) as
    ↔ Meets next TakesAll (initial channel error) as
  := by
  apply along_iff_meets _ Inv.step (Inv.initial channel error)
  intro s a t h hnext
  apply (h.tracked_and_iff hnext).2

/-- Two frames, of which the second one is sent before the reply to the first comes. -/
def twoFrames : List Action :=
  [.sendData 0 false, .sendData 5 false, .reply, .readSome 3, .handle]

/-- After `twoFrames` the second frame waits for its reply, and no deadline is running. -/
theorem unwatched_frame :
  ∃ t, run next (initial 1 false) twoFrames = some t ∧ ¬ t.NoMissedReply
    ∧ ¬ Along next (fun _ _ t => t.NoMissedReply) (initial 1 false) twoFrames
  := ⟨_, rfl, by decide, by decide⟩

end ReplyDeadline

end DoorSwitchSvr
