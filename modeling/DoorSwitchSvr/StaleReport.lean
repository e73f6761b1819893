import DoorSwitchSvr.ReplyDeadline
import Mathlib.Data.Fintype.Basic

/-!
# Stale reports

A connection that is lost makes the writes and the reads of all the controllers of its
handler fail, and each failure is reported to `handleRWError`.  Such a report may come when
the handler has connected again: it is then taken to be about the new connection, which is
closed (`stale_report`).

Each successful connection begins a new epoch, and each write, read and deadline is of the
epoch in which it was started.  The handler makes no difference between them, since nothing
of the epoch is recorded.

No report of an earlier epoch touches the connection of a later one, in every run in which
the handler only connects when no operation can report any more (`sparesNewer_of_run`).  A
run in which it connects earlier may go on to a stale report (`exists_stale_report`).

Each call of a handler, of the timer and of `handleRWError` is one step.
-/

namespace DoorSwitchSvr

open Transition

/-- Where a worker is in `sendData`: outside, writing, about to look at its deadline, or about
to report that its write has failed.  A write is of the epoch in which it was started. -/
inductive SendPc where
  | outside
  | writing (epoch : ℕ)
  | written
  | failed (epoch : ℕ)
  deriving DecidableEq, Repr

/-- The epoch of a write that fails or may fail. -/
def SendPc.epoch : SendPc → Option ℕ
  | .writing epoch | .failed epoch => some epoch
  | .outside | .written => none

/-- A read of a controller, started in an epoch. -/
structure ReadOp (κ : Type) where
  controller : κ
  epoch : ℕ
  deriving DecidableEq

/-- A read that has ended, with its error and its size; its handler is still to be run. -/
structure EndedRead (κ : Type) extends ReadOp κ where
  ec : Bool
  read_size : ℕ
  deriving DecidableEq

/-- The handler of the read reports an error. -/
def EndedRead.Reports {κ : Type} (r : EndedRead κ) : Prop := r.ec = true ∨ r.read_size = 0

instance {κ : Type} (r : EndedRead κ) : Decidable r.Reports :=
  inferInstanceAs (Decidable (_ ∨ _))

/-- The controllers `ctl` of a handler and its connection, in the epoch `epoch`.

* `send`: where the worker of each controller is in `sendData`.
* `reads`, `ended`: the reads that have not ended, and those whose handler is still to be
  run.
* `armedIn`: the epoch in which the deadline of a controller was started last. -/
structure EpochRun (κ : Type) where
  ctl : κ → DoorSwitchChannelController
  conn : Connection
  epoch : ℕ
  send : κ → SendPc
  reads : List (ReadOp κ)
  ended : List (EndedRead κ)
  armedIn : κ → ℕ

namespace EpochRun

variable {κ : Type}

/-- What happens next.

* `write`, `writeEnd`, `finish`: the worker of a controller begins a write in `sendData`, the
  write ends, and the worker looks at its deadline at the time `now`.
* `report`: the worker reports that its write has failed.
* `readEnd`: a read ends, and `handle`: its handler is run.
* `check`: the deadline of a controller is looked at.
* `tick`: the timer makes an attempt to connect. -/
inductive Action (κ : Type) where
  | write (k : κ)
  | writeEnd (k : κ) (error : Bool)
  | finish (k : κ) (now : Int)
  | report (k : κ)
  | readEnd (r : ReadOp κ) (ec : Bool) (read_size : ℕ)
  | handle (r : EndedRead κ)
  | check (k : κ) (now : Int)
  | tick (error : Bool)
  deriving DecidableEq

/-- Initialised controllers of a handler after its first `connect`. -/
def initial (m_channel : κ → UInt16) (error : Bool) : EpochRun κ where
  ctl k := (DoorSwitchChannelController.Init {} (m_channel k) .handleRWError).1
  conn := (({} : Connection).connect error true).1
  epoch := if error then 0 else 1
  send _ := .outside
  reads := []
  ended := []
  armedIn _ := 0

/-- With the connection closed the reads are aborted. -/
def setConn (s : EpochRun κ) (conn : Connection) : EpochRun κ :=
  if conn.m_socket = .connected then { s with conn := conn }
  else
    { s with
      conn := conn
      reads := []
      ended := s.ended ++ s.reads.map (fun r => ⟨r, true, 0⟩) }

/-- A read is started, which fails at once without a connection. -/
def startRead (s : EpochRun κ) (r : ReadOp κ) : EpochRun κ :=
  if s.conn.m_socket = .connected then { s with reads := s.reads ++ [r] }
  else { s with ended := s.ended ++ [⟨r, true, 0⟩] }

/-- The epoch of the operation because of which an action calls `handleRWError`, if it
does. -/
def cause (s : EpochRun κ) : Action κ → Option ℕ
  | .report k =>
      match s.send k with
      | .failed epoch => (s.ctl k).m_handleRWErrorCbFunc.map (fun _ => epoch)
      | .outside | .writing _ | .written => none
  | .handle r =>
      ((s.ctl r.controller).handle_read_ret r.ec r.read_size).2.map (fun _ => r.epoch)
  | .check k now => ((s.ctl k).check_read_ret_deadline now).2.map (fun _ => s.armedIn k)
  | .write _ | .writeEnd _ _ | .finish _ _ | .readEnd _ _ _ | .tick _ => none

/-- A report because of an operation of an earlier epoch leaves a connected handler connected
and its socket open. -/
def SparesNewer (s : EpochRun κ) (a : Action κ) (t : EpochRun κ) : Prop :=
  ∀ epoch ∈ s.cause a, epoch < s.epoch → s.conn.m_isConnected = true →
    t.conn.m_isConnected = true ∧ t.conn.m_socket ≠ .closed

instance (s : EpochRun κ) (a : Action κ) (t : EpochRun κ) : Decidable (SparesNewer s a t) :=
  inferInstanceAs (Decidable (∀ epoch ∈ s.cause a, _))

/-! ### What can still report -/

/-- Every operation that can still report is of an epoch that satisfies `R`: a write that has
failed or may fail, a read that has failed or may fail, and a deadline that is running. -/
structure Tags (R : ℕ → Prop) (s : EpochRun κ) : Prop where
  send : ∀ k, ∀ epoch ∈ (s.send k).epoch, R epoch
  reads : ∀ r ∈ s.reads, R r.epoch
  ended : ∀ r ∈ s.ended, r.Reports → R r.epoch
  armed : ∀ k, (s.ctl k).isArmed = true → R (s.armedIn k)

/-- No operation can report any more. -/
def Settled (s : EpochRun κ) : Prop := Tags (fun _ => False) s

instance [Fintype κ] (s : EpochRun κ) : Decidable s.Settled :=
  decidable_of_iff
    ((∀ k, ∀ epoch ∈ (s.send k).epoch, False) ∧ (∀ r ∈ s.reads, False)
      ∧ (∀ r ∈ s.ended, r.Reports → False) ∧ ∀ k, (s.ctl k).isArmed = true → False)
    ⟨fun ⟨h₁, h₂, h₃, h₄⟩ => ⟨h₁, h₂, h₃, h₄⟩, fun ⟨h₁, h₂, h₃, h₄⟩ => ⟨h₁, h₂, h₃, h₄⟩⟩

/-- The timer only connects when no operation can report any more. -/
def ConnectsSettled (s : EpochRun κ) : Action κ → Prop
  | .tick error => (s.conn.reconnect error).2 = true → s.Settled
  | _ => True

instance [Fintype κ] (s : EpochRun κ) : (a : Action κ) → Decidable (ConnectsSettled s a)
  | .tick _ => inferInstanceAs (Decidable (_ → _))
  | .write _ | .writeEnd _ _ | .finish _ _ | .report _ | .readEnd _ _ _ | .handle _
  | .check _ _ => isTrue trivial

theorem Tags.mono {R R' : ℕ → Prop} {s : EpochRun κ} (h : Tags R s)
    (hR : ∀ epoch, R epoch → R' epoch) :
  Tags R' s
  := by
  constructor
  · intro k epoch hepoch
    apply hR _ (h.send k epoch hepoch)
  · intro r hr
    apply hR _ (h.reads r hr)
  · intro r hr hreports
    apply hR _ (h.ended r hr hreports)
  · intro k harmed
    apply hR _ (h.armed k harmed)

theorem Tags.initial (R : ℕ → Prop) (m_channel : κ → UInt16) (error : Bool) :
  Tags R (initial m_channel error)
  := by
  constructor
  · intro k epoch hepoch
    cases hepoch
  · intro r hr
    cases hr
  · intro r hr
    cases hr
  · intro k harmed
    cases harmed

theorem Tags.setConn {R : ℕ → Prop} {s : EpochRun κ} (h : Tags R s) (conn : Connection) :
  Tags R (s.setConn conn)
  := by
  rw [EpochRun.setConn]
  split_ifs
  · exact ⟨h.send, h.reads, h.ended, h.armed⟩
  · constructor
    · apply h.send
    · intro r hr
      cases hr
    · intro r hr hreports
      rcases List.mem_append.mp hr with hr | hr
      · apply h.ended r hr hreports
      · obtain ⟨op, hop, rfl⟩ := List.mem_map.mp hr
        apply h.reads op hop
    · apply h.armed

theorem Tags.startRead {R : ℕ → Prop} {s : EpochRun κ} (h : Tags R s) {r : ReadOp κ}
    (hr : R r.epoch) :
  Tags R (s.startRead r)
  := by
  rw [EpochRun.startRead]
  split_ifs
  · constructor
    · apply h.send
    · intro r' hr'
      rcases List.mem_append.mp hr' with hr' | hr'
      · apply h.reads r' hr'
      · rw [List.mem_singleton.mp hr']
        apply hr
    · apply h.ended
    · apply h.armed
  · constructor
    · apply h.send
    · apply h.reads
    · intro r' hr' hreports
      rcases List.mem_append.mp hr' with hr' | hr'
      · apply h.ended r' hr' hreports
      · rw [List.mem_singleton.mp hr']
        apply hr
    · apply h.armed

section Steps

variable [DecidableEq κ]

/-- What a function of a controller leaves it as, and the callback it calls, if any. -/
def call (s : EpochRun κ) (k : κ)
    (x : DoorSwitchChannelController × Option HandleRWErrorCbFunc) : EpochRun κ :=
  match x with
  | (ctl, none) => { s with ctl := Function.update s.ctl k ctl }
  | (ctl, some .handleRWError) =>
      { s with ctl := Function.update s.ctl k ctl }.setConn (s.conn.handleRWError true).1

/-- The state after an action. -/
def next (s : EpochRun κ) : Action κ → Option (EpochRun κ)
  | .write k =>
      if s.send k = .outside then
        some { s with send := Function.update s.send k (.writing s.epoch) }
      else none
  | .writeEnd k error =>
      match s.send k with
      | .writing epoch =>
          if error then some { s with send := Function.update s.send k (.failed epoch) }
          else if s.conn.m_socket = .connected then
            some { s with send := Function.update s.send k .written }
          else none
      | .outside | .written | .failed _ => none
  | .finish k now =>
      match s.send k with
      | .written =>
          if (s.ctl k).m_write_ret_deadline_timer = .pos_infin then
            some ({ s with
              send := Function.update s.send k .outside
              ctl := Function.update s.ctl k ((s.ctl k).set_read_ret_deadline now)
              armedIn := Function.update s.armedIn k s.epoch }.startRead ⟨k, s.epoch⟩)
          else some { s with send := Function.update s.send k .outside }
      | .outside | .writing _ | .failed _ => none
  | .report k =>
      match s.send k with
      | .failed _ =>
          some ({ s with send := Function.update s.send k .outside }.call k
            (s.ctl k, (s.ctl k).m_handleRWErrorCbFunc))
      | .outside | .writing _ | .written => none
  | .readEnd r ec read_size =>
      if r ∈ s.reads then
        some { s with reads := s.reads.erase r, ended := s.ended ++ [⟨r, ec, read_size⟩] }
      else none
  | .handle r =>
      if r ∈ s.ended then
        some ({ s with ended := s.ended.erase r }.call r.controller
          ((s.ctl r.controller).handle_read_ret r.ec r.read_size))
      else none
  | .check k now => some (s.call k ((s.ctl k).check_read_ret_deadline now))
  | .tick error =>
      if s.conn.m_reconnTimer.state = .armed then
        some { s.setConn (s.conn.onReconnTimer error) with
          epoch := if (s.conn.reconnect error).2 then s.epoch + 1 else s.epoch }
      else none

/-- A step, one constructor for each branch of `next`. -/
inductive Step (s : EpochRun κ) : Action κ → EpochRun κ → Prop where
  | write (k : κ) (hsend : s.send k = .outside) :
      Step s (.write k) { s with send := Function.update s.send k (.writing s.epoch) }
  | writeFails (k : κ) (epoch : ℕ) (hsend : s.send k = .writing epoch) :
      Step s (.writeEnd k true) { s with send := Function.update s.send k (.failed epoch) }
  | writeEnds (k : κ) (epoch : ℕ) (hsend : s.send k = .writing epoch)
      (hsocket : s.conn.m_socket = .connected) :
      Step s (.writeEnd k false) { s with send := Function.update s.send k .written }
  | arm (k : κ) (now : Int) (hsend : s.send k = .written)
      (hinfin : (s.ctl k).m_write_ret_deadline_timer = .pos_infin) :
      Step s (.finish k now) ({ s with
        send := Function.update s.send k .outside
        ctl := Function.update s.ctl k ((s.ctl k).set_read_ret_deadline now)
        armedIn := Function.update s.armedIn k s.epoch }.startRead ⟨k, s.epoch⟩)
  | leave (k : κ) (now : Int) (hsend : s.send k = .written)
      (hinfin : (s.ctl k).m_write_ret_deadline_timer ≠ .pos_infin) :
      Step s (.finish k now) { s with send := Function.update s.send k .outside }
  | report (k : κ) (epoch : ℕ) (hsend : s.send k = .failed epoch) :
      Step s (.report k) ({ s with send := Function.update s.send k .outside }.call k
        (s.ctl k, (s.ctl k).m_handleRWErrorCbFunc))
  | readEnd (r : ReadOp κ) (ec : Bool) (read_size : ℕ) (hr : r ∈ s.reads) :
      Step s (.readEnd r ec read_size)
        { s with reads := s.reads.erase r, ended := s.ended ++ [⟨r, ec, read_size⟩] }
  | handle (r : EndedRead κ) (hr : r ∈ s.ended) :
      Step s (.handle r) ({ s with ended := s.ended.erase r }.call r.controller
        ((s.ctl r.controller).handle_read_ret r.ec r.read_size))
  | check (k : κ) (now : Int) :
      Step s (.check k now) (s.call k ((s.ctl k).check_read_ret_deadline now))
  | tick (error : Bool) (harmed : s.conn.m_reconnTimer.state = .armed) :
      Step s (.tick error) { s.setConn (s.conn.onReconnTimer error) with
        epoch := if (s.conn.reconnect error).2 then s.epoch + 1 else s.epoch }

/-- `Step` is the graph of `next`. -/
theorem step_of_next {s t : EpochRun κ} :
    ∀ {a : Action κ}, next s a = some t → Step s a t
  | .write k, hnext => by
      rw [next] at hnext
      split_ifs at hnext with hsend
      obtain rfl := Option.some.inj hnext
      apply Step.write k hsend
  | .writeEnd k error, hnext => by
      rw [next] at hnext
      split at hnext
      next epoch hsend =>
        cases error with
        | true =>
            obtain rfl := Option.some.inj hnext
            apply Step.writeFails k epoch hsend
        | false =>
            simp only [Bool.false_eq_true, if_false] at hnext
            split_ifs at hnext with hsocket
            obtain rfl := Option.some.inj hnext
            apply Step.writeEnds k epoch hsend hsocket
      all_goals cases hnext
  | .finish k now, hnext => by
      rw [next] at hnext
      split at hnext
      next hsend =>
        split_ifs at hnext with hinfin <;> obtain rfl := Option.some.inj hnext
        · apply Step.arm k now hsend hinfin
        · apply Step.leave k now hsend hinfin
      all_goals cases hnext
  | .report k, hnext => by
      rw [next] at hnext
      split at hnext
      next epoch hsend =>
        obtain rfl := Option.some.inj hnext
        apply Step.report k epoch hsend
      all_goals cases hnext
  | .readEnd r ec read_size, hnext => by
      rw [next] at hnext
      split_ifs at hnext with hr
      obtain rfl := Option.some.inj hnext
      apply Step.readEnd r ec read_size hr
  | .handle r, hnext => by
      rw [next] at hnext
      split_ifs at hnext with hr
      obtain rfl := Option.some.inj hnext
      apply Step.handle r hr
  | .check k now, hnext => by
      obtain rfl := Option.some.inj hnext
      apply Step.check k now
  | .tick error, hnext => by
      rw [next] at hnext
      by_cases harmed : s.conn.m_reconnTimer.state = .armed
      · rw [if_pos harmed] at hnext
        obtain rfl := Option.some.inj hnext
        apply Step.tick error harmed
      · rw [if_neg harmed] at hnext
        cases hnext

/-! ### Steps -/

theorem Tags.setCtl {R : ℕ → Prop} {s : EpochRun κ} (h : Tags R s) {k : κ}
    {ctl : DoorSwitchChannelController}
    (hctl : ctl.isArmed = true → (s.ctl k).isArmed = true) :
  Tags R { s with ctl := Function.update s.ctl k ctl }
  := by
  constructor
  · apply h.send
  · apply h.reads
  · apply h.ended
  · intro j harmed
    apply h.armed j
    rcases eq_or_ne j k with rfl | hne
    · simp only [Function.update_self] at harmed
      apply hctl harmed
    · simp only [Function.update_of_ne hne] at harmed
      apply harmed

theorem Tags.setSend {R : ℕ → Prop} {s : EpochRun κ} (h : Tags R s) (k : κ) {pc : SendPc}
    (hpc : ∀ epoch ∈ pc.epoch, R epoch) :
  Tags R { s with send := Function.update s.send k pc }
  := by
  constructor
  · intro j epoch hepoch
    rcases eq_or_ne j k with rfl | hne
    · simp only [Function.update_self] at hepoch
      apply hpc epoch hepoch
    · simp only [Function.update_of_ne hne] at hepoch
      apply h.send j epoch hepoch
  · apply h.reads
  · apply h.ended
  · apply h.armed

theorem Tags.call {R : ℕ → Prop} {s : EpochRun κ} (h : Tags R s) {k : κ}
    {x : DoorSwitchChannelController × Option HandleRWErrorCbFunc}
    (hx : x.1.isArmed = true → (s.ctl k).isArmed = true) :
  Tags R (s.call k x)
  := by
  obtain ⟨ctl, cb⟩ := x
  cases cb with
  | none => apply h.setCtl hx
  | some => apply (h.setCtl hx).setConn

omit [DecidableEq κ] in
/-- Looking at a deadline does not start it. -/
theorem isArmed_check_read_ret_deadline (c : DoorSwitchChannelController) (now : Int)
    (h : (c.check_read_ret_deadline now).1.isArmed = true) :
  c.isArmed = true
  := by
  rw [DoorSwitchChannelController.check_read_ret_deadline] at h
  split_ifs at h
  · cases h
  · apply h

/-- A write that ends starts no operation. -/
theorem Tags.writeEnd {R : ℕ → Prop} {s t : EpochRun κ} (h : Tags R s) {k : κ} {error : Bool}
    (hnext : next s (.writeEnd k error) = some t) :
  Tags R t
  := by
  cases step_of_next hnext with
  | writeFails _ epoch hsend =>
      apply h.setSend k
      intro epoch' hepoch
      apply h.send k epoch'
      rw [hsend]
      apply hepoch
  | writeEnds =>
      apply h.setSend k
      intro epoch hepoch
      cases hepoch

/-- A read that ends starts no operation. -/
theorem Tags.readEnd {R : ℕ → Prop} {s t : EpochRun κ} (h : Tags R s) {r : ReadOp κ}
    {ec : Bool} {read_size : ℕ} (hnext : next s (.readEnd r ec read_size) = some t) :
  Tags R t
  := by
  cases step_of_next hnext with
  | readEnd _ _ _ hr =>
      constructor
      · apply h.send
      · intro r' hr'
        apply h.reads r' (List.mem_of_mem_erase hr')
      · intro r' hr' hreports
        rcases List.mem_append.mp hr' with hr' | hr'
        · apply h.ended r' hr' hreports
        · rw [List.mem_singleton.mp hr']
          apply h.reads r hr
      · apply h.armed

/-- An attempt to connect starts no operation. -/
theorem Tags.tick {R : ℕ → Prop} {s t : EpochRun κ} (h : Tags R s) {error : Bool}
    (hnext : next s (.tick error) = some t) :
  Tags R t
  := by
  cases step_of_next hnext with
  | tick =>
      obtain ⟨hsend, hreads, hended, harmed⟩ := h.setConn (s.conn.onReconnTimer error)
      exact ⟨hsend, hreads, hended, harmed⟩

/-- The operations started in a step are of the current epoch. -/
theorem Tags.step {R : ℕ → Prop} {s t : EpochRun κ} (h : Tags R s) (hR : R s.epoch)
    {a : Action κ} (hnext : next s a = some t) :
  Tags R t
  := by
  have houtside : ∀ epoch ∈ SendPc.outside.epoch, R epoch := by
    intro epoch hepoch
    cases hepoch
  cases step_of_next hnext with
  | write k =>
      apply h.setSend k
      intro epoch hepoch
      obtain rfl := Option.some.inj hepoch
      apply hR
  | writeFails | writeEnds => apply h.writeEnd hnext
  | arm k now =>
      have hidle := h.setSend k houtside
      apply Tags.startRead _ hR
      constructor
      · apply hidle.send
      · apply h.reads
      · apply h.ended
      · intro j harmed
        rcases eq_or_ne j k with rfl | hne
        · simp only [Function.update_self]
          apply hR
        · simp only [Function.update_of_ne hne] at harmed ⊢
          apply h.armed j harmed
  | leave k => apply h.setSend k houtside
  | report k => apply (h.setSend k houtside).call (fun harmed => harmed)
  | readEnd => apply h.readEnd hnext
  | handle r =>
      have hrest : Tags R { s with ended := s.ended.erase r } := by
        constructor
        · apply h.send
        · apply h.reads
        · intro r' hr'
          apply h.ended r' (List.mem_of_mem_erase hr')
        · apply h.armed
      apply hrest.call
      intro harmed
      cases harmed
  | check => apply h.call (isArmed_check_read_ret_deadline _ _)
  | tick => apply h.tick hnext

omit [DecidableEq κ] in
theorem epoch_setConn (s : EpochRun κ) (conn : Connection) :
  (s.setConn conn).epoch = s.epoch
  := by
  rw [setConn]
  split_ifs <;> rfl

theorem epoch_call (s : EpochRun κ) (k : κ)
    (x : DoorSwitchChannelController × Option HandleRWErrorCbFunc) :
  (s.call k x).epoch = s.epoch
  := by
  obtain ⟨ctl, cb⟩ := x
  cases cb with
  | none => rfl
  | some => apply epoch_setConn

omit [DecidableEq κ] in
theorem epoch_startRead (s : EpochRun κ) (r : ReadOp κ) :
  (s.startRead r).epoch = s.epoch
  := by
  rw [startRead]
  split_ifs <;> rfl

/-- Only the timer begins an epoch, when it connects. -/
theorem epoch_of_next {s t : EpochRun κ} {a : Action κ} (hnext : next s a = some t) :
  t.epoch = s.epoch
    ∨ ∃ error, a = .tick error ∧ (s.conn.reconnect error).2 = true ∧ t.epoch = s.epoch + 1
  := by
  cases step_of_next hnext with
  | write | writeFails | writeEnds | leave | readEnd =>
      left
      rfl
  | arm =>
      left
      apply epoch_startRead
  | report | handle | check =>
      left
      apply epoch_call
  | tick error =>
      cases hok : (s.conn.reconnect error).2 with
      | true =>
          right
          exact ⟨error, rfl, hok, rfl⟩
      | false =>
          left
          rfl

/-! ### Runs -/

/-- An action reports because of an operation that can report. -/
theorem Tags.cause {R : ℕ → Prop} {s t : EpochRun κ} (h : Tags R s) {epoch : ℕ} :
    ∀ {a : Action κ}, next s a = some t → epoch ∈ s.cause a → R epoch
  | .report k, _, hcause => by
      rw [EpochRun.cause] at hcause
      split at hcause
      next epoch' hsend =>
        obtain ⟨_, -, rfl⟩ := Option.map_eq_some_iff.mp hcause
        apply h.send k
        rw [hsend]
        rfl
      all_goals cases hcause
  | .handle r, hnext, hcause => by
      rw [next] at hnext
      split_ifs at hnext with hr
      rw [EpochRun.cause, DoorSwitchChannelController.handle_read_ret] at hcause
      obtain ⟨_, hreports, rfl⟩ := Option.map_eq_some_iff.mp hcause
      apply h.ended r hr
      by_contra hnot
      rw [EndedRead.Reports] at hnot
      rw [if_neg hnot] at hreports
      cases hreports
  | .check k now, _, hcause => by
      rw [EpochRun.cause, DoorSwitchChannelController.check_read_ret_deadline] at hcause
      split_ifs at hcause with hpassed
      · obtain ⟨_, -, rfl⟩ := Option.map_eq_some_iff.mp hcause
        apply h.armed k
        obtain ⟨t, hexpiry, -⟩ := Expiry.exists_moment_of_passed hpassed
        rw [DoorSwitchChannelController.isArmed, hexpiry]
      · cases hcause
  | .write _, _, hcause | .writeEnd _ _, _, hcause | .finish _ _, _, hcause
  | .readEnd _ _ _, _, hcause | .tick _, _, hcause => by
      cases hcause

/-- Every operation that can still report is of the current epoch. -/
def Fresh (s : EpochRun κ) : Prop := Tags (fun epoch => epoch = s.epoch) s

theorem Fresh.step (s : EpochRun κ) (a : Action κ) (t : EpochRun κ) (h : Fresh s)
    (hok : ConnectsSettled s a) (hnext : next s a = some t) :
  Fresh t
  := by
  rcases epoch_of_next hnext with hepoch | ⟨error, rfl, hconnects, hepoch⟩
  · rw [Fresh, hepoch]
    apply Tags.step h rfl hnext
  · -- nothing of the earlier epochs is left
    have hsettled : Settled t := Tags.tick (hok hconnects) hnext
    apply hsettled.mono
    intro _ hfalse
    apply hfalse.elim

/-- In every run in which the handler only connects when no operation can report any more, no
report because of an operation of an earlier epoch makes a connected handler disconnected or
closes its socket. -/
theorem sparesNewer_of_run (m_channel : κ → UInt16) (error : Bool) (as : List (Action κ))
    (hok : Meets next ConnectsSettled (initial m_channel error) as) :
  Along next SparesNewer (initial m_channel error) as
  := by
  apply along_of_meets _ Fresh.step (Tags.initial _ m_channel error) hok
  intro s a t h _ hnext epoch hcause hlt
  have hepoch : epoch = s.epoch := h.cause hnext hcause
  omega

/-- Two controllers write and wait for their replies.  The read of the first one fails, the
connection is closed, and with it the read of the second one is aborted. -/
def lostReads : List (Action Bool) :=
  [.write false, .writeEnd false false, .finish false 0,
    .write true, .writeEnd true false, .finish true 0,
    .readEnd ⟨false, 1⟩ true 0, .handle ⟨⟨false, 1⟩, true, 0⟩]

/-- The first reply comes, but its handler is not run before the deadline, which is reported
and closes the connection.  The abort of the second read is reported, and the handler connects
again. -/
def lateHandler : List (Action Bool) :=
  [.write false, .writeEnd false false, .finish false 0,
    .write true, .writeEnd true false, .finish true 30000,
    .readEnd ⟨false, 1⟩ false 10, .check false 30000, .handle ⟨⟨true, 1⟩, true, 0⟩, .tick false]

/-- The handler of the first read runs when the handler is connected in the second epoch, as
does that of a read of this epoch. -/
theorem sparesNewer_of_run_two :
  Along next SparesNewer (initial (fun _ => 1) false)
    (lateHandler ++ [.handle ⟨⟨false, 1⟩, false, 10⟩, .write true, .writeEnd true false,
      .finish true 30000, .readEnd ⟨true, 2⟩ true 0, .handle ⟨⟨true, 2⟩, true, 0⟩])
  := sparesNewer_of_run (fun _ => 1) false _ (by decide)

/-- The first read of `lateHandler` has ended in the first epoch, and its handler has yet to be
run when the handler is connected in the second one. -/
example :
  (run next (initial (fun _ => 1) false) lateHandler).map
      (fun s => (s.ended, s.epoch, s.conn.m_isConnected))
    = some ([⟨⟨false, 1⟩, false, 10⟩], 2, true)
  := by decide

/-- The handler connects again before the second failure is reported, which then closes the
new connection. -/
theorem stale_report :
  ¬ Along next SparesNewer (initial (fun _ => 1) false)
    (lostReads ++ [.tick false, .handle ⟨⟨true, 1⟩, true, 0⟩])
  := by decide

/-! ### The condition is needed -/

/-- The handler is connected, all that can report is of earlier epochs, and the controllers
report to the handler. -/
structure Stale (s : EpochRun κ) : Prop where
  isConnected : s.conn.m_isConnected = true
  tags : Tags (fun epoch => epoch < s.epoch) s
  callback : ∀ k, (s.ctl k).m_handleRWErrorCbFunc = some .handleRWError

theorem isConnected_call {s : EpochRun κ} {k : κ}
    {x : DoorSwitchChannelController × Option HandleRWErrorCbFunc}
    (hx : x.2 = some .handleRWError) :
  (s.call k x).conn.m_isConnected = false
  := by
  obtain ⟨ctl, cb⟩ := x
  obtain rfl : cb = some .handleRWError := hx
  have hconn : (s.conn.handleRWError true).1.m_isConnected = false := by
    rw [Connection.handleRWError]
    split_ifs <;> rfl
  rw [call, setConn]
  split_ifs <;> apply hconn

/-- A report because of an operation of an earlier epoch does not spare the connection. -/
theorem Stale.not_along {s t : EpochRun κ} (h : Stale s) {a : Action κ} {epoch : ℕ}
    (hcause : epoch ∈ s.cause a) (hnext : next s a = some t)
    (hdisconnected : t.conn.m_isConnected = false) :
  ¬ Along next SparesNewer s [a]
  := by
  intro halong
  have hlt : epoch < s.epoch := h.tags.cause hnext hcause
  have hspares := ((halong t hnext).1 epoch hcause hlt h.isConnected).1
  rw [hdisconnected] at hspares
  cases hspares

theorem Stale.report {s : EpochRun κ} (h : Stale s) {k : κ} {epoch : ℕ}
    (hsend : s.send k = .failed epoch) :
  ¬ Along next SparesNewer s [.report k]
  := by
  have hcause : epoch ∈ s.cause (.report k) := by
    simp only [cause, hsend, h.callback]
    rfl
  have hnext : next s (.report k)
      = some ({ s with send := Function.update s.send k .outside }.call k
          (s.ctl k, (s.ctl k).m_handleRWErrorCbFunc)) := by
    simp only [next, hsend]
  apply h.not_along hcause hnext
  apply isConnected_call (h.callback k)

theorem Stale.handle {s : EpochRun κ} (h : Stale s) {r : EndedRead κ} (hr : r ∈ s.ended)
    (hreports : r.Reports) :
  ¬ Along next SparesNewer s [.handle r]
  := by
  have hcb : ((s.ctl r.controller).handle_read_ret r.ec r.read_size).2
      = some .handleRWError := by
    rw [DoorSwitchChannelController.handle_read_ret]
    rw [EndedRead.Reports] at hreports
    simp only [if_pos hreports, h.callback]
  have hcause : r.epoch ∈ s.cause (.handle r) := by
    rw [cause, hcb]
    rfl
  have hnext : next s (.handle r)
      = some ({ s with ended := s.ended.erase r }.call r.controller
          ((s.ctl r.controller).handle_read_ret r.ec r.read_size)) := by
    rw [next, if_pos hr]
  apply h.not_along hcause hnext
  apply isConnected_call hcb

theorem Stale.check {s : EpochRun κ} (h : Stale s) {k : κ}
    (harmed : (s.ctl k).isArmed = true) :
  ∃ now, ¬ Along next SparesNewer s [.check k now]
  := by
  cases hexpiry : (s.ctl k).m_write_ret_deadline_timer with
  | not_a_date_time | pos_infin =>
      simp [DoorSwitchChannelController.isArmed, hexpiry] at harmed
  | moment now =>
      use now
      have hcb : ((s.ctl k).check_read_ret_deadline now).2 = some .handleRWError := by
        have hpassed : (s.ctl k).m_write_ret_deadline_timer.passed now = true := by
          rw [hexpiry, Expiry.passed, decide_eq_true_eq]
        rw [DoorSwitchChannelController.check_read_ret_deadline, if_pos hpassed]
        apply h.callback
      have hcause : s.armedIn k ∈ s.cause (.check k now) := by
        rw [cause, hcb]
        rfl
      apply h.not_along hcause rfl
      apply isConnected_call hcb

/-- A handler that is connected while operations of earlier epochs can report may go on to
such a report. -/
theorem Stale.exists_report {s : EpochRun κ} (h : Stale s) (hnot : ¬ s.Settled) :
  ∃ as, ¬ Along next SparesNewer s as
  := by
  by_contra hall
  push Not at hall
  apply hnot
  constructor
  · intro k epoch hepoch
    cases hsend : s.send k with
    | outside | written =>
        rw [hsend] at hepoch
        cases hepoch
    | failed => apply h.report hsend (hall _)
    | writing epoch' =>
        have hnext : next s (.writeEnd k true)
            = some { s with send := Function.update s.send k (.failed epoch') } := by
          simp only [next, hsend, if_true]
        have hfailed : Stale { s with send := Function.update s.send k (.failed epoch') } :=
          ⟨h.isConnected, h.tags.writeEnd hnext, h.callback⟩
        apply hfailed.report (Function.update_self ..)
        apply (hall [.writeEnd k true, .report k] _ hnext).2
  · intro r hr
    have hnext : next s (.readEnd r true 0)
        = some { s with reads := s.reads.erase r, ended := s.ended ++ [⟨r, true, 0⟩] } := by
      rw [next, if_pos hr]
    have hended : Stale
        { s with reads := s.reads.erase r, ended := s.ended ++ [⟨r, true, 0⟩] } :=
      ⟨h.isConnected, h.tags.readEnd hnext, h.callback⟩
    apply hended.handle _ _ (hall [.readEnd r true 0, .handle ⟨r, true, 0⟩] _ hnext).2
    · apply List.mem_append_right _ (List.mem_singleton_self _)
    · left
      rfl
  · intro r hr hreports
    apply h.handle hr hreports (hall _)
  · intro k harmed
    obtain ⟨now, hcheck⟩ := h.check harmed
    apply hcheck (hall _)

/-- Every operation that can still report is of an epoch up to the current one, and the
controllers report to the handler. -/
structure Bounded (s : EpochRun κ) : Prop where
  tags : Tags (fun epoch => epoch ≤ s.epoch) s
  callback : ∀ k, (s.ctl k).m_handleRWErrorCbFunc = some .handleRWError

omit [DecidableEq κ] in
theorem ctl_setConn (s : EpochRun κ) (conn : Connection) :
  (s.setConn conn).ctl = s.ctl
  := by
  rw [setConn]
  split_ifs <;> rfl

theorem ctl_call (s : EpochRun κ) (k : κ)
    (x : DoorSwitchChannelController × Option HandleRWErrorCbFunc) :
  (s.call k x).ctl = Function.update s.ctl k x.1
  := by
  obtain ⟨ctl, cb⟩ := x
  cases cb with
  | none => rfl
  | some => apply ctl_setConn

omit [DecidableEq κ] in
theorem ctl_startRead (s : EpochRun κ) (r : ReadOp κ) :
  (s.startRead r).ctl = s.ctl
  := by
  rw [startRead]
  split_ifs <;> rfl

/-- Replacing a controller by one with its callback leaves all callbacks. -/
theorem callback_update {f : κ → DoorSwitchChannelController} {k : κ}
    {ctl : DoorSwitchChannelController}
    (h : ctl.m_handleRWErrorCbFunc = (f k).m_handleRWErrorCbFunc) (j : κ) :
  (Function.update f k ctl j).m_handleRWErrorCbFunc = (f j).m_handleRWErrorCbFunc
  := by
  rcases eq_or_ne j k with rfl | hne
  · rw [Function.update_self]
    apply h
  · rw [Function.update_of_ne hne]

/-- A step leaves a controller as it is or takes it through one of its functions, none of
which changes the callback. -/
theorem callback_of_next {s t : EpochRun κ} (j : κ) {a : Action κ}
    (hnext : next s a = some t) :
  (t.ctl j).m_handleRWErrorCbFunc = (s.ctl j).m_handleRWErrorCbFunc
  := by
  cases step_of_next hnext with
  | write | writeFails | writeEnds | leave | readEnd => rfl
  | arm k now =>
      rw [ctl_startRead]
      apply callback_update
      rfl
  | report k =>
      rw [ctl_call]
      apply callback_update
      rfl
  | handle r =>
      rw [ctl_call]
      apply callback_update
      rfl
  | check k now =>
      rw [ctl_call]
      apply callback_update
      rw [DoorSwitchChannelController.check_read_ret_deadline]
      split_ifs <;> rfl
  | tick error =>
      simp only [ctl_setConn]

theorem Bounded.step {s t : EpochRun κ} {a : Action κ} (h : Bounded s)
    (hnext : next s a = some t) :
  Bounded t
  := by
  constructor
  · have htags : Tags (fun epoch => epoch ≤ s.epoch) t := h.tags.step le_rfl hnext
    apply htags.mono
    intro epoch hepoch
    rcases epoch_of_next hnext with heq | ⟨-, -, -, heq⟩ <;> omega
  · intro k
    rw [callback_of_next k hnext]
    apply h.callback

/-- A tick that connects leaves the operations as they are. -/
theorem next_tick {s t : EpochRun κ} {error : Bool} (hconnects : (s.conn.reconnect error).2 = true)
    (hnext : next s (.tick error) = some t) :
  t = { s with conn := s.conn.onReconnTimer error, epoch := s.epoch + 1 }
    ∧ t.conn.m_isConnected = true
  := by
  obtain ⟨-, -, hreconnect⟩ := Connection.reconnect_succeeds hconnects
  have hconnected : (s.conn.onReconnTimer error).m_socket = .connected
      ∧ (s.conn.onReconnTimer error).m_isConnected = true := by
    rw [Connection.onReconnTimer, hreconnect]
    exact ⟨rfl, rfl⟩
  rw [next] at hnext
  split_ifs at hnext
  obtain rfl := Option.some.inj hnext
  rw [setConn, if_pos hconnected.1]
  exact ⟨rfl, hconnected.2⟩

/-- A run in which the handler connects while an operation can still report may go on to a
report that makes it disconnected. -/
theorem exists_stale_report (m_channel : κ → UInt16) (error : Bool) {as : List (Action κ)}
    {s t : EpochRun κ} (hrun : run next (initial m_channel error) as = some s) {error' : Bool}
    (hconnects : (s.conn.reconnect error').2 = true) (htick : next s (.tick error') = some t)
    (hnot : ¬ s.Settled) :
  ∃ bs, ¬ Along next SparesNewer (initial m_channel error) (as ++ .tick error' :: bs)
  := by
  have hinitial : Bounded (initial m_channel error) :=
    ⟨Tags.initial _ m_channel error, fun _ => rfl⟩
  have hbounded : Bounded s :=
    run_invariant_of_step (fun _ _ _ h hnext => Bounded.step h hnext) hinitial hrun
  obtain ⟨rfl, hconnected⟩ := next_tick hconnects htick
  have hstale : Stale { s with conn := s.conn.onReconnTimer error', epoch := s.epoch + 1 } := by
    constructor
    · apply hconnected
    · obtain ⟨hsend, hreads, hended, harmed⟩ :=
        hbounded.tags.mono (fun _ hepoch => Nat.lt_succ_of_le hepoch)
      exact ⟨hsend, hreads, hended, harmed⟩
    · apply hbounded.callback
  obtain ⟨bs, hbs⟩ : ∃ bs, ¬ Along next SparesNewer
      { s with conn := s.conn.onReconnTimer error', epoch := s.epoch + 1 } bs := by
    apply hstale.exists_report
    intro hsettled
    apply hnot
    exact ⟨hsettled.send, hsettled.reads, hsettled.ended, hsettled.armed⟩
  use bs
  intro halong
  apply hbs ((halong.of_append hrun) _ htick).2

end Steps

end EpochRun

end DoorSwitchSvr
