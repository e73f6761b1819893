import DoorSwitchSvr.ChannelController
import DoorSwitchSvr.Lib.Transition

/-!
# Replies of the switch

The switch answers each frame with a reply of three bytes.  The controllers of a handler
share its socket: a controller that has written a frame starts a deadline and an
`async_read` of at least three bytes, unless its deadline is running already, and the
deadline is stopped when that read completes.

The reads are served in the order in which they were started, and each takes what bytes it
finds, up to 512 at once.  A read that takes the replies of two controllers leaves the
other one waiting for a reply that has come (`false_timeout`).

The deadlines are all stopped once every frame is answered and every reply is read, in
every run in which a read that completes leaves a whole reply for each read that waits or
is about to be started (`allStopped_of_run`).  A single step that does not can be continued
to a false timeout (`exists_false_timeout`).
-/

namespace DoorSwitchSvr

open Transition

/-- The size of the reply to a frame, which is also the least size of a read. -/
def replySize : ℕ := 3

/-- The most bytes a read takes at once. -/
def readLimit : ℕ := 512

/-- The moment is not after `now`. -/
def Expiry.passed (now : Int) : Expiry → Bool
  | .moment t => t ≤ now
  | .not_a_date_time | .pos_infin => false

theorem Expiry.exists_moment_of_passed {e : Expiry} {now : Int} (h : e.passed now = true) :
  ∃ t, e = .moment t ∧ t ≤ now
  := by
  cases e with
  | moment t => exact ⟨t, rfl, of_decide_eq_true h⟩
  | not_a_date_time | pos_infin => cases h

namespace DoorSwitchChannelController

/-- The deadline of a reply is 30 seconds from `now`, in milliseconds. -/
def set_read_ret_deadline (c : DoorSwitchChannelController) (now : Int) :
    DoorSwitchChannelController :=
  { c with m_write_ret_deadline_timer := .moment (now + 30 * 1000) }

/-- A read has completed: the deadline is stopped, and an error is reported, if there was
one. -/
def handle_read_ret (c : DoorSwitchChannelController) (ec : Bool) (read_size : ℕ) :
    DoorSwitchChannelController × Option HandleRWErrorCbFunc :=
  ({ c with m_write_ret_deadline_timer := .pos_infin },
    if ec ∨ read_size = 0 then c.m_handleRWErrorCbFunc else none)

/-- The deadline is looked at: when it has passed, an error is reported, and the deadline is
stopped. -/
def check_read_ret_deadline (c : DoorSwitchChannelController) (now : Int) :
    DoorSwitchChannelController × Option HandleRWErrorCbFunc :=
  if c.m_write_ret_deadline_timer.passed now then
    ({ c with m_write_ret_deadline_timer := .pos_infin }, c.m_handleRWErrorCbFunc)
  else (c, none)

end DoorSwitchChannelController

/-- The controllers `ctl` of a handler and its socket.

* `sending`: the controllers that have written a frame in `sendData`, and are about to look
  at their deadline.
* `reads`: those that wait for their read to complete, in the order of the reads, and
  `got`: the bytes that the first of the reads has taken.
* `unreplied`: the frames that the switch has not replied to, and `avail`: the bytes of its
  replies that have not been read. -/
structure ReplyStream (κ : Type) where
  ctl : κ → DoorSwitchChannelController
  sending : List κ
  reads : List κ
  got : ℕ
  unreplied : ℕ
  avail : ℕ

namespace ReplyStream

variable {κ : Type} [DecidableEq κ]

/-- What happens next.

* `write`: a controller writes a frame in `sendData`.
* `arm`: it finishes `sendData` at the time `now`.
* `reply`: the switch replies to a frame.
* `readSome`: the first read takes `n` bytes. -/
inductive Action (κ : Type) where
  | write (k : κ)
  | arm (k : κ) (now : Int)
  | reply
  | readSome (n : ℕ)
  deriving DecidableEq

/-- The deadline of a controller is not running. -/
def Stopped (s : ReplyStream κ) (k : κ) : Prop :=
  (s.ctl k).m_write_ret_deadline_timer = .pos_infin

instance (s : ReplyStream κ) (k : κ) : Decidable (s.Stopped k) :=
  inferInstanceAs (Decidable (_ = _))

/-- The state after an action. -/
def next (s : ReplyStream κ) : Action κ → Option (ReplyStream κ)
  | .write k =>
      if k ∈ s.sending then none
      else some { s with sending := k :: s.sending, unreplied := s.unreplied + 1 }
  | .arm k now =>
      if k ∈ s.sending then
        if s.Stopped k then
          some { s with
            ctl := Function.update s.ctl k ((s.ctl k).set_read_ret_deadline now)
            sending := s.sending.erase k
            reads := s.reads ++ [k] }
        else some { s with sending := s.sending.erase k }
      else none
  | .reply =>
      if 0 < s.unreplied then
        some { s with unreplied := s.unreplied - 1, avail := s.avail + replySize }
      else none
  | .readSome n =>
      match s.reads with
      | [] => none
      | k :: rest =>
          if 0 < n ∧ n ≤ s.avail ∧ n ≤ readLimit then
            if replySize ≤ s.got + n then
              some { s with
                ctl := Function.update s.ctl k ((s.ctl k).handle_read_ret false (s.got + n)).1
                reads := rest
                got := 0
                avail := s.avail - n }
            else some { s with got := s.got + n, avail := s.avail - n }
          else none

/-- Initialised controllers, and nothing written. -/
def initial (m_channel : κ → UInt16) : ReplyStream κ where
  ctl k := (DoorSwitchChannelController.Init {} (m_channel k) .handleRWError).1
  sending := []
  reads := []
  got := 0
  unreplied := 0
  avail := 0

/-- The switch has replied to every frame, and every reply has been read. -/
def AllAnswered (s : ReplyStream κ) : Prop := s.unreplied = 0 ∧ s.avail = 0

/-- When everything is answered and read, no deadline is running. -/
def AllStopped (s : ReplyStream κ) : Prop := s.AllAnswered → ∀ k, s.Stopped k

/-! ### Demand and supply -/

/-- The reads that wait, and those that will be started by a `sendData` under way. -/
def demand (s : ReplyStream κ) : ℕ :=
  s.reads.length + s.sending.countP (fun k => s.Stopped k)

/-- The bytes taken, to be read, and to come. -/
def supply (s : ReplyStream κ) : ℕ := s.got + s.avail + replySize * s.unreplied

/-- The action does not complete a read without leaving a whole reply for each read that
waits then, or will be started by a `sendData` under way. -/
def LeavesReplies (s : ReplyStream κ) : Action κ → Prop
  | .readSome n =>
      ∀ k ∈ s.reads.head?, replySize ≤ s.got + n →
        replySize * (s.reads.tail.length + s.sending.countP (fun j => j = k ∨ s.Stopped j))
          ≤ s.avail - n + replySize * s.unreplied
  | _ => True

instance (s : ReplyStream κ) : (a : Action κ) → Decidable (LeavesReplies s a)
  | .readSome _ => inferInstanceAs (Decidable (∀ k ∈ s.reads.head?, _ → _))
  | .write _ | .arm _ _ | .reply => isTrue trivial

/-- The controllers in `reads` are those whose deadlines are running, each once; no
controller is twice in `sending`; and the first read has not all its bytes. -/
structure Tracked (s : ReplyStream κ) : Prop where
  stopped_iff : ∀ k, s.Stopped k ↔ k ∉ s.reads
  reads_nodup : s.reads.Nodup
  sending_nodup : s.sending.Nodup
  got_lt : s.got < replySize

/-! ### Steps -/

/-- Writing a frame makes the switch owe a reply. -/
theorem next_write {s t : ReplyStream κ} {k : κ} (h : next s (.write k) = some t) :
  k ∉ s.sending ∧ t.sending = k :: s.sending ∧ t.reads = s.reads ∧ t.got = s.got
    ∧ t.supply = s.supply + replySize ∧ ∀ j, t.Stopped j ↔ s.Stopped j
  := by
  rw [next] at h
  split_ifs at h with hk
  obtain rfl := Option.some.inj h
  refine ⟨hk, rfl, rfl, rfl, ?_, fun _ => Iff.rfl⟩
  simp only [supply, replySize]
  omega

/-- A reply that was to come is there to be read. -/
theorem next_reply {s t : ReplyStream κ} (h : next s .reply = some t) :
  t.sending = s.sending ∧ t.reads = s.reads ∧ t.got = s.got ∧ t.unreplied + 1 = s.unreplied
    ∧ t.avail = s.avail + replySize ∧ ∀ j, t.Stopped j ↔ s.Stopped j
  := by
  rw [next] at h
  split_ifs at h with hpos
  obtain rfl := Option.some.inj h
  exact ⟨rfl, rfl, rfl, Nat.succ_pred_eq_of_pos hpos, rfl, fun _ => Iff.rfl⟩

/-- Finishing `sendData` starts a read and the deadline, if the deadline is not running. -/
theorem next_arm {s t : ReplyStream κ} {k : κ} {now : Int} (h : next s (.arm k now) = some t) :
  k ∈ s.sending ∧ t.sending = s.sending.erase k ∧ t.got = s.got ∧ t.unreplied = s.unreplied
    ∧ t.avail = s.avail
    ∧ (s.Stopped k ∧ t.reads = s.reads ++ [k] ∧ (∀ j, t.Stopped j ↔ j ≠ k ∧ s.Stopped j)
      ∨ ¬ s.Stopped k ∧ t.reads = s.reads ∧ ∀ j, t.Stopped j ↔ s.Stopped j)
  := by
  rw [next] at h
  split_ifs at h with hk hstopped
  · obtain rfl := Option.some.inj h
    refine ⟨hk, rfl, rfl, rfl, rfl, Or.inl ⟨hstopped, rfl, ?_⟩⟩
    intro j
    rcases eq_or_ne j k with rfl | hne
    · simp [Stopped, DoorSwitchChannelController.set_read_ret_deadline]
    · simp [Stopped, hne]
  · obtain rfl := Option.some.inj h
    exact ⟨hk, rfl, rfl, rfl, rfl, Or.inr ⟨hstopped, rfl, fun _ => Iff.rfl⟩⟩

/-- Taking bytes completes the first read, and stops its deadline, once it has enough. -/
theorem next_readSome {s t : ReplyStream κ} {n : ℕ} (h : next s (.readSome n) = some t) :
  ∃ k rest, s.reads = k :: rest ∧ n ≤ s.avail ∧ t.sending = s.sending
    ∧ t.unreplied = s.unreplied ∧ t.avail = s.avail - n
    ∧ (replySize ≤ s.got + n ∧ t.reads = rest ∧ t.got = 0
        ∧ (∀ j, t.Stopped j ↔ j = k ∨ s.Stopped j)
      ∨ s.got + n < replySize ∧ t.reads = k :: rest ∧ t.got = s.got + n
        ∧ ∀ j, t.Stopped j ↔ s.Stopped j)
  := by
  rw [next] at h
  split at h
  next => cases h
  next k rest hreads =>
    use k, rest, hreads
    split_ifs at h with hn hdone
    · obtain rfl := Option.some.inj h
      refine ⟨hn.2.1, rfl, rfl, rfl, Or.inl ⟨hdone, rfl, rfl, ?_⟩⟩
      intro j
      rcases eq_or_ne j k with rfl | hne
      · simp [Stopped, DoorSwitchChannelController.handle_read_ret]
      · simp [Stopped, hne]
    · obtain rfl := Option.some.inj h
      exact ⟨hn.2.1, rfl, rfl, rfl,
        Or.inr ⟨Nat.lt_of_not_le hdone, hreads, rfl, fun _ => Iff.rfl⟩⟩

omit [DecidableEq κ] in
/-- A step that leaves the reads and the deadlines alone keeps them together. -/
theorem Tracked.of_reads_eq {s t : ReplyStream κ} (h : Tracked s) (hreads : t.reads = s.reads)
    (hstopped : ∀ j, t.Stopped j ↔ s.Stopped j) (hsending : t.sending.Nodup)
    (hgot : t.got < replySize) :
  Tracked t
  := by
  constructor
  · intro j
    rw [hstopped, hreads, h.stopped_iff]
  · rw [hreads]
    apply h.reads_nodup
  · apply hsending
  · apply hgot

/-- Every step keeps the reads and the deadlines together. -/
theorem Tracked.step {s t : ReplyStream κ} (h : Tracked s) :
    ∀ {a : Action κ}, next s a = some t → Tracked t
  | .write k, hnext => by
      obtain ⟨hk, hsending, hreads, hgot, -, hstopped⟩ := next_write hnext
      apply h.of_reads_eq hreads hstopped
      · rw [hsending]
        apply List.nodup_cons.mpr ⟨hk, h.sending_nodup⟩
      · rw [hgot]
        apply h.got_lt
  | .arm k now, hnext => by
      obtain ⟨hk, hsending, hgot, -, -, hcases⟩ := next_arm hnext
      have hnodup : t.sending.Nodup := by
        rw [hsending]
        apply h.sending_nodup.erase
      have hlt : t.got < replySize := by
        rw [hgot]
        apply h.got_lt
      rcases hcases with ⟨hstopped, hreads, hstopped'⟩ | ⟨-, hreads, hstopped'⟩
      · have hnot : k ∉ s.reads := (h.stopped_iff k).mp hstopped
        constructor
        · intro j
          rw [hstopped', h.stopped_iff, hreads, List.mem_append, List.mem_singleton, not_or]
          exact And.comm
        · rw [hreads]
          apply List.nodup_append.mpr
          refine ⟨h.reads_nodup, by simp, ?_⟩
          intro j hj j' hj'
          obtain rfl := List.mem_singleton.mp hj'
          rintro rfl
          apply hnot hj
        · apply hnodup
        · apply hlt
      · apply h.of_reads_eq hreads hstopped' hnodup hlt
  | .reply, hnext => by
      obtain ⟨hsending, hreads, hgot, -, -, hstopped⟩ := next_reply hnext
      apply h.of_reads_eq hreads hstopped
      · rw [hsending]
        apply h.sending_nodup
      · rw [hgot]
        apply h.got_lt
  | .readSome n, hnext => by
      obtain ⟨k, rest, hreads, -, hsending, -, -, hcases⟩ := next_readSome hnext
      have hnodup : t.sending.Nodup := by
        rw [hsending]
        apply h.sending_nodup
      rcases hcases with ⟨-, hreads', hgot, hstopped'⟩ | ⟨hlt, hreads', hgot, hstopped'⟩
      · have hstopped := h.stopped_iff
        have hreadsnodup := h.reads_nodup
        rw [hreads] at hstopped hreadsnodup
        obtain ⟨hk, hrest⟩ := List.nodup_cons.mp hreadsnodup
        constructor
        · intro j
          rw [hstopped', hstopped, hreads', List.mem_cons, not_or]
          rcases eq_or_ne j k with rfl | hne
          · simp [hk]
          · simp [hne]
        · rw [hreads']
          apply hrest
        · apply hnodup
        · rw [hgot]
          exact Nat.succ_pos 2
      · apply h.of_reads_eq (hreads'.trans hreads.symm) hstopped' hnodup
        rw [hgot]
        apply hlt

/-- Finishing a `sendData` changes neither the demand nor the supply. -/
theorem demand_arm {s t : ReplyStream κ} (h : Tracked s) {k : κ} {now : Int}
    (hnext : next s (.arm k now) = some t) :
  t.demand = s.demand ∧ t.supply = s.supply
  := by
  obtain ⟨hk, hsending, hgot, hunreplied, havail, hcases⟩ := next_arm hnext
  constructor
  · have hcount : s.sending.countP (fun j => s.Stopped j)
        = (s.sending.erase k).countP (fun j => s.Stopped j) + if s.Stopped k then 1 else 0 := by
      rw [(List.perm_cons_erase hk).countP_eq, List.countP_cons]
      simp
    have hsame : (s.sending.erase k).countP (fun j => t.Stopped j)
        = (s.sending.erase k).countP (fun j => s.Stopped j) := by
      apply List.countP_congr
      intro j hj
      have hne : j ≠ k := ((h.sending_nodup.mem_erase_iff).mp hj).1
      rcases hcases with ⟨-, -, hstopped⟩ | ⟨-, -, hstopped⟩ <;> simp [hstopped, hne]
    rw [demand, demand, hsending, hsame, hcount]
    rcases hcases with ⟨hstopped, hreads, -⟩ | ⟨hstopped, hreads, -⟩
    · rw [hreads, if_pos hstopped, List.length_append, List.length_singleton]
      omega
    · rw [hreads, if_neg hstopped, Nat.add_zero]
  · rw [supply, supply, hgot, hunreplied, havail]

/-- A reply changes neither the demand nor the supply. -/
theorem demand_reply {s t : ReplyStream κ} (hnext : next s .reply = some t) :
  t.demand = s.demand ∧ t.supply = s.supply
  := by
  obtain ⟨hsending, hreads, hgot, hunreplied, havail, hstopped⟩ := next_reply hnext
  constructor
  · rw [demand, demand, hsending, hreads]
    simp only [hstopped]
  · rw [supply, supply, hgot, havail, ← hunreplied]
    simp only [replySize]
    omega

/-- Taking bytes that do not complete a read changes neither the demand nor the supply. -/
theorem demand_readSome_of_lt {s t : ReplyStream κ} {n : ℕ}
    (hnext : next s (.readSome n) = some t) (hlt : s.got + n < replySize) :
  t.demand = s.demand ∧ t.supply = s.supply
  := by
  obtain ⟨k, rest, hreads, hn, hsending, hunreplied, havail, hcases⟩ := next_readSome hnext
  rcases hcases with ⟨hdone, -⟩ | ⟨-, hreads', hgot, hstopped⟩
  · apply absurd hdone (Nat.not_le_of_lt hlt)
  · constructor
    · rw [demand, demand, hreads', hsending, hreads]
      simp only [hstopped]
    · rw [supply, supply, hgot, havail, hunreplied]
      omega

/-- Completing a read leaves the other reads, and the bytes not yet taken. -/
theorem demand_readSome_of_le {s t : ReplyStream κ} {n : ℕ}
    (hnext : next s (.readSome n) = some t) (hdone : replySize ≤ s.got + n) :
  ∃ k ∈ s.reads.head?,
    t.demand = s.reads.tail.length + s.sending.countP (fun j => j = k ∨ s.Stopped j)
      ∧ t.supply = s.avail - n + replySize * s.unreplied
  := by
  obtain ⟨k, rest, hreads, hn, hsending, hunreplied, havail, hcases⟩ := next_readSome hnext
  rcases hcases with ⟨-, hreads', hgot, hstopped⟩ | ⟨hlt, -⟩
  · refine ⟨k, by rw [hreads]; rfl, ?_, ?_⟩
    · rw [demand, hreads', hsending, hreads, List.tail_cons]
      simp only [hstopped]
    · rw [supply, hgot, havail, hunreplied, Nat.zero_add]
  · apply absurd hdone (Nat.not_le_of_lt hlt)

/-! ### The invariant -/

/-- There is a whole reply for each read. -/
structure Inv (s : ReplyStream κ) : Prop where
  tracked : Tracked s
  supplied : replySize * s.demand ≤ s.supply

omit [DecidableEq κ] in
theorem Inv.initial (m_channel : κ → UInt16) :
  Inv (initial m_channel)
  := by
  constructor
  · constructor
    · intro k
      simp [ReplyStream.initial, Stopped, DoorSwitchChannelController.Init]
    · apply List.nodup_nil
    · apply List.nodup_nil
    · exact Nat.succ_pos 2
  · exact Nat.zero_le _

omit [DecidableEq κ] in
theorem Inv.allStopped {s : ReplyStream κ} (h : Inv s) :
  s.AllStopped
  := by
  rintro ⟨hunreplied, havail⟩ k
  have hsupplied := h.supplied
  have hgot := h.tracked.got_lt
  rw [demand, supply, hunreplied, havail] at hsupplied
  -- fewer than three bytes are left, so no read waits
  have hlength : s.reads.length = 0 := by
    rw [replySize] at hsupplied hgot
    omega
  rw [h.tracked.stopped_iff, List.length_eq_zero_iff.mp hlength]
  apply List.not_mem_nil

theorem Inv.step (s : ReplyStream κ) :
    ∀ (a : Action κ) (t : ReplyStream κ), Inv s → LeavesReplies s a → next s a = some t → Inv t
  | .write k, t, h, _, hnext => by
      use h.tracked.step hnext
      obtain ⟨-, hsending, hreads, -, hsupply, hstopped⟩ := next_write hnext
      have hdemand : t.demand ≤ s.demand + 1 := by
        rw [demand, demand, hsending, hreads, List.countP_cons]
        simp only [hstopped]
        split_ifs <;> omega
      rw [hsupply]
      apply Nat.le_trans (Nat.mul_le_mul_left _ hdemand)
      rw [Nat.mul_succ]
      apply Nat.add_le_add_right h.supplied
  | .arm k now, t, h, _, hnext => by
      use h.tracked.step hnext
      obtain ⟨hdemand, hsupply⟩ := demand_arm h.tracked hnext
      rw [hdemand, hsupply]
      apply h.supplied
  | .reply, t, h, _, hnext => by
      use h.tracked.step hnext
      obtain ⟨hdemand, hsupply⟩ := demand_reply hnext
      rw [hdemand, hsupply]
      apply h.supplied
  | .readSome n, t, h, hok, hnext => by
      use h.tracked.step hnext
      rcases Nat.lt_or_ge (s.got + n) replySize with hlt | hdone
      · obtain ⟨hdemand, hsupply⟩ := demand_readSome_of_lt hnext hlt
        rw [hdemand, hsupply]
        apply h.supplied
      · obtain ⟨k, hk, hdemand, hsupply⟩ := demand_readSome_of_le hnext hdone
        rw [hdemand, hsupply]
        apply hok k hk hdone

/-- In every run in which a read that completes leaves a whole reply for each read that
waits then or will be started by a `sendData` under way, no deadline is running when every
frame has been replied to and every reply has been read. -/
theorem allStopped_of_run (m_channel : κ → UInt16) (as : List (Action κ)) {t : ReplyStream κ}
    (hok : Meets next LeavesReplies (initial m_channel) as)
    (hrun : run next (initial m_channel) as = some t) :
  t.AllStopped
  := by
  have h : Inv t := run_invariant Inv.step (Inv.initial m_channel) hok hrun
  apply h.allStopped

/-- Two controllers, each of which gets its reply. -/
theorem allStopped_of_run_two :
  ∃ t, run next (initial (fun k : Bool => if k then 2 else 1))
      [.write false, .arm false 0, .write true, .arm true 5, .reply, .reply, .readSome 3,
        .readSome 3] = some t ∧ t.AllStopped
  := by
  refine ⟨_, rfl, ?_⟩
  exact allStopped_of_run (fun k : Bool => if k then 2 else 1)
    [.write false, .arm false 0, .write true, .arm true 5, .reply, .reply, .readSome 3,
      .readSome 3] (by decide) rfl

/-- Two controllers, the first of which gets both replies. -/
def takesBoth : List (Action Bool) :=
  [.write false, .arm false 0, .write true, .arm true 5, .reply, .reply, .readSome 6]

/-- After `takesBoth` the switch has replied to both frames and all bytes have been read,
but the deadline of the second controller is running. -/
theorem false_timeout :
  ∃ t, run next (initial (fun k : Bool => if k then 2 else 1)) takesBoth = some t
    ∧ ¬ t.AllStopped
  := by
  refine ⟨_, rfl, ?_⟩
  intro h
  have hstopped := h ⟨rfl, rfl⟩ true
  cases hstopped

/-! ### The condition is needed -/

/-- There are too few bytes for the reads. -/
def Short (s : ReplyStream κ) : Prop := s.supply < replySize * s.demand

/-- What is left to do until everything is answered and read. -/
def remaining (s : ReplyStream κ) : ℕ := s.sending.length + 4 * s.unreplied + s.avail

/-- Taking the bytes one by one does not help. -/
theorem Short.readSome_one {s t : ReplyStream κ} (h : s.Short) (hsending : s.sending = [])
    (hunreplied : s.unreplied = 0) (hnext : next s (.readSome 1) = some t) :
  t.Short
  := by
  rcases Nat.lt_or_ge (s.got + 1) replySize with hlt | hdone
  · obtain ⟨hdemand, hsupply⟩ := demand_readSome_of_lt hnext hlt
    rw [Short, hdemand, hsupply]
    apply h
  · obtain ⟨k, hk, hdemand, hsupply⟩ := demand_readSome_of_le hnext hdone
    obtain ⟨_, rest, hreads, hn, -⟩ := next_readSome hnext
    rw [Short, supply, demand, hsending, hreads, hunreplied, replySize, List.length_cons,
      List.countP_nil] at h
    rw [Short, hdemand, hsupply, hsending, hreads, hunreplied, replySize, List.tail_cons,
      List.countP_nil]
    rw [replySize] at hdone
    omega

/-- With too few bytes for the reads, and something left to do, a step does some of it and
leaves too few bytes. -/
theorem Short.exists_step {s : ReplyStream κ} (h : s.Short) (htracked : Tracked s)
    (hpos : 0 < s.remaining) :
  ∃ a t, next s a = some t ∧ t.Short ∧ t.remaining < s.remaining
  := by
  cases hsending : s.sending with
  | cons k rest =>
      obtain ⟨t, hnext⟩ : ∃ t, next s (.arm k 0) = some t := by
        rw [next, hsending, if_pos List.mem_cons_self]
        split_ifs <;> exact ⟨_, rfl⟩
      obtain ⟨hk, hsending', -, hunreplied, havail, -⟩ := next_arm hnext
      obtain ⟨hdemand, hsupply⟩ := demand_arm htracked hnext
      have hlength : (s.sending.erase k).length + 1 = s.sending.length :=
        List.length_erase_add_one hk
      refine ⟨_, t, hnext, ?_, ?_⟩
      · rw [Short, hdemand, hsupply]
        apply h
      · rw [remaining, remaining, hsending', hunreplied, havail]
        omega
  | nil =>
      cases hunreplied : s.unreplied with
      | succ n =>
          obtain ⟨t, hnext⟩ : ∃ t, next s .reply = some t := by
            rw [next, if_pos (by omega)]
            exact ⟨_, rfl⟩
          obtain ⟨hsending', -, -, hunreplied', havail, -⟩ := next_reply hnext
          obtain ⟨hdemand, hsupply⟩ := demand_reply hnext
          refine ⟨_, t, hnext, ?_, ?_⟩
          · rw [Short, hdemand, hsupply]
            apply h
          · rw [remaining, remaining, hsending', havail, replySize]
            omega
      | zero =>
          rw [remaining, hsending, hunreplied, List.length_nil] at hpos
          obtain ⟨t, hnext⟩ : ∃ t, next s (.readSome 1) = some t := by
            cases hreads : s.reads with
            | nil =>
                rw [Short, demand, hreads, hsending] at h
                cases h
            | cons k rest =>
                simp only [next, hreads]
                rw [if_pos (by rw [readLimit]; omega)]
                split_ifs <;> exact ⟨_, rfl⟩
          obtain ⟨-, -, -, -, hsending', hunreplied', havail, -⟩ := next_readSome hnext
          refine ⟨_, t, hnext, h.readSome_one hsending hunreplied hnext, ?_⟩
          rw [remaining, remaining, hsending', hunreplied', havail]
          omega

omit [DecidableEq κ] in
/-- With too few bytes for the reads, and nothing left to do, a deadline is running. -/
theorem Short.not_allStopped {s : ReplyStream κ} (h : s.Short) (htracked : Tracked s)
    (hzero : s.remaining = 0) :
  ¬ s.AllStopped
  := by
  rw [remaining] at hzero
  have hsending : s.sending = [] := List.length_eq_zero_iff.mp (by omega)
  intro hall
  have hstopped := hall ⟨by omega, by omega⟩
  cases hreads : s.reads with
  | nil =>
      rw [Short, demand, hreads, hsending] at h
      cases h
  | cons k rest =>
      apply (htracked.stopped_iff k).mp (hstopped k)
      rw [hreads]
      apply List.mem_cons_self

/-- With too few bytes for the reads, the rest of the `sendData` calls, of the replies and
of the bytes may follow, and a deadline is then running. -/
theorem Short.exists_run {s : ReplyStream κ} (h : s.Short) (htracked : Tracked s) :
  ∃ as t, run next s as = some t ∧ ¬ t.AllStopped
  := by
  induction hm : s.remaining using Nat.strongRecOn generalizing s with
  | ind m ih =>
      rcases Nat.eq_zero_or_pos s.remaining with hzero | hpos
      · use [], s, rfl
        apply h.not_allStopped htracked hzero
      · obtain ⟨a, u, hnext, hu, hlt⟩ := h.exists_step htracked hpos
        obtain ⟨as, t, hrun, ht⟩ := ih u.remaining (hm ▸ hlt) hu (htracked.step hnext) rfl
        use a :: as, t
        constructor
        · apply run_cons_eq_some.mpr ⟨u, hnext, hrun⟩
        · apply ht

/-- In every reachable state the reads and the deadlines are together. -/
theorem tracked_of_run (m_channel : κ → UInt16) {as : List (Action κ)} {t : ReplyStream κ}
    (hrun : run next (initial m_channel) as = some t) :
  Tracked t
  := by
  apply run_invariant_of_step _ (Inv.initial m_channel).tracked hrun
  intro s a t hs hnext
  apply hs.step hnext

/-- The condition is needed: a run that takes a step which does not meet it may go on to a
false timeout. -/
theorem exists_false_timeout (m_channel : κ → UInt16) {as : List (Action κ)} {a : Action κ}
    {s t : ReplyStream κ} (hrun : run next (initial m_channel) as = some s)
    (hok : ¬ LeavesReplies s a) (hnext : next s a = some t) :
  ∃ bs u, run next (initial m_channel) (as ++ a :: bs) = some u ∧ ¬ u.AllStopped
  := by
  have htracked : Tracked s := tracked_of_run m_channel hrun
  have hshort : t.Short := by
    cases a with
    | readSome n =>
        simp only [LeavesReplies, not_forall, Nat.not_le] at hok
        obtain ⟨k, hk, hdone, hshort⟩ := hok
        obtain ⟨k', hk', hdemand, hsupply⟩ := demand_readSome_of_le hnext hdone
        obtain rfl := Option.mem_unique hk hk'
        rw [Short, hdemand, hsupply]
        apply hshort
    | write _ | arm _ _ | reply => apply absurd trivial hok
  obtain ⟨bs, u, hrun', hu⟩ := hshort.exists_run (htracked.step hnext)
  use bs, u
  constructor
  · rw [run_append, hrun, Option.bind_some]
    apply run_cons_eq_some.mpr ⟨t, hnext, hrun'⟩
  · apply hu

end ReplyStream

end DoorSwitchSvr
