import DoorSwitchSvr.Service
import Mathlib.Data.List.SplitBy

/-!
# The busy periods of a direct switch

A direct switch opens the door for the first of several requests, and closes it after the
last one.  It decides on this at the end of each sleep, by a test whether the queue is empty.

When the deadlines of the requests increase, a prompt worker holds the door once for each
busy period, a longest run of requests each of which arrives before the deadline of the one
before it, from the first arrival to the last deadline (`holdsBusyPeriods`).  No request
expires in the queue, and the door is held for exactly the union of the windows.
-/

namespace DoorSwitchSvr

open Transition Signal

/-! ### Busy periods -/

/-- The busy periods of the requests: each request arrives before the deadline of the one
before it. -/
def busyPeriods (requests : List Request) : List (List Request) :=
  requests.splitBy (fun r r' => r'.time < r.deadline)

/-- From the first arrival of a busy period to its last deadline.  A busy period is not
empty. -/
def span (period : List Request) : Int × Int :=
  ((period.head?.map Request.time).getD 0, (period.getLast?.map Request.deadline).getD 0)

/-- The spans of the busy periods. -/
def spans (requests : List Request) : List (Int × Int) := (busyPeriods requests).map span

/-- Every request has time left when it is made, and the deadlines increase. -/
def Increasing (requests : List Request) : Prop :=
  (∀ r ∈ requests, 0 < r.closeAfterMs)
    ∧ requests.Pairwise (fun r r' => r.deadline < r'.deadline)

instance (requests : List Request) : Decidable (Increasing requests) :=
  inferInstanceAs (Decidable (_ ∧ _))

/-- The last group goes on as long as its elements are related. -/
theorem exists_splitBy_concat {α : Type} (r : α → α → Bool) {l : List α} {a : α}
    (hlast : l.getLast? = some a) :
  ∃ gs g, l.splitBy r = gs ++ [g] ∧ g.getLast? = some a
    ∧ ∀ b, r a b = true → (l ++ [b]).splitBy r = gs ++ [g ++ [b]]
  := by
  have hne : l.splitBy r ≠ [] := by
    rw [List.splitBy_ne_nil]
    rintro rfl
    cases hlast
  obtain ⟨gs, g, hsplit⟩ : ∃ gs g, l.splitBy r = gs ++ [g] :=
    ⟨_, _, (List.dropLast_append_getLast hne).symm⟩
  obtain ⟨hl, hnil, hchains, hchain⟩ := List.splitBy_eq_iff.mp hsplit
  have hg : g ≠ [] := by
    rintro rfl
    apply hnil
    simp
  have hlast' : g.getLast? = some a := by
    rw [← hlast, hl, List.flatten_append, List.flatten_singleton,
      List.getLast?_append_of_ne_nil _ hg]
  use gs, g, hsplit, hlast'
  intro b hab
  apply List.splitBy_eq_iff.mpr
  refine ⟨?_, ?_, ?_, ?_⟩
  · rw [hl]
    simp
  · intro hmem
    rcases List.mem_append.mp hmem with hmem | hmem
    · apply hnil (List.mem_append_left _ hmem)
    · simp at hmem
  · intro m hm
    rcases List.mem_append.mp hm with hm | hm
    · apply hchains m (List.mem_append_left _ hm)
    · rw [List.mem_singleton.mp hm]
      apply (hchains g (by simp)).append (List.isChain_singleton b)
      intro x hx y hy
      rw [hlast'] at hx
      obtain rfl := Option.some.inj hx
      obtain rfl := Option.some.inj hy
      apply hab
  · rw [List.isChain_append] at hchain ⊢
    refine ⟨hchain.1, List.isChain_singleton _, ?_⟩
    intro x hx y hy
    obtain rfl := Option.some.inj hy
    obtain ⟨hx', hg', hno⟩ := hchain.2.2 x hx g rfl
    refine ⟨hx', by simp, ?_⟩
    rw [List.head_append_of_ne_nil hg']
    apply hno

/-- A request that arrives when the one before it is over begins a busy period. -/
theorem spans_concat {requests : List Request} {r : Request}
    (h : ∀ last ∈ requests.getLast?, last.deadline ≤ r.time) :
  spans (requests ++ [r]) = spans requests ++ [(r.time, r.deadline)]
  := by
  rw [spans, busyPeriods, List.splitBy_append]
  · rw [List.map_append]
    rfl
  · intro last hlast r' hr'
    obtain rfl := Option.some.inj hr'
    rw [decide_eq_false_iff_not]
    have hle := h last hlast
    omega

/-- A request that arrives earlier goes on with the last busy period. -/
theorem exists_spans_concat {requests : List Request} {last : Request}
    (hlast : requests.getLast? = some last) :
  ∃ ps, ∃ first ∈ requests, spans requests = ps ++ [(first.time, last.deadline)]
    ∧ ∀ r : Request, r.time < last.deadline →
        spans (requests ++ [r]) = ps ++ [(first.time, r.deadline)]
  := by
  obtain ⟨gs, g, hsplit, hlast', hconcat⟩ :=
    exists_splitBy_concat (fun r r' : Request => decide (r'.time < r.deadline)) hlast
  obtain ⟨first, hfirst⟩ : ∃ first, g.head? = some first := by
    cases g with
    | nil => cases hlast'
    | cons first _ => exact ⟨first, rfl⟩
  use gs.map span, first
  refine ⟨?_, ?_, ?_⟩
  · rw [← List.flatten_splitBy (fun r r' : Request => decide (r'.time < r.deadline)) requests,
      hsplit, List.flatten_append]
    apply List.mem_append_right
    rw [List.flatten_singleton]
    apply List.mem_of_head? hfirst
  · rw [spans, busyPeriods, hsplit, List.map_append]
    simp [span, hfirst, hlast']
  · intro r hr
    rw [spans, busyPeriods, hconcat r (decide_eq_true hr), List.map_append]
    simp [span, hfirst]

theorem increasing_concat {rs : List Request} {r : Request} :
  Increasing (rs ++ [r])
    ↔ Increasing rs ∧ 0 < r.closeAfterMs ∧ ∀ r' ∈ rs, r'.deadline < r.deadline
  := by
  simp only [Increasing, List.pairwise_append, List.mem_append, List.mem_singleton,
    List.pairwise_singleton]
  constructor
  · rintro ⟨hpos, hincreasing, -, hlt⟩
    exact ⟨⟨fun r' hr' => hpos r' (Or.inl hr'), hincreasing⟩, hpos r (Or.inr rfl),
      fun r' hr' => hlt r' hr' r rfl⟩
  · rintro ⟨⟨hpos, hincreasing⟩, hr, hlt⟩
    refine ⟨?_, hincreasing, trivial, ?_⟩
    · rintro r' (hr' | rfl)
      · apply hpos r' hr'
      · apply hr
    · rintro r' hr' _ rfl
      apply hlt r' hr'

/-- A span that ends later covers what it did and what has been added at its end. -/
theorem mem_span_or {first time deadline deadline' arrival : Int} (hfirst : first ≤ arrival)
    (harrival : arrival < deadline) (hlt : deadline < deadline') :
  (first ≤ time ∧ time < deadline') ↔
    (first ≤ time ∧ time < deadline) ∨ (arrival ≤ time ∧ time < deadline')
  := by
  omega

/-- The spans of the busy periods come one after another, and cover exactly the windows of
the requests. -/
theorem spans_spec {requests : List Request}
    (hsorted : requests.Pairwise (fun r r' => r.time ≤ r'.time))
    (hincreasing : Increasing requests) :
  Sequential (spans requests)
    ∧ ∀ time, (∃ p ∈ spans requests, p.1 ≤ time ∧ time < p.2)
        ↔ ∃ r ∈ requests, r.time ≤ time ∧ time < r.deadline
  := by
  induction requests using List.reverseRecOn with
  | nil =>
      constructor
      · exact ⟨fun p hp => absurd hp List.not_mem_nil, List.Pairwise.nil⟩
      · intro time
        simp [spans, busyPeriods]
  | append_singleton rs r ih =>
      obtain ⟨hsorted, -, htimes⟩ := List.pairwise_append.mp hsorted
      obtain ⟨hincreasing, hpos, hdeadlines⟩ := increasing_concat.mp hincreasing
      obtain ⟨hsequential, hcovers⟩ := ih hsorted hincreasing
      have hlt : r.time < r.deadline := by
        rw [Request.deadline]
        omega
      by_cases hgoes : ∃ last, rs.getLast? = some last ∧ r.time < last.deadline
      · -- the last busy period goes on
        obtain ⟨last, hlast, hearly⟩ := hgoes
        obtain ⟨ps, first, hfirst, hspans, hconcat⟩ := exists_spans_concat hlast
        have hend := hdeadlines last (List.mem_of_getLast? hlast)
        have hbegin := htimes first hfirst r (List.mem_singleton_self r)
        rw [hspans] at hsequential
        obtain ⟨hps, hspan, hbefore⟩ := sequential_concat.mp hsequential
        rw [hconcat r hearly]
        constructor
        · exact sequential_concat.mpr ⟨hps, hspan.trans hend, hbefore⟩
        · intro time
          have hcovers := hcovers time
          simp only [hspans, List.mem_append, List.mem_singleton, or_and_right, exists_or,
            exists_eq_left] at hcovers ⊢
          rw [mem_span_or hbegin hearly hend, ← or_assoc, hcovers]
      · -- a busy period begins
        have hover : ∀ last ∈ rs.getLast?, last.deadline ≤ r.time := by
          intro last hlast
          apply Int.not_lt.mp
          intro hearly
          apply hgoes ⟨last, hlast, hearly⟩
        rw [spans_concat hover]
        constructor
        · apply sequential_concat.mpr ⟨hsequential, hlt, _⟩
          intro p hp
          cases hlast : rs.getLast? with
          | none =>
              rw [List.getLast?_eq_none_iff] at hlast
              rw [hlast] at hp
              cases hp
          | some last =>
              obtain ⟨ps, first, -, hspans, -⟩ := exists_spans_concat hlast
              rw [hspans] at hp hsequential
              obtain ⟨-, hspan, hbefore⟩ := sequential_concat.mp hsequential
              have hle := hover last hlast
              rcases List.mem_append.mp hp with hp | hp
              · have hle' := hbefore p hp
                simp only at hle' hspan
                omega
              · rw [List.mem_singleton.mp hp]
                apply hle
        · intro time
          have hcovers := hcovers time
          simp only [List.mem_append, List.mem_singleton, or_and_right, exists_or,
            exists_eq_left]
          rw [hcovers]

/-- The second request arrives within the window of the first one, the third one when the
second one is over. -/
example : spans [⟨0, 3⟩, ⟨1, 3⟩, ⟨4, 2⟩] = [(0, 4), (4, 6)] := by decide

namespace TimedRun

/-- The door is held once for each busy period: no request expires in the queue, and an open
command is sent at the first arrival of the period and a close command at its last
deadline. -/
structure HoldsBusyPeriods (schedule : List Request) (s : TimedRun) : Prop where
  in_order : s.dequeued.map Prod.fst = schedule
  unexpired : ∀ p ∈ s.dequeued, p.2 < p.1.deadline
  relayOn_iff : ∀ time, s.RelayOn time ↔ ∃ r ∈ schedule, r.time ≤ time ∧ time < r.deadline
  issued : s.issued = commandPulses (spans schedule)
  alternates : s.Alternates

/-! ### The commands -/

/-- The commands that are still to be issued, with their times, when no further request goes
on with the busy period. -/
def toIssue (s : TimedRun) : List (Int × DoorCommand) :=
  match s.pc with
  | .testStop | .waitDequeue | .parked =>
      if s.bNotiInQ then [(s.now, .closeCommand)] else []
  | .gotTask r =>
      if s.bNotiInQ then [(r.deadline, .closeCommand)]
      else [(s.now, .openCommand), (r.deadline, .closeCommand)]
  | .discard => []
  | .sendOpen realWait => [(s.now, .openCommand), (s.now + realWait, .closeCommand)]
  | .sleeping wake => [(wake, .closeCommand)]
  | .testEmpty | .sendClose => [(s.now, .closeCommand)]

/-- What is in the queue.  A worker that goes for its next request with `bNotiInQ` set finds
one that has arrived before the sleep was over, and otherwise only finds those that have
arrived at this very instant. -/
def QueueInv (s : TimedRun) : Prop :=
  match s.pc with
  | .testStop | .waitDequeue | .parked =>
      (s.bNotiInQ = true → ∃ r rs, s.m_taskNotiQue = r :: rs ∧ r.time < s.now)
        ∧ (s.bNotiInQ = false → ∀ r ∈ s.m_taskNotiQue, r.time = s.now)
  | .gotTask _ | .sendOpen _ => True
  | .discard => False
  | .sleeping wake => ∀ r ∈ s.m_taskNotiQue, r.time < wake
  | .testEmpty => ∀ r ∈ s.m_taskNotiQue, r.time < s.now
  | .sendClose => s.bNotiInQ = false ∧ ∀ r ∈ s.m_taskNotiQue, r.time = s.now

/-- With the commands that are still to be issued, those that have been issued are the pulses
of the busy periods so far, and no request that has been taken had expired. -/
structure Merged (s : TimedRun) : Prop where
  issued : s.issued ++ s.toIssue = commandPulses (spans (s.dequeued.map Prod.fst))
  unexpired : ∀ p ∈ s.dequeued, p.2 < p.1.deadline
  queue : QueueInv s

/-- When the last busy period would end now, a request that has arrived earlier goes on with
it. -/
theorem commandPulses_goes_on {issued : List (Int × DoorCommand)} {now : Int}
    {requests : List Request}
    (h : issued ++ [(now, .closeCommand)] = commandPulses (spans requests)) :
  ∃ last ∈ requests, last.deadline = now
    ∧ ∀ r : Request, r.time < now →
        issued ++ [(r.deadline, .closeCommand)] = commandPulses (spans (requests ++ [r]))
  := by
  cases hlast : requests.getLast? with
  | none =>
      rw [List.getLast?_eq_none_iff] at hlast
      rw [hlast] at h
      simp [spans, busyPeriods, commandPulses, pulses] at h
  | some last =>
      obtain ⟨ps, first, -, hspans, hconcat⟩ := exists_spans_concat hlast
      rw [hspans, commandPulses_concat, List.append_cons (commandPulses ps)] at h
      obtain ⟨hissued, hclose⟩ := List.append_inj' h rfl
      have hnow : now = last.deadline := congrArg Prod.fst (List.singleton_inj.mp hclose)
      use last, List.mem_of_getLast? hlast, hnow.symm
      intro r hr
      rw [hconcat r (hnow ▸ hr), commandPulses_concat, List.append_cons (commandPulses ps), hissued]

/-- The worker takes a request: with `bNotiInQ` set it goes on with the busy period, and
otherwise it begins one. -/
theorem Merged.take {s t : TimedRun} (h : Merged s)
    (hover : ∀ p ∈ s.dequeued, p.1.deadline ≤ s.now)
    (hidle : s.toIssue = if s.bNotiInQ then [(s.now, .closeCommand)] else []) {r : Request}
    (hpos : 0 < r.closeAfterMs)
    (hdeadline : ∀ r' ∈ s.dequeued.map Prod.fst, r'.deadline < r.deadline)
    (hafter : s.bNotiInQ = true → r.time < s.now)
    (hnew : s.bNotiInQ = false → r.time = s.now)
    (hnow : t.now = s.now) (hb : t.bNotiInQ = s.bNotiInQ) (hissued : t.issued = s.issued)
    (hpc : t.pc = .gotTask r) (hdequeued : t.dequeued = s.dequeued ++ [(r, s.now)]) :
  Merged t
  := by
  have hs := h.issued
  rw [hidle] at hs
  have hpulses : t.issued ++ t.toIssue = commandPulses (spans (t.dequeued.map Prod.fst))
      ∧ s.now < r.deadline := by
    simp only [toIssue, hpc, hb, hnow, hissued, hdequeued, List.map_append, List.map_cons,
      List.map_nil]
    cases hbNotiInQ : s.bNotiInQ with
    | true =>
        rw [hbNotiInQ, if_pos rfl] at hs
        obtain ⟨last, hlast, hend, hconcat⟩ := commandPulses_goes_on hs
        rw [if_pos rfl]
        use hconcat r (hafter hbNotiInQ)
        rw [← hend]
        apply hdeadline last hlast
    | false =>
        rw [hbNotiInQ, if_neg Bool.false_ne_true, List.append_nil] at hs
        have htime := hnew hbNotiInQ
        rw [if_neg Bool.false_ne_true, spans_concat, commandPulses_concat, hs, htime]
        · use rfl
          rw [Request.deadline]
          omega
        · intro last hlast
          obtain ⟨p, hp, rfl⟩ := List.mem_map.mp (List.mem_of_getLast? hlast)
          rw [htime]
          apply hover p hp
  constructor
  · apply hpulses.1
  · intro p hp
    rw [hdequeued] at hp
    rcases List.mem_append.mp hp with hp | hp
    · apply h.unexpired p hp
    · rw [List.mem_singleton.mp hp]
      apply hpulses.2
  · simp only [QueueInv, hpc]

/-- A parked worker has `bNotiInQ` unset. -/
theorem Merged.bNotiInQ_of_parked {s : TimedRun} (h : Merged s) (hpc : s.pc = .parked)
    (hq : s.m_taskNotiQue = []) :
  s.bNotiInQ = false
  := by
  have hqueue := h.queue
  rw [QueueInv, hpc] at hqueue
  by_contra hb
  obtain ⟨r, rs, heq, -⟩ := hqueue.1 (by simpa using hb)
  rw [hq] at heq
  cases heq

theorem Merged.addTask {s : TimedRun} (h : Merged s) (horder : InOrder s) {closeAfterMs : Int}
    (harrives : ArrivesAfterTest s (.request closeAfterMs))
    (hincreasing : Increasing (s.requested ++ [⟨s.now, closeAfterMs⟩])) :
  Merged (s.addTask ⟨s.now, closeAfterMs⟩)
  := by
  rw [TimedRun.addTask]
  split_ifs with hpc
  · have hq := horder.parked hpc
    have hb := h.bNotiInQ_of_parked hpc hq
    have hover := horder.current
    rw [Current, hpc] at hover
    rw [horder.requested, hq, List.append_nil] at hincreasing
    obtain ⟨-, hpos, hdeadline⟩ := increasing_concat.mp hincreasing
    refine h.take hover ?_ hpos hdeadline ?_ (fun _ => rfl) rfl rfl rfl rfl rfl
    · rw [toIssue, hpc]
    · intro hb'
      rw [hb] at hb'
      cases hb'
  · refine ⟨h.issued, h.unexpired, ?_⟩
    have hqueue := h.queue
    obtain ⟨hnot, hwake⟩ := harrives
    cases hpc' : s.pc with
    | testStop | waitDequeue =>
        simp only [QueueInv, hpc'] at hqueue ⊢
        constructor
        · intro hb
          obtain ⟨r, rs, heq, hlt⟩ := hqueue.1 hb
          use r, rs ++ [⟨s.now, closeAfterMs⟩]
          rw [heq]
          exact ⟨rfl, hlt⟩
        · intro hb r hr
          rcases List.mem_append.mp hr with hr | hr
          · apply hqueue.2 hb r hr
          · rw [List.mem_singleton.mp hr]
    | parked => apply absurd hpc' hpc
    | gotTask _ | sendOpen _ => exact trivial
    | discard =>
        rw [QueueInv, hpc'] at hqueue
        cases hqueue
    | sleeping wake =>
        simp only [QueueInv, hpc'] at hqueue ⊢
        intro r hr
        rcases List.mem_append.mp hr with hr | hr
        · apply hqueue r hr
        · rw [List.mem_singleton.mp hr]
          apply hwake wake hpc'
    | testEmpty => apply absurd hpc' hnot
    | sendClose =>
        simp only [QueueInv, hpc'] at hqueue ⊢
        use hqueue.1
        intro r hr
        rcases List.mem_append.mp hr with hr | hr
        · apply hqueue.2 r hr
        · rw [List.mem_singleton.mp hr]

theorem Merged.tick {s : TimedRun} (h : Merged s) (horder : InOrder s)
    (hblocked : s.Blocked) :
  Merged { s with now := s.now + 1 }
  := by
  have hissued := h.issued
  have hqueue := h.queue
  rcases hblocked with hpc | ⟨wake, hpc, hwake⟩
  · have hq := horder.parked hpc
    have hb := h.bNotiInQ_of_parked hpc hq
    constructor
    · simp only [toIssue, hpc, hb] at hissued ⊢
      apply hissued
    · apply h.unexpired
    · simp only [QueueInv, hpc, hb, hq]
      simp
  · constructor
    · simp only [toIssue, hpc] at hissued ⊢
      apply hissued
    · apply h.unexpired
    · simp only [QueueInv, hpc] at hqueue ⊢
      apply hqueue

theorem Merged.work {type : SWITCH_TYPE} (htype : type ≠ .INDIRECT_CONTROL_SWITCH)
    {s t : TimedRun} (h : Merged s) (horder : InOrder s) (hincreasing : Increasing s.requested)
    (hstep : WorkStep type s t) :
  Merged t
  := by
  have hissued := h.issued
  have hqueue := h.queue
  have hcurrent := horder.current
  cases hstep with
  | dequeue r rs hpc hq =>
      rw [QueueInv, hpc] at hqueue
      rw [Current, hpc] at hcurrent
      have hr : r ∈ s.m_taskNotiQue := by
        rw [hq]
        apply List.mem_cons_self
      have hpos : 0 < r.closeAfterMs := by
        apply hincreasing.1
        rw [horder.requested]
        apply List.mem_append_right _ hr
      have hdeadline : ∀ r' ∈ s.dequeued.map Prod.fst, r'.deadline < r.deadline := by
        have hpairwise := hincreasing.2
        rw [horder.requested] at hpairwise
        intro r' hr'
        apply (List.pairwise_append.mp hpairwise).2.2 r' hr' r hr
      refine h.take hcurrent ?_ hpos hdeadline ?_ ?_ rfl rfl rfl rfl rfl
      · rw [toIssue, hpc]
      · intro hb
        obtain ⟨r', rs', heq, hlt⟩ := hqueue.1 hb
        rw [hq] at heq
        rw [(List.cons.inj heq).1]
        apply hlt
      · intro hb
        apply hqueue.2 hb r hr
  | serve r hpc hwait hopen =>
      have hb : s.bNotiInQ = false := hopen.resolve_left htype
      refine ⟨?_, h.unexpired, trivial⟩
      simp only [toIssue, hpc, hb] at hissued
      simp only [toIssue, r.add_realWait s.now]
      apply hissued
  | follow r hpc hwait _ hopen =>
      refine ⟨?_, h.unexpired, ?_⟩
      · simp only [toIssue, hpc, hopen] at hissued
        simp only [toIssue, r.add_realWait s.now]
        apply hissued
      · intro r' hr'
        have harrived := horder.arrived r' hr'
        omega
  | expire r hpc hwait =>
      rw [Current, hpc] at hcurrent
      rw [r.realWait_pos_iff] at hwait
      apply absurd (h.unexpired (r, s.now) (List.mem_of_getLast? hcurrent)) hwait
  | discard hpc =>
      rw [QueueInv, hpc] at hqueue
      cases hqueue
  | sendOpen realWait hpc =>
      refine ⟨?_, h.unexpired, ?_⟩
      · simp only [toIssue, hpc] at hissued
        simp only [toIssue, List.append_assoc, List.singleton_append]
        apply hissued
      · intro r' hr'
        have harrived := horder.arrived r' hr'
        have hpos := realWait.property
        omega
  | wakeIndirect wake hpc hwake hindirect => apply absurd hindirect htype
  | wakeDirect wake hpc hwake =>
      -- a prompt worker does not oversleep
      rw [Current, hpc] at hcurrent
      obtain ⟨r, taken, -, -, hle, -⟩ := hcurrent
      obtain rfl : wake = s.now := by omega
      simp only [toIssue, hpc] at hissued
      rw [QueueInv, hpc] at hqueue
      exact ⟨hissued, h.unexpired, hqueue⟩
  | last hpc hq =>
      simp only [toIssue, hpc] at hissued
      refine ⟨hissued, h.unexpired, rfl, ?_⟩
      intro r hr
      rw [hq] at hr
      cases hr
  | notLast hpc hq =>
      simp only [toIssue, hpc] at hissued
      rw [QueueInv, hpc] at hqueue
      refine ⟨hissued, h.unexpired, ?_, ?_⟩
      · intro
        obtain ⟨r, rs, heq⟩ := List.exists_cons_of_ne_nil hq
        use r, rs, heq
        apply hqueue
        rw [heq]
        apply List.mem_cons_self
      · intro hb
        cases hb
  | closeIndirect hpc hindirect => apply absurd hindirect htype
  | closeDirect hpc =>
      rw [QueueInv, hpc] at hqueue
      obtain ⟨hb, hfresh⟩ := hqueue
      refine ⟨?_, h.unexpired, ?_, fun _ => hfresh⟩
      · simp only [toIssue, hpc] at hissued
        simp only [toIssue, hb, if_neg Bool.false_ne_true, List.append_nil]
        apply hissued
      · intro hb'
        rw [hb] at hb'
        cases hb'
  | go hpc | park hpc =>
      simp only [toIssue, hpc] at hissued
      rw [QueueInv, hpc] at hqueue
      exact ⟨hissued, h.unexpired, hqueue⟩

/-! ### Runs -/

/-- The invariant of a prompt worker of a direct switch, as long as the deadlines
increase. -/
structure BusyInv (s : TimedRun) : Prop where
  order : InOrder s
  merged : Increasing s.requested → Merged s

theorem BusyInv.initial (start : Int) :
  BusyInv (initial start)
  := by
  constructor
  · apply InOrder.initial
  · intro
    refine ⟨rfl, ?_, ?_, ?_⟩
    · intro p hp
      cases hp
    · intro hb
      cases hb
    · intro _ r hr
      cases hr

theorem BusyInv.step {type : SWITCH_TYPE} (htype : type ≠ .INDIRECT_CONTROL_SWITCH)
    (s : TimedRun) (a : Action) (t : TimedRun) (h : BusyInv s) (hok : Ideal type s a)
    (hnext : next type s a = some t) :
  BusyInv t
  := by
  obtain ⟨hprompt, harrives⟩ := hok
  constructor
  · apply h.order.step s a t hprompt hnext
  · intro hincreasing
    cases a with
    | request closeAfterMs =>
        obtain rfl := Option.some.inj hnext
        rw [requested_addTask] at hincreasing
        apply (h.merged (increasing_concat.mp hincreasing).1).addTask h.order harrives hincreasing
    | work =>
        have hstep := runStep_eq_some hnext
        rw [hstep.kept.2] at hincreasing
        apply (h.merged hincreasing).work htype h.order hincreasing hstep
    | tick =>
        obtain rfl := Option.some.inj hnext
        apply (h.merged hincreasing).tick h.order (runStep_eq_none.mp hprompt)

/-- For every schedule of requests to a direct switch whose deadlines increase, an ideal
worker serves it, and whenever it has, the door has been held once for each busy period. -/
theorem holdsBusyPeriods {start : Int} {schedule : List Request}
    (hschedule : IsSchedule start schedule) (hincreasing : Increasing schedule) :
  (∃ s, Serves .DIRECT_CONTROL_SWITCH (Ideal .DIRECT_CONTROL_SWITCH) start schedule s)
    ∧ ∀ s, Serves .DIRECT_CONTROL_SWITCH (Ideal .DIRECT_CONTROL_SWITCH) start schedule s →
        HoldsBusyPeriods schedule s
  := by
  constructor
  · apply exists_serves .DIRECT_CONTROL_SWITCH hschedule
  · intro s hs
    obtain rfl := hs.requested
    have hinv : BusyInv s :=
      hs.reaches.invariant (BusyInv.step SWITCH_TYPE.noConfusion) (BusyInv.initial start)
    have hmerged := hinv.merged hincreasing
    have hq := hinv.order.parked hs.parked
    have hrequested : s.requested = s.dequeued.map Prod.fst := by
      rw [hinv.order.requested, hq, List.append_nil]
    have hissued := hmerged.issued
    simp only [toIssue, hs.parked, hmerged.bNotiInQ_of_parked hs.parked hq,
      if_neg Bool.false_ne_true, List.append_nil] at hissued
    rw [← hrequested] at hissued
    obtain ⟨hsequential, hcovers⟩ := spans_spec hschedule.2 hincreasing
    constructor
    · apply hrequested.symm
    · apply hmerged.unexpired
    · intro time
      rw [relayOn_iff_of_pulses hissued hsequential]
      apply hcovers
    · apply hissued
    · apply alternates_of_pulses hissued

/-- A busy period of three requests, one of a single request that arrives when it is over,
and a later one. -/
theorem holdsBusyPeriods_three :
  (∃ s, Serves .DIRECT_CONTROL_SWITCH (Ideal .DIRECT_CONTROL_SWITCH) 0
      [⟨0, 3⟩, ⟨1, 3⟩, ⟨1, 5⟩, ⟨6, 1⟩, ⟨9, 2⟩] s)
    ∧ ∀ s, Serves .DIRECT_CONTROL_SWITCH (Ideal .DIRECT_CONTROL_SWITCH) 0
        [⟨0, 3⟩, ⟨1, 3⟩, ⟨1, 5⟩, ⟨6, 1⟩, ⟨9, 2⟩] s →
      HoldsBusyPeriods [⟨0, 3⟩, ⟨1, 3⟩, ⟨1, 5⟩, ⟨6, 1⟩, ⟨9, 2⟩] s
  := holdsBusyPeriods (by decide) (by decide)

end TimedRun

end DoorSwitchSvr
