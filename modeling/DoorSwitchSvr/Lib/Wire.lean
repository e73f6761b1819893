import DoorSwitchSvr.Lib.Transition
import Mathlib.Data.Fintype.Basic
import Mathlib.Data.List.Basic
import Mathlib.Logic.Function.Basic

/-!
# Writers that share a stream

Several writers put messages on one stream.  The write of a message is a sequence of steps,
each of which appends some of what is left of it to the stream, so that steps of other
writers can come between them.

* `start k msg`: the writer `k` begins to write `msg`.
* `writeSome k n`: it writes the next `n` elements.
* `fail k`: its write ends with an error.

The messages of each writer are written in the order in which it began them.  When a writer
only takes a step while no other one is part of the way through a message
(`OthersBetween`), the stream is put together from whole messages (`Whole.stream_of_idle`), and
so it is after every run of such steps (`stream_of_run`).  The first other step puts the
beginning of one message after part of another (`Whole.stream_of_mixed`).  The messages of
different writers may come in any order (`exists_map_of_filter_eq`).
-/

universe u v w

/-- A stream and its writers.

* `done k`, `rest k`: of the message that `k` is writing, what it has written and what is
  left; both are empty when it is not writing.
* `started`, `finished`: the messages in the order in which their writes began, and those
  that have been written in the order in which their writes ended. -/
structure Wire (κ : Type u) (α : Type v) where
  done : κ → List α
  rest : κ → List α
  stream : List α
  started : List (κ × List α)
  finished : List (κ × List α)
  failed : Bool

namespace Wire

variable {κ : Type u} {α : Type v}

def empty : Wire κ α := ⟨fun _ => [], fun _ => [], [], [], [], false⟩

/-- No write is in progress. -/
def Idle (w : Wire κ α) : Prop := ∀ k, w.rest k = []

/-- No writer other than `k` is part of the way through a message. -/
def OthersBetween (w : Wire κ α) (k : κ) : Prop := ∀ j, j ≠ k → w.done j = []

instance [Fintype κ] [DecidableEq κ] [DecidableEq α] (w : Wire κ α) (k : κ) :
    Decidable (w.OthersBetween k) :=
  inferInstanceAs (Decidable (∀ _, _))

instance [Fintype κ] [DecidableEq α] (w : Wire κ α) : Decidable w.Idle :=
  inferInstanceAs (Decidable (∀ _, _))

/-- The messages that have been written, one after another. -/
def finishedStream (w : Wire κ α) : List α := (w.finished.map Prod.snd).flatten

section Steps

variable [DecidableEq κ]

/-- The writer `k` begins to write a message. -/
def start (w : Wire κ α) (k : κ) (msg : List α) : Wire κ α :=
  { w with rest := Function.update w.rest k msg, started := w.started ++ [(k, msg)] }

/-- The writer `k` writes the next `n` elements of its message. -/
def writeSome (w : Wire κ α) (k : κ) (n : ℕ) : Option (Wire κ α) :=
  if 0 < n ∧ n ≤ (w.rest k).length then
    if n = (w.rest k).length then
      some { w with
        done := Function.update w.done k []
        rest := Function.update w.rest k []
        stream := w.stream ++ w.rest k
        finished := w.finished ++ [(k, w.done k ++ w.rest k)] }
    else
      some { w with
        done := Function.update w.done k (w.done k ++ (w.rest k).take n)
        rest := Function.update w.rest k ((w.rest k).drop n)
        stream := w.stream ++ (w.rest k).take n }
  else none

/-- The write of `k` ends with an error. -/
def fail (w : Wire κ α) (k : κ) : Option (Wire κ α) :=
  if (w.rest k).isEmpty then none
  else
    some { w with
      done := Function.update w.done k []
      rest := Function.update w.rest k []
      failed := true }

/-- A step of `k` either writes all that is left of its message, or some of it. -/
theorem writeSome_eq_some {w w' : Wire κ α} {k : κ} {n : ℕ} (h : w.writeSome k n = some w') :
  w.rest k ≠ []
    ∧ (w' = { w with
          done := Function.update w.done k []
          rest := Function.update w.rest k []
          stream := w.stream ++ w.rest k
          finished := w.finished ++ [(k, w.done k ++ w.rest k)] }
      ∨ (w.rest k).take n ≠ [] ∧ (w.rest k).drop n ≠ []
        ∧ w' = { w with
          done := Function.update w.done k (w.done k ++ (w.rest k).take n)
          rest := Function.update w.rest k ((w.rest k).drop n)
          stream := w.stream ++ (w.rest k).take n })
  := by
  rw [writeSome] at h
  split_ifs at h with hn hall
  · obtain rfl := Option.some.inj h
    constructor
    · apply List.ne_nil_of_length_pos
      omega
    · left
      rfl
  · obtain rfl := Option.some.inj h
    constructor
    · apply List.ne_nil_of_length_pos
      omega
    · right
      refine ⟨?_, ?_, rfl⟩
      · apply List.ne_nil_of_length_pos
        rw [List.length_take]
        omega
      · apply List.ne_nil_of_length_pos
        rw [List.length_drop]
        omega

theorem writeSome_kept {w w' : Wire κ α} {k : κ} {n : ℕ} (h : w.writeSome k n = some w') :
  w'.failed = w.failed ∧ w'.started = w.started
  := by
  obtain ⟨-, rfl | ⟨-, -, rfl⟩⟩ := writeSome_eq_some h <;> exact ⟨rfl, rfl⟩

theorem writeSome_pos {w w' : Wire κ α} {k : κ} {n : ℕ} (h : w.writeSome k n = some w') :
  0 < n
  := by
  rw [writeSome] at h
  split_ifs at h with hn
  · apply hn.1
  · apply hn.1

theorem writeSome_stream {w w' : Wire κ α} {k : κ} {n : ℕ} (h : w.writeSome k n = some w') :
  w'.stream = w.stream ++ (w.rest k).take n
  := by
  rw [writeSome] at h
  split_ifs at h with hn hall
  · obtain rfl := Option.some.inj h
    simp only [hall, List.take_length]
  · obtain rfl := Option.some.inj h
    rfl

theorem fail_kept {w w' : Wire κ α} {k : κ} (h : w.fail k = some w') :
  w'.failed = true ∧ w'.started = w.started
  := by
  rw [fail] at h
  split_ifs at h
  obtain rfl := Option.some.inj h
  exact ⟨rfl, rfl⟩

/-! ### The invariant -/

/-- What is known of the stream while no write has failed.

* A writer that is not writing is not part of the way through a message.
* The messages that a writer began are those it has written, and then the one it is
  writing.
* At most one writer is part of the way through a message.
* The stream consists of whole messages, and of what this writer has written of its own. -/
structure Whole (w : Wire κ α) : Prop where
  done_eq_nil : ∀ k, w.rest k = [] → w.done k = []
  alone : ∀ k, w.done k ≠ [] → w.OthersBetween k
  started_eq : ∀ k, w.started.filter (fun p => p.1 = k)
    = w.finished.filter (fun p => p.1 = k)
      ++ if (w.rest k).isEmpty then [] else [(k, w.done k ++ w.rest k)]
  stream_eq : ∀ k, w.OthersBetween k → w.stream = w.finishedStream ++ w.done k
  stream_eq_of_done : (∀ k, w.done k = []) → w.stream = w.finishedStream

theorem Whole.empty : Whole (empty : Wire κ α) := by
  constructor
  · intro k _
    rfl
  · intro k hk
    apply absurd rfl hk
  · intro k
    rfl
  · intro k _
    rfl
  · intro _
    rfl

/-- When no write is in progress, the stream is put together from the messages that have been
written, and these are the messages begun, in the order of each writer. -/
theorem Whole.stream_of_idle {w : Wire κ α} (h : Whole w) (hidle : w.Idle) :
  w.stream = (w.finished.map Prod.snd).flatten
    ∧ ∀ k, w.finished.filter (fun p => p.1 = k) = w.started.filter (fun p => p.1 = k)
  := by
  constructor
  · apply h.stream_eq_of_done
    intro k
    apply h.done_eq_nil k (hidle k)
  · intro k
    rw [h.started_eq k, hidle k]
    simp

/-- A writer that is not writing may begin a message. -/
theorem Whole.start {w : Wire κ α} (h : Whole w) {k : κ} (hrest : w.rest k = [])
    {msg : List α} (hmsg : msg ≠ []) :
  Whole (w.start k msg)
  := by
  have hdone := h.done_eq_nil k hrest
  constructor
  · intro j hj
    rcases eq_or_ne j k with rfl | hne
    · simp only [Wire.start, Function.update_self] at hj
      apply absurd hj hmsg
    · simp only [Wire.start, Function.update_of_ne hne] at hj
      apply h.done_eq_nil j hj
  · apply h.alone
  · intro j
    rw [Wire.start, List.filter_append, h.started_eq j]
    rcases eq_or_ne j k with rfl | hne
    · simp [hrest, hdone, hmsg]
    · simp [hne, hne.symm]
  · apply h.stream_eq
  · apply h.stream_eq_of_done

/-- When no other writer is part of the way through a message, a writer may take a step. -/
theorem Whole.writeSome {w w' : Wire κ α} (h : Whole w) {k : κ} {n : ℕ}
    (hok : w.OthersBetween k) (hw : w.writeSome k n = some w') :
  Whole w'
  := by
  have hstream := h.stream_eq k hok
  obtain ⟨hrest, rfl | ⟨htake, hdrop, rfl⟩⟩ := writeSome_eq_some hw
  · have hall : w.stream ++ w.rest k
        = ((w.finished ++ [(k, w.done k ++ w.rest k)]).map Prod.snd).flatten := by
      rw [hstream, finishedStream]
      simp
    have hnone : ∀ j, Function.update w.done k [] j = [] := by
      intro j
      rcases eq_or_ne j k with rfl | hne
      · apply Function.update_self
      · rw [Function.update_of_ne hne]
        apply hok j hne
    constructor
    · intro j _
      apply hnone j
    · intro j hj
      apply absurd (hnone j) hj
    · intro j
      simp only [List.filter_append]
      rw [h.started_eq j]
      rcases eq_or_ne j k with rfl | hne
      · simp [hrest]
      · simp [hne, hne.symm]
    · intro j _
      simp only [finishedStream, hnone j, List.append_nil]
      apply hall
    · intro _
      apply hall
  · have hsome : Function.update w.done k (w.done k ++ (w.rest k).take n) k ≠ [] := by
      rw [Function.update_self]
      simp [htake]
    constructor
    · intro j hj
      rcases eq_or_ne j k with rfl | hne
      · simp only [Function.update_self] at hj
        apply absurd hj hdrop
      · simp only [Function.update_of_ne hne]
        apply hok j hne
    · intro j hj i hne
      rcases eq_or_ne j k with rfl | hjk
      · simp only [Function.update_of_ne hne]
        apply hok i hne
      · simp only [Function.update_of_ne hjk] at hj
        apply absurd (hok j hjk) hj
    · intro j
      rw [h.started_eq j]
      rcases eq_or_ne j k with rfl | hne
      · simp [hrest, hdrop, List.take_append_drop]
      · simp [hne]
    · intro j hj
      rcases eq_or_ne k j with rfl | hne
      · simp only [Function.update_self, ← List.append_assoc]
        apply congrArg (· ++ (w.rest k).take n) hstream
      · apply absurd (hj k hne) hsome
    · intro hnone
      apply absurd (hnone k) hsome

/-- The message that a writer is writing has been begun. -/
theorem Whole.mem_started {w : Wire κ α} (h : Whole w) {k : κ} (hrest : w.rest k ≠ []) :
  (k, w.done k ++ w.rest k) ∈ w.started
  := by
  have hmem : (k, w.done k ++ w.rest k) ∈ w.started.filter (fun p => p.1 = k) := by
    rw [h.started_eq k, if_neg (mt List.isEmpty_iff.mp hrest)]
    apply List.mem_append_right _ List.mem_cons_self
  apply (List.mem_filter.mp hmem).1

/-- The messages that have been written have been begun. -/
theorem Whole.finished_subset {w : Wire κ α} (h : Whole w) :
  w.finished ⊆ w.started
  := by
  intro p hp
  have hmem : p ∈ w.started.filter (fun q => q.1 = p.1) := by
    rw [h.started_eq p.1]
    apply List.mem_append_left
    rw [List.mem_filter]
    exact ⟨hp, decide_eq_true rfl⟩
  apply (List.mem_filter.mp hmem).1

/-- A step that a writer takes while another one is part of the way through a message puts the
beginning of its message after that part. -/
theorem Whole.stream_of_mixed {w w' : Wire κ α} (h : Whole w) {k : κ} {n : ℕ}
    (hmixed : ¬ w.OthersBetween k) (hw : w.writeSome k n = some w') :
  ∃ j, w.done j ≠ [] ∧ w.rest j ≠ [] ∧ w.done k = []
    ∧ w'.stream = w.finishedStream ++ (w.done j ++ (w.rest k).take n)
  := by
  obtain ⟨j, hjk, hj⟩ : ∃ j, j ≠ k ∧ w.done j ≠ [] := by
    simpa only [OthersBetween, not_forall, exists_prop] using hmixed
  have halone := h.alone j hj
  refine ⟨j, hj, mt (h.done_eq_nil j) hj, halone k hjk.symm, ?_⟩
  rw [writeSome_stream hw, h.stream_eq j halone, List.append_assoc]

/-! ### Runs -/

/-- What happens next: a writer begins a message, writes the next `n` elements, or fails. -/
inductive Action (κ : Type u) (α : Type v) where
  | start (k : κ) (msg : List α)
  | writeSome (k : κ) (n : ℕ)
  | fail (k : κ)

/-- The state after an action.  A writer begins a message when it is not writing. -/
def next (w : Wire κ α) : Action κ α → Option (Wire κ α)
  | .start k msg =>
      if (w.rest k).isEmpty ∧ ¬ msg.isEmpty then some (w.start k msg) else none
  | .writeSome k n => w.writeSome k n
  | .fail k => w.fail k

/-- The action writes nothing while another writer is part of the way through a message. -/
def WritesBetween (w : Wire κ α) : Action κ α → Prop
  | .writeSome k _ => w.OthersBetween k
  | .start _ _ | .fail _ => True

/-- While no write has failed, the stream is one of whole messages. -/
theorem whole_next (w : Wire κ α) :
    ∀ (a : Action κ α) (w' : Wire κ α), (w.failed = false → w.Whole) → WritesBetween w a →
      next w a = some w' → w'.failed = false → w'.Whole
  | .start k msg, w', h, _, hnext, hfailed => by
      rw [next] at hnext
      split_ifs at hnext with hstart
      obtain rfl := Option.some.inj hnext
      apply (h hfailed).start (List.isEmpty_iff.mp hstart.1)
      rintro rfl
      apply hstart.2 rfl
  | .writeSome k n, w', h, hok, hnext, hfailed => by
      rw [(writeSome_kept hnext).1] at hfailed
      apply (h hfailed).writeSome hok hnext
  | .fail k, w', _, _, hnext, hfailed => by
      cases (fail_kept hnext).1.symm.trans hfailed

/-- After every run in which nothing is written while another writer is part of the way
through a message, the stream is put together from the messages begun, those of each writer in
their order, when no write is in progress and none has failed. -/
theorem stream_of_run {as : List (Action κ α)} {w : Wire κ α}
    (hok : Transition.Meets next WritesBetween empty as)
    (hrun : Transition.run next empty as = some w) (hfailed : w.failed = false)
    (hidle : w.Idle) :
  w.stream = (w.finished.map Prod.snd).flatten
    ∧ ∀ k, w.finished.filter (fun p => p.1 = k) = w.started.filter (fun p => p.1 = k)
  := by
  have hwhole : w.failed = false → w.Whole :=
    Transition.run_invariant whole_next (fun _ => Whole.empty) hok hrun
  apply (hwhole hfailed).stream_of_idle hidle

end Steps

/-! ### The order of the messages -/

section Order

variable [DecidableEq κ] {β : Type w} {f : α → β} {key : α → κ} {key' : β → κ}

/-- A list that has under each key the images of the elements that another has under it, in
their order, consists of the images of these elements, those under each key in their order. -/
theorem exists_map_of_filter_eq (hkey : ∀ a, key' (f a) = key a) :
    ∀ {bs : List β} {as : List α},
      (∀ k, bs.filter (fun b => key' b = k) = (as.filter (fun a => key a = k)).map f) →
      ∃ as' : List α, as'.map f = bs
        ∧ ∀ k, as'.filter (fun a => key a = k) = as.filter (fun a => key a = k)
  | [], as, h => by
      use [], rfl
      intro k
      exact (List.map_eq_nil_iff.mp (h k).symm).symm
  | b :: bs, as, h => by
      have hb := h (key' b)
      rw [List.filter_cons_of_pos (by simp), eq_comm, List.map_eq_cons_iff] at hb
      obtain ⟨a, rest, has, rfl, hrest⟩ := hb
      obtain ⟨before, after, rfl, hbefore, ha, rfl⟩ := List.filter_eq_cons_iff.mp has
      have ha : key a = key' (f a) := by simpa using ha
      have hbefore' : before.filter (fun a' => key a' = key' (f a)) = [] := by
        rw [List.filter_eq_nil_iff]
        exact hbefore
      have hothers : ∀ k, bs.filter (fun b => key' b = k)
          = ((before ++ after).filter (fun a => key a = k)).map f := by
        intro k
        by_cases hk : key' (f a) = k
        · rw [← hk, ← hrest, List.filter_append, hbefore', List.nil_append]
        · have hk' := h k
          rw [List.filter_cons_of_neg (by simpa using hk), List.filter_append,
            List.filter_cons_of_neg (by simpa [hkey] using hk)] at hk'
          rw [hk', List.filter_append]
      obtain ⟨as', rfl, has'⟩ := exists_map_of_filter_eq hkey hothers
      use a :: as', rfl
      intro k
      by_cases hk : key a = k
      · rw [List.filter_cons_of_pos (by simpa using hk), has', List.filter_append,
          List.filter_append, List.filter_cons_of_pos (by simpa using hk), ← hk, ha, hbefore',
          List.nil_append, List.nil_append]
      · rw [List.filter_cons_of_neg (by simpa using hk), has', List.filter_append,
          List.filter_append, List.filter_cons_of_neg (by simpa using hk)]

end Order

end Wire
