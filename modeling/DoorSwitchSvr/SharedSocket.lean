import DoorSwitchSvr.RelayBoard
import DoorSwitchSvr.ChannelController
import DoorSwitchSvr.Lib.Transition
import DoorSwitchSvr.Lib.Wire

/-!
# Frames on the shared socket

The controllers of a switch share its socket.  `sendData` writes a frame to it in pieces,
and the worker of another controller may write to it between two of them.

Nothing orders the calls of `sendData`.  Two controllers that write at the same time may mix
their frames (`mixed_frames`).  In every run in which bytes are only written while no other
frame is part of the way through, the stream consists of whole frames, those of each
controller in its own order (`wholeFrames_of_run`).

There are no other such runs (`meets_of_wholeFrames`).  The first byte of a frame is at no
other place of it, and the first time that a frame is begun in the middle of another one puts
it at such a place of the stream, where it stays.
-/

namespace DoorSwitchSvr

open Transition DoorSwitchChannelController

/-- The controllers `ctl` of a switch and their socket. -/
structure SharedSocket (κ : Type) where
  ctl : κ → DoorSwitchChannelController
  wire : Wire κ UInt8

namespace SharedSocket

variable {κ : Type}

/-- What happens next.

* `addTask`: a task is added to a controller.
* `work`: the worker of a controller takes a step, in which it may call `sendData`.
* `writeSome`: a call of `sendData` writes the next `n` bytes.
* `fail`: its write fails. -/
inductive Action (κ : Type) where
  | addTask (k : κ) (task : DoorSwitchOpenNotification)
  | work (k : κ) (elapsed : Int64)
  | writeSome (k : κ) (n : ℕ)
  | fail (k : κ)
  deriving DecidableEq

/-- The controllers for the channels `m_channel` have been started. -/
def initial (m_channel : κ → UInt16) : SharedSocket κ where
  ctl k := (({} : DoorSwitchChannelController).Init (m_channel k) .handleRWError).1.Start
  wire := .empty

/-- The stream consists of whole frames of ten bytes, which are the frames that have been
passed to `sendData`, those of each controller in its own order; when no write is in
progress and none has failed. -/
def WholeFrames [DecidableEq κ] (s : SharedSocket κ) : Prop :=
  s.wire.failed = false → s.wire.Idle →
    ∃ frames : List (κ × List UInt8),
      s.wire.stream = (frames.map Prod.snd).flatten
        ∧ (∀ p ∈ frames, p.2.length = 10)
        ∧ ∀ k, frames.filter (fun p => p.1 = k) = s.wire.started.filter (fun p => p.1 = k)

/-- What is passed to `sendData` are the frames of commands. -/
def SendsCommands (s : SharedSocket κ) : Prop :=
  ∀ p ∈ s.wire.started, ∃ (m_channel : UInt16) (cmd : DoorCommand), p.2 = cmd.bytes m_channel

theorem SendsCommands.initial (m_channel : κ → UInt16) :
  (initial m_channel).SendsCommands
  := by
  intro p hp
  cases hp

theorem SendsCommands.length {s : SharedSocket κ} (h : s.SendsCommands)
    {p : κ × List UInt8} (hp : p ∈ s.wire.started) :
  p.2.length = 10
  := by
  obtain ⟨m_channel, cmd, heq⟩ := h p hp
  rw [heq]
  apply RelayBoard.length_bytes

theorem SendsCommands.exists_eq_cons {s : SharedSocket κ} (h : s.SendsCommands)
    {p : κ × List UInt8} (hp : p ∈ s.wire.started) :
  ∃ bytes, p.2 = 0xcc :: bytes ∧ 0xcc ∉ bytes
  := by
  obtain ⟨m_channel, cmd, heq⟩ := h p hp
  rw [heq]
  apply RelayBoard.exists_bytes_eq_cons

section Steps

variable [DecidableEq κ]

/-- The state after an action.  A worker does not go on while its `sendData` is writing. -/
def next (type : SWITCH_TYPE) (s : SharedSocket κ) : Action κ → Option (SharedSocket κ)
  | .addTask k task =>
      some { s with ctl := Function.update s.ctl k ((s.ctl k).addTask task) }
  | .work k elapsed =>
      if s.wire.rest k = [] then
        (runStep type elapsed (s.ctl k)).map (fun x =>
          { ctl := Function.update s.ctl k x.1
            wire :=
              match x.2 with
              | none => s.wire
              | some cmd => s.wire.start k (cmd.bytes (s.ctl k).m_channel) })
      else none
  | .writeSome k n => (s.wire.writeSome k n).map (fun wire => { s with wire := wire })
  | .fail k => (s.wire.fail k).map (fun wire => { s with wire := wire })

/-- The action writes no bytes while another frame is part of the way through. -/
def WritesBetween (s : SharedSocket κ) : Action κ → Prop
  | .writeSome k _ => s.wire.OthersBetween k
  | _ => True

instance [Fintype κ] (s : SharedSocket κ) : (a : Action κ) → Decidable (WritesBetween s a)
  | .writeSome _ _ => inferInstanceAs (Decidable (∀ _, _))
  | .addTask _ _ | .work _ _ | .fail _ => isTrue trivial

/-! ### The invariant -/

/-- While no write has failed, the stream is one of whole messages; and the messages are
frames. -/
structure Inv (s : SharedSocket κ) : Prop where
  whole : s.wire.failed = false → s.wire.Whole
  sends : s.SendsCommands

theorem Inv.initial (m_channel : κ → UInt16) :
  Inv (initial m_channel)
  := by
  constructor
  · intro _
    apply Wire.Whole.empty
  · apply SendsCommands.initial

/-- Whatever happens, only frames are passed to `sendData`. -/
theorem SendsCommands.step {type : SWITCH_TYPE} (s : SharedSocket κ) :
    ∀ (a : Action κ) (t : SharedSocket κ), s.SendsCommands → next type s a = some t →
      t.SendsCommands
  | .addTask _ _, _, h, hnext => by
      obtain rfl := Option.some.inj hnext
      apply h
  | .work k _, _, h, hnext => by
      rw [next] at hnext
      split_ifs at hnext
      obtain ⟨⟨c, cmd⟩, -, rfl⟩ := Option.map_eq_some_iff.mp hnext
      cases cmd with
      | none => apply h
      | some cmd =>
          intro p hp
          rcases List.mem_append.mp hp with hp | hp
          · apply h p hp
          · rw [List.mem_singleton.mp hp]
            exact ⟨(s.ctl k).m_channel, cmd, rfl⟩
  | .writeSome _ _, _, h, hnext => by
      obtain ⟨wire, hwire, rfl⟩ := Option.map_eq_some_iff.mp hnext
      simp only [SendsCommands, (Wire.writeSome_kept hwire).2]
      apply h
  | .fail _, _, h, hnext => by
      obtain ⟨wire, hwire, rfl⟩ := Option.map_eq_some_iff.mp hnext
      simp only [SendsCommands, (Wire.fail_kept hwire).2]
      apply h

/-- A list with the same elements for each controller has the same elements. -/
theorem mem_of_filter_eq {l l' : List (κ × List UInt8)}
    (h : ∀ k, l.filter (fun p => p.1 = k) = l'.filter (fun p => p.1 = k))
    {p : κ × List UInt8} (hp : p ∈ l) :
  p ∈ l'
  := by
  have hmem : p ∈ l.filter (fun q => q.1 = p.1) := by
    rw [List.mem_filter]
    exact ⟨hp, decide_eq_true rfl⟩
  rw [h p.1] at hmem
  apply (List.mem_filter.mp hmem).1

theorem Inv.wholeFrames {s : SharedSocket κ} (h : Inv s) :
  s.WholeFrames
  := by
  intro hfailed hidle
  obtain ⟨hstream, hfinished⟩ := (h.whole hfailed).stream_of_idle hidle
  use s.wire.finished, hstream
  constructor
  · intro p hp
    apply h.sends.length (mem_of_filter_eq hfinished hp)
  · apply hfinished

/-- When the first ten bytes are none of the frames passed to `sendData`, the stream does not
consist of whole frames. -/
theorem not_wholeFrames {s : SharedSocket κ} {started : List (κ × List UInt8)}
    {first : List UInt8} (hfailed : s.wire.failed = false) (hidle : s.wire.Idle)
    (hstarted : s.wire.started = started) (htake : s.wire.stream.take 10 = first)
    (hfirst : first ≠ []) (hne : ∀ p ∈ started, p.2 ≠ first) :
  ¬ s.WholeFrames
  := by
  intro h
  obtain ⟨frames, hstream, hlength, hfilter⟩ := h hfailed hidle
  rw [hstream] at htake
  cases frames with
  | nil => apply hfirst htake.symm
  | cons p frames =>
      rw [List.map_cons, List.flatten_cons,
        List.take_left' (hlength p List.mem_cons_self)] at htake
      have hp : p ∈ s.wire.started := mem_of_filter_eq hfilter List.mem_cons_self
      rw [hstarted] at hp
      apply hne p hp htake

theorem whole_work {type : SWITCH_TYPE} {s t : SharedSocket κ} (h : Inv s) {k : κ}
    {elapsed : Int64} (hnext : next type s (.work k elapsed) = some t)
    (hfailed : t.wire.failed = false) :
  t.wire.Whole
  := by
  rw [next] at hnext
  split_ifs at hnext with hrest
  obtain ⟨⟨c, cmd⟩, -, rfl⟩ := Option.map_eq_some_iff.mp hnext
  cases cmd with
  | none => apply h.whole hfailed
  | some cmd =>
      apply (h.whole hfailed).start hrest
      apply List.ne_nil_of_length_pos
      rw [RelayBoard.length_bytes]
      exact Nat.succ_pos 9

theorem whole_writeSome {type : SWITCH_TYPE} {s t : SharedSocket κ} (h : Inv s) {k : κ} {n : ℕ}
    (hok : s.wire.OthersBetween k) (hnext : next type s (.writeSome k n) = some t)
    (hfailed : t.wire.failed = false) :
  t.wire.Whole
  := by
  obtain ⟨wire, hwire, rfl⟩ := Option.map_eq_some_iff.mp hnext
  rw [(Wire.writeSome_kept hwire).1] at hfailed
  apply (h.whole hfailed).writeSome hok hwire

theorem Inv.step {type : SWITCH_TYPE} (s : SharedSocket κ) (a : Action κ) (t : SharedSocket κ)
    (h : Inv s) (hok : WritesBetween s a) (hnext : next type s a = some t) :
  Inv t
  := by
  refine ⟨?_, h.sends.step s a t hnext⟩
  intro hfailed
  cases a with
  | addTask k task =>
      obtain rfl := Option.some.inj hnext
      apply h.whole hfailed
  | work k elapsed => apply whole_work h hnext hfailed
  | writeSome k n => apply whole_writeSome h hok hnext hfailed
  | fail k =>
      obtain ⟨wire, hwire, rfl⟩ := Option.map_eq_some_iff.mp hnext
      cases (Wire.fail_kept hwire).1.symm.trans hfailed

/-- In every run in which bytes are only written while no other frame is part of the way
through, the stream consists of the whole frames passed to `sendData`, those of each
controller in its own order, whenever no write is in progress and none has failed. -/
theorem wholeFrames_of_run (type : SWITCH_TYPE) (m_channel : κ → UInt16) (as : List (Action κ))
    {t : SharedSocket κ} (hok : Meets (next type) WritesBetween (initial m_channel) as)
    (hrun : run (next type) (initial m_channel) as = some t) :
  t.WholeFrames
  := by
  have h : Inv t := run_invariant Inv.step (Inv.initial m_channel) hok hrun
  apply h.wholeFrames

/-! ### Frames that are begun within others -/

/-- A write has failed, or some bytes after a number of whole frames, fewer than a frame has,
there is the first byte of a frame. -/
def Broken (s : SharedSocket κ) : Prop :=
  s.wire.failed = true ∨ ∃ (frames : List (List UInt8)) (part rest : List UInt8),
    s.wire.stream = frames.flatten ++ (part ++ 0xcc :: rest)
      ∧ (∀ f ∈ frames, f.length = 10) ∧ part ≠ [] ∧ part.length < 10

/-- What has been written stays in the stream, and a write that has failed remains one. -/
theorem prefix_of_next {type : SWITCH_TYPE} {s t : SharedSocket κ} {a : Action κ}
    (hnext : next type s a = some t) :
  (s.wire.failed = true → t.wire.failed = true) ∧ s.wire.stream <+: t.wire.stream
  := by
  cases a with
  | addTask k task =>
      obtain rfl := Option.some.inj hnext
      exact ⟨id, List.prefix_rfl⟩
  | work k elapsed =>
      rw [next] at hnext
      split_ifs at hnext
      obtain ⟨⟨c, cmd⟩, -, rfl⟩ := Option.map_eq_some_iff.mp hnext
      cases cmd <;> exact ⟨id, List.prefix_rfl⟩
  | writeSome k n =>
      obtain ⟨wire, hwire, rfl⟩ := Option.map_eq_some_iff.mp hnext
      simp only [(Wire.writeSome_kept hwire).1, Wire.writeSome_stream hwire]
      exact ⟨id, List.prefix_append _ _⟩
  | fail k =>
      obtain ⟨wire, hwire, rfl⟩ := Option.map_eq_some_iff.mp hnext
      rw [Wire.fail] at hwire
      split_ifs at hwire
      obtain rfl := Option.some.inj hwire
      exact ⟨fun _ => rfl, List.prefix_rfl⟩

theorem Broken.step {type : SWITCH_TYPE} (s : SharedSocket κ) (a : Action κ)
    (t : SharedSocket κ) (h : s.Broken) (hnext : next type s a = some t) :
  t.Broken
  := by
  obtain ⟨hfailed, more, hmore⟩ := prefix_of_next hnext
  rcases h with h | ⟨frames, part, rest, hstream, hlength, hpart, hlt⟩
  · left
    apply hfailed h
  · right
    refine ⟨frames, part, rest ++ more, ?_, hlength, hpart, hlt⟩
    rw [← hmore, hstream]
    simp

/-- A step that writes while another frame is part of the way through breaks that frame. -/
theorem Inv.broken {type : SWITCH_TYPE} (s : SharedSocket κ) (a : Action κ)
    (t : SharedSocket κ) (h : Inv s) (hbad : ¬ WritesBetween s a)
    (hnext : next type s a = some t) :
  t.Broken
  := by
  cases a with
  | addTask k task => apply absurd trivial hbad
  | work k elapsed => apply absurd trivial hbad
  | fail k => apply absurd trivial hbad
  | writeSome k n =>
      obtain ⟨wire, hwire, rfl⟩ := Option.map_eq_some_iff.mp hnext
      rcases Bool.eq_false_or_eq_true s.wire.failed with hfailed | hfailed
      · left
        apply (Wire.writeSome_kept hwire).1.trans hfailed
      · have hwhole := h.whole hfailed
        obtain ⟨j, hj, hrest, hk, hstream⟩ := hwhole.stream_of_mixed hbad hwire
        have hlength := h.sends.length (hwhole.mem_started hrest)
        -- `k` is at the beginning of its frame
        obtain ⟨hrestk, -⟩ := Wire.writeSome_eq_some hwire
        have hbegun := hwhole.mem_started hrestk
        rw [hk, List.nil_append] at hbegun
        obtain ⟨bytes, hbytes, -⟩ := h.sends.exists_eq_cons hbegun
        have hn : n ≠ 0 := (Wire.writeSome_pos hwire).ne'
        obtain ⟨m, rfl⟩ := Nat.exists_eq_succ_of_ne_zero hn
        right
        refine ⟨s.wire.finished.map Prod.snd, s.wire.done j, bytes.take m, ?_, ?_, hj, ?_⟩
        · simp only at hbytes
          rw [hstream, hbytes, List.take_succ_cons, Wire.finishedStream]
        · intro f hf
          obtain ⟨p, hp, rfl⟩ := List.mem_map.mp hf
          apply h.sends.length (hwhole.finished_subset hp)
        · have hpos := List.length_pos_iff.mpr hrest
          simp only [List.length_append] at hlength
          omega

/-- A broken stream does not consist of whole frames. -/
theorem SendsCommands.not_broken {s : SharedSocket κ} (h : s.SendsCommands)
    (hfailed : s.wire.failed = false) (hidle : s.wire.Idle) (hwhole : s.WholeFrames) :
  ¬ s.Broken
  := by
  rintro (hbroken | ⟨frames', part, rest, hstream, hlength', hpart, hlt⟩)
  · cases hfailed.symm.trans hbroken
  · obtain ⟨frames, hstream', hlength, hfilter⟩ := hwhole hfailed hidle
    have hfs : ∀ f ∈ frames.map Prod.snd, f.length = 10 := by
      intro f hf
      obtain ⟨p, hp, rfl⟩ := List.mem_map.mp hf
      apply hlength p hp
    have hmem : (part ++ 0xcc :: rest).take 10 ∈ frames.map Prod.snd := by
      apply Framing.take_mem_of_flatten_eq (by decide) hfs hlength' (by simp)
      rw [← hstream', hstream]
    obtain ⟨p, hp, htake⟩ := List.mem_map.mp hmem
    obtain ⟨bytes, hbytes, hnot⟩ := h.exists_eq_cons (mem_of_filter_eq hfilter hp)
    -- the byte after `part` is in the frame, and not the first one of it
    obtain ⟨b, part, rfl⟩ := List.exists_cons_of_ne_nil hpart
    rw [hbytes, List.cons_append, List.take_succ_cons] at htake
    apply hnot
    rw [(List.cons.inj htake).2]
    rw [List.length_cons] at hlt
    obtain ⟨m, hm⟩ : ∃ m, 9 = part.length + (m + 1) := ⟨8 - part.length, by omega⟩
    rw [hm, List.take_length_add_append, List.take_succ_cons]
    apply List.mem_append_right _ List.mem_cons_self

/-- In every run at whose end no write is in progress and none has failed, and the stream
consists of the whole frames passed to `sendData`, bytes have only been written while no other
frame was part of the way through. -/
theorem meets_of_wholeFrames (type : SWITCH_TYPE) (m_channel : κ → UInt16)
    (as : List (Action κ)) {t : SharedSocket κ}
    (hrun : run (next type) (initial m_channel) as = some t) (hfailed : t.wire.failed = false)
    (hidle : t.wire.Idle) (hwhole : t.WholeFrames) :
  Meets (next type) WritesBetween (initial m_channel) as
  := by
  have hsends : t.SendsCommands :=
    run_invariant_of_step SendsCommands.step (SendsCommands.initial m_channel) hrun
  apply meets_of_not_harmed Inv.step Inv.broken Broken.step (Inv.initial m_channel) hrun
  apply hsends.not_broken hfailed hidle hwhole

end Steps

/-- Two doors, on channels 1 and 2. -/
def twoDoors : Bool → UInt16 := fun k => if k then 2 else 1

/-- Both workers are about to write the open command of their door. -/
def bothOpen : List (Action Bool) :=
  [.addTask false ⟨1000⟩, .addTask true ⟨1000⟩] ++ List.replicate 4 (.work false 0)
    ++ List.replicate 4 (.work true 0)

/-- The frames that are written after `bothOpen`. -/
def bothFrames : List (Bool × List UInt8) :=
  [(false, DoorCommand.openCommand.bytes 1), (true, DoorCommand.openCommand.bytes 2)]

/-- The second frame is written when the first one is. -/
theorem wholeFrames_of_run_two :
  ∃ t, run (next .DIRECT_CONTROL_SWITCH) (initial twoDoors)
      (bothOpen ++ [.writeSome false 4, .writeSome false 6, .writeSome true 10]) = some t
    ∧ t.WholeFrames
  := by
  refine ⟨_, rfl, ?_⟩
  exact wholeFrames_of_run .DIRECT_CONTROL_SWITCH twoDoors
    (bothOpen ++ [.writeSome false 4, .writeSome false 6, .writeSome true 10]) (by decide) rfl

/-- Half of the first frame, and half of the second one. -/
def mixedFrame : List UInt8 :=
  (DoorCommand.openCommand.bytes 1).take 5 ++ (DoorCommand.openCommand.bytes 2).take 5

/-- The second frame is written when half of the first one is.  The first ten bytes are then
half of the first frame and half of the second. -/
theorem mixed_frames :
  ∃ t, run (next .DIRECT_CONTROL_SWITCH) (initial twoDoors)
      (bothOpen ++ [.writeSome false 5, .writeSome true 10, .writeSome false 5]) = some t
    ∧ ¬ t.WholeFrames
  := by
  have hne : ∀ p ∈ bothFrames, p.2 ≠ mixedFrame := by decide
  refine ⟨_, rfl, ?_⟩
  have hfirst : mixedFrame ≠ [] := by decide
  exact not_wholeFrames rfl (by decide) rfl rfl hfirst hne

end SharedSocket

end DoorSwitchSvr
