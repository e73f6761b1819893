import DoorSwitchSvr.Command
import DoorSwitchSvr.Lib.Framing

/-!
# The relay board

A reference receiver for the stream of commands, and what the doors are after it.

The board accepts a frame with the right header and checksums, and then gives the relays
the frame enables the values of its data bits (`setRelays`).  Against it stands the
abstract switch, a value for each door, in which a command opens or closes the door of its
channel and leaves every other door alone (`Doors.apply`).

The board simulates the abstract switch: from a register that agrees with the doors on
the channels 1 to 16, any stream of commands for these channels is split into its frames,
every frame is accepted, and the register afterwards agrees with the doors afterwards
(`receive_commands`), each of which is as its last command left it
(`doors_eq_lastCommand`).
-/

namespace DoorSwitchSvr

open DoorSwitchChannelController Framing

namespace RelayBoard

/-! ### The receiver -/

/-- The data and the enable bits of a frame that the board accepts. -/
def accept : List UInt8 → Option (BitVec 16 × BitVec 16)
  | [H1, H2, W, Address, D1, D0, CE1, CE0, ADD1, ADD2] =>
      if H1 = 0xcc ∧ H2 = 0xdd ∧ W = 0xa1 ∧ Address = 0x01
          ∧ ADD1 = W + Address + D1 + D0 + CE1 + CE0 ∧ ADD2 = 2 * ADD1 then
        some (word D1 D0, word CE1 CE0)
      else none
  | _ => none

/-- The relays `R`, those enabled by `CE` with the values of `D`. -/
def setRelays (R D CE : BitVec 16) : BitVec 16 := (R &&& ~~~CE) ||| (D &&& CE)

/-- The relays after a frame, or `none` when the board does not accept it. -/
def receiveFrame (R : BitVec 16) (f : List UInt8) : Option (BitVec 16) :=
  (accept f).map (fun x => setRelays R x.1 x.2)

/-- The relays after a stream of frames of ten bytes. -/
def receive (R : BitVec 16) (stream : List UInt8) : Option (BitVec 16) :=
  (cut 10 stream).foldlM receiveFrame R

/-! ### The abstract switch -/

/-- The doors of a switch, `true` for an open one. -/
abbrev Doors : Type := UInt16 → Bool

/-- The state a command leaves its door in. -/
def isOpened : DoorCommand → Bool
  | .openCommand => true
  | .closeCommand => false

/-- The doors after a command for a channel. -/
def Doors.apply (doors : Doors) (p : UInt16 × DoorCommand) : Doors :=
  Function.update doors p.1 (isOpened p.2)

/-- The last of the commands that is for the channel `c`. -/
def lastCommand (cmds : List (UInt16 × DoorCommand)) (c : UInt16) : Option DoorCommand :=
  ((cmds.filter (fun p => p.1 = c)).getLast?).map Prod.snd

theorem lastCommand_concat (cmds : List (UInt16 × DoorCommand)) (p : UInt16 × DoorCommand)
    (c : UInt16) :
  lastCommand (cmds ++ [p]) c = if p.1 = c then some p.2 else lastCommand cmds c
  := by
  rw [lastCommand, List.filter_append]
  split_ifs with hp
  · simp [hp]
  · simp [hp, lastCommand]

/-- After a sequence of commands a door is as the last command for it left it, and as it
was when there is none. -/
theorem doors_eq_lastCommand (c : UInt16) :
    ∀ (cmds : List (UInt16 × DoorCommand)) (doors : Doors),
      cmds.foldl Doors.apply doors c = ((lastCommand cmds c).map isOpened).getD (doors c)
  | [], _ => rfl
  | p :: cmds, doors => by
      rw [List.foldl_cons, doors_eq_lastCommand c cmds, lastCommand, lastCommand]
      by_cases hp : p.1 = c
      · rw [List.filter_cons_of_pos (by simpa using hp), List.getLast?_cons, Doors.apply, hp,
          Function.update_self]
        cases (cmds.filter (fun p => p.1 = c)).getLast? <;> rfl
      · rw [List.filter_cons_of_neg (by simpa using hp), Doors.apply,
          Function.update_of_ne (Ne.symm hp)]

/-! ### One command -/

/-- The board accepts the frames the encoder builds, with the data and the enable bits it
put into them. -/
theorem accept_frame (D1 D0 CE1 CE0 : UInt8) :
  accept (frame D1 D0 CE1 CE0) = some (word D1 D0, word CE1 CE0)
  := by
  rw [frame, accept, if_pos]
  simp only [UInt8.two_mul, and_self]

/-- The data bits of a command: those of its enable mask to open, none to close. -/
def dataMask (channel : Int16) : DoorCommand → BitVec 16
  | .openCommand => enableMask channel
  | .closeCommand => 0#16

theorem accept_bytes (m_channel : UInt16) (cmd : DoorCommand) :
  accept (cmd.bytes m_channel)
    = some (dataMask m_channel.toInt16 cmd, enableMask m_channel.toInt16)
  := by
  cases cmd with
  | openCommand =>
      rw [DoorCommand.bytes, make_open_command, accept_frame, word_highByte_lowByte]
      rfl
  | closeCommand =>
      rw [DoorCommand.bytes, make_close_command, accept_frame, word_highByte_lowByte]
      rfl

theorem length_bytes (m_channel : UInt16) (cmd : DoorCommand) :
  (cmd.bytes m_channel).length = 10
  := by
  cases cmd <;> rfl

/-- A frame begins with the first byte of the header, which is at no other place of it. -/
theorem exists_bytes_eq_cons (m_channel : UInt16) (cmd : DoorCommand) :
  ∃ bytes, cmd.bytes m_channel = 0xcc :: bytes ∧ 0xcc ∉ bytes
  := by
  have hframe : ∀ D : Int16, (D = 0 ∨ ∃ i < 16, D = Int16.ofNat (2 ^ i)) →
      0xcc ∉ (frame (highByte D) (lowByte D) (highByte D) (lowByte D)).tail
        ∧ 0xcc ∉ (frame 0x00 0x00 (highByte D) (lowByte D)).tail := by
    rintro D (rfl | ⟨i, hi, rfl⟩)
    · decide
    · revert i
      decide
  have hmask := pow2_eq_zero_or (m_channel.toInt16.toInt - 1)
  cases cmd with
  | openCommand => exact ⟨_, rfl, (hframe _ hmask).1⟩
  | closeCommand => exact ⟨_, rfl, (hframe _ hmask).2⟩

/-- A number below `2 ^ 15` keeps its value as a `short`. -/
theorem toInt_toInt16 {c : UInt16} (h : c.toNat < 2 ^ 15) :
  c.toInt16.toInt = c.toNat
  := by
  have hc : c.toInt16 = Int16.ofNat c.toNat := by
    rw [← UInt16.toInt16_ofNat', UInt16.ofNat_toNat]
  rw [hc, Int16.toInt_ofNat_of_lt h]

/-- The register agrees with the doors on the channels the board has relays for. -/
def Agrees (R : BitVec 16) (doors : Doors) : Prop :=
  ∀ c : UInt16, 1 ≤ c.toNat → c.toNat ≤ 16 → R.getLsbD (c.toNat - 1) = doors c

/-- A channel from 1 to 16 enables the relay of its own door, and no other. -/
theorem getLsbD_enableMask_toInt16 {c c' : UInt16} (h1 : 1 ≤ c.toNat) (h16 : c.toNat ≤ 16)
    (h1' : 1 ≤ c'.toNat) (h16' : c'.toNat ≤ 16) :
  (enableMask c.toInt16).getLsbD (c'.toNat - 1) = decide (c' = c)
  := by
  rw [getLsbD_enableMask, toInt_toInt16 (by omega), Bool.eq_iff_iff]
  simp only [Bool.and_eq_true, decide_eq_true_eq, ← UInt16.toNat_inj]
  omega

/-- One command on the board is one command on the doors. -/
theorem Agrees.setRelays {R : BitVec 16} {doors : Doors} (h : Agrees R doors)
    {p : UInt16 × DoorCommand} (h1 : 1 ≤ p.1.toNat) (h16 : p.1.toNat ≤ 16) :
  Agrees (setRelays R (dataMask p.1.toInt16 p.2) (enableMask p.1.toInt16)) (doors.apply p)
  := by
  intro c hc1 hc16
  have hmask := getLsbD_enableMask_toInt16 h1 h16 hc1 hc16
  have hlt : c.toNat - 1 < 16 := by omega
  rw [RelayBoard.setRelays, BitVec.getLsbD_or, BitVec.getLsbD_and, BitVec.getLsbD_and,
    BitVec.getLsbD_not, hmask, h c hc1 hc16, Doors.apply]
  by_cases hcp : c = p.1
  · subst hcp
    cases hcmd : p.2 with
    | openCommand => simp [dataMask, hmask, isOpened, hlt]
    | closeCommand => simp [dataMask, isOpened]
  · simp [hcp, hlt]

/-! ### Streams of commands -/

/-- The frames of a sequence of commands for the channels 1 to 16 are all accepted, and
the register afterwards agrees with the doors afterwards. -/
theorem receiveFrames_commands :
    ∀ {cmds : List (UInt16 × DoorCommand)} {R : BitVec 16} {doors : Doors},
      Agrees R doors → (∀ p ∈ cmds, 1 ≤ p.1.toNat ∧ p.1.toNat ≤ 16) →
      ∃ R', (cmds.map (fun p => p.2.bytes p.1)).foldlM receiveFrame R = some R'
        ∧ Agrees R' (cmds.foldl Doors.apply doors)
  | [], R, _, h, _ => by
      use R, rfl
      apply h
  | p :: cmds, R, doors, h, hcmds => by
      obtain ⟨h1, h16⟩ := hcmds p List.mem_cons_self
      obtain ⟨R', hR', hagrees⟩ := receiveFrames_commands (h.setRelays h1 h16)
        (fun q hq => hcmds q (List.mem_cons_of_mem p hq))
      use R'
      constructor
      · rw [List.map_cons, List.foldlM_cons, receiveFrame, accept_bytes]
        apply hR'
      · apply hagrees

/-- The stream of a sequence of commands is cut back into their frames. -/
theorem cut_commands (cmds : List (UInt16 × DoorCommand)) :
  cut 10 (cmds.map (fun p => p.2.bytes p.1)).flatten = cmds.map (fun p => p.2.bytes p.1)
  := by
  apply cut_flatten (by decide)
  intro f hf
  obtain ⟨p, -, rfl⟩ := List.mem_map.mp hf
  apply length_bytes

/-- The board takes any sequence of commands for the channels 1 to 16, in any order: their
stream is split back into their frames, every frame is accepted, and afterwards the relay
of each channel is as the last command for the channel left it, or as it was when there is
none. -/
theorem receive_commands (R : BitVec 16) (cmds : List (UInt16 × DoorCommand))
    (h : ∀ p ∈ cmds, 1 ≤ p.1.toNat ∧ p.1.toNat ≤ 16) :
  cut 10 (cmds.map (fun p => p.2.bytes p.1)).flatten = cmds.map (fun p => p.2.bytes p.1)
    ∧ (∀ p ∈ cmds, (accept (p.2.bytes p.1)).isSome)
    ∧ ∃ R', receive R (cmds.map (fun p => p.2.bytes p.1)).flatten = some R'
      ∧ ∀ c : UInt16, 1 ≤ c.toNat → c.toNat ≤ 16 →
          R'.getLsbD (c.toNat - 1)
            = ((lastCommand cmds c).map isOpened).getD (R.getLsbD (c.toNat - 1))
  := by
  have hcut := cut_commands cmds
  have hR : Agrees R (fun c => R.getLsbD (c.toNat - 1)) := fun _ _ _ => rfl
  obtain ⟨R', hR', hagrees⟩ := receiveFrames_commands hR h
  refine ⟨hcut, ?_, R', ?_, ?_⟩
  · intro p _
    rw [accept_bytes]
    rfl
  · rw [receive, hcut, hR']
  · intro c h1 h16
    rw [hagrees c h1 h16, doors_eq_lastCommand]

/-- Two commands for channel 3 and one for channel 16, on a board whose relays are off. -/
theorem receive_commands_three :
  ∃ R', receive 0#16 (([(3, .openCommand), (16, .openCommand), (3, .closeCommand)] :
      List (UInt16 × DoorCommand)).map (fun p => p.2.bytes p.1)).flatten = some R'
    ∧ R'.getLsbD 15 = true ∧ R'.getLsbD 2 = false
  := by
  obtain ⟨-, -, R', hR', hbits⟩ := receive_commands 0#16
    [(3, .openCommand), (16, .openCommand), (3, .closeCommand)] (by decide)
  use R', hR'
  exact ⟨hbits 16 (by decide) (by decide), hbits 3 (by decide) (by decide)⟩

end RelayBoard

end DoorSwitchSvr
