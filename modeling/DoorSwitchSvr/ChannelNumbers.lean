import DoorSwitchSvr.Engine
import Mathlib.Algebra.Group.Int.Defs

/-!
# Channel numbers

The number of a channel is an `int` in a request, a `short` in the call of `openDoor`, an
`unsigned short` in its controller, and a `short` again in the encoder of commands.

The engine accepts the numbers from 1 to `channels` of the switch, of which there can be
65535.  They stay different along these conversions, but only those up to 16 have a relay:
for every other one the enable mask is zero, and the command moves no door
(`hasOwnRelay_iff`).
-/

namespace DoorSwitchSvr

open DoorSwitchChannelController

/-- The `m_channel` of the controller for the channel of a request. -/
def controllerChannel (channel : Int32) : UInt16 := channel.toInt16.toUInt16

def openFrame (channel : Int32) : List UInt8 :=
  DoorCommand.openCommand.bytes (controllerChannel channel)

def closeFrame (channel : Int32) : List UInt8 :=
  DoorCommand.closeCommand.bytes (controllerChannel channel)

/-- The enable mask of a frame: its bytes `CE1` and `CE0`. -/
def maskOf : List UInt8 → BitVec 16
  | [_, _, _, _, _, _, CE1, CE0, _, _] => word CE1 CE0
  | _ => 0#16

/-- The data bits of a frame: its bytes `D1` and `D0`. -/
def dataOf : List UInt8 → BitVec 16
  | [_, _, _, _, D1, D0, _, _, _, _] => word D1 D0
  | _ => 0#16

/-- The channel `c` has a relay, which its commands open and close, and which no other
channel `c'` has. -/
structure HasOwnRelay (c c' : Int32) : Prop where
  mask_ne_zero : maskOf (openFrame c) ≠ 0#16
  open_ne_close : openFrame c ≠ closeFrame c
  eq_of_open_eq : openFrame c = openFrame c' → c = c'

/-! ### Frames -/

theorem maskOf_openFrame (channel : Int32) :
  maskOf (openFrame channel) = enableMask channel.toInt16
  := word_highByte_lowByte _

theorem dataOf_openFrame (channel : Int32) :
  dataOf (openFrame channel) = enableMask channel.toInt16
  := word_highByte_lowByte _

theorem dataOf_closeFrame (channel : Int32) :
  dataOf (closeFrame channel) = 0#16
  := rfl

/-! ### Accepted channels -/

/-- An accepted channel is a positive number of 16 bits. -/
theorem toInt_of_supportsChannel {info : SwitchInfo} {channel : Int32}
    (h : info.supportsChannel channel) :
  0 < channel.toInt ∧ channel.toInt < 2 ^ 16
  := by
  rw [SwitchInfo.supportsChannel, decide_eq_true_eq, not_or, Int32.not_le, Int32.lt_iff_toInt_lt,
    Int32.toInt_zero, not_lt] at h
  have hlt := info.channels.toNat_lt
  omega

/-- The numbers of different accepted channels are different as `short`. -/
theorem eq_of_toInt16_eq {info : SwitchInfo} {c c' : Int32} (h : info.supportsChannel c)
    (h' : info.supportsChannel c') (heq : c.toInt16 = c'.toInt16) :
  c = c'
  := by
  obtain ⟨hpos, hlt⟩ := toInt_of_supportsChannel h
  obtain ⟨hpos', hlt'⟩ := toInt_of_supportsChannel h'
  have hbmod : c.toInt.bmod (2 ^ 16) = c'.toInt.bmod (2 ^ 16) := by
    rw [← Int32.toInt_toInt16, ← Int32.toInt_toInt16, heq]
  apply Int32.toInt_inj.mp
  rw [Int.bmod_def, Int.bmod_def] at hbmod
  omega

/-- The enable mask of an accepted channel is zero exactly from channel 17 on. -/
theorem enableMask_eq_zero_iff_of_supportsChannel {info : SwitchInfo} {c : Int32}
    (h : info.supportsChannel c) :
  enableMask c.toInt16 = 0#16 ↔ ¬ c ≤ 16
  := by
  obtain ⟨hpos, hlt⟩ := toInt_of_supportsChannel h
  rw [enableMask_eq_zero_iff, Int32.toInt_toInt16, Int32.le_iff_toInt_le, Int.bmod_def]
  have h16 : (16 : Int32).toInt = 16 := rfl
  rw [h16]
  omega

/-- An accepted channel has its own relay if and only if it is one of the first 16. -/
theorem hasOwnRelay_iff (info : SwitchInfo) (c c' : Int32) (h : info.supportsChannel c)
    (h' : info.supportsChannel c') :
  HasOwnRelay c c' ↔ c ≤ 16
  := by
  have hzero := enableMask_eq_zero_iff_of_supportsChannel h
  constructor
  · intro hown
    by_contra hgt
    apply hown.mask_ne_zero
    rw [maskOf_openFrame, hzero.mpr hgt]
  · intro hle
    have hne : enableMask c.toInt16 ≠ 0#16 := by
      rw [ne_eq, hzero, not_not]
      apply hle
    constructor
    · rw [maskOf_openFrame]
      apply hne
    · intro heq
      apply hne
      rw [← dataOf_openFrame, heq, dataOf_closeFrame]
    · intro heq
      apply eq_of_toInt16_eq h h'
      apply enableMask_injective hne
      rw [← maskOf_openFrame, ← maskOf_openFrame, heq]

/-- A switch with 17 doors. -/
def seventeenDoors : SwitchInfo := ⟨"17", "127.0.0.1", 17, 10001, .DIRECT_CONTROL_SWITCH⟩

theorem hasOwnRelay_sixteen :
  HasOwnRelay 16 17
  := (hasOwnRelay_iff seventeenDoors 16 17 (by decide) (by decide)).mpr (by decide)

/-- Channel 17 of a switch with 17 doors is accepted, and has no relay. -/
theorem no_relay_seventeen :
  seventeenDoors.supportsChannel 17 ∧ ¬ HasOwnRelay 17 17
  := by
  constructor
  · decide
  · intro h
    apply h.mask_ne_zero
    decide

end DoorSwitchSvr
