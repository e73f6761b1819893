import DoorSwitchSvr.Param
import Mathlib.Algebra.Group.Nat.Defs
import Mathlib.Data.List.Basic

/-!
# The commands of the relay board

The frames `make_open_command channel` and `make_close_command channel` that open and
close the door on a channel.  Both are built from the 16-bit number `pow(2, channel - 1)`,
whose two bytes enable the relay of the channel; the open command also has them as its
data bytes, the close command has zero.

`enableMask channel` is that 16-bit number.  It is the single bit `channel - 1` for a
channel from 1 to 16 (`getLsbD_enableMask`), and zero for every other
(`enableMask_eq_zero_iff`).
-/

namespace DoorSwitchSvr

namespace DoorSwitchChannelController

/-- `int16_t x = pow(2, n)`: the power truncated to an integer, modulo `2 ^ 16`. -/
def pow2 (n : Int) : Int16 :=
  if n < 0 then 0 else Int16.ofNat (2 ^ n.toNat)

/-- `unsigned char x = v >> 8`, where `v` is promoted to `int` before it is shifted. -/
def highByte (v : Int16) : UInt8 := (v.toInt32 >>> 8).toUInt32.toUInt8

/-- `unsigned char x = v`. -/
def lowByte (v : Int16) : UInt8 := v.toUInt16.toUInt8

/-- The frame that gives the relays enabled by `CE1` and `CE0` the values `D1` and `D0`. -/
def frame (D1 D0 CE1 CE0 : UInt8) : List UInt8 :=
  let H1 : UInt8 := 0xcc
  let H2 : UInt8 := 0xdd
  let W : UInt8 := 0xa1
  let Address : UInt8 := 0x01
  let ADD1 := W + Address + D1 + D0 + CE1 + CE0
  let ADD2 := ADD1 + ADD1
  [H1, H2, W, Address, D1, D0, CE1, CE0, ADD1, ADD2]

def make_open_command (channel : Int16) : List UInt8 :=
  let D1D0 := pow2 (channel.toInt - 1)
  let D1 := highByte D1D0
  let D0 := lowByte D1D0
  frame D1 D0 D1 D0

def make_close_command (channel : Int16) : List UInt8 :=
  let CE1CE0 := pow2 (channel.toInt - 1)
  frame 0x00 0x00 (highByte CE1CE0) (lowByte CE1CE0)

end DoorSwitchChannelController

open DoorSwitchChannelController

/-- The commands a controller issues for its channel. -/
inductive DoorCommand where
  | openCommand
  | closeCommand
  deriving DecidableEq, Repr

/-- The frame of a command for the channel `m_channel`, converted to the `short` that the
encoder takes. -/
def DoorCommand.bytes (m_channel : UInt16) : DoorCommand → List UInt8
  | .openCommand => make_open_command m_channel.toInt16
  | .closeCommand => make_close_command m_channel.toInt16

/-! ### The enable mask -/

/-- The relays a command for `channel` enables, one bit for each. -/
def enableMask (channel : Int16) : BitVec 16 := (pow2 (channel.toInt - 1)).toBitVec

theorem toBitVec_pow2 {n : Int} (h : 0 ≤ n) :
  (pow2 n).toBitVec = BitVec.twoPow 16 n.toNat
  := by
  rw [pow2, if_neg (Int.not_lt.mpr h), Int16.toBitVec_ofNat']
  apply BitVec.eq_of_toNat_eq
  rw [BitVec.toNat_ofNat, BitVec.toNat_twoPow]

/-- A power of two modulo `2 ^ 16` is one of the first sixteen, or zero. -/
theorem pow2_eq_zero_or (n : Int) :
  pow2 n = 0 ∨ ∃ i < 16, pow2 n = Int16.ofNat (2 ^ i)
  := by
  by_cases hn : n < 0
  · left
    rw [pow2, if_pos hn]
  · rw [pow2, if_neg hn]
    by_cases hi : n.toNat < 16
    · right
      exact ⟨n.toNat, hi, rfl⟩
    · left
      have hdvd : 2 ^ 16 ∣ 2 ^ n.toNat := Nat.pow_dvd_pow 2 (Nat.not_lt.mp hi)
      apply Int16.toBitVec_inj.mp
      apply BitVec.eq_of_toNat_eq
      rw [Int16.toBitVec_ofNat', BitVec.toNat_ofNat, Nat.mod_eq_zero_of_dvd hdvd]
      rfl

/-- The mask of a channel has the bit `channel - 1` and no other. -/
theorem getLsbD_enableMask (channel : Int16) (i : ℕ) :
  (enableMask channel).getLsbD i = (decide (i < 16) && decide (channel.toInt - 1 = i))
  := by
  rw [enableMask]
  by_cases h : channel.toInt - 1 < 0
  · have hne : channel.toInt - 1 ≠ i := by omega
    rw [pow2, if_pos h]
    simp [hne]
  · rw [toBitVec_pow2 (Int.not_lt.mp h), BitVec.getLsbD_twoPow]
    rw [Bool.eq_iff_iff]
    simp only [Bool.and_eq_true, decide_eq_true_eq]
    omega

/-- A channel from 1 to 16 has a bit in its mask, and every other channel has none. -/
theorem enableMask_eq_zero_iff (channel : Int16) :
  enableMask channel = 0#16 ↔ ¬ (1 ≤ channel.toInt ∧ channel.toInt ≤ 16)
  := by
  constructor
  · rintro h ⟨h1, h16⟩
    have hbit := getLsbD_enableMask channel (channel.toInt - 1).toNat
    rw [h] at hbit
    simp only [BitVec.getLsbD_zero] at hbit
    rw [eq_comm, Bool.and_eq_false_iff, decide_eq_false_iff_not, decide_eq_false_iff_not] at hbit
    omega
  · intro h
    apply BitVec.eq_of_getLsbD_eq
    intro i hi
    rw [getLsbD_enableMask]
    simp only [BitVec.getLsbD_zero, Bool.and_eq_false_iff, decide_eq_false_iff_not]
    omega

/-- Channels with the same mask are equal, unless the mask is zero. -/
theorem enableMask_injective {channel channel' : Int16} (h : enableMask channel ≠ 0#16)
    (heq : enableMask channel = enableMask channel') :
  channel = channel'
  := by
  rw [ne_eq, enableMask_eq_zero_iff, not_not] at h
  have hbit := getLsbD_enableMask channel (channel.toInt - 1).toNat
  rw [heq, getLsbD_enableMask, Bool.eq_iff_iff] at hbit
  simp only [Bool.and_eq_true, decide_eq_true_eq] at hbit
  apply Int16.toInt_inj.mp
  omega

/-! ### Two bytes as a number -/

/-- The 16-bit number of a high and a low byte. -/
def word (high low : UInt8) : BitVec 16 := high.toBitVec ++ low.toBitVec

/-- The two bytes of a number put together are the number. -/
theorem word_highByte_lowByte (v : Int16) :
  word (highByte v) (lowByte v) = v.toBitVec
  := by
  apply BitVec.eq_of_getLsbD_eq
  intro i hi
  rw [word, BitVec.getLsbD_append]
  split_ifs with hlt
  · simp [lowByte, hlt]
  · have hhigh : (highByte v).toBitVec
        = ((v.toBitVec.signExtend 32).sshiftRight 8).setWidth 8 := by
      rfl
    have hi8 : i - 8 < 8 := by omega
    have h8 : 8 + (i - 8) = i := by omega
    have h32 : i < 32 := by omega
    have hlow : ¬ 32 ≤ i - 8 := by omega
    rw [hhigh, BitVec.getLsbD_setWidth, BitVec.getLsbD_sshiftRight, BitVec.getLsbD_signExtend]
    simp [hi8, h8, hi, h32, hlow]

end DoorSwitchSvr
