import Mathlib.Order.Lattice

/-!
# Parameters

The constants and the configuration records of `Param.h`.  The C++ types `int`, `short`,
`unsigned short` and `Int64` are the fixed-width types `Int32`, `Int16`, `UInt16` and
`Int64`; a narrowing conversion is taken modulo the width.
-/

namespace DoorSwitchSvr

def S2MS : Int32 := 1000

def MICRO2MS : Int32 := 1000

/-- The milliseconds from the start of the reconnect timer to its first tick. -/
def RECONN_START_INTERVAL : Int32 := 256

/-- The period of the reconnect timer, in seconds, when it is started. -/
def RECONN_START_PERIOD_INTERVAL : Int32 := 2

/-- The longest period of the reconnect timer, in seconds. -/
def RECONN_MAX_PERIOD_INTERVAL : Int32 := 256

/-- The control modes of a switch.  A number cast to the enumeration that is not one of
its enumerators is `other`. -/
inductive SWITCH_TYPE where
  | DIRECT_CONTROL_SWITCH
  | INDIRECT_CONTROL_SWITCH
  | other (value : Int32)
  deriving DecidableEq, Repr

inductive ERR_CODE where
  | ERR_OK
  | ERR_CHANNEL_NOT_INITIALIZED
  | ERR_SWITCH_NOT_CONN
  deriving DecidableEq, Repr

structure SwitchInfo where
  oid : String
  ip : String
  channels : UInt16
  port : UInt16
  type : SWITCH_TYPE
  deriving DecidableEq, Repr

/-- The order of the keys of `m_mapControllers`. -/
instance instLinearOrderUInt16 : LinearOrder UInt16 where
  le_refl := UInt16.le_refl
  le_trans _ _ _ := UInt16.le_trans
  le_antisymm _ _ := UInt16.le_antisymm
  le_total := UInt16.le_total
  lt_iff_le_not_ge _ _ := by
    rw [UInt16.lt_iff_toNat_lt, UInt16.le_iff_toNat_le, UInt16.le_iff_toNat_le]
    omega
  toDecidableLE := inferInstance
  toDecidableEq := inferInstance
  toDecidableLT := inferInstance

end DoorSwitchSvr
