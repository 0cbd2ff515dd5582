import SmileFee.Cfg
import SmileFee.TransLog

/-!
# Register synchronisation (`FEE/smile_fee_cmd.c:212-1042`, `FEE/smile_fee_ctrl.c:3753-4214`)

| here | there |
| --- | --- |
| `FEE_CFG_REG_n`          | the remote addresses (`smile_fee_cmd.h:27-52`) |
| `feeReadCmdCfgReg_n`, `feeWriteCmdCfgReg_n` | `fee_read_cmd_cfg_reg_n`, `fee_write_cmd_cfg_reg_n` |
| `smileFeeSyncCfgReg_n`   | `smile_fee_sync_cfg_reg_n` |
| `CfgReg`                 | the registers that have such functions: 0 to 9 and 14 to 25 |

The functions of a family differ in nothing but the register; `smileFeeSyncCfgReg_eq` says so.
-/

namespace SmileFee

/-! ## Remote addresses -/

def FEE_CFG_REG_0 : U32 := 0x00
def FEE_CFG_REG_1 : U32 := 0x04
def FEE_CFG_REG_2 : U32 := 0x08
def FEE_CFG_REG_3 : U32 := 0x0C
def FEE_CFG_REG_4 : U32 := 0x10
def FEE_CFG_REG_5 : U32 := 0x14
def FEE_CFG_REG_6 : U32 := 0x18
def FEE_CFG_REG_7 : U32 := 0x1C
def FEE_CFG_REG_8 : U32 := 0x20
def FEE_CFG_REG_9 : U32 := 0x24
def FEE_CFG_REG_14 : U32 := 0x38
def FEE_CFG_REG_15 : U32 := 0x3C
def FEE_CFG_REG_16 : U32 := 0x40
def FEE_CFG_REG_17 : U32 := 0x44
def FEE_CFG_REG_18 : U32 := 0x48
def FEE_CFG_REG_19 : U32 := 0x4C
def FEE_CFG_REG_20 : U32 := 0x50
def FEE_CFG_REG_21 : U32 := 0x54
def FEE_CFG_REG_22 : U32 := 0x58
def FEE_CFG_REG_23 : U32 := 0x5C
def FEE_CFG_REG_24 : U32 := 0x60
def FEE_CFG_REG_25 : U32 := 0x64

/-! ## Command generators -/

def feeReadCmdCfgReg_0 (cfg : RmapCfg) (transId : U16) : List U8 := feeReadCmdRegister cfg transId FEE_CFG_REG_0
def feeReadCmdCfgReg_1 (cfg : RmapCfg) (transId : U16) : List U8 := feeReadCmdRegister cfg transId FEE_CFG_REG_1
def feeReadCmdCfgReg_2 (cfg : RmapCfg) (transId : U16) : List U8 := feeReadCmdRegister cfg transId FEE_CFG_REG_2
def feeReadCmdCfgReg_3 (cfg : RmapCfg) (transId : U16) : List U8 := feeReadCmdRegister cfg transId FEE_CFG_REG_3
def feeReadCmdCfgReg_4 (cfg : RmapCfg) (transId : U16) : List U8 := feeReadCmdRegister cfg transId FEE_CFG_REG_4
def feeReadCmdCfgReg_5 (cfg : RmapCfg) (transId : U16) : List U8 := feeReadCmdRegister cfg transId FEE_CFG_REG_5
def feeReadCmdCfgReg_6 (cfg : RmapCfg) (transId : U16) : List U8 := feeReadCmdRegister cfg transId FEE_CFG_REG_6
def feeReadCmdCfgReg_7 (cfg : RmapCfg) (transId : U16) : List U8 := feeReadCmdRegister cfg transId FEE_CFG_REG_7
def feeReadCmdCfgReg_8 (cfg : RmapCfg) (transId : U16) : List U8 := feeReadCmdRegister cfg transId FEE_CFG_REG_8
def feeReadCmdCfgReg_9 (cfg : RmapCfg) (transId : U16) : List U8 := feeReadCmdRegister cfg transId FEE_CFG_REG_9
def feeReadCmdCfgReg_14 (cfg : RmapCfg) (transId : U16) : List U8 := feeReadCmdRegister cfg transId FEE_CFG_REG_14
def feeReadCmdCfgReg_15 (cfg : RmapCfg) (transId : U16) : List U8 := feeReadCmdRegister cfg transId FEE_CFG_REG_15
def feeReadCmdCfgReg_16 (cfg : RmapCfg) (transId : U16) : List U8 := feeReadCmdRegister cfg transId FEE_CFG_REG_16
def feeReadCmdCfgReg_17 (cfg : RmapCfg) (transId : U16) : List U8 := feeReadCmdRegister cfg transId FEE_CFG_REG_17
def feeReadCmdCfgReg_18 (cfg : RmapCfg) (transId : U16) : List U8 := feeReadCmdRegister cfg transId FEE_CFG_REG_18
def feeReadCmdCfgReg_19 (cfg : RmapCfg) (transId : U16) : List U8 := feeReadCmdRegister cfg transId FEE_CFG_REG_19
def feeReadCmdCfgReg_20 (cfg : RmapCfg) (transId : U16) : List U8 := feeReadCmdRegister cfg transId FEE_CFG_REG_20
def feeReadCmdCfgReg_21 (cfg : RmapCfg) (transId : U16) : List U8 := feeReadCmdRegister cfg transId FEE_CFG_REG_21
def feeReadCmdCfgReg_22 (cfg : RmapCfg) (transId : U16) : List U8 := feeReadCmdRegister cfg transId FEE_CFG_REG_22
def feeReadCmdCfgReg_23 (cfg : RmapCfg) (transId : U16) : List U8 := feeReadCmdRegister cfg transId FEE_CFG_REG_23
def feeReadCmdCfgReg_24 (cfg : RmapCfg) (transId : U16) : List U8 := feeReadCmdRegister cfg transId FEE_CFG_REG_24
def feeReadCmdCfgReg_25 (cfg : RmapCfg) (transId : U16) : List U8 := feeReadCmdRegister cfg transId FEE_CFG_REG_25

def feeWriteCmdCfgReg_0 (cfg : RmapCfg) (transId : U16) : List U8 := feeWriteCmdRegister cfg transId FEE_CFG_REG_0
def feeWriteCmdCfgReg_1 (cfg : RmapCfg) (transId : U16) : List U8 := feeWriteCmdRegister cfg transId FEE_CFG_REG_1
def feeWriteCmdCfgReg_2 (cfg : RmapCfg) (transId : U16) : List U8 := feeWriteCmdRegister cfg transId FEE_CFG_REG_2
def feeWriteCmdCfgReg_3 (cfg : RmapCfg) (transId : U16) : List U8 := feeWriteCmdRegister cfg transId FEE_CFG_REG_3
def feeWriteCmdCfgReg_4 (cfg : RmapCfg) (transId : U16) : List U8 := feeWriteCmdRegister cfg transId FEE_CFG_REG_4
def feeWriteCmdCfgReg_5 (cfg : RmapCfg) (transId : U16) : List U8 := feeWriteCmdRegister cfg transId FEE_CFG_REG_5
def feeWriteCmdCfgReg_6 (cfg : RmapCfg) (transId : U16) : List U8 := feeWriteCmdRegister cfg transId FEE_CFG_REG_6
def feeWriteCmdCfgReg_7 (cfg : RmapCfg) (transId : U16) : List U8 := feeWriteCmdRegister cfg transId FEE_CFG_REG_7
def feeWriteCmdCfgReg_8 (cfg : RmapCfg) (transId : U16) : List U8 := feeWriteCmdRegister cfg transId FEE_CFG_REG_8
def feeWriteCmdCfgReg_9 (cfg : RmapCfg) (transId : U16) : List U8 := feeWriteCmdRegister cfg transId FEE_CFG_REG_9
def feeWriteCmdCfgReg_14 (cfg : RmapCfg) (transId : U16) : List U8 := feeWriteCmdRegister cfg transId FEE_CFG_REG_14
def feeWriteCmdCfgReg_15 (cfg : RmapCfg) (transId : U16) : List U8 := feeWriteCmdRegister cfg transId FEE_CFG_REG_15
def feeWriteCmdCfgReg_16 (cfg : RmapCfg) (transId : U16) : List U8 := feeWriteCmdRegister cfg transId FEE_CFG_REG_16
def feeWriteCmdCfgReg_17 (cfg : RmapCfg) (transId : U16) : List U8 := feeWriteCmdRegister cfg transId FEE_CFG_REG_17
def feeWriteCmdCfgReg_18 (cfg : RmapCfg) (transId : U16) : List U8 := feeWriteCmdRegister cfg transId FEE_CFG_REG_18
def feeWriteCmdCfgReg_19 (cfg : RmapCfg) (transId : U16) : List U8 := feeWriteCmdRegister cfg transId FEE_CFG_REG_19
def feeWriteCmdCfgReg_20 (cfg : RmapCfg) (transId : U16) : List U8 := feeWriteCmdRegister cfg transId FEE_CFG_REG_20
def feeWriteCmdCfgReg_21 (cfg : RmapCfg) (transId : U16) : List U8 := feeWriteCmdRegister cfg transId FEE_CFG_REG_21
def feeWriteCmdCfgReg_22 (cfg : RmapCfg) (transId : U16) : List U8 := feeWriteCmdRegister cfg transId FEE_CFG_REG_22
def feeWriteCmdCfgReg_23 (cfg : RmapCfg) (transId : U16) : List U8 := feeWriteCmdRegister cfg transId FEE_CFG_REG_23
def feeWriteCmdCfgReg_24 (cfg : RmapCfg) (transId : U16) : List U8 := feeWriteCmdRegister cfg transId FEE_CFG_REG_24
def feeWriteCmdCfgReg_25 (cfg : RmapCfg) (transId : U16) : List U8 := feeWriteCmdRegister cfg transId FEE_CFG_REG_25

/-! ## Synchronisation -/

inductive SyncDirection where
  | fee2dpu
  | dpu2fee
deriving DecidableEq, Repr

section Sync

variable {E : Type} (cb : Callbacks E) (mir : Mirror) (dir : SyncDirection)

/-- The body of `smile_fee_sync_cfg_reg_n`. -/
def syncCfgReg (readCmd writeCmd : RmapCfg → U16 → List U8) (reg : Nat) (s : Sys E) : Int × Sys E :=
  match dir with
  | .fee2dpu => smileFeeSync cb s readCmd reg 0
  | .dpu2fee => smileFeeSync cb s writeCmd reg 4

def smileFeeSyncCfgReg_0 : Sys E → Int × Sys E :=
  syncCfgReg cb dir feeReadCmdCfgReg_0 feeWriteCmdCfgReg_0 (mir.cfgReg 0)

def smileFeeSyncCfgReg_1 : Sys E → Int × Sys E :=
  syncCfgReg cb dir feeReadCmdCfgReg_1 feeWriteCmdCfgReg_1 (mir.cfgReg 1)

def smileFeeSyncCfgReg_2 : Sys E → Int × Sys E :=
  syncCfgReg cb dir feeReadCmdCfgReg_2 feeWriteCmdCfgReg_2 (mir.cfgReg 2)

def smileFeeSyncCfgReg_3 : Sys E → Int × Sys E :=
  syncCfgReg cb dir feeReadCmdCfgReg_3 feeWriteCmdCfgReg_3 (mir.cfgReg 3)

def smileFeeSyncCfgReg_4 : Sys E → Int × Sys E :=
  syncCfgReg cb dir feeReadCmdCfgReg_4 feeWriteCmdCfgReg_4 (mir.cfgReg 4)

def smileFeeSyncCfgReg_5 : Sys E → Int × Sys E :=
  syncCfgReg cb dir feeReadCmdCfgReg_5 feeWriteCmdCfgReg_5 (mir.cfgReg 5)

def smileFeeSyncCfgReg_6 : Sys E → Int × Sys E :=
  syncCfgReg cb dir feeReadCmdCfgReg_6 feeWriteCmdCfgReg_6 (mir.cfgReg 6)

def smileFeeSyncCfgReg_7 : Sys E → Int × Sys E :=
  syncCfgReg cb dir feeReadCmdCfgReg_7 feeWriteCmdCfgReg_7 (mir.cfgReg 7)

def smileFeeSyncCfgReg_8 : Sys E → Int × Sys E :=
  syncCfgReg cb dir feeReadCmdCfgReg_8 feeWriteCmdCfgReg_8 (mir.cfgReg 8)

def smileFeeSyncCfgReg_9 : Sys E → Int × Sys E :=
  syncCfgReg cb dir feeReadCmdCfgReg_9 feeWriteCmdCfgReg_9 (mir.cfgReg 9)

def smileFeeSyncCfgReg_14 : Sys E → Int × Sys E :=
  syncCfgReg cb dir feeReadCmdCfgReg_14 feeWriteCmdCfgReg_14 (mir.cfgReg 14)

def smileFeeSyncCfgReg_15 : Sys E → Int × Sys E :=
  syncCfgReg cb dir feeReadCmdCfgReg_15 feeWriteCmdCfgReg_15 (mir.cfgReg 15)

def smileFeeSyncCfgReg_16 : Sys E → Int × Sys E :=
  syncCfgReg cb dir feeReadCmdCfgReg_16 feeWriteCmdCfgReg_16 (mir.cfgReg 16)

def smileFeeSyncCfgReg_17 : Sys E → Int × Sys E :=
  syncCfgReg cb dir feeReadCmdCfgReg_17 feeWriteCmdCfgReg_17 (mir.cfgReg 17)

def smileFeeSyncCfgReg_18 : Sys E → Int × Sys E :=
  syncCfgReg cb dir feeReadCmdCfgReg_18 feeWriteCmdCfgReg_18 (mir.cfgReg 18)

def smileFeeSyncCfgReg_19 : Sys E → Int × Sys E :=
  syncCfgReg cb dir feeReadCmdCfgReg_19 feeWriteCmdCfgReg_19 (mir.cfgReg 19)

def smileFeeSyncCfgReg_20 : Sys E → Int × Sys E :=
  syncCfgReg cb dir feeReadCmdCfgReg_20 feeWriteCmdCfgReg_20 (mir.cfgReg 20)

def smileFeeSyncCfgReg_21 : Sys E → Int × Sys E :=
  syncCfgReg cb dir feeReadCmdCfgReg_21 feeWriteCmdCfgReg_21 (mir.cfgReg 21)

def smileFeeSyncCfgReg_22 : Sys E → Int × Sys E :=
  syncCfgReg cb dir feeReadCmdCfgReg_22 feeWriteCmdCfgReg_22 (mir.cfgReg 22)

def smileFeeSyncCfgReg_23 : Sys E → Int × Sys E :=
  syncCfgReg cb dir feeReadCmdCfgReg_23 feeWriteCmdCfgReg_23 (mir.cfgReg 23)

def smileFeeSyncCfgReg_24 : Sys E → Int × Sys E :=
  syncCfgReg cb dir feeReadCmdCfgReg_24 feeWriteCmdCfgReg_24 (mir.cfgReg 24)

def smileFeeSyncCfgReg_25 : Sys E → Int × Sys E :=
  syncCfgReg cb dir feeReadCmdCfgReg_25 feeWriteCmdCfgReg_25 (mir.cfgReg 25)

/-- The registers with a synchronisation function. -/
inductive CfgReg where
  | reg0 | reg1 | reg2 | reg3 | reg4 | reg5 | reg6 | reg7 | reg8 | reg9
  | reg14 | reg15 | reg16 | reg17 | reg18 | reg19 | reg20 | reg21 | reg22 | reg23 | reg24 | reg25
deriving DecidableEq, Repr

def CfgReg.idx : CfgReg → Nat
  | .reg0 => 0 | .reg1 => 1 | .reg2 => 2 | .reg3 => 3 | .reg4 => 4 | .reg5 => 5 | .reg6 => 6
  | .reg7 => 7 | .reg8 => 8 | .reg9 => 9 | .reg14 => 14 | .reg15 => 15 | .reg16 => 16 | .reg17 => 17
  | .reg18 => 18 | .reg19 => 19 | .reg20 => 20 | .reg21 => 21 | .reg22 => 22 | .reg23 => 23
  | .reg24 => 24 | .reg25 => 25

def smileFeeSyncCfgReg : CfgReg → Sys E → Int × Sys E
  | .reg0 => smileFeeSyncCfgReg_0 cb mir dir
  | .reg1 => smileFeeSyncCfgReg_1 cb mir dir
  | .reg2 => smileFeeSyncCfgReg_2 cb mir dir
  | .reg3 => smileFeeSyncCfgReg_3 cb mir dir
  | .reg4 => smileFeeSyncCfgReg_4 cb mir dir
  | .reg5 => smileFeeSyncCfgReg_5 cb mir dir
  | .reg6 => smileFeeSyncCfgReg_6 cb mir dir
  | .reg7 => smileFeeSyncCfgReg_7 cb mir dir
  | .reg8 => smileFeeSyncCfgReg_8 cb mir dir
  | .reg9 => smileFeeSyncCfgReg_9 cb mir dir
  | .reg14 => smileFeeSyncCfgReg_14 cb mir dir
  | .reg15 => smileFeeSyncCfgReg_15 cb mir dir
  | .reg16 => smileFeeSyncCfgReg_16 cb mir dir
  | .reg17 => smileFeeSyncCfgReg_17 cb mir dir
  | .reg18 => smileFeeSyncCfgReg_18 cb mir dir
  | .reg19 => smileFeeSyncCfgReg_19 cb mir dir
  | .reg20 => smileFeeSyncCfgReg_20 cb mir dir
  | .reg21 => smileFeeSyncCfgReg_21 cb mir dir
  | .reg22 => smileFeeSyncCfgReg_22 cb mir dir
  | .reg23 => smileFeeSyncCfgReg_23 cb mir dir
  | .reg24 => smileFeeSyncCfgReg_24 cb mir dir
  | .reg25 => smileFeeSyncCfgReg_25 cb mir dir

/-- **The remote address table agrees with the layout of the mirror**: a register is synchronised
between byte `4 n` of the one and byte `4 n` of the other. -/
theorem smileFeeSyncCfgReg_eq (r : CfgReg) : smileFeeSyncCfgReg cb mir dir r =
    syncCfgReg cb dir (fun cfg transId => feeReadCmdRegister cfg transId (BitVec.ofNat 32 (4 * r.idx)))
      (fun cfg transId => feeWriteCmdRegister cfg transId (BitVec.ofNat 32 (4 * r.idx))) (mir.fee + 4 * r.idx) := by
  cases r <;> rfl

theorem CfgReg.idx_le (r : CfgReg) : r.idx ≤ 25 := by
  cases r <;> decide

end Sync

end SmileFee
