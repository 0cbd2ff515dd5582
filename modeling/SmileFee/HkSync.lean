import SmileFee.Ctrl
import SmileFee.Housekeeping
import Mathlib.Data.Int.Bitwise

/-!
# Synchronisation of the housekeeping (`FEE/smile_fee_cmd.c:955-1430`, `FEE/smile_fee_ctrl.c:4955-4989`)

| here | there |
| --- | --- |
| `FEE_HK_REG_n`          | the remote addresses (`smile_fee_cmd.h:62-95`) |
| `feeReadCmdHkReg_n`     | `fee_read_cmd_hk_reg_n` |
| `smileFeeSyncHkRegs`    | `smile_fee_sync_hk_regs` |

The housekeeping can only be read, and only as a whole: all its registers, but for those that are reserved.
-/

namespace SmileFee

/-! ## Remote addresses -/

def FEE_HK_REG_4 : U32 := 0x710
def FEE_HK_REG_5 : U32 := 0x714
def FEE_HK_REG_6 : U32 := 0x718
def FEE_HK_REG_7 : U32 := 0x71C
def FEE_HK_REG_8 : U32 := 0x720
def FEE_HK_REG_9 : U32 := 0x724
def FEE_HK_REG_10 : U32 := 0x728
def FEE_HK_REG_11 : U32 := 0x72C
def FEE_HK_REG_12 : U32 := 0x730
def FEE_HK_REG_13 : U32 := 0x734
def FEE_HK_REG_14 : U32 := 0x738
def FEE_HK_REG_15 : U32 := 0x73C
def FEE_HK_REG_16 : U32 := 0x740
def FEE_HK_REG_17 : U32 := 0x744
def FEE_HK_REG_18 : U32 := 0x748
def FEE_HK_REG_19 : U32 := 0x74C
def FEE_HK_REG_20 : U32 := 0x750
def FEE_HK_REG_21 : U32 := 0x754
def FEE_HK_REG_22 : U32 := 0x758
def FEE_HK_REG_23 : U32 := 0x75C
def FEE_HK_REG_28 : U32 := 0x770
def FEE_HK_REG_29 : U32 := 0x774
def FEE_HK_REG_30 : U32 := 0x778
def FEE_HK_REG_31 : U32 := 0x77C
def FEE_HK_REG_32 : U32 := 0x780
def FEE_HK_REG_33 : U32 := 0x784
def FEE_HK_REG_34 : U32 := 0x788
def FEE_HK_REG_35 : U32 := 0x78C
def FEE_HK_REG_36 : U32 := 0x790
def FEE_HK_REG_37 : U32 := 0x794

/-! ## Command generators -/

def feeReadCmdHkReg_4 (cfg : RmapCfg) (transId : U16) : List U8 := feeReadCmdRegister cfg transId FEE_HK_REG_4
def feeReadCmdHkReg_5 (cfg : RmapCfg) (transId : U16) : List U8 := feeReadCmdRegister cfg transId FEE_HK_REG_5
def feeReadCmdHkReg_6 (cfg : RmapCfg) (transId : U16) : List U8 := feeReadCmdRegister cfg transId FEE_HK_REG_6
def feeReadCmdHkReg_7 (cfg : RmapCfg) (transId : U16) : List U8 := feeReadCmdRegister cfg transId FEE_HK_REG_7
def feeReadCmdHkReg_8 (cfg : RmapCfg) (transId : U16) : List U8 := feeReadCmdRegister cfg transId FEE_HK_REG_8
def feeReadCmdHkReg_9 (cfg : RmapCfg) (transId : U16) : List U8 := feeReadCmdRegister cfg transId FEE_HK_REG_9
def feeReadCmdHkReg_10 (cfg : RmapCfg) (transId : U16) : List U8 := feeReadCmdRegister cfg transId FEE_HK_REG_10
def feeReadCmdHkReg_11 (cfg : RmapCfg) (transId : U16) : List U8 := feeReadCmdRegister cfg transId FEE_HK_REG_11
def feeReadCmdHkReg_12 (cfg : RmapCfg) (transId : U16) : List U8 := feeReadCmdRegister cfg transId FEE_HK_REG_12
def feeReadCmdHkReg_13 (cfg : RmapCfg) (transId : U16) : List U8 := feeReadCmdRegister cfg transId FEE_HK_REG_13
def feeReadCmdHkReg_14 (cfg : RmapCfg) (transId : U16) : List U8 := feeReadCmdRegister cfg transId FEE_HK_REG_14
def feeReadCmdHkReg_15 (cfg : RmapCfg) (transId : U16) : List U8 := feeReadCmdRegister cfg transId FEE_HK_REG_15
def feeReadCmdHkReg_16 (cfg : RmapCfg) (transId : U16) : List U8 := feeReadCmdRegister cfg transId FEE_HK_REG_16
def feeReadCmdHkReg_17 (cfg : RmapCfg) (transId : U16) : List U8 := feeReadCmdRegister cfg transId FEE_HK_REG_17
def feeReadCmdHkReg_18 (cfg : RmapCfg) (transId : U16) : List U8 := feeReadCmdRegister cfg transId FEE_HK_REG_18
def feeReadCmdHkReg_19 (cfg : RmapCfg) (transId : U16) : List U8 := feeReadCmdRegister cfg transId FEE_HK_REG_19
def feeReadCmdHkReg_20 (cfg : RmapCfg) (transId : U16) : List U8 := feeReadCmdRegister cfg transId FEE_HK_REG_20
def feeReadCmdHkReg_21 (cfg : RmapCfg) (transId : U16) : List U8 := feeReadCmdRegister cfg transId FEE_HK_REG_21
def feeReadCmdHkReg_22 (cfg : RmapCfg) (transId : U16) : List U8 := feeReadCmdRegister cfg transId FEE_HK_REG_22
def feeReadCmdHkReg_23 (cfg : RmapCfg) (transId : U16) : List U8 := feeReadCmdRegister cfg transId FEE_HK_REG_23
def feeReadCmdHkReg_28 (cfg : RmapCfg) (transId : U16) : List U8 := feeReadCmdRegister cfg transId FEE_HK_REG_28
def feeReadCmdHkReg_29 (cfg : RmapCfg) (transId : U16) : List U8 := feeReadCmdRegister cfg transId FEE_HK_REG_29
def feeReadCmdHkReg_30 (cfg : RmapCfg) (transId : U16) : List U8 := feeReadCmdRegister cfg transId FEE_HK_REG_30
def feeReadCmdHkReg_31 (cfg : RmapCfg) (transId : U16) : List U8 := feeReadCmdRegister cfg transId FEE_HK_REG_31
def feeReadCmdHkReg_32 (cfg : RmapCfg) (transId : U16) : List U8 := feeReadCmdRegister cfg transId FEE_HK_REG_32
def feeReadCmdHkReg_33 (cfg : RmapCfg) (transId : U16) : List U8 := feeReadCmdRegister cfg transId FEE_HK_REG_33
def feeReadCmdHkReg_34 (cfg : RmapCfg) (transId : U16) : List U8 := feeReadCmdRegister cfg transId FEE_HK_REG_34
def feeReadCmdHkReg_35 (cfg : RmapCfg) (transId : U16) : List U8 := feeReadCmdRegister cfg transId FEE_HK_REG_35
def feeReadCmdHkReg_36 (cfg : RmapCfg) (transId : U16) : List U8 := feeReadCmdRegister cfg transId FEE_HK_REG_36
def feeReadCmdHkReg_37 (cfg : RmapCfg) (transId : U16) : List U8 := feeReadCmdRegister cfg transId FEE_HK_REG_37

/-! ## Synchronisation -/

section Sync

variable {E : Type} (cb : Callbacks E) (mir : Mirror)

/-- `err |= smile_fee_sync(...)`. -/
def orSync (fn : RmapCfg → U16 → List U8) (addr : Nat) (r : Int × Sys E) : Int × Sys E :=
  let (rc, s) := smileFeeSync cb r.2 fn addr 0
  (r.1.lor rc, s)

/-- The registers that are synchronised, each with its command. -/
def hkReadCmds : List (Nat × (RmapCfg → U16 → List U8)) := [
  (4, feeReadCmdHkReg_4), (5, feeReadCmdHkReg_5),
  (6, feeReadCmdHkReg_6), (7, feeReadCmdHkReg_7),
  (8, feeReadCmdHkReg_8), (9, feeReadCmdHkReg_9),
  (10, feeReadCmdHkReg_10), (11, feeReadCmdHkReg_11),
  (12, feeReadCmdHkReg_12), (13, feeReadCmdHkReg_13),
  (14, feeReadCmdHkReg_14), (15, feeReadCmdHkReg_15),
  (16, feeReadCmdHkReg_16), (17, feeReadCmdHkReg_17),
  (18, feeReadCmdHkReg_18), (19, feeReadCmdHkReg_19),
  (20, feeReadCmdHkReg_20), (21, feeReadCmdHkReg_21),
  (22, feeReadCmdHkReg_22), (23, feeReadCmdHkReg_23),
  (32, feeReadCmdHkReg_32), (33, feeReadCmdHkReg_33),
  (34, feeReadCmdHkReg_34), (35, feeReadCmdHkReg_35),
  (36, feeReadCmdHkReg_36), (37, feeReadCmdHkReg_37)]

/-- `smile_fee_sync_hk_regs` (`:4955`). -/
def smileFeeSyncHkRegs (s : Sys E) : Int × Sys E :=
  hkReadCmds.foldl (fun r c => orSync cb c.2 (mir.hkReg c.1) r) (0, s)

def hkRegs : List Nat := List.range' 4 20 ++ List.range' 32 6

/-- **The remote addresses agree with the layout of the mirror**, for the housekeeping as for the configuration. -/
theorem hkReadCmds_eq : hkReadCmds = hkRegs.map fun n =>
    (n, fun cfg transId => feeReadCmdRegister cfg transId (BitVec.ofNat 32 (4 * hkIdx n))) := rfl

theorem lor_eq_zero_iff (a b : Int) : a.lor b = 0 ↔ a = 0 ∧ b = 0 := by
  cases a with
  | ofNat m =>
    cases b with
    | ofNat n => simp [Int.lor]
    | negSucc n => simp [Int.lor]
  | negSucc m =>
    cases b with
    | ofNat n => simp [Int.lor]
    | negSucc n => simp [Int.lor]

end Sync

end SmileFee
