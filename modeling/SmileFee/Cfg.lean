import SmileFee.Lib.Mem

/-!
# The configuration registers of the mirror (`FEE/smile_fee_ctrl.c`)

| here | there |
| --- | --- |
| `Mirror`                 | the static pointer `smile_fee` (`smile_fee_ctrl.c:62`), its member `sram`, and the byte order of the machine |
| `cfgReg`, `hkReg`        | the addresses of `cfg_reg_n`, `hk_reg_n` in `struct smile_fee_mirror` (`smile_fee_ctrl.h:26`) |
| `updReg`                 | `be32_to_cpus(&reg)`, some assignments to `reg`, `cpu_to_be32s(&reg)` |
| `setBits`, `setFlag`, `setReg` | the three bodies a setter may have |
| `smileFeeGet…`, `smileFeeSet…` | the accessors of registers 0 to 25 (`smile_fee_ctrl.c:83-1754`) |
| `Field`                  | the fields that have both a setter and a getter |

Most accessors differ in nothing but the register, the mask and the shift; `Field.set_eq` and
`Field.get_eq` say so. The others have a body of their own, and **`Field.get_set_iff`** says what
follows: it is exact for every field, host and register content.
-/

namespace SmileFee

open Word Mem

/-- The cast `(uint32_t) x` of a narrower unsigned value. -/
def u32 {w : Nat} (x : BitVec w) : U32 := x.setWidth 32

structure Mirror where
  host : Host
  fee : Nat
  sram : Nat
deriving DecidableEq, Repr

namespace Mirror

variable (s : Mirror)

/-! ## Register access -/

def cfgReg (n : Nat) : Nat := s.fee + 4 * n
def hkReg (n : Nat) : Nat := s.fee + 0x700 + 4 * n

/-- `be32_to_cpu(smile_fee->cfg_reg_n)`. -/
def getReg (n : Nat) (m : Mem) : U32 := be32ToCpu s.host (load32 s.host m (s.cfgReg n))

/-- `be32_to_cpus(&reg); reg = f(reg); cpu_to_be32s(&reg)`. -/
def updReg (n : Nat) (f : U32 → U32) (m : Mem) : Mem :=
  let reg := s.cfgReg n
  let m := store32 s.host m reg (be32ToCpu s.host (load32 s.host m reg))
  let m := store32 s.host m reg (f (load32 s.host m reg))
  store32 s.host m reg (be32ToCpu s.host (load32 s.host m reg))

/-- `(be32_to_cpu(reg) >> sh) & mask`. -/
def getBits (n : Nat) (mask : U32) (sh : Nat) (m : Mem) : U32 := getField mask sh (s.getReg n m)

/-- `reg &= ~(mask << sh); reg |= (mask & v) << sh`. -/
def setBits (n : Nat) (mask : U32) (sh : Nat) (v : U32) (m : Mem) : Mem := s.updReg n (setField mask sh v) m

/-- `if (mode) mode = 1; reg &= ~(1 << sh); reg |= mode << sh`. -/
def setFlag (n : Nat) (sh : Nat) (mode : U32) (m : Mem) : Mem :=
  let mode : U32 := if mode ≠ 0 then 1 else 0
  s.updReg n (fun x => (x &&& ~~~((0x1 : U32) <<< sh)) ||| (mode <<< sh)) m

/-- `reg = v`. -/
def setReg (n : Nat) (v : U32) (m : Mem) : Mem := s.updReg n (fun _ => v) m

theorem getReg_eq (n : Nat) (m : Mem) : s.getReg n m = loadBe32 m (s.cfgReg n) := be32ToCpu_load32 _ _ _

/-- The two swaps around an update cancel out: the big-endian word in memory is what is updated. -/
theorem updReg_eq (n : Nat) (f : U32 → U32) (m : Mem) :
    s.updReg n f m = m.write (s.cfgReg n) (bytes32 .big (f (s.getReg n m))) := by
  rw [updReg, load32_store32, load32_store32, store32_store32, store32_store32, store32_be32ToCpu]
  rfl

@[simp] theorem getReg_updReg (n : Nat) (f : U32 → U32) (m : Mem) :
    s.getReg n (s.updReg n f m) = f (s.getReg n m) := by
  rw [getReg_eq, updReg_eq, loadBe32_write]

/-- An update touches the four bytes of its register only. -/
theorem updReg_outside (n : Nat) (f : U32 → U32) (m : Mem) (x : Nat)
    (h : x < s.cfgReg n ∨ s.cfgReg n + 4 ≤ x) : s.updReg n f m x = m x := by
  rw [updReg_eq]
  exact write_outside m _ _ x (by simpa using h)

/-! ## Accessors -/

/-! cfg_reg_0 -/

def smileFeeGetVstart (m : Mem) : U16 := (s.getBits 0 0xFFFF 0 m).setWidth 16
def smileFeeSetVstart (v : U16) (m : Mem) : Mem := s.setBits 0 0xFFFF 0 (u32 v) m

def smileFeeGetVend (m : Mem) : U16 := (s.getBits 0 0xFFFF 16 m).setWidth 16
def smileFeeSetVend (v : U16) (m : Mem) : Mem := s.setBits 0 0xFFFF 16 (u32 v) m

/-! cfg_reg_1 -/

def smileFeeGetChargeInjectionWidth (m : Mem) : U16 := (s.getBits 1 0xFFFF 0 m).setWidth 16
def smileFeeSetChargeInjectionWidth (v : U16) (m : Mem) : Mem := s.setBits 1 0xFFFF 0 (u32 v) m

def smileFeeGetChargeInjectionGap (m : Mem) : U16 := (s.getBits 1 0xFFFF 16 m).setWidth 16
def smileFeeSetChargeInjectionGap (v : U16) (m : Mem) : Mem := s.setBits 1 0xFFFF 16 (u32 v) m

/-! cfg_reg_2 -/

def smileFeeGetParallelToiPeriod (m : Mem) : U16 := (s.getBits 2 0xFFF 0 m).setWidth 16
def smileFeeSetParallelToiPeriod (v : U16) (m : Mem) : Mem := s.setBits 2 0xFFF 0 (u32 v) m

def smileFeeGetParallelClkOverlap (m : Mem) : U16 := (s.getBits 2 0xFFF 12 m).setWidth 16
def smileFeeSetParallelClkOverlap (v : U16) (m : Mem) : Mem := s.setBits 2 0xFFF 12 (u32 v) m

/-- `smile_fee_get_ccd_readout` (`:236`). -/
def smileFeeGetCcdReadout (ccdId : U32) (m : Mem) : U32 :=
  if ccdId = 0 then 0
  else if ccdId.toNat > 2 then 0
  else (s.getReg 2 m >>> 24) >>> (ccdId.toNat - 1) &&& (0x1 : U32)

/-- `smile_fee_set_ccd_readout` (`:262`). -/
def smileFeeSetCcdReadout (ccdId status : U32) (m : Mem) : Mem :=
  if ccdId = 0 then m
  else if ccdId.toNat > 2 then m
  else
    let status : U32 := if status ≠ 0 then 1 else 0
    s.updReg 2 (fun x => (x &&& ~~~(((0x1 : U32) <<< (ccdId.toNat - 1)) <<< 24)) |||
      ((status <<< (ccdId.toNat - 1)) <<< 24)) m

/-! cfg_reg_3 -/

def smileFeeGetNFinalDump (m : Mem) : U16 := (s.getBits 3 0xFFFF 0 m).setWidth 16
def smileFeeSetNFinalDump (v : U16) (m : Mem) : Mem := s.setBits 3 0xFFFF 0 (u32 v) m

def smileFeeGetHEnd (m : Mem) : U16 := (s.getBits 3 0xFFF 16 m).setWidth 16
def smileFeeSetHEnd (v : U16) (m : Mem) : Mem := s.setBits 3 0xFFF 16 (u32 v) m

def smileFeeGetChargeInjection (m : Mem) : U32 := s.getBits 3 0x1 28 m
def smileFeeSetChargeInjection (mode : U32) (m : Mem) : Mem := s.setFlag 3 28 mode m

def smileFeeGetTriLevelClk (m : Mem) : U32 := s.getBits 3 0x1 29 m
def smileFeeSetTriLevelClk (mode : U32) (m : Mem) : Mem := s.setFlag 3 29 mode m

def smileFeeGetImgClkDir (m : Mem) : U32 := s.getBits 3 0x1 30 m
def smileFeeSetImgClkDir (mode : U32) (m : Mem) : Mem := s.setFlag 3 30 mode m

def smileFeeGetRegClkDir (m : Mem) : U32 := s.getBits 3 0x1 31 m
def smileFeeSetRegClkDir (mode : U32) (m : Mem) : Mem := s.setFlag 3 31 mode m

/-! cfg_reg_4 -/

def smileFeeGetPacketSize (m : Mem) : U16 := (s.getBits 4 0xFFFF 0 m).setWidth 16
def smileFeeSetPacketSize (v : U16) (m : Mem) : Mem := s.setBits 4 0xFFFF 0 (u32 v) m

def smileFeeGetCdsclpHi (m : Mem) : U16 := (s.getBits 4 0xFFF 16 m).setWidth 16
def smileFeeSetCdsclpHi (v : U16) (m : Mem) : Mem := s.setBits 4 0xFFF 16 (u32 v) m

/-- `smile_fee_get_adc_pwrdn_en` (`:549`): `!` binds tighter than `&`, so all bits from 28 on count. -/
def smileFeeGetAdcPwrdnEn (m : Mem) : U32 := (if s.getReg 4 m >>> 28 = 0 then 1 else 0) &&& 0x1

/-- `smile_fee_set_adc_pwrdn_en` (`:564`): the bit is the inverse of `mode`. -/
def smileFeeSetAdcPwrdnEn (mode : U32) (m : Mem) : Mem :=
  let mode : U32 := if mode = 0 then 1 else 0
  s.updReg 4 (fun x => (x &&& ~~~((0x1 : U32) <<< 28)) ||| (mode <<< 28)) m

/-! cfg_reg_5 -/

def smileFeeGetTrapPumpingDwellTerm (m : Mem) : U32 := s.getBits 5 0xFFFFF 0 m
def smileFeeSetTrapPumpingDwellTerm (v : U32) (m : Mem) : Mem := s.setBits 5 0xFFFFF 0 v m

def smileFeeGetSyncSel (m : Mem) : U32 := s.getBits 5 0x1 20 m
def smileFeeSetSyncSel (mode : U32) (m : Mem) : Mem := s.setFlag 5 20 mode m

def smileFeeGetSelPwrSync (m : Mem) : U32 := s.getBits 5 0x1 21 m
def smileFeeSetSelPwrSync (mode : U32) (m : Mem) : Mem := s.setFlag 5 21 mode m

def smileFeeGetUsePwrSync (m : Mem) : U32 := s.getBits 5 0x1 22 m
def smileFeeSetUsePwrSync (mode : U32) (m : Mem) : Mem := s.setFlag 5 22 mode m

def smileFeeGetDigitiseEn (m : Mem) : U32 := s.getBits 5 0x1 23 m
def smileFeeSetDigitiseEn (mode : U32) (m : Mem) : Mem := s.setFlag 5 23 mode m

def smileFeeGetCorrectionBypass (m : Mem) : U32 := s.getBits 5 0x1 24 m
def smileFeeSetCorrectionBypass (mode : U32) (m : Mem) : Mem := s.setFlag 5 24 mode m

def smileFeeGetDgEn (m : Mem) : U32 := s.getBits 5 0x1 25 m
def smileFeeSetDgEn (mode : U32) (m : Mem) : Mem := s.setFlag 5 25 mode m

def smileFeeGetCorrectionType (m : Mem) : U32 := s.getBits 5 0x1 26 m
def smileFeeSetCorrectionType (mode : U32) (m : Mem) : Mem := s.setFlag 5 26 mode m

def smileFeeGetEduWanderingMaskEn (m : Mem) : U32 := s.getBits 5 0x1 27 m
def smileFeeSetEduWanderingMaskEn (mode : U32) (m : Mem) : Mem := s.setFlag 5 27 mode m

def smileFeeGetReadoutNodeSel (m : Mem) : U16 := (s.getBits 5 0xF 28 m).setWidth 16

/-- `smile_fee_set_readout_node_sel` (`:921`): an empty selection is ignored. -/
def smileFeeSetReadoutNodeSel (nodes : U32) (m : Mem) : Mem :=
  if nodes = 0 then m else s.setBits 5 0xF 28 nodes m

/-! cfg_reg_6 -/

def smileFeeGetFullSunPixThreshold (m : Mem) : U16 := (s.getBits 6 0xFFFF 0 m).setWidth 16
def smileFeeSetFullSunPixThreshold (v : U16) (m : Mem) : Mem := s.setBits 6 0xFFFF 0 (u32 v) m

/-- `smile_fee_get_pix_offset` (`:971`), as the bits of the signed result: the shift is inside the byte swap. -/
def smileFeeGetPixOffset (m : Mem) : U16 :=
  (be32ToCpu s.host (load32 s.host m (s.cfgReg 6) >>> 16) &&& 0xFFFF).setWidth 16

/-- `smile_fee_set_pix_offset` (`:983`): the mask has 8 bits; the cast of `offset` extends its sign. -/
def smileFeeSetPixOffset (offset : U16) (m : Mem) : Mem := s.setBits 6 0xFF 16 (offset.signExtend 32) m

/-! cfg_reg_7 -/

def smileFeeGetReadoutPauseCounter (m : Mem) : U16 := (s.getBits 7 0xFFFF 0 m).setWidth 16
def smileFeeSetReadoutPauseCounter (v : U16) (m : Mem) : Mem := s.setBits 7 0xFFFF 0 (u32 v) m

def smileFeeGetTrapPumpingShuffleCounter (m : Mem) : U16 := (s.getBits 7 0xFFFF 16 m).setWidth 16
def smileFeeSetTrapPumpingShuffleCounter (v : U16) (m : Mem) : Mem := s.setBits 7 0xFFFF 16 (u32 v) m

/-! cfg_reg_8 -/

/-- `smile_fee_get_int_sync_period` (`:1047`): a 20 bit field cast to 16 bits. -/
def smileFeeGetIntSyncPeriod (m : Mem) : U32 := u32 ((s.getBits 8 0xFFFFF 0 m).setWidth 16)
def smileFeeSetIntSyncPeriod (period : U32) (m : Mem) : Mem := s.setBits 8 0xFFFFF 0 period m

def smileFeeGetCdsclpLo (m : Mem) : U16 := (s.getBits 8 0xFFF 20 m).setWidth 16
def smileFeeSetCdsclpLo (v : U16) (m : Mem) : Mem := s.setBits 8 0xFFF 20 (u32 v) m

/-! cfg_reg_9 -/

def smileFeeGetRowclpHi (m : Mem) : U16 := (s.getBits 9 0xFFF 0 m).setWidth 16
def smileFeeSetRowclpHi (v : U16) (m : Mem) : Mem := s.setBits 9 0xFFF 0 (u32 v) m

/-! cfg_reg_14 -/

def smileFeeGetCcd2VodConfig (m : Mem) : U32 := s.getReg 14 m
def smileFeeSetCcd2VodConfig (v : U32) (m : Mem) : Mem := s.setReg 14 v m

/-! cfg_reg_15 -/

def smileFeeGetCcd4VodConfig (m : Mem) : U32 := s.getReg 15 m
def smileFeeSetCcd4VodConfig (v : U32) (m : Mem) : Mem := s.setReg 15 v m

/-! cfg_reg_16 -/

def smileFeeGetCcd2VrdConfig (m : Mem) : U32 := s.getReg 16 m
def smileFeeSetCcd2VrdConfig (v : U32) (m : Mem) : Mem := s.setReg 16 v m

/-! cfg_reg_17 -/

def smileFeeGetCcd4VrdConfig (m : Mem) : U32 := s.getReg 17 m
def smileFeeSetCcd4VrdConfig (v : U32) (m : Mem) : Mem := s.setReg 17 v m

/-! cfg_reg_18 -/

def smileFeeGetCcd2VgdConfig (m : Mem) : U32 := s.getReg 18 m
def smileFeeSetCcd2VgdConfig (v : U32) (m : Mem) : Mem := s.setReg 18 v m

/-! cfg_reg_19 -/

def smileFeeGetCcd4VgdConfig (m : Mem) : U32 := s.getReg 19 m
def smileFeeSetCcd4VgdConfig (v : U32) (m : Mem) : Mem := s.setReg 19 v m

/-! cfg_reg_20 -/

def smileFeeGetCcdVogConfig (m : Mem) : U32 := s.getReg 20 m
def smileFeeSetCcdVogConfig (v : U32) (m : Mem) : Mem := s.setReg 20 v m

/-! cfg_reg_21 -/

def smileFeeGetRowclpLo (m : Mem) : U16 := (s.getBits 21 0xFFF 0 m).setWidth 16
def smileFeeSetRowclpLo (v : U16) (m : Mem) : Mem := s.setBits 21 0xFFF 0 (u32 v) m

/-- `smile_fee_get_h_start` (`:1349`): without the byte swap. -/
def smileFeeGetHStart (m : Mem) : U16 := (getField 0xFFF 12 (load32 s.host m (s.cfgReg 21))).setWidth 16
def smileFeeSetHStart (row : U16) (m : Mem) : Mem := s.setBits 21 0xFFF 12 (u32 row) m

def smileFeeGetCcdModeConfig (m : Mem) : U8 := (s.getBits 21 0xF 24 m).setWidth 8
def smileFeeSetCcdModeConfig (v : U8) (m : Mem) : Mem := s.setBits 21 0xF 24 (u32 v) m

def smileFeeGetCcdMode2Config (m : Mem) : U8 := (s.getBits 21 0x3 28 m).setWidth 8

/-- `smile_fee_set_ccd_mode2_config` (`:1467`): `0x0: reserved`. -/
def smileFeeSetCcdMode2Config (mode : U8) (m : Mem) : Mem :=
  if mode = 0 then m else s.setBits 21 0x3 28 (u32 mode) m

def smileFeeGetEventDetection (m : Mem) : U32 := s.getBits 21 0x1 30 m
def smileFeeSetEventDetection (mode : U32) (m : Mem) : Mem := s.setFlag 21 30 mode m

def smileFeeGetClearErrorFlag (m : Mem) : U32 := s.getBits 21 0x1 31 m
def smileFeeSetClearErrorFlag (mode : U32) (m : Mem) : Mem := s.setFlag 21 31 mode m

/-! cfg_reg_22 -/

def smileFeeGetCcd2EPixThreshold (m : Mem) : U16 := (s.getBits 22 0xFFFF 0 m).setWidth 16
def smileFeeSetCcd2EPixThreshold (v : U16) (m : Mem) : Mem := s.setBits 22 0xFFFF 0 (u32 v) m

def smileFeeGetCcd2FPixThreshold (m : Mem) : U16 := (s.getBits 22 0xFFFF 16 m).setWidth 16
def smileFeeSetCcd2FPixThreshold (v : U16) (m : Mem) : Mem := s.setBits 22 0xFFFF 16 (u32 v) m

/-! cfg_reg_23 -/

def smileFeeGetCcd4EPixThreshold (m : Mem) : U16 := (s.getBits 23 0xFFFF 0 m).setWidth 16
def smileFeeSetCcd4EPixThreshold (v : U16) (m : Mem) : Mem := s.setBits 23 0xFFFF 0 (u32 v) m

def smileFeeGetCcd4FPixThreshold (m : Mem) : U16 := (s.getBits 23 0xFFFF 16 m).setWidth 16
def smileFeeSetCcd4FPixThreshold (v : U16) (m : Mem) : Mem := s.setBits 23 0xFFFF 16 (u32 v) m

/-! cfg_reg_24 -/

def smileFeeGetEventPktLimit (m : Mem) : U32 := s.getBits 24 0xFFFFFF 8 m
def smileFeeSetEventPktLimit (v : U32) (m : Mem) : Mem := s.setBits 24 0xFFFFFF 8 v m

/-! cfg_reg_25 -/

def smileFeeGetExecuteOp (m : Mem) : U32 := s.getBits 25 0x1 0 m
def smileFeeSetExecuteOp (mode : U32) (m : Mem) : Mem := s.setFlag 25 0 mode m

end Mirror

/-! ## Fields -/

inductive Field where
  | vstart | vend | chargeInjectionWidth | chargeInjectionGap | parallelToiPeriod | parallelClkOverlap
  | ccd2Readout | ccd4Readout | nFinalDump | hEnd | chargeInjection | triLevelClk | imgClkDir | regClkDir
  | packetSize | cdsclpHi | adcPwrdnEn | trapPumpingDwellTerm | syncSel | selPwrSync | usePwrSync
  | digitiseEn | correctionBypass | dgEn | correctionType | eduWanderingMaskEn | readoutNodeSel
  | fullSunPixThreshold | pixOffset | readoutPauseCounter | trapPumpingShuffleCounter | intSyncPeriod
  | cdsclpLo | rowclpHi | ccd2VodConfig | ccd4VodConfig | ccd2VrdConfig | ccd4VrdConfig | ccd2VgdConfig
  | ccd4VgdConfig | ccdVogConfig | rowclpLo | hStart | ccdModeConfig | ccdMode2Config | eventDetection
  | clearErrorFlag | ccd2EPixThreshold | ccd2FPixThreshold | ccd4EPixThreshold | ccd4FPixThreshold
  | eventPktLimit | executeOp
deriving DecidableEq, Repr

/-- The setter of a field, its argument cast to the parameter type. -/
def Field.set (s : Mirror) (v : U32) (m : Mem) : Field → Mem
  | .vstart => s.smileFeeSetVstart (v.setWidth 16) m
  | .vend => s.smileFeeSetVend (v.setWidth 16) m
  | .chargeInjectionWidth => s.smileFeeSetChargeInjectionWidth (v.setWidth 16) m
  | .chargeInjectionGap => s.smileFeeSetChargeInjectionGap (v.setWidth 16) m
  | .parallelToiPeriod => s.smileFeeSetParallelToiPeriod (v.setWidth 16) m
  | .parallelClkOverlap => s.smileFeeSetParallelClkOverlap (v.setWidth 16) m
  | .ccd2Readout => s.smileFeeSetCcdReadout 1 v m
  | .ccd4Readout => s.smileFeeSetCcdReadout 2 v m
  | .nFinalDump => s.smileFeeSetNFinalDump (v.setWidth 16) m
  | .hEnd => s.smileFeeSetHEnd (v.setWidth 16) m
  | .chargeInjection => s.smileFeeSetChargeInjection v m
  | .triLevelClk => s.smileFeeSetTriLevelClk v m
  | .imgClkDir => s.smileFeeSetImgClkDir v m
  | .regClkDir => s.smileFeeSetRegClkDir v m
  | .packetSize => s.smileFeeSetPacketSize (v.setWidth 16) m
  | .cdsclpHi => s.smileFeeSetCdsclpHi (v.setWidth 16) m
  | .adcPwrdnEn => s.smileFeeSetAdcPwrdnEn v m
  | .trapPumpingDwellTerm => s.smileFeeSetTrapPumpingDwellTerm v m
  | .syncSel => s.smileFeeSetSyncSel v m
  | .selPwrSync => s.smileFeeSetSelPwrSync v m
  | .usePwrSync => s.smileFeeSetUsePwrSync v m
  | .digitiseEn => s.smileFeeSetDigitiseEn v m
  | .correctionBypass => s.smileFeeSetCorrectionBypass v m
  | .dgEn => s.smileFeeSetDgEn v m
  | .correctionType => s.smileFeeSetCorrectionType v m
  | .eduWanderingMaskEn => s.smileFeeSetEduWanderingMaskEn v m
  | .readoutNodeSel => s.smileFeeSetReadoutNodeSel v m
  | .fullSunPixThreshold => s.smileFeeSetFullSunPixThreshold (v.setWidth 16) m
  | .pixOffset => s.smileFeeSetPixOffset (v.setWidth 16) m
  | .readoutPauseCounter => s.smileFeeSetReadoutPauseCounter (v.setWidth 16) m
  | .trapPumpingShuffleCounter => s.smileFeeSetTrapPumpingShuffleCounter (v.setWidth 16) m
  | .intSyncPeriod => s.smileFeeSetIntSyncPeriod v m
  | .cdsclpLo => s.smileFeeSetCdsclpLo (v.setWidth 16) m
  | .rowclpHi => s.smileFeeSetRowclpHi (v.setWidth 16) m
  | .ccd2VodConfig => s.smileFeeSetCcd2VodConfig v m
  | .ccd4VodConfig => s.smileFeeSetCcd4VodConfig v m
  | .ccd2VrdConfig => s.smileFeeSetCcd2VrdConfig v m
  | .ccd4VrdConfig => s.smileFeeSetCcd4VrdConfig v m
  | .ccd2VgdConfig => s.smileFeeSetCcd2VgdConfig v m
  | .ccd4VgdConfig => s.smileFeeSetCcd4VgdConfig v m
  | .ccdVogConfig => s.smileFeeSetCcdVogConfig v m
  | .rowclpLo => s.smileFeeSetRowclpLo (v.setWidth 16) m
  | .hStart => s.smileFeeSetHStart (v.setWidth 16) m
  | .ccdModeConfig => s.smileFeeSetCcdModeConfig (v.setWidth 8) m
  | .ccdMode2Config => s.smileFeeSetCcdMode2Config (v.setWidth 8) m
  | .eventDetection => s.smileFeeSetEventDetection v m
  | .clearErrorFlag => s.smileFeeSetClearErrorFlag v m
  | .ccd2EPixThreshold => s.smileFeeSetCcd2EPixThreshold (v.setWidth 16) m
  | .ccd2FPixThreshold => s.smileFeeSetCcd2FPixThreshold (v.setWidth 16) m
  | .ccd4EPixThreshold => s.smileFeeSetCcd4EPixThreshold (v.setWidth 16) m
  | .ccd4FPixThreshold => s.smileFeeSetCcd4FPixThreshold (v.setWidth 16) m
  | .eventPktLimit => s.smileFeeSetEventPktLimit v m
  | .executeOp => s.smileFeeSetExecuteOp v m

/-- The getter of a field. -/
def Field.get (s : Mirror) (m : Mem) : Field → U32
  | .vstart => u32 (s.smileFeeGetVstart m)
  | .vend => u32 (s.smileFeeGetVend m)
  | .chargeInjectionWidth => u32 (s.smileFeeGetChargeInjectionWidth m)
  | .chargeInjectionGap => u32 (s.smileFeeGetChargeInjectionGap m)
  | .parallelToiPeriod => u32 (s.smileFeeGetParallelToiPeriod m)
  | .parallelClkOverlap => u32 (s.smileFeeGetParallelClkOverlap m)
  | .ccd2Readout => s.smileFeeGetCcdReadout 1 m
  | .ccd4Readout => s.smileFeeGetCcdReadout 2 m
  | .nFinalDump => u32 (s.smileFeeGetNFinalDump m)
  | .hEnd => u32 (s.smileFeeGetHEnd m)
  | .chargeInjection => s.smileFeeGetChargeInjection m
  | .triLevelClk => s.smileFeeGetTriLevelClk m
  | .imgClkDir => s.smileFeeGetImgClkDir m
  | .regClkDir => s.smileFeeGetRegClkDir m
  | .packetSize => u32 (s.smileFeeGetPacketSize m)
  | .cdsclpHi => u32 (s.smileFeeGetCdsclpHi m)
  | .adcPwrdnEn => s.smileFeeGetAdcPwrdnEn m
  | .trapPumpingDwellTerm => s.smileFeeGetTrapPumpingDwellTerm m
  | .syncSel => s.smileFeeGetSyncSel m
  | .selPwrSync => s.smileFeeGetSelPwrSync m
  | .usePwrSync => s.smileFeeGetUsePwrSync m
  | .digitiseEn => s.smileFeeGetDigitiseEn m
  | .correctionBypass => s.smileFeeGetCorrectionBypass m
  | .dgEn => s.smileFeeGetDgEn m
  | .correctionType => s.smileFeeGetCorrectionType m
  | .eduWanderingMaskEn => s.smileFeeGetEduWanderingMaskEn m
  | .readoutNodeSel => u32 (s.smileFeeGetReadoutNodeSel m)
  | .fullSunPixThreshold => u32 (s.smileFeeGetFullSunPixThreshold m)
  | .pixOffset => u32 (s.smileFeeGetPixOffset m)
  | .readoutPauseCounter => u32 (s.smileFeeGetReadoutPauseCounter m)
  | .trapPumpingShuffleCounter => u32 (s.smileFeeGetTrapPumpingShuffleCounter m)
  | .intSyncPeriod => s.smileFeeGetIntSyncPeriod m
  | .cdsclpLo => u32 (s.smileFeeGetCdsclpLo m)
  | .rowclpHi => u32 (s.smileFeeGetRowclpHi m)
  | .ccd2VodConfig => s.smileFeeGetCcd2VodConfig m
  | .ccd4VodConfig => s.smileFeeGetCcd4VodConfig m
  | .ccd2VrdConfig => s.smileFeeGetCcd2VrdConfig m
  | .ccd4VrdConfig => s.smileFeeGetCcd4VrdConfig m
  | .ccd2VgdConfig => s.smileFeeGetCcd2VgdConfig m
  | .ccd4VgdConfig => s.smileFeeGetCcd4VgdConfig m
  | .ccdVogConfig => s.smileFeeGetCcdVogConfig m
  | .rowclpLo => u32 (s.smileFeeGetRowclpLo m)
  | .hStart => u32 (s.smileFeeGetHStart m)
  | .ccdModeConfig => u32 (s.smileFeeGetCcdModeConfig m)
  | .ccdMode2Config => u32 (s.smileFeeGetCcdMode2Config m)
  | .eventDetection => s.smileFeeGetEventDetection m
  | .clearErrorFlag => s.smileFeeGetClearErrorFlag m
  | .ccd2EPixThreshold => u32 (s.smileFeeGetCcd2EPixThreshold m)
  | .ccd2FPixThreshold => u32 (s.smileFeeGetCcd2FPixThreshold m)
  | .ccd4EPixThreshold => u32 (s.smileFeeGetCcd4EPixThreshold m)
  | .ccd4FPixThreshold => u32 (s.smileFeeGetCcd4FPixThreshold m)
  | .eventPktLimit => s.smileFeeGetEventPktLimit m
  | .executeOp => s.smileFeeGetExecuteOp m

/-- The register a field lies in. -/
def Field.reg : Field → Nat
  | .vstart | .vend => 0
  | .chargeInjectionWidth | .chargeInjectionGap => 1
  | .parallelToiPeriod | .parallelClkOverlap | .ccd2Readout | .ccd4Readout => 2
  | .nFinalDump | .hEnd | .chargeInjection | .triLevelClk | .imgClkDir | .regClkDir => 3
  | .packetSize | .cdsclpHi | .adcPwrdnEn => 4
  | .trapPumpingDwellTerm | .syncSel | .selPwrSync | .usePwrSync | .digitiseEn | .correctionBypass | .dgEn
  | .correctionType | .eduWanderingMaskEn | .readoutNodeSel => 5
  | .fullSunPixThreshold | .pixOffset => 6
  | .readoutPauseCounter | .trapPumpingShuffleCounter => 7
  | .intSyncPeriod | .cdsclpLo => 8
  | .rowclpHi => 9
  | .ccd2VodConfig => 14
  | .ccd4VodConfig => 15
  | .ccd2VrdConfig => 16
  | .ccd4VrdConfig => 17
  | .ccd2VgdConfig => 18
  | .ccd4VgdConfig => 19
  | .ccdVogConfig => 20
  | .rowclpLo | .hStart | .ccdModeConfig | .ccdMode2Config | .eventDetection | .clearErrorFlag => 21
  | .ccd2EPixThreshold | .ccd2FPixThreshold => 22
  | .ccd4EPixThreshold | .ccd4FPixThreshold => 23
  | .eventPktLimit => 24
  | .executeOp => 25

/-- The documented width of a field. -/
def Field.width : Field → Nat
  | .vstart | .vend | .chargeInjectionWidth | .chargeInjectionGap | .nFinalDump | .packetSize
  | .fullSunPixThreshold | .pixOffset | .readoutPauseCounter | .trapPumpingShuffleCounter
  | .ccd2EPixThreshold | .ccd2FPixThreshold | .ccd4EPixThreshold | .ccd4FPixThreshold => 16
  | .parallelToiPeriod | .parallelClkOverlap | .hEnd | .cdsclpHi | .cdsclpLo | .rowclpHi | .rowclpLo
  | .hStart => 12
  | .ccd2Readout | .ccd4Readout | .chargeInjection | .triLevelClk | .imgClkDir | .regClkDir | .adcPwrdnEn
  | .syncSel | .selPwrSync | .usePwrSync | .digitiseEn | .correctionBypass | .dgEn | .correctionType
  | .eduWanderingMaskEn | .eventDetection | .clearErrorFlag | .executeOp => 1
  | .trapPumpingDwellTerm | .intSyncPeriod => 20
  | .readoutNodeSel | .ccdModeConfig => 4
  | .ccd2VodConfig | .ccd4VodConfig | .ccd2VrdConfig | .ccd4VrdConfig | .ccd2VgdConfig | .ccd4VgdConfig
  | .ccdVogConfig => 32
  | .ccdMode2Config => 2
  | .eventPktLimit => 24

/-- The position of a field. -/
def Field.shift : Field → Nat
  | .vstart | .chargeInjectionWidth | .parallelToiPeriod | .nFinalDump | .packetSize | .trapPumpingDwellTerm
  | .fullSunPixThreshold | .readoutPauseCounter | .intSyncPeriod | .rowclpHi | .ccd2VodConfig
  | .ccd4VodConfig | .ccd2VrdConfig | .ccd4VrdConfig | .ccd2VgdConfig | .ccd4VgdConfig | .ccdVogConfig
  | .rowclpLo | .ccd2EPixThreshold | .ccd4EPixThreshold | .executeOp => 0
  | .vend | .chargeInjectionGap | .hEnd | .cdsclpHi | .pixOffset | .trapPumpingShuffleCounter
  | .ccd2FPixThreshold | .ccd4FPixThreshold => 16
  | .parallelClkOverlap | .hStart => 12
  | .ccd2Readout | .correctionBypass | .ccdModeConfig => 24
  | .ccd4Readout | .dgEn => 25
  | .chargeInjection | .adcPwrdnEn | .readoutNodeSel | .ccdMode2Config => 28
  | .triLevelClk => 29
  | .imgClkDir | .eventDetection => 30
  | .regClkDir | .clearErrorFlag => 31
  | .syncSel | .cdsclpLo => 20
  | .selPwrSync => 21
  | .usePwrSync => 22
  | .digitiseEn => 23
  | .correctionType => 26
  | .eduWanderingMaskEn => 27
  | .eventPktLimit => 8

/-- The ones of a field, at its right end. -/
def Field.mask (f : Field) : U32 := BitVec.ofNat 32 (2 ^ f.width - 1)

/-! ### What the accessors do -/

/-- Behind a mask, what a narrower type cuts off is cut off anyway. -/
theorem and_u32_setWidth (w : Nat) (mask v : U32) (hm : u32 (mask.setWidth w) = mask) :
    mask &&& u32 (v.setWidth w) = mask &&& v := by
  apply BitVec.eq_of_getLsbD_eq
  intro i hi
  have hb : (u32 (mask.setWidth w)).getLsbD i = mask.getLsbD i := by rw [hm]
  simp only [u32, BitVec.getLsbD_setWidth, BitVec.getLsbD_and] at hb ⊢
  grind

/-- A field read through a narrower result type. -/
theorem u32_setWidth_and (w : Nat) (mask x : U32) (hm : u32 (mask.setWidth w) = mask) :
    u32 ((x &&& mask).setWidth w) = x &&& mask := by
  calc u32 ((x &&& mask).setWidth w)
      = u32 (mask.setWidth w) &&& u32 (x.setWidth w) := by
        rw [BitVec.and_comm, u32, BitVec.setWidth_and, BitVec.setWidth_and]
        rfl
    _ = mask &&& x := by rw [hm, and_u32_setWidth w mask x hm]
    _ = x &&& mask := BitVec.and_comm ..

/-- A field written through a narrower parameter type. -/
theorem setField_u32_setWidth (w : Nat) (mask v : U32) (sh : Nat) (hm : u32 (mask.setWidth w) = mask) :
    setField mask sh (u32 (v.setWidth w)) = setField mask sh v := by
  funext x
  simp only [setField, and_u32_setWidth w mask v hm]

/-- The fields whose getter is not the common one. -/
def Field.oddGet : Field → Bool
  | .pixOffset | .intSyncPeriod | .hStart | .adcPwrdnEn => true
  | _ => false

/-- The fields whose setter is not the common one. -/
def Field.oddSet : Field → Bool
  | .pixOffset | .adcPwrdnEn | .readoutNodeSel | .ccdMode2Config => true
  | _ => false

theorem Field.get_eq (s : Mirror) (m : Mem) (f : Field) (hf : f.oddGet = false) :
    f.get s m = getField f.mask f.shift (s.getReg f.reg m) := by
  cases f
  case vstart | vend | chargeInjectionWidth | chargeInjectionGap | parallelToiPeriod | parallelClkOverlap |
      nFinalDump | hEnd | packetSize | cdsclpHi | fullSunPixThreshold | readoutPauseCounter |
      trapPumpingShuffleCounter | cdsclpLo | rowclpHi | rowclpLo | ccdModeConfig | ccd2EPixThreshold |
      ccd2FPixThreshold | ccd4EPixThreshold | ccd4FPixThreshold | readoutNodeSel | ccdMode2Config =>
    exact u32_setWidth_and _ _ _ (by decide)
  case ccd2VodConfig | ccd4VodConfig | ccd2VrdConfig | ccd4VrdConfig | ccd2VgdConfig | ccd4VgdConfig |
      ccdVogConfig =>
    exact (getField_ones _).symm
  case pixOffset | intSyncPeriod | hStart | adcPwrdnEn => cases hf
  all_goals rfl

/-- A flag is stored as a field of one bit. -/
theorem Mirror.setFlag_eq (s : Mirror) (n sh : Nat) (v : U32) (m : Mem) (hv : v.toNat < 2) :
    s.setFlag n sh v m = s.updReg n (setField 1 sh v) m := by
  have h01 : v = 0 ∨ v = 1 := by
    rcases (by omega : v.toNat = 0 ∨ v.toNat = 1) with h | h
    · exact Or.inl (BitVec.eq_of_toNat_eq h)
    · exact Or.inr (BitVec.eq_of_toNat_eq h)
  rcases h01 with rfl | rfl <;> rfl

theorem Mirror.setReg_eq (s : Mirror) (n : Nat) (v : U32) (m : Mem) :
    s.setReg n v m = s.updReg n (setField 0xFFFFFFFF 0 v) m := by
  rw [Mirror.setReg, show setField 0xFFFFFFFF 0 v = fun _ => v from funext fun x => setField_ones v x]

/-- The CCD is selected by bit position. -/
theorem Mirror.setCcdReadout_eq (s : Mirror) (i : Fin 2) (v : U32) (m : Mem) :
    s.smileFeeSetCcdReadout (BitVec.ofNat 32 (i + 1)) v m = s.setFlag 2 (24 + i) v m := by
  have h0 : BitVec.ofNat 32 (i + 1) ≠ 0 := by fin_cases i <;> decide
  have h2 : (BitVec.ofNat 32 (i + 1)).toNat = i + 1 := by fin_cases i <;> rfl
  have h3 : ¬ (i : Nat) + 1 > 2 := by omega
  have hsh (x : U32) : (x <<< (i : Nat)) <<< 24 = x <<< (24 + (i : Nat)) := by
    rw [← BitVec.shiftLeft_add, Nat.add_comm]
  simp only [Mirror.smileFeeSetCcdReadout, if_neg h0, h2, if_neg h3, Nat.add_sub_cancel, hsh, Mirror.setFlag]

theorem Field.set_eq (s : Mirror) (m : Mem) (f : Field) (v : U32) (hf : f.oddSet = false)
    (hv : v.toNat < 2 ^ f.width) :
    f.set s v m = s.updReg f.reg (setField f.mask f.shift v) m := by
  cases f
  case vstart | vend | chargeInjectionWidth | chargeInjectionGap | parallelToiPeriod | parallelClkOverlap |
      nFinalDump | hEnd | packetSize | cdsclpHi | fullSunPixThreshold | readoutPauseCounter |
      trapPumpingShuffleCounter | cdsclpLo | rowclpHi | rowclpLo | ccdModeConfig | ccd2EPixThreshold |
      ccd2FPixThreshold | ccd4EPixThreshold | ccd4FPixThreshold | hStart =>
    exact congrArg (fun g => s.updReg _ g m) (setField_u32_setWidth _ _ v _ (by decide))
  case chargeInjection | triLevelClk | imgClkDir | regClkDir | syncSel | selPwrSync | usePwrSync | digitiseEn |
      correctionBypass | dgEn | correctionType | eduWanderingMaskEn | eventDetection | clearErrorFlag |
      executeOp =>
    exact s.setFlag_eq _ _ v m hv
  case ccd2VodConfig | ccd4VodConfig | ccd2VrdConfig | ccd4VrdConfig | ccd2VgdConfig | ccd4VgdConfig |
      ccdVogConfig =>
    exact s.setReg_eq _ v m
  case ccd2Readout => exact (s.setCcdReadout_eq 0 v m).trans (s.setFlag_eq 2 24 v m hv)
  case ccd4Readout => exact (s.setCcdReadout_eq 1 v m).trans (s.setFlag_eq 2 25 v m hv)
  case pixOffset | adcPwrdnEn | readoutNodeSel | ccdMode2Config => cases hf
  all_goals rfl

theorem Field.mask_fits (f : Field) : f.mask <<< f.shift >>> f.shift = f.mask := by
  cases f <;> decide

/-- A field written and read the common way. -/
theorem Field.getField_setField_mask (f : Field) (v x : U32) (hv : v.toNat < 2 ^ f.width) :
    getField f.mask f.shift (setField f.mask f.shift v x) = v := by
  rw [getField_setField _ _ _ _ f.mask_fits, mask_and f.width f.mask v rfl hv]

theorem Field.get_set (s : Mirror) (f : Field) (v : U32) (m : Mem) (hv : v.toNat < 2 ^ f.width)
    (hg : f.oddGet = false) (hs : f.oddSet = false) : f.get s (f.set s v m) = v := by
  rw [f.get_eq s _ hg, f.set_eq s m v hs hv, Mirror.getReg_updReg, f.getField_setField_mask v _ hv]

/-! ### The odd ones -/

/-- The four bits at the right end. -/
def lowNibble (x : U32) : U32 := x &&& 0xF

section Odd

variable (s : Mirror) (m : Mem) (v : U32)

/-- The cast to 16 bits cuts off a longer period. -/
theorem intSyncPeriod_iff (hv : v.toNat < 2 ^ 20) :
    Field.get s (Field.set s v m .intSyncPeriod) .intSyncPeriod = v ↔ v.toNat < 2 ^ 16 := by
  have h : Field.get s (Field.set s v m .intSyncPeriod) .intSyncPeriod = u32 (v.setWidth 16) := by
    have hset := Field.set_eq s m .intSyncPeriod v rfl hv
    have hget := Field.getField_setField_mask .intSyncPeriod v (s.getReg 8 m) hv
    rw [hset]
    show u32 ((getField 0xFFFFF 0 (s.getReg 8 (s.updReg 8 _ m))).setWidth 16) = _
    rw [Mirror.getReg_updReg]
    exact congrArg (fun x => u32 (x.setWidth 16)) hget
  rw [h]
  constructor
  · intro hc
    rw [← hc]
    simp [u32]
    omega
  · intro hlt
    apply BitVec.eq_of_toNat_eq
    simp [u32]
    omega

/-- An empty selection leaves the field as it is. -/
theorem readoutNodeSel_iff (hv : v.toNat < 2 ^ 4) :
    Field.get s (Field.set s v m .readoutNodeSel) .readoutNodeSel = v ↔ v ≠ 0 ∨ s.getReg 5 m >>> 28 = 0 := by
  rw [Field.get_eq s _ .readoutNodeSel rfl]
  by_cases h0 : v = 0
  · have hset : Field.set s v m .readoutNodeSel = m := if_pos h0
    have hfield : getField 0xF 28 (s.getReg 5 m) = s.getReg 5 m >>> 28 := by
      apply BitVec.eq_of_getLsbD_eq
      intro i hi
      simp only [getField, BitVec.getLsbD_and, BitVec.getLsbD_ushiftRight]
      interval_cases i <;> simp
    rw [hset]
    show getField 0xF 28 (s.getReg 5 m) = v ↔ _
    rw [hfield, h0]
    simp
  · have hset : Field.set s v m .readoutNodeSel = s.updReg 5 (setField 0xF 28 v) m := if_neg h0
    rw [hset]
    simp only [ne_eq, h0, not_false_eq_true, true_or, iff_true]
    show getField 0xF 28 (s.getReg 5 (s.updReg 5 _ m)) = v
    rw [Mirror.getReg_updReg]
    exact Field.getField_setField_mask .readoutNodeSel v _ hv

theorem ccdMode2Config_get_set (hv : v.toNat < 2 ^ 2) (h0 : v ≠ 0) :
    Field.get s (Field.set s v m .ccdMode2Config) .ccdMode2Config = v := by
  have h8 : v.setWidth 8 ≠ 0 := by
    intro h
    have := congrArg BitVec.toNat h
    simp only [BitVec.toNat_setWidth] at this
    exact h0 (BitVec.eq_of_toNat_eq (by simp at this ⊢; omega))
  have hset : Field.set s v m .ccdMode2Config = s.updReg 21 (setField 0x3 28 v) m :=
    (if_neg h8).trans (congrArg (fun g => s.updReg 21 g m) (setField_u32_setWidth 8 0x3 v 28 (by decide)))
  rw [Field.get_eq s _ .ccdMode2Config rfl, hset]
  show getField 0x3 28 (s.getReg 21 (s.updReg 21 _ m)) = v
  rw [Mirror.getReg_updReg]
  exact Field.getField_setField_mask .ccdMode2Config v _ hv

/-- With bit 28 cleared, nothing from there on is set if nothing above it is. -/
theorem clear28_ushiftRight_iff (x : U32) :
    ((x &&& ~~~((0x1 : U32) <<< 28)) ||| ((0 : U32) <<< 28)) >>> 28 = 0 ↔ x >>> 29 = 0 := by
  have hbit (i : Nat) (hi : i < 32) : (((x &&& ~~~((0x1 : U32) <<< 28)) ||| ((0 : U32) <<< 28)) >>> 28).getLsbD i =
      (decide (i ≠ 0) && x.getLsbD (28 + i)) := by
    simp only [BitVec.getLsbD_ushiftRight, BitVec.getLsbD_or, BitVec.getLsbD_and, BitVec.getLsbD_not,
      BitVec.getLsbD_shiftLeft]
    interval_cases i <;> simp
  constructor
  · intro h
    apply BitVec.eq_of_getLsbD_eq
    intro i hi
    rw [BitVec.getLsbD_ushiftRight]
    by_cases h31 : i = 31
    · rw [h31, BitVec.getLsbD_of_ge _ _ (by omega)]
      rfl
    · have hnext := hbit (i + 1) (by omega)
      rw [h, show 28 + (i + 1) = 29 + i by omega] at hnext
      simpa using hnext.symm
  · intro h
    apply BitVec.eq_of_getLsbD_eq
    intro i hi
    rw [hbit i hi]
    by_cases h0 : i = 0
    · simp [h0]
    · have hprev := congrArg (fun x => BitVec.getLsbD x (i - 1)) h
      simp only [BitVec.getLsbD_ushiftRight, show 29 + (i - 1) = 28 + i by omega] at hprev
      simp [h0, hprev]

/-- The getter takes bits 29 to 31 for part of the flag. -/
theorem adcPwrdnEn_iff (hv : v.toNat < 2) :
    Field.get s (Field.set s v m .adcPwrdnEn) .adcPwrdnEn = v ↔ v = 0 ∨ s.getReg 4 m >>> 29 = 0 := by
  have hset : Field.set s v m .adcPwrdnEn =
      s.updReg 4 (fun x => (x &&& ~~~((0x1 : U32) <<< 28)) ||| ((if v = 0 then 1 else 0 : U32) <<< 28)) m := rfl
  have hget (m : Mem) : Field.get s m .adcPwrdnEn = (if s.getReg 4 m >>> 28 = 0 then 1 else 0 : U32) &&& 0x1 := rfl
  rw [hget, hset, Mirror.getReg_updReg]
  by_cases h0 : v = 0
  · have hne : ((s.getReg 4 m &&& ~~~((0x1 : U32) <<< 28)) ||| ((1 : U32) <<< 28)) >>> 28 ≠ 0 := by
      intro h
      have hbit := congrArg (fun x => BitVec.getLsbD x 0) h
      simp at hbit
    simp only [h0, if_true, if_neg hne, true_or, iff_true]
    rfl
  · have h1 : v = 1 := BitVec.eq_of_toNat_eq (by
      have : v.toNat ≠ 0 := fun h => h0 (BitVec.eq_of_toNat_eq h)
      simp
      omega)
    simp only [h0, if_false, false_or, clear28_ushiftRight_iff]
    by_cases hz : s.getReg 4 m >>> 29 = 0
    · rw [if_pos hz, h1]; exact iff_of_true (by decide) hz
    · rw [if_neg hz, h1]; exact iff_of_false (by decide) hz

/-- What the getter of the pixel offset computes from the register. -/
theorem pixOffset_get (y : U32) (m : Mem) (h : s.getReg 6 m = y) : Field.get s m .pixOffset =
    u32 ((be32ToCpu s.host (be32ToCpu s.host y >>> 16) &&& 0xFFFF).setWidth 16) := by
  rw [← h, Mirror.getReg, be32ToCpu_be32ToCpu]
  rfl

theorem pixOffset_little (hs : s.host = .little) :
    Field.get s (Field.set s v m .pixOffset) .pixOffset = 0 := by
  rw [pixOffset_get s _ _ rfl, hs]
  generalize s.getReg 6 (Field.set s v m .pixOffset) = y
  have h : swab32 (swab32 y >>> 16) &&& 0xFFFF = 0 := by
    apply BitVec.eq_of_getLsbD_eq
    intro i hi
    simp only [swab32, BitVec.getLsbD_or, BitVec.getLsbD_and, BitVec.getLsbD_shiftLeft, BitVec.getLsbD_ushiftRight]
    interval_cases i <;> simp
  show u32 ((swab32 (swab32 y >>> 16) &&& 0xFFFF).setWidth 16) = 0
  rw [h]
  rfl

theorem pixOffset_big (hs : s.host = .big) (hv : v.toNat < 2 ^ 16) :
    Field.get s (Field.set s v m .pixOffset) .pixOffset = v ↔ v >>> 8 = s.getReg 6 m >>> 24 := by
  have hset : s.getReg 6 (Field.set s v m .pixOffset) =
      setField 0xFF 16 ((v.setWidth 16).signExtend 32) (s.getReg 6 m) := s.getReg_updReg 6 _ m
  rw [pixOffset_get s _ _ hset, hs]
  generalize s.getReg 6 m = x
  have hv0 (i : Nat) (hi : 16 ≤ i) : v.getLsbD i = false :=
    Nat.testBit_lt_two_pow (Nat.lt_of_lt_of_le hv (Nat.pow_le_pow_right (by omega) hi))
  have hbit (i : Nat) (hi : i < 32) :
      (u32 ((setField 0xFF 16 ((v.setWidth 16).signExtend 32) x >>> 16 &&& 0xFFFF).setWidth 16)).getLsbD i =
        if i < 8 then v.getLsbD i else if i < 16 then x.getLsbD (16 + i) else false := by
    simp only [u32, BitVec.getLsbD_setWidth, BitVec.getLsbD_and, BitVec.getLsbD_ushiftRight, getLsbD_setField,
      BitVec.getLsbD_signExtend]
    interval_cases i <;> simp
  show u32 ((setField 0xFF 16 ((v.setWidth 16).signExtend 32) x >>> 16 &&& 0xFFFF).setWidth 16) = v ↔ _
  constructor
  · intro h
    apply BitVec.eq_of_getLsbD_eq
    intro i hi
    simp only [BitVec.getLsbD_ushiftRight]
    by_cases h8 : i < 8
    · have := hbit (8 + i) (by omega)
      rw [h, if_neg (by omega), if_pos (by omega)] at this
      rw [this]; congr 1; omega
    · rw [hv0 _ (by omega), BitVec.getLsbD_of_ge _ _ (by omega)]
  · intro h
    apply BitVec.eq_of_getLsbD_eq
    intro i hi
    rw [hbit i hi]
    split
    · rfl
    · split
      · have := congrArg (fun y => BitVec.getLsbD y (i - 8)) h
        simp only [BitVec.getLsbD_ushiftRight] at this
        rw [show 8 + (i - 8) = i by omega, show 24 + (i - 8) = 16 + i by omega] at this
        exact this.symm
      · exact (hv0 i (by omega)).symm

/-- What the getter of the start row computes from the register. -/
theorem hStart_get (y : U32) (m : Mem) (h : s.getReg 21 m = y) : Field.get s m .hStart =
    u32 ((getField 0xFFF 12 (be32ToCpu s.host y)).setWidth 16) := by
  rw [← h, Mirror.getReg, be32ToCpu_be32ToCpu]
  rfl

theorem hStart_set (hv : v.toNat < 2 ^ 12) :
    s.getReg 21 (Field.set s v m .hStart) = setField 0xFFF 12 v (s.getReg 21 m) := by
  rw [Field.set_eq s m .hStart v rfl hv]
  exact s.getReg_updReg 21 _ m

theorem hStart_big (hs : s.host = .big) (hv : v.toNat < 2 ^ 12) :
    Field.get s (Field.set s v m .hStart) .hStart = v := by
  rw [hStart_get s _ _ (hStart_set s m v hv), hs]
  exact (u32_setWidth_and 16 0xFFF _ (by decide)).trans (Field.getField_setField_mask .hStart v _ hv)

theorem lowNibble_eq_iff (x y : U32) (a b : Nat) :
    lowNibble (x >>> a) = lowNibble (y >>> b) ↔ ∀ j < 4, x.getLsbD (a + j) = y.getLsbD (b + j) := by
  have hm (j : Nat) (hj : j < 32) : (0xF : U32).getLsbD j = decide (j < 4) := by
    interval_cases j <;> rfl
  constructor
  · intro h j hj
    have := congrArg (fun z => BitVec.getLsbD z j) h
    simp only [lowNibble, BitVec.getLsbD_and, BitVec.getLsbD_ushiftRight, hm j (by omega), decide_eq_true hj,
      Bool.and_true] at this
    exact this
  · intro h
    apply BitVec.eq_of_getLsbD_eq
    intro j hj
    simp only [lowNibble, BitVec.getLsbD_and, BitVec.getLsbD_ushiftRight, hm j hj]
    by_cases h4 : j < 4
    · rw [h j h4]
    · simp [h4]

/-- Without the swap, bits 20 to 23 and 8 to 15 of the register are read. -/
theorem hStart_little (hs : s.host = .little) (hv : v.toNat < 2 ^ 12) :
    Field.get s (Field.set s v m .hStart) .hStart = v ↔
      lowNibble v = lowNibble (v >>> 8) ∧ lowNibble (v >>> 4) = lowNibble (s.getReg 21 m >>> 8) := by
  rw [hStart_get s _ _ (hStart_set s m v hv), hs]
  generalize s.getReg 21 m = x
  have hv0 (i : Nat) (hi : 12 ≤ i) : v.getLsbD i = false :=
    Nat.testBit_lt_two_pow (Nat.lt_of_lt_of_le hv (Nat.pow_le_pow_right (by omega) hi))
  have hbit (i : Nat) (hi : i < 32) :
      (u32 ((getField 0xFFF 12 (swab32 (setField 0xFFF 12 v x))).setWidth 16)).getLsbD i =
        if i < 4 then v.getLsbD (i + 8) else if i < 8 then x.getLsbD (i + 4)
        else if i < 12 then v.getLsbD (i - 8) else false := by
    simp only [u32, getField, swab32, BitVec.getLsbD_setWidth, BitVec.getLsbD_and, BitVec.getLsbD_ushiftRight,
      BitVec.getLsbD_or, BitVec.getLsbD_shiftLeft, getLsbD_setField]
    interval_cases i <;> simp
  show u32 ((getField 0xFFF 12 (swab32 (setField 0xFFF 12 v x))).setWidth 16) = v ↔ _
  have h0 : lowNibble v = lowNibble (v >>> 0) := by rw [BitVec.ushiftRight_zero]
  rw [h0, lowNibble_eq_iff, lowNibble_eq_iff]
  constructor
  · intro h
    rw [h] at hbit
    constructor
    · intro j hj
      have := hbit j (by omega)
      rw [if_pos hj] at this
      rw [Nat.zero_add, this, Nat.add_comm]
    · intro j hj
      have := hbit (4 + j) (by omega)
      rw [if_neg (by omega), if_pos (by omega)] at this
      rw [this]; congr 1; omega
  · rintro ⟨hlo, hmid⟩
    apply BitVec.eq_of_getLsbD_eq
    intro i hi
    rw [hbit i hi]
    split
    · have := hlo i (by omega)
      rw [Nat.zero_add] at this
      rw [this, Nat.add_comm]
    · split
      · have := hmid (i - 4) (by omega)
        rw [show 4 + (i - 4) = i by omega, show 8 + (i - 4) = i + 4 by omega] at this
        exact this.symm
      · split
        · have := hlo (i - 8) (by omega)
          rw [Nat.zero_add, show 8 + (i - 8) = i by omega] at this
          exact this
        · exact (hv0 i (by omega)).symm

end Odd

/-! ### Reading back -/

/-- The condition under which a field reads back the value `v` that was set over the contents `m`. -/
def Field.ReadsBack (s : Mirror) (m : Mem) (v : U32) : Field → Prop
  | .pixOffset => match s.host with
    | .little => v = 0
    | .big => v >>> 8 = s.getReg 6 m >>> 24
  | .intSyncPeriod => v.toNat < 2 ^ 16
  | .hStart => match s.host with
    | .little => lowNibble v = lowNibble (v >>> 8) ∧ lowNibble (v >>> 4) = lowNibble (s.getReg 21 m >>> 8)
    | .big => True
  | .adcPwrdnEn => v = 0 ∨ s.getReg 4 m >>> 29 = 0
  | .readoutNodeSel => v ≠ 0 ∨ s.getReg 5 m >>> 28 = 0
  | _ => True

/-- **Reading back what was set**: exactly when, for every field, every initial contents and every
value of the field's width but the reserved degree of binning. -/
theorem Field.get_set_iff (s : Mirror) (f : Field) (v : U32) (m : Mem) (hv : v.toNat < 2 ^ f.width)
    (hr : f = .ccdMode2Config → v ≠ 0) : f.get s (f.set s v m) = v ↔ f.ReadsBack s m v := by
  by_cases hodd : f.oddGet = false ∧ f.oddSet = false
  · have hread : f.ReadsBack s m v := by
      cases f
      case pixOffset | intSyncPeriod | hStart | adcPwrdnEn | readoutNodeSel => simp [oddGet, oddSet] at hodd
      all_goals trivial
    exact iff_of_true (f.get_set s v m hv hodd.1 hodd.2) hread
  · cases f
    case pixOffset =>
      cases hs : s.host
      · rw [pixOffset_little s m v hs, ReadsBack, hs]
        exact eq_comm
      · rw [pixOffset_big s m v hs hv, ReadsBack, hs]
    case intSyncPeriod => exact intSyncPeriod_iff s m v hv
    case hStart =>
      cases hs : s.host
      · rw [hStart_little s m v hs hv, ReadsBack, hs]
      · rw [hStart_big s m v hs hv, ReadsBack, hs]
        simp
    case adcPwrdnEn => exact adcPwrdnEn_iff s m v hv
    case readoutNodeSel => exact readoutNodeSel_iff s m v hv
    case ccdMode2Config =>
      exact iff_of_true (ccdMode2Config_get_set s m v hv (hr rfl)) trivial
    all_goals exact absurd ⟨rfl, rfl⟩ hodd

theorem Field.get_set_iff_vend :
    Field.get ⟨.little, 0x100, 0⟩ (Field.set ⟨.little, 0x100, 0⟩ 0x1234 (fun _ => 0xff) .vend) .vend = 0x1234 :=
  (Field.get_set_iff ⟨.little, 0x100, 0⟩ .vend 0x1234 (fun _ => 0xff) (by decide) (by decide)).2 trivial

/-- Four fields on a little-endian machine whose mirror holds ones. -/
theorem fields_not_reading_back :
    let s : Mirror := ⟨.little, 0x100, 0⟩
    let m : Mem := fun _ => 0xff
    s.smileFeeGetPixOffset (s.smileFeeSetPixOffset 1 m) ≠ 1 ∧
    s.smileFeeGetIntSyncPeriod (s.smileFeeSetIntSyncPeriod 0x10000 m) ≠ 0x10000 ∧
    s.smileFeeGetHStart (s.smileFeeSetHStart 1 m) ≠ 1 ∧
    s.smileFeeGetAdcPwrdnEn (s.smileFeeSetAdcPwrdnEn 1 m) ≠ 1 := by
  decide

end SmileFee
